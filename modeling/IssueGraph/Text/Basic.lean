/-!
# Plain text

Classes of characters, trimming, numbers in decimal digits and lines: what the readers of ids, of
settings and of collections take apart a text with.
-/
namespace IssueGraph.Text

/-! ## Classes of characters -/

/-- Ranges of code points, both ends included. -/
abbrev Ranges := List (Nat × Nat)

/-- Whether the code point of `c` lies in one of the ranges. -/
def Ranges.contains (r : Ranges) (c : Char) : Bool :=
  r.any fun p => p.1 ≤ c.toNat && c.toNat ≤ p.2

/-- Whether `c` is in the class, for a class whose ASCII members are known otherwise. -/
def Ranges.containsOr (r : Ranges) (ascii : Char → Bool) (c : Char) : Bool :=
  if c.toNat < 128 then ascii c else r.contains c

/-! ## Blanks -/

/-- The code points with the Unicode property White_Space. -/
def blankRanges : Ranges :=
  [(0x9, 0xd), (0x20, 0x20), (0x85, 0x85), (0xa0, 0xa0), (0x1680, 0x1680), (0x2000, 0x200a),
  (0x2028, 0x2029), (0x202f, 0x202f), (0x205f, 0x205f), (0x3000, 0x3000)]

/-- Lines, ids and tags are trimmed of blanks. -/
def isBlank (c : Char) : Bool := blankRanges.contains c

/-- Drop blanks at both ends. -/
def trim (cs : List Char) : List Char :=
  (((cs.dropWhile isBlank).reverse).dropWhile isBlank).reverse

/-- Drop blanks at both ends. -/
def trimString (s : String) : String := String.ofList (trim s.toList)

/-! ## Numbers -/

/-- A number in decimal digits, perhaps after a plus sign, that fits 64 bits. -/
def number? (s : String) : Option Nat :=
  let digits := match s.toList with
    | '+' :: cs => cs
    | cs => cs
  if digits.isEmpty || !digits.all Char.isDigit then none
  else
    let n := digits.foldl (fun n c => 10 * n + (c.toNat - '0'.toNat)) 0
    if n < Nat.pow 2 64 then some n else none

/-! ## Lines -/

/-- The lines of some items, without what ends them. A newline ends a line, and a carriage return
right before it is no part of the line. After the last newline there is a line only if something
stands on it. -/
def linesOf {α : Type} [BEq α] (newline carriage : α) : List α → List (List α)
  | [] => []
  | a :: rest =>
    if a == newline then [] :: linesOf newline carriage rest
    else if a == carriage && rest.head? == some newline then linesOf newline carriage rest
    else match linesOf newline carriage rest with
      | [] => [[a]]
      | l :: ls => (a :: l) :: ls

end IssueGraph.Text
