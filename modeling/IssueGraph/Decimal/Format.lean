import IssueGraph.Decimal.Shortest

/-!
# Texts of doubles

A double is written with its shortest digits, either positionally or with an exponent. What differs
between the places where doubles are written is one record: which exponents are positional, whether
a whole number shows a point, and how an exponent is signed.
-/
namespace IssueGraph.Decimal

/-- How doubles are written. -/
structure Format where
  tie : Tie
  /-- The exponents of the leading digit that are written positionally. -/
  positional : Int → Bool
  /-- Whether a whole number written positionally ends in a point and a zero. -/
  showsPoint : Bool
  /-- The mark and sign of an exponent that is not negative. -/
  exponentMark : String
  infinite : String
  notANumber : String

/-- The digits of `n`, most significant first. -/
def digitChars (n : Nat) : List Char := Nat.toDigits 10 n

/-- `digits` with a point before the last `-exponent` of them, or zeros after them. -/
def positionalText (showsPoint : Bool) (d : Decimal) : String :=
  let digits := digitChars d.digits
  if 0 ≤ d.exponent then
    String.ofList (digits ++ List.replicate d.exponent.toNat '0') ++
      (if showsPoint then ".0" else "")
  else
    let places := (-d.exponent).toNat
    let padded := List.replicate (places + 1 - digits.length) '0' ++ digits
    String.ofList (padded.take (padded.length - places)) ++ "." ++
      String.ofList (padded.drop (padded.length - places))

/-- One digit, a point and the other digits if there are any, then the exponent. -/
def exponentText (mark : String) (d : Decimal) : String :=
  let digits := digitChars d.digits
  let fraction := digits.drop 1
  let e := d.exponent + fraction.length
  String.ofList (digits.take 1) ++
    (if fraction.isEmpty then "" else "." ++ String.ofList fraction) ++
    (if e < 0 then "e-" else mark) ++ toString e.natAbs

/-- The text of a double. -/
def Format.text (f : Format) (x : Float) : String :=
  if x.isNaN then f.notANumber
  else
    let sign := if Binary64.isNegative x then "-" else ""
    if x.isInf then sign ++ f.infinite
    else if (Binary64.parts x).mantissa = 0 then sign ++ positionalText f.showsPoint ⟨0, 0⟩
    else
      let d := shortest f.tie x
      let leading := d.exponent + (digitChars d.digits).length - 1
      sign ++ if f.positional leading then positionalText f.showsPoint d
        else exponentText f.exponentMark d

/-- The number in a decimal text with an optional sign, point and exponent, or a named value. -/
def parse? (s : String) : Option Float :=
  let cs := s.toList
  let (negative, cs) := match cs with
    | '-' :: r => (true, r)
    | '+' :: r => (false, r)
    | r => (false, r)
  let signed (x : Float) : Float := if negative then -x else x
  match String.ofList (cs.map Char.toLower) with
  | "inf" | "infinity" => some (signed (1.0 / 0.0))
  | "nan" => some (0.0 / 0.0)
  | _ =>
    let whole := cs.takeWhile Char.isDigit
    let rest := cs.dropWhile Char.isDigit
    let (fraction, rest) := match rest with
      | '.' :: r => (r.takeWhile Char.isDigit, r.dropWhile Char.isDigit)
      | r => ([], r)
    let value (ds : List Char) : Nat := ds.foldl (fun n c => 10 * n + (c.toNat - '0'.toNat)) 0
    let result (e : Int) : Float :=
      signed (Binary64.ofDecimal (value (whole ++ fraction)) (e - fraction.length))
    if whole.isEmpty && fraction.isEmpty then none
    else match rest with
      | [] => some (result 0)
      | c :: r =>
        if c.toLower != 'e' then none
        else
          let (down, r) := match r with
            | '-' :: r => (true, r)
            | '+' :: r => (false, r)
            | r => (false, r)
          if r.isEmpty || !r.all Char.isDigit then none
          else some (result (if down then -(value r : Int) else value r))

end IssueGraph.Decimal
