import IssueGraph.Text.Alphanumeric
import IssueGraph.Text.Columns
import IssueGraph.Text.LineBreak

/-!
# Wrapped text

A line that is too long is cut into pieces where it may end, and the pieces are laid out on lines so
that the sum of the costs of all lines is least. Spaces at the end of a line are dropped.
-/
namespace IssueGraph.Text

/-- A part of a line that is not cut further, with the spaces after it. -/
structure Piece where
  text : List Char
  spaces : Nat
  deriving DecidableEq, Repr, Inhabited

namespace Piece

/-- The columns without the spaces. -/
def width (p : Piece) : Nat := displayWidth p.text

/-- The text with its spaces. -/
def full (p : Piece) : List Char := p.text ++ List.replicate p.spaces ' '

end Piece

/-! ## Words -/

/-- The text without the spaces at its end. -/
def trimSpaces (cs : List Char) : List Char := (cs.reverse.dropWhile (· == ' ')).reverse

/-- A word as a piece. -/
def pieceOf (cs : List Char) : Piece :=
  let text := trimSpaces cs
  ⟨text, cs.length - text.length⟩

/-- A text as characters with the escape sequences before each, and the escape sequences that are
left at the end. -/
def units (escapes cs : List Char) : List (List Char × Char) × List Char :=
  match cs with
  | [] => ([], escapes)
  | c :: cs =>
    if c == '\x1b' then
      let rest := afterEscape cs
      units (escapes ++ c :: cs.take (cs.length - rest.length)) rest
    else
      let (us, last) := units [] cs
      ((escapes, c) :: us, last)
termination_by cs.length
decreasing_by
  · have := length_afterEscape_le cs
    simp only [List.length_cons]
    omega
  · simp

/-- The flags with the last one that is set cleared. -/
def clearLast : List Bool → List Bool
  | [] => []
  | b :: bs => if bs.any id then b :: clearLast bs else false :: bs

/-- A soft hyphen, at which no line ends. -/
def softHyphen : Char := '\u00ad'

/-- Cut after the items whose flag is set. -/
def cutAfter {α : Type} : List (List α × Bool) → List (List α)
  | [] => []
  | (a, cut) :: rest =>
    match cut, cutAfter rest with
    | true, words => a :: words
    | false, [] => [a]
    | false, w :: words => (a ++ w) :: words

/-- The words of a line: it is cut where it may end, but not after a hyphen, and never at the last
of these places. -/
def words (line : List Char) : List (List Char) :=
  let (us, last) := units [] line
  let visible := us.map (·.2)
  let cuts := clearLast ((visible.zip (LineBreak.breaksAfter visible)).map fun (c, b) =>
    b && c != '-' && c != softHyphen)
  cutAfter ((us.zip cuts).map (fun (u, cut) => (u.1 ++ [u.2], cut)) ++
    (if last.isEmpty then [] else [(last, false)]))

/-- Cut a word after every hyphen between two letters or digits. The characters since the last cut
are given in reverse. -/
def cutAtHyphens (since : List Char) : List Char → List (List Char)
  | [] => [since.reverse]
  | c :: cs =>
    if c == '-' && since.head?.any isAlphanumeric && cs.head?.any isAlphanumeric then
      (c :: since).reverse :: cutAtHyphens [] cs
    else cutAtHyphens (c :: since) cs

/-- Cut a text into parts of at most `limit` columns, or of one character. The characters since the
last cut are given in reverse, with their columns. -/
def cutAtWidth (limit : Nat) (since : List Char) (columnsSince : Nat) (cs : List Char) :
    List (List Char) :=
  match cs with
  | [] => if since.isEmpty then [] else [since.reverse]
  | c :: cs =>
    if c == '\x1b' then
      let rest := afterEscape cs
      cutAtWidth limit ((cs.take (cs.length - rest.length)).reverse ++ c :: since) columnsSince rest
    else
      let w := columns c
      if 0 < columnsSince && limit < columnsSince + w then
        since.reverse :: cutAtWidth limit [c] w cs
      else cutAtWidth limit (c :: since) (columnsSince + w) cs
termination_by cs.length
decreasing_by
  · have := length_afterEscape_le cs
    simp only [List.length_cons]
    omega
  · simp
  · simp

/-- The parts of a piece, the last of which keeps the spaces. -/
def Piece.cut (cutText : List Char → List (List Char)) (p : Piece) : List Piece :=
  match (cutText p.text).reverse with
  | [] => []
  | last :: parts => (⟨last, p.spaces⟩ :: parts.map fun t => ⟨t, 0⟩).reverse

/-- The pieces of a line, none of which is wider than `limit` unless it is one character. -/
def pieces (limit : Nat) (line : List Char) : List Piece :=
  let parts := (words line).flatMap fun w => (pieceOf w).cut (cutAtHyphens [])
  parts.flatMap fun p => if limit < p.width then p.cut (cutAtWidth limit [] 0) else [p]

/-! ## Layout -/

/-- The cost of a line of `width` columns. Every line costs something, one that is too wide a lot
more, and a gap at the end costs its square; the last line may have a gap, but a single short piece
there costs a little. -/
def lineCost (limit width : Nat) (single last : Bool) : Nat :=
  1000 +
    if limit < width then 2500 * (width - limit)
    else if !last then (limit - width) * (limit - width)
    else if single && 4 * width < limit then 25
    else 0

/-- A place where a line may start. -/
structure LineStart where
  /-- The cost of the lines before. -/
  cost : Nat
  /-- The lines before, the last one first. -/
  lines : List (List Piece)
  /-- The pieces since, the last one first. -/
  since : List Piece
  /-- The columns of these pieces, with their spaces. -/
  width : Nat
  deriving Repr

namespace LineStart

/-- Take one more piece. -/
def extend (s : LineStart) (p : Piece) : LineStart :=
  { s with since := p :: s.since, width := s.width + p.width + p.spaces }

/-- The cost of all lines if one ends here, after `p`. -/
def costAfter (limit : Nat) (last : Bool) (p : Piece) (s : LineStart) : Nat :=
  s.cost + lineCost limit (s.width - p.spaces) (s.since.length == 1) last

/-- End a line and start the next one. -/
def close (cost : Nat) (s : LineStart) : LineStart :=
  { cost := cost, lines := s.since.reverse :: s.lines, since := [], width := 0 }

end LineStart

/-- The first of the items with the least key. -/
def firstLeast {α : Type} (key : α → Nat) : List α → Option α
  | [] => none
  | a :: l =>
    match firstLeast key l with
    | none => some a
    | some b => if key b < key a then some b else some a

/-- Lay out pieces, given the places where the line at hand may have started, in order. -/
def layoutFrom (limit : Nat) (starts : List LineStart) : List Piece → List LineStart
  | [] => starts
  | p :: rest =>
    let extended := starts.map (·.extend p)
    let cost := LineStart.costAfter limit rest.isEmpty p
    match firstLeast cost extended with
    | none => extended
    | some s => layoutFrom limit (extended ++ [s.close (cost s)]) rest

/-- The cheapest layout of some pieces; of several the one whose last line starts first. -/
def layout (limit : Nat) (ps : List Piece) : List (List Piece) :=
  match (layoutFrom limit [⟨0, [], [], 0⟩] ps).getLast? with
  | some s => s.lines.reverse
  | none => []

/-- The text of a line, without the spaces at its end. -/
def lineText (ps : List Piece) : List Char :=
  match ps.reverse with
  | [] => []
  | last :: before => before.reverse.flatMap Piece.full ++ last.text

/-- Wrap one line. A line with fewer bytes than columns are allowed stays as it is. -/
def wrapLine (limit : Nat) (line : List Char) : List (List Char) :=
  if (String.ofList line).utf8ByteSize < limit then [trimSpaces line]
  else (layout limit (pieces limit line)).map lineText

/-- The lines of a text that are separated by newlines. -/
def splitLines : List Char → List (List Char)
  | [] => [[]]
  | c :: cs =>
    if c == '\n' then [] :: splitLines cs
    else match splitLines cs with
      | [] => [[c]]
      | l :: ls => (c :: l) :: ls

/-- Wrap a text to lines of at most `limit` columns. -/
def wrap (limit : Nat) (s : String) : List String :=
  ((splitLines s.toList).flatMap (wrapLine limit)).map String.ofList

end IssueGraph.Text
