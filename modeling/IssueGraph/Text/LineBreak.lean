import IssueGraph.Text.LineClass

/-!
# Line breaks

Where a line may end, by the rules of the Unicode line breaking algorithm. A text is read as
clusters, each a character with the marks that stand on it. The rules look at the clusters on both
sides of a place, beyond the spaces before it where they say so.
-/
namespace IssueGraph.Text

/-- What may happen between two characters. -/
inductive LineBreak where
  | forbidden
  | allowed
  | required
  deriving DecidableEq, Repr, Inhabited

namespace LineBreak

open LineClass

/-! ## Clusters -/

/-- A character and the marks that stand on it. -/
structure Cluster where
  /-- The class of the character. -/
  kind : LineClass
  /-- How many marks stand on it. -/
  marks : Nat := 0
  /-- Whether the last of its characters is a joiner. -/
  joins : Bool := false
  deriving DecidableEq, Repr

/-- The classes that end a line whatever follows. -/
def endsLine (k : LineClass) : Bool :=
  [mandatory, carriageReturn, lineFeed, nextLine].contains k

/-- A character that marks cannot stand on. -/
def holdsNoMark (k : LineClass) : Bool := endsLine k || k == space || k == zeroWidthSpace

/-- Whether a class is that of a mark. -/
def isMark (k : LineClass) : Bool := k == combiningMark || k == joiner

/-- Add a character to the clusters before it, the nearest of which comes first. A mark that has
nothing to stand on counts as a letter. -/
def addCharacter (before : List Cluster) (k : LineClass) : List Cluster :=
  if isMark k then
    match before with
    | c :: rest =>
      if holdsNoMark c.kind then { kind := alphabetic, joins := k == joiner } :: before
      else { c with marks := c.marks + 1, joins := k == joiner } :: rest
    | [] => [{ kind := alphabetic, joins := k == joiner }]
  else { kind := k } :: before

/-- The clusters of a text. -/
def clusters (ks : List LineClass) : List Cluster := (ks.foldl addCharacter []).reverse

/-! ## Classes that the rules take together -/

def isOpening (k : LineClass) : Bool := k == opening || k == wideOpening

def isClosing (k : LineClass) : Bool :=
  [closing, closingParenthesis, exclamation, infixSeparator, solidus].contains k

def isLetter (k : LineClass) : Bool := k == alphabetic || k == hebrewLetter || k == dottedCircle

def isEmojiOrIdeograph (k : LineClass) : Bool :=
  k == ideographic || k == unassignedPictograph || k == emojiBase || k == emojiModifier

def isHangul (k : LineClass) : Bool :=
  [leadingJamo, vowelJamo, trailingJamo, hangulOpen, hangulClosed].contains k

def isQuotation (k : LineClass) : Bool :=
  k == quotation || k == initialQuotation || k == finalQuotation

def isAksara (k : LineClass) : Bool := k == aksara || k == dottedCircle

def startsAksara (k : LineClass) : Bool := isAksara k || k == aksaraStart

/-- Pairs of numbers, their signs and brackets that stay together. -/
def numericPair (left right : LineClass) : Bool :=
  match left, right with
  | closing, postfixNumeric | closing, prefixNumeric
  | closingParenthesis, postfixNumeric | closingParenthesis, prefixNumeric
  | numeric, postfixNumeric | numeric, prefixNumeric
  | postfixNumeric, opening | postfixNumeric, wideOpening | postfixNumeric, numeric
  | prefixNumeric, opening | prefixNumeric, wideOpening | prefixNumeric, numeric
  | hyphen, numeric | infixSeparator, numeric | numeric, numeric | solidus, numeric => true
  | _, _ => false

/-- Parts of a Hangul syllable that stay together. -/
def hangulPair (left right : LineClass) : Bool :=
  match left, right with
  | leadingJamo, leadingJamo | leadingJamo, vowelJamo | leadingJamo, hangulOpen
  | leadingJamo, hangulClosed
  | vowelJamo, vowelJamo | vowelJamo, trailingJamo | hangulOpen, vowelJamo
  | hangulOpen, trailingJamo
  | trailingJamo, trailingJamo | hangulClosed, trailingJamo => true
  | _, _ => false

/-- Pairs that stay together whatever stands around them, as long as no space, mark or line end is
near. -/
def pairStaysTogether (left right : LineClass) : Bool :=
  right == breakAfter || right == hyphen || right == nonStarter || left == breakBefore
    || (left == solidus && right == hebrewLetter)
    || right == inseparable
    || (isLetter left && right == numeric) || (left == numeric && isLetter right)
    || (left == prefixNumeric && isEmojiOrIdeograph right)
    || (isEmojiOrIdeograph left && right == postfixNumeric)
    || ((left == prefixNumeric || left == postfixNumeric) && isLetter right)
    || (isLetter left && (right == prefixNumeric || right == postfixNumeric))
    || numericPair left right || hangulPair left right
    || (isHangul left && right == postfixNumeric) || (left == prefixNumeric && isHangul right)
    || (isLetter left && isLetter right)
    || (left == aksaraPrebase && startsAksara right)
    || (startsAksara left && (right == viramaFinal || right == virama))
    || (left == infixSeparator && isLetter right)
    || ((isLetter left || left == numeric) && right == opening)
    || (left == closingParenthesis && (isLetter right || right == numeric))
    || ((left == emojiBase || left == unassignedPictograph) && right == emojiModifier)

/-! ## Rules that look further

The clusters before a place come with the nearest one first, those after it in order. -/

/-- Whether the nearest cluster opens a quotation: nothing stands before it that it could close. -/
def opensQuotation : List Cluster → Bool
  | [] => false
  | q :: before =>
    q.kind == initialQuotation && before.head?.all fun c =>
      holdsNoMark c.kind || isOpening c.kind || isQuotation c.kind || c.kind == glue

/-- Whether a quotation mark before a character of this class closes a quotation. -/
def followsQuotation (k : LineClass) : Bool :=
  holdsNoMark k || isQuotation k || k == glue || k == wordJoiner || isClosing k

/-- Whether the next cluster closes a quotation: nothing follows that it could open. -/
def closesQuotation : List Cluster → Bool
  | [] => false
  | q :: after => q.kind == finalQuotation && after.head?.all fun c => followsQuotation c.kind

/-- Whether the place follows a Hebrew letter with a hyphen and no Hebrew letter comes next. -/
def followsHebrewHyphen (before : List Cluster) (right : LineClass) : Bool :=
  match before with
  | h :: l :: _ =>
    (h.kind == hyphen || h.kind == breakAfter) && l.kind == hebrewLetter && right != hebrewLetter
  | _ => false

/-- Whether the place is inside a syllable of a Brahmic script: after a virama that joins two
letters, or before a letter that a final virama takes the vowel from. -/
def insideSyllable (before after : List Cluster) : Bool :=
  (match before, after with
    | v :: l :: _, r :: _ => startsAksara l.kind && v.kind == virama && isAksara r.kind
    | _, _ => false) ||
  match before, after with
  | l :: _, r :: v :: _ => startsAksara l.kind && startsAksara r.kind && v.kind == viramaFinal
  | _, _ => false

/-- Whether the place is in the middle of a pair of regional indicators. -/
def insideFlag (before : List Cluster) (right : LineClass) : Bool :=
  right == regionalIndicator &&
    (before.takeWhile (·.kind == regionalIndicator)).length % 2 == 1

/-- What may happen at a place between two clusters. The rules are tried in order. -/
def between (before after : List Cluster) : LineBreak :=
  match before, after with
  | l :: _, r :: _ =>
    let left := l.kind
    let right := r.kind
    let nearest := before.dropWhile (·.kind == space)
    let beforeSpaces (k : LineClass) : Bool := nearest.head?.any (·.kind == k)
    let permit (b : Bool) : LineBreak := if b then allowed else forbidden
    if left == carriageReturn && right == lineFeed then forbidden
    else if endsLine left then required
    else if left == dottedCircle && right == space then allowed
    else if endsLine right || right == space || right == zeroWidthSpace then forbidden
    else if beforeSpaces zeroWidthSpace then allowed
    else if l.joins then forbidden
    else if right == wordJoiner || left == wordJoiner || left == glue then forbidden
    else if right == glue && left != space && left != breakAfter && left != hyphen then forbidden
    else if isClosing right then forbidden
    else if beforeSpaces opening || beforeSpaces wideOpening then forbidden
    else if opensQuotation nearest || closesQuotation after then forbidden
    else if (beforeSpaces closing || beforeSpaces closingParenthesis) && right == nonStarter then
      forbidden
    else if beforeSpaces dash && right == dash then forbidden
    else if left == space then allowed
    else if isQuotation left || isQuotation right then forbidden
    else if left == contingent || right == contingent then allowed
    else permit !(pairStaysTogether left right || followsHebrewHyphen before right ||
      insideSyllable before after || insideFlag before right)
  | _, _ => allowed

/-! ## Texts -/

/-- For each character of some clusters, whether a line may end after it, given the clusters before.
No line ends before a mark. -/
def breaks (before : List Cluster) : List Cluster → List Bool
  | [] => []
  | c :: rest =>
    List.replicate c.marks false ++
      (between (c :: before) rest != forbidden) :: breaks (c :: before) rest

/-- For each character of a text, whether a line may end after it. It may end after the last one. -/
def breaksAfter (cs : List Char) : List Bool := breaks [] (clusters (cs.map LineClass.of))

end LineBreak

end IssueGraph.Text
