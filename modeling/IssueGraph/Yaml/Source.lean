import IssueGraph.Yaml.Fault

/-!
# The characters of a YAML text

A source holds the characters ahead and the place they are at. Five characters end a line, and a
carriage return with the newline after it counts as one of them.
-/
namespace IssueGraph.Yaml

structure Source where
  ahead : List Char
  mark : Mark := {}
  deriving Repr, Inhabited

/-- Whether a character ends a line. -/
def isBreak (c : Char) : Bool :=
  c == '\n' || c == '\r' || c == '\u0085' || c == '\u2028' || c == '\u2029'

def isBlank (c : Char) : Bool := c == ' ' || c == '\t'

/-- A letter, digit, hyphen or underscore. -/
def isWordChar (c : Char) : Bool := c.isAlphanum || c == '-' || c == '_'

namespace Source

/-- The character after the next `n` ones. -/
def at? (s : Source) (n : Nat) : Option Char := (s.ahead.drop n).head?

def next? (s : Source) : Option Char := s.ahead.head?

/-- Whether the next character is `c`. -/
def sees (s : Source) (c : Char) : Bool := s.next? == some c

/-- Whether the next character is in a class. -/
def seesAny (s : Source) (p : Char → Bool) : Bool := s.next?.any p

/-- Whether the character after `n` others is a blank or the end of a line or text. -/
def endsAt (s : Source) (n : Nat) : Bool := (s.at? n).all fun c => isBlank c || isBreak c

/-- Whether a line or the text ends here. -/
def atLineEnd (s : Source) : Bool := s.next?.all isBreak

/-- Pass over one character of a line. -/
def skip (s : Source) : Source :=
  match s.ahead with
  | [] => s
  | c :: cs =>
    { ahead := cs
      mark := { s.mark with index := s.mark.index + c.utf8Size, column := s.mark.column + 1 } }

/-- A mark of the byte order, which may begin any line. -/
def orderMark : Char := '\ufeff'

/-- Pass over the mark of the byte order at the beginning of a line. -/
def skipOrderMark (s : Source) : Source :=
  if s.mark.column = 0 && s.sees orderMark then s.skip else s

/-- Pass over `n` characters of a line. -/
def skipMany (s : Source) : Nat → Source
  | 0 => s
  | n + 1 => s.skip.skipMany n

/-- Pass over the characters of a class that come next, all on one line. -/
def skipWhile (p : Char → Bool) (s : Source) : Source :=
  let passed := s.ahead.takeWhile p
  { ahead := s.ahead.drop passed.length
    mark :=
      { s.mark with
        index := s.mark.index + (String.ofList passed).utf8ByteSize
        column := s.mark.column + passed.length } }

/-- The characters of a class that come next. -/
def takeWhile (p : Char → Bool) (s : Source) : List Char := s.ahead.takeWhile p

/-- Pass over the end of a line. -/
def skipBreak (s : Source) : Source :=
  let after (n : Nat) : Mark := ⟨s.mark.index + n, s.mark.line + 1, 0⟩
  match s.ahead with
  | '\r' :: '\n' :: cs => { ahead := cs, mark := after 2 }
  | c :: cs => { ahead := cs, mark := after c.utf8Size }
  | [] => s

/-- The character that the end of a line stands for in a scalar. -/
def breakChar (s : Source) : List Char :=
  match s.next? with
  | none => []
  | some c => if c == '\u2028' || c == '\u2029' then [c] else ['\n']

/-- Whether a line here begins with the mark of a new document. -/
def atDocumentMark (s : Source) : Bool :=
  s.mark.column = 0 && (["---".toList, "...".toList].contains (s.ahead.take 3)) && s.endsAt 3

/-- A problem noticed here while something was being read. -/
def fault {α : Type} (s : Source) (reading : Reading) (since : Mark) (problem : Problem) :
    Except Fault α :=
  .error { problem, place := s.mark, reading := some (reading, since) }

/-- A problem noticed here. -/
def plainFault {α : Type} (s : Source) (problem : Problem) : Except Fault α :=
  .error { problem, place := s.mark }

end Source

/-- The characters that a text may hold. -/
def isAllowed (c : Char) : Bool :=
  let n := c.toNat
  n = 0x09 || n = 0x0a || n = 0x0d || (0x20 ≤ n && n ≤ 0x7e) || n = 0x85
    || (0xa0 ≤ n && n ≤ 0xfffd) || 0x10000 ≤ n

/-- The number of bytes before the first character that is not allowed, if there is one. -/
def firstForbidden? (offset : Nat) : List Char → Option Nat
  | [] => none
  | c :: cs => if isAllowed c then firstForbidden? (offset + c.utf8Size) cs else some offset

end IssueGraph.Yaml
