import IssueGraph.Json.Value
import IssueGraph.Text.Quoted

/-!
# Why a JSON text or value is refused

A cause says what was found and what was wanted. Each has one wording.
-/
namespace IssueGraph.Json

/-- The kind of value that stood where another one was wanted. -/
inductive Found where
  | null
  | bool (value : Bool)
  | int (value : Int)
  | float (value : Float)
  | str (value : String)
  | sequence
  | map
  deriving DecidableEq, Repr

namespace Found

def message : Found → String
  | null => "null"
  | bool true => "boolean `true`"
  | bool false => "boolean `false`"
  | int i => "integer `" ++ toString i ++ "`"
  | float x => "floating point `" ++ number.text x ++ "`"
  | str s => "string " ++ Text.quoted s
  | sequence => "sequence"
  | map => "map"

/-- The kind of a value. -/
def of : Json → Found
  | .null => null
  | .bool b => bool b
  | .int i => int i
  | .float x => float x
  | .str s => str s
  | .arr _ => sequence
  | .obj _ => map

end Found

inductive Cause where
  | endInValue
  | endInList
  | endInObject
  | endInString
  | expectedColon
  | expectedListCommaOrEnd
  | expectedObjectCommaOrEnd
  | expectedWord
  | expectedValue
  | keyNotString
  | trailingComma
  | trailingCharacters
  | invalidEscape
  | invalidNumber
  | numberOutOfRange
  | controlCharacter
  | loneSurrogate
  | brokenSurrogatePair
  | invalidType (found : Found) (expected : String)
  | invalidValue (found : Found) (expected : String)
  | invalidLength (length : Nat) (expected : String)
  | missingField (name : String)
  | duplicateField (name : String)
  | unknownVariant (name : String) (known : List String)
  deriving DecidableEq, Repr

namespace Cause

/-- Names between backticks, separated by commas. -/
def listNames (names : List String) : String :=
  String.intercalate ", " (names.map fun n => "`" ++ n ++ "`")

def message : Cause → String
  | endInValue => "EOF while parsing a value"
  | endInList => "EOF while parsing a list"
  | endInObject => "EOF while parsing an object"
  | endInString => "EOF while parsing a string"
  | expectedColon => "expected `:`"
  | expectedListCommaOrEnd => "expected `,` or `]`"
  | expectedObjectCommaOrEnd => "expected `,` or `\x7d`"
  | expectedWord => "expected ident"
  | expectedValue => "expected value"
  | keyNotString => "key must be a string"
  | trailingComma => "trailing comma"
  | trailingCharacters => "trailing characters"
  | invalidEscape => "invalid escape"
  | invalidNumber => "invalid number"
  | numberOutOfRange => "number out of range"
  | controlCharacter => "control character (\\u0000-\\u001F) found while parsing a string"
  | loneSurrogate => "lone leading surrogate in hex escape"
  | brokenSurrogatePair => "unexpected end of hex escape"
  | invalidType found expected => "invalid type: " ++ found.message ++ ", expected " ++ expected
  | invalidValue found expected => "invalid value: " ++ found.message ++ ", expected " ++ expected
  | invalidLength n expected => "invalid length " ++ toString n ++ ", expected " ++ expected
  | missingField name => "missing field `" ++ name ++ "`"
  | duplicateField name => "duplicate field `" ++ name ++ "`"
  | unknownVariant name known =>
    "unknown variant `" ++ name ++ "`, expected one of " ++ listNames known

end Cause

/-- A line, counted from one, and the number of bytes read in it. -/
structure Place where
  line : Nat := 1
  column : Nat := 0
  deriving DecidableEq, Repr, Inhabited

namespace Place

/-- The place after a character. -/
def next (p : Place) (c : Char) : Place :=
  if c == '\n' then ⟨p.line + 1, 0⟩ else ⟨p.line, p.column + c.utf8Size⟩

/-- The place after some characters. -/
def afterChars (p : Place) (cs : List Char) : Place := cs.foldl next p

/-- The place after `n` bytes of some characters, or after all of them. -/
def afterBytes (p : Place) : Nat → List Char → Place
  | _, [] => p
  | n, c :: cs =>
    if n < c.utf8Size then ⟨p.line, p.column + n⟩ else afterBytes (p.next c) (n - c.utf8Size) cs

end Place

/-- A cause and the place at which it was noticed. -/
structure Fault where
  cause : Cause
  place : Place
  deriving DecidableEq, Repr

namespace Fault

def message (f : Fault) : String :=
  f.cause.message ++ " at line " ++ toString f.place.line ++ " column " ++ toString f.place.column

end Fault

end IssueGraph.Json
