import IssueGraph.Decimal.Format

/-!
# JSON values and their text

A JSON value keeps whole numbers apart from doubles and the members of an object in their order. It
is written on one line without blanks, or over several lines with two blanks a level.
-/
namespace IssueGraph

inductive Json where
  | null
  | bool (value : Bool)
  | int (value : Int)
  | float (value : Float)
  | str (value : String)
  | arr (items : List Json)
  | obj (members : List (String × Json))
  deriving Inhabited, Repr

namespace Json

/-- Doubles have a point or an exponent, and are positional from five places after the point to
sixteen before it. -/
def number : Decimal.Format :=
  { tie := .toEven
    positional := fun e => -5 ≤ e && e < 16
    showsPoint := true
    exponentMark := "e+"
    infinite := "null"
    notANumber := "null" }

/-- The text of a double; what is not a finite number is written as null. -/
def floatText (x : Float) : String := if x.isFinite then number.text x else "null"

/-- A character inside a string literal. -/
def escape (c : Char) : List Char :=
  match c with
  | '"' => ['\\', '"']
  | '\\' => ['\\', '\\']
  | '\x08' => ['\\', 'b']
  | '\x0c' => ['\\', 'f']
  | '\n' => ['\\', 'n']
  | '\r' => ['\\', 'r']
  | '\t' => ['\\', 't']
  | c =>
    if c.toNat < 32 then
      ['\\', 'u', '0', '0', Nat.digitChar (c.toNat / 16), Nat.digitChar (c.toNat % 16)]
    else [c]

/-- A string literal. -/
def quote (s : String) : List Char := '"' :: (s.toList.flatMap escape ++ ['"'])

mutual

/-- The text on one line, without blanks. -/
def compact : Json → List Char
  | null => "null".toList
  | bool true => "true".toList
  | bool false => "false".toList
  | int i => (toString i).toList
  | float x => (floatText x).toList
  | str s => quote s
  | arr [] => ['[', ']']
  | arr (j :: js) => '[' :: (compact j ++ compactItems js)
  | obj [] => ['{', '}']
  | obj ((k, v) :: ms) => '{' :: (quote k ++ ':' :: (compact v ++ compactMembers ms))

/-- The items after the first one, to the closing bracket. -/
def compactItems : List Json → List Char
  | [] => [']']
  | j :: js => ',' :: (compact j ++ compactItems js)

/-- The members after the first one, to the closing brace. -/
def compactMembers : List (String × Json) → List Char
  | [] => ['}']
  | (k, v) :: ms => ',' :: (quote k ++ ':' :: (compact v ++ compactMembers ms))

end

/-- A new line, indented by two blanks a level. -/
def newline (level : Nat) : List Char := '\n' :: List.replicate (2 * level) ' '

mutual

/-- The text over several lines, inside `level` brackets. -/
def pretty (level : Nat) : Json → List Char
  | arr (j :: js) => '[' :: (newline (level + 1) ++ (pretty (level + 1) j ++ prettyItems level js))
  | obj ((k, v) :: ms) =>
    '{' :: (newline (level + 1) ++
      (quote k ++ ':' :: ' ' :: (pretty (level + 1) v ++ prettyMembers level ms)))
  | null => "null".toList
  | bool true => "true".toList
  | bool false => "false".toList
  | int i => (toString i).toList
  | float x => (floatText x).toList
  | str s => quote s
  | arr [] => ['[', ']']
  | obj [] => ['{', '}']

/-- The items after the first one, to the closing bracket. -/
def prettyItems (level : Nat) : List Json → List Char
  | [] => newline level ++ [']']
  | j :: js => ',' :: (newline (level + 1) ++ (pretty (level + 1) j ++ prettyItems level js))

/-- The members after the first one, to the closing brace. -/
def prettyMembers (level : Nat) : List (String × Json) → List Char
  | [] => newline level ++ ['}']
  | (k, v) :: ms =>
    ',' :: (newline (level + 1) ++
      (quote k ++ ':' :: ' ' :: (pretty (level + 1) v ++ prettyMembers level ms)))

end

/-- The text on one line. -/
def compactText (j : Json) : String := String.ofList j.compact

/-- The text over several lines. -/
def prettyText (j : Json) : String := String.ofList (j.pretty 0)

/-- A member of an object. -/
def member? (name : String) : Json → Option Json
  | obj members => members.lookup name
  | _ => none

end Json

end IssueGraph
