import IssueGraph.Decimal.Format
import IssueGraph.Json.Literal
import IssueGraph.Text.Quoted
import IssueGraph.Yaml.Scalar

/-!
# What YAML scalars stand for

A plain scalar is null, a truth value, a number or text, whichever its spelling says first. A tag
may say so for any scalar. Digits after a leading zero spell no number.
-/
namespace IssueGraph.Yaml

/-- The kind of thing that stood where another one was wanted. -/
inductive Found where
  | unit
  | bool (value : Bool)
  | int (value : Int)
  /-- A number that needs more than 64 bits. -/
  | wide (value : Int)
  | real (value : Float)
  | text (value : String)
  | sequence
  | mapping
  deriving DecidableEq, Repr

/-- Doubles in messages are positional and have a point. -/
def messageNumber : Decimal.Format :=
  { tie := .up
    positional := fun _ => true
    showsPoint := true
    exponentMark := "e"
    infinite := "inf"
    notANumber := "NaN" }

namespace Found

def message : Found → String
  | unit => "unit value"
  | bool true => "boolean `true`"
  | bool false => "boolean `false`"
  | int i => "integer `" ++ toString i ++ "`"
  | wide i => "integer `" ++ toString i ++ (if 0 ≤ i then "` as u128" else "` as i128")
  | real x => "floating point `" ++ messageNumber.text x ++ "`"
  | text s => "string " ++ Text.quoted s
  | sequence => "sequence"
  | mapping => "map"

end Found

/-! ## Spellings -/

def isNull (s : String) : Bool := ["null", "Null", "NULL", "~"].contains s

def bool? (s : String) : Option Bool :=
  if ["true", "True", "TRUE"].contains s then some true
  else if ["false", "False", "FALSE"].contains s then some false
  else none

/-- The number that digits of a base write. -/
def digits? (base : Nat) (cs : List Char) : Option Nat :=
  if cs.isEmpty then none
  else cs.foldl
    (fun n c => n.bind fun n =>
      (Json.hexDigit? c).bind fun d => if d < base then some (base * n + d) else none)
    (some 0)

/-- The base that the letters before digits name, and the digits. -/
def baseOf? : List Char → Option (Nat × List Char)
  | '0' :: 'x' :: cs => some (16, cs)
  | '0' :: 'o' :: cs => some (8, cs)
  | '0' :: 'b' :: cs => some (2, cs)
  | _ => none

/-- The digits after a sign. -/
def afterSign : List Char → List Char
  | '-' :: cs | '+' :: cs => cs
  | cs => cs

/-- Whether there are digits only, perhaps after a sign, and the first of several is a zero. -/
def hasLeadingZero (cs : List Char) : Bool :=
  match afterSign cs with
  | '0' :: d :: ds => (d :: ds).all Char.isDigit
  | _ => false

/-- A whole number without a minus sign. -/
def natural? (cs : List Char) : Option Nat :=
  let unsigned := match cs with
    | '+' :: r => r
    | r => r
  match (baseOf? unsigned).bind fun (base, ds) => digits? base ds with
  | some n => some n
  | none => if hasLeadingZero cs then none else digits? 10 unsigned

/-- The absolute value of a whole number with a minus sign. -/
def negated? (cs : List Char) : Option Nat :=
  match cs with
  | '-' :: r =>
    match (baseOf? r).bind fun (base, ds) => digits? base ds with
    | some n => some n
    | none => if hasLeadingZero cs then none else digits? 10 r
  | _ => none

/-- A whole number in at most 128 bits, and whether it fits 64. -/
def int? (cs : List Char) : Option Found :=
  match natural? cs, negated? cs with
  | some n, _ =>
    if n < Nat.pow 2 64 then some (.int n) else if n < Nat.pow 2 128 then some (.wide n) else none
  | none, some n =>
    if n ≤ Nat.pow 2 63 then some (.int (-n))
    else if n ≤ Nat.pow 2 127 then some (.wide (-n)) else none
  | none, none => none

/-- A finite double, or one of the spellings of those that are not. -/
def real? (s : String) : Option Float :=
  let unsigned := match s.toList with
    | '+' :: r => r
    | r => r
  if [".inf", ".Inf", ".INF"].contains (String.ofList unsigned) then some (1.0 / 0.0)
  else if ["-.inf", "-.Inf", "-.INF"].contains s then some (-(1.0 / 0.0))
  else if [".nan", ".NaN", ".NAN"].contains s then some (0.0 / 0.0)
  else if s.toList.head? == some '+' &&
      (unsigned.head? == some '+' || unsigned.head? == some '-') then
    none
  else (Decimal.parse? (String.ofList unsigned)).filter Float.isFinite

/-! ## Scalars -/

/-- What a scalar without a tag stands for. -/
def foundPlain (s : String) : Found :=
  if s.isEmpty || isNull s then .unit
  else match bool? s with
    | some b => .bool b
    | none =>
      match int? s.toList with
      | some f => f
      | none =>
        match if hasLeadingZero s.toList then none else real? s with
        | some x => .real x
        | none => .text s

/-- The tags with a meaning of their own. -/
inductive CoreTag where
  | bool
  | int
  | float
  | null
  deriving DecidableEq, Repr

namespace CoreTag

def name : CoreTag → String
  | bool => "tag:yaml.org,2002:bool"
  | int => "tag:yaml.org,2002:int"
  | float => "tag:yaml.org,2002:float"
  | null => "tag:yaml.org,2002:null"

def all : List CoreTag := [bool, int, float, null]

/-- What a text has to be under the tag. -/
def expected : CoreTag → String
  | bool => "a boolean"
  | int => "an integer"
  | float => "a float"
  | null => "null"

/-- What a text stands for under the tag. -/
def find? (tag : CoreTag) (s : String) : Option Found :=
  match tag with
  | bool => (bool? s).map .bool
  | int => int? s.toList
  | float => (real? s).map .real
  | null => if isNull s then some .unit else none

end CoreTag

/-- What a scalar stands for, or what its tag wants it to be. -/
def foundScalar (tag : Option String) (style : Style) (s : String) : Except String Found :=
  match tag with
  | none => .ok (if style = .plain then foundPlain s else .text s)
  | some t =>
    match CoreTag.all.find? (·.name == t) with
    | some core =>
      match core.find? s with
      | some f => .ok f
      | none => .error core.expected
    | none => .ok (if t.startsWith "!" && style = .plain then foundPlain s else .text s)

/-- Whether the spelling of a scalar may decide what it stands for where `core` is wanted: it is
plain, or a block with that tag. -/
def isSpelled (core : CoreTag) (tag : Option String) (style : Style) : Bool :=
  style = .plain || (style = .literal && tag = some core.name)

end IssueGraph.Yaml
