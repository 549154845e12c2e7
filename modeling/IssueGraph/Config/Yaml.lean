import IssueGraph.Config.Basic
import IssueGraph.Text.Basic
import IssueGraph.Yaml.Document
import IssueGraph.Yaml.Resolve

/-!
# Configurations in YAML

A configuration is a mapping of some of its fields to values; other keys are ignored. The first
thing that is wrong is reported: a value of the wrong type also before a fault further on in the
text.
-/
namespace IssueGraph.Config

open Yaml

inductive Field where
  | maxChainDepth
  | includeOrphanEdges
  | nodeWidth
  | nodeHeight
  | memoCapacity
  deriving DecidableEq, Repr

namespace Field

/-- The key of the field. -/
def name : Field → String
  | maxChainDepth => "max-chain-depth"
  | includeOrphanEdges => "include-orphan-edges"
  | nodeWidth => "node-width"
  | nodeHeight => "node-height"
  | memoCapacity => "memo-capacity"

def all : List Field := [maxChainDepth, includeOrphanEdges, nodeWidth, nodeHeight, memoCapacity]

end Field

/-- Why a text is no configuration. -/
inductive Error where
  | fault (fault : Yaml.Fault)
  /-- Something at `path` is not what it should be. -/
  | type (path : String) (found : Found) (expected : String) (place : Mark)
  /-- The tag of something at `path` wants it to be something else. -/
  | tagged (path : String) (text : String) (expected : String) (place : Mark)
  | repeated (field : Field) (place : Mark)
  | severalDocuments
  | invalid (invalid : Invalid)
  deriving DecidableEq, Repr

namespace Error

/-- A path before a message, unless it is the whole text. -/
def atPath (path : String) : String := if path = "." then "" else path ++ ": "

/-- A place after a message, unless it is the start of the text. -/
def atPlace (place : Mark) : String := if place.isStart then "" else " at " ++ place.message

def message : Error → String
  | fault f => f.message
  | type path found expected place =>
    atPath path ++ "invalid type: " ++ found.message ++ ", expected " ++ expected ++ atPlace place
  | tagged path text expected place =>
    atPath path ++ "invalid value: " ++ (Found.text text).message ++ ", expected " ++ expected ++
      atPlace place
  | repeated field place => "duplicate field `" ++ field.name ++ "`" ++ atPlace place
  | severalDocuments => "deserializing from YAML containing more than one document is not supported"
  | invalid i => i.message

end Error

/-! ## Values -/

/-- What is wrong with an event that is not of the wanted kind. -/
def wrongType (path expected : String) (e : MarkedEvent) : Error :=
  match e.1 with
  | .scalar _ tag style text =>
    match foundScalar tag style text with
    | .ok found => .type path found expected e.2
    | .error wanted => .tagged path text wanted e.2
  | .mappingStart _ => .type path .mapping expected e.2
  | _ => .type path .sequence expected e.2

/-- The value of a scalar whose spelling may be read by `read?`. -/
def scalarValue {α : Type} (path expected : String) (core : CoreTag) (read? : String → Option α)
    (e : MarkedEvent) : Except Error α :=
  match e.1 with
  | .scalar _ tag style text =>
    match if isSpelled core tag style then read? text else none with
    | some a => .ok a
    | none => .error (wrongType path expected e)
  | _ => .error (wrongType path expected e)

/-- A whole number that fits 64 bits. -/
def sizeValue (path : String) : MarkedEvent → Except Error Nat :=
  scalarValue path "usize" .int fun s => (natural? s.toList).filter (· < Nat.pow 2 64)

/-- Set a field to the value of an event. -/
def setField (c : Config) (field : Field) (path : String) (e : MarkedEvent) : Except Error Config :=
  match field with
  | .maxChainDepth => return { c with maxChainDepth := ← sizeValue path e }
  | .memoCapacity => return { c with memoCapacity := ← sizeValue path e }
  | .includeOrphanEdges =>
    return { c with includeOrphanEdges := ← scalarValue path "a boolean" .bool bool? e }
  | .nodeWidth => return { c with nodeWidth := ← scalarValue path "f64" .float real? e }
  | .nodeHeight => return { c with nodeHeight := ← scalarValue path "f64" .float real? e }

/-! ## Mappings -/

/-- The number of events of the node that comes next, which has `open_` collections around its
end. -/
def nodeLength (open_ : Nat) : List MarkedEvent → Option Nat
  | [] => none
  | (e, _) :: es =>
    let step (n : Nat) := if n = 0 then some 1 else (nodeLength n es).map (· + 1)
    match e with
    | .sequenceStart _ | .mappingStart _ => step (open_ + 1)
    | .sequenceEnd | .mappingEnd => step (open_ - 1)
    | _ => step open_

/-- What ended the events. -/
def ending (d : Document) : Error :=
  match d.fault with
  | some f => .fault f
  | none => .severalDocuments

/-- The event at a place, or the one that an alias there stands for. -/
def eventAt (d : Document) (place : Nat) : Option MarkedEvent :=
  match d.events[place]? with
  | some (.reference _, mark) =>
    match d.targets.lookup place with
    | some target => d.events[target]?
    | none => some (.reference "", mark)
  | e => e

/-- Read the pairs of the mapping that begins at `since`, the first of which is at `place`. The
fields in `seen` have been set. -/
def readPairs (d : Document) (since : Mark) :
    (fuel : Nat) → (place : Nat) → (seen : List Field) → Config → Except Error Config
  | 0, _, _, c => .ok c
  | fuel + 1, place, seen, c =>
    match d.events[place]? with
    | none => .error (ending d)
    | some (.mappingEnd, _) => .ok c
    | some (e, _) =>
      let path := match e with
        | .scalar _ _ _ text => text
        | _ => "?"
      match eventAt d place with
      | some (.scalar _ _ _ key, _) =>
        match Field.all.find? (·.name == key) with
        | some field =>
          if seen.contains field then .error (.repeated field since)
          else match eventAt d (place + 1) with
            | none => .error (ending d)
            | some value => do
              readPairs d since fuel (place + 2) (field :: seen) (← setField c field path value)
        | none =>
          match nodeLength 0 (d.events.drop (place + 1)) with
          | none => .error (ending d)
          | some n => readPairs d since fuel (place + 1 + n) seen c
      | some other => .error (wrongType "." "field identifier" other)
      | none => .error (ending d)

/-- The configuration of a document. -/
def ofDocument (d : Document) : Except Error Config :=
  match d.events with
  | [] =>
    match d.fault with
    | some f => .error (.fault f)
    | none => .ok {}
  | (.mappingStart _, mark) :: _ => readPairs d mark d.events.length 1 [] {}
  | (.scalar _ _ .plain "", _) :: _ => .ok {}
  | e :: _ => .error (wrongType "." "struct GraphConfig" e)

/-- The configuration in a text. A blank text is the configuration in which nothing is set. -/
def ofYaml (text : String) : Except Error Config := do
  let c ←
    if (Text.trim text.toList).isEmpty then pure {}
    else
      let d := Document.read text
      let c ← ofDocument d
      match d.fault with
      | some f => .error (.fault f)
      | none => if d.more then .error .severalDocuments else pure c
  match c.check with
  | .ok () => return c
  | .error i => .error (.invalid i)

end IssueGraph.Config
