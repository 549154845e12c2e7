import IssueGraph.Yaml.Event

/-!
# YAML documents

The first document of a text: its events up to a fault, which event each alias stands for, and
whether another document follows.
-/
namespace IssueGraph.Yaml

namespace Parser

/-- The directives before a document. -/
def directives : (fuel : Nat) → (versioned : Bool) → Parser Unit
  | 0, _ => pure ()
  | fuel + 1, versioned => do
    let t ← peek
    match t.kind with
    | .directive (.version major minor) =>
      if versioned then throw { problem := .repeatedVersion, place := t.start }
      if major ≠ 1 || (minor ≠ 1 && minor ≠ 2) then
        throw { problem := .incompatibleVersion, place := t.start }
      advance
      directives fuel true
    | .directive (.tag handle stem) =>
      if ((← get).handles.lookup handle).isSome then
        throw { problem := .repeatedTagDirective, place := t.start }
      modify fun p => { p with handles := p.handles ++ [(handle, stem)] }
      advance
      directives fuel versioned
    | _ => pure ()

/-- The handles that stand for something in every document, unless it says otherwise. -/
def usualHandles : List (String × String) := [("!", "!"), ("!!", "tag:yaml.org,2002:")]

/-- The first document. -/
def document (fuel : Nat) : Parser Unit := do
  let t ← peek
  match t.kind with
  | .streamEnd => return
  | .directive _ | .documentStart =>
    directives fuel false
    modify fun p => { p with handles := p.handles ++ usualHandles }
    let t ← peek
    if t.kind ≠ .documentStart then throw { problem := .missingDocumentStart, place := t.start }
    advance
    let t ← peek
    match t.kind with
    | .directive _ | .documentStart | .documentEnd | .streamEnd => emitEmpty t.start
    | _ => node fuel true false
  | _ =>
    modify fun p => { p with handles := usualHandles }
    node fuel true false
  if (← peek).kind = .documentEnd then advance

end Parser

namespace Event

/-- The name under which a node can be used again. -/
def anchor? : Event → Option String
  | scalar anchor _ _ _ | sequenceStart anchor | mappingStart anchor => anchor
  | _ => none

end Event

structure Document where
  events : List MarkedEvent
  /-- The fault that ended the events. -/
  fault : Option Fault
  /-- For the place of an alias among the events, the place of the node it stands for. -/
  targets : List (Nat × Nat)
  /-- Whether anything follows the document. -/
  more : Bool

namespace Document

/-- Anchors while events are gone through: the number of each name and the place of each number. A
number is the count of names anchored before. -/
structure Anchors where
  numbers : List (String × Nat) := []
  places : List (Nat × Nat) := []
  /-- The number that each alias stands for. -/
  uses : List (Nat × Nat) := []

/-- Go through events, of which `place` come before; stop at an alias of an unknown name, whose
place is yielded. -/
def link (a : Anchors) (place : Nat) : List MarkedEvent → Anchors × Option Nat
  | [] => (a, none)
  | (e, _) :: es =>
    match e with
    | .reference name =>
      match a.numbers.lookup name with
      | some n => link { a with uses := (place, n) :: a.uses } (place + 1) es
      | none => (a, some place)
    | e =>
      match e.anchor? with
      | none => link a (place + 1) es
      | some name =>
        let n := a.numbers.length
        link
          { a with
            numbers := (name, n) :: a.numbers.filter (·.1 != name)
            places := (n, place) :: a.places }
          (place + 1) es

/-- Whether anything follows a document whose end was passed. -/
def hasMore (tokens : List Token) (ending : Option Fault) : Bool :=
  match tokens.dropWhile (·.kind == .documentEnd) with
  | t :: _ => t.kind != .streamEnd
  | [] => ending.isSome

/-- The first document of a text. -/
def read (text : String) : Document :=
  let (tokens, ending) := tokens text.toList
  let (result, p) := (Parser.document (8 * tokens.length + 16)).run { tokens, ending }
  let fault := match result with
    | .ok () => none
    | .error f => some f
  let events := p.events.reverse
  let (anchors, unknown) := link {} 0 events
  let targets := anchors.uses.filterMap fun (place, n) => (anchors.places.lookup n).map (place, ·)
  match unknown with
  | none => { events, fault, targets, more := fault.isNone && hasMore p.tokens ending }
  | some place =>
    let mark := (events[place]?.map (·.2)).getD {}
    { events := events.take place
      fault := some { problem := .unknownAnchor, place := mark }
      targets
      more := false }

end Document

end IssueGraph.Yaml
