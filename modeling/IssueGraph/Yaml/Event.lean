import IssueGraph.Yaml.Token

/-!
# The events of a YAML text

The events of a document are its nodes in order, with the beginning and end of each collection. A
node that is left out is an empty plain scalar. A fault ends the events; those before it stand.
-/
namespace IssueGraph.Yaml

inductive Event where
  | reference (name : String)
  | scalar (anchor tag : Option String) (style : Style) (text : String)
  | sequenceStart (anchor : Option String)
  | sequenceEnd
  | mappingStart (anchor : Option String)
  | mappingEnd
  deriving DecidableEq, Repr

/-- Where an event begins comes with it. -/
abbrev MarkedEvent := Event × Mark

/-- The tokens ahead, the fault after them, and the events so far in reverse. -/
structure Parsing where
  tokens : List Token
  ending : Option Fault
  events : List MarkedEvent := []
  /-- What the handles of tags stand for. -/
  handles : List (String × String) := []

/-- A part of the parser. What has been found stands also when a fault comes up. -/
abbrev Parser := ExceptT Fault (StateM Parsing)

namespace Parser

/-- The next token. -/
def peek : Parser Token := do
  let p ← get
  match p.tokens with
  | t :: _ => return t
  | [] =>
    match p.ending with
    | some f => throw f
    | none => return ⟨.streamEnd, {}, {}⟩

def advance : Parser Unit := modify fun p => { p with tokens := p.tokens.drop 1 }

def emit (e : Event) (m : Mark) : Parser Unit :=
  modify fun p => { p with events := (e, m) :: p.events }

/-- A node that is left out. -/
def emitEmpty (m : Mark) : Parser Unit := emit (.scalar none none .plain "") m

def fault {α : Type} (reading : Reading) (since : Mark) (problem : Problem) (place : Mark) :
    Parser α :=
  throw { problem, place, reading := some (reading, since) }

/-- The full name of a tag. -/
def resolve (since place : Mark) (t : TagText) : Parser String := do
  if t.handle.isEmpty then return t.suffix
  match (← get).handles.lookup t.handle with
  | some stem => return stem ++ t.suffix
  | none => fault .node since .undefinedTag place

/-- The anchor and the tag before a node, in either order, and where they begin. -/
def properties : Parser (Option String × Option String × Mark) := do
  let t ← peek
  let since := t.start
  match t.kind with
  | .anchor name =>
    advance
    let u ← peek
    match u.kind with
    | .tag tag =>
      advance
      let _ ← peek
      return (some name, some (← resolve since u.start tag), since)
    | _ => return (some name, none, since)
  | .tag tag =>
    advance
    let u ← peek
    match u.kind with
    | .anchor name =>
      advance
      let _ ← peek
      return (some name, some (← resolve since t.start tag), since)
    | _ => return (none, some (← resolve since t.start tag), since)
  | _ => return (none, none, since)

/-- A tag that only says what the node is anyway is dropped. -/
def properTag (tag : Option String) : Option String := if tag = some "!" then none else tag

mutual

/-- A node. Block collections may stand only in a `block` context, and a sequence that is not
indented only as the value or key of a block mapping. -/
def node : (fuel : Nat) → (block unindented : Bool) → Parser Unit
  | 0, _, _ => pure ()
  | fuel + 1, block, unindented => do
    let t ← peek
    match t.kind with
    | .reference name =>
      emit (.reference name) t.start
      advance
    | _ =>
      let (anchor, tag, since) ← properties
      let t ← peek
      match t.kind with
      | .blockEntry =>
        if unindented then
          emit (.sequenceStart anchor) since
          unindentedEntries fuel
        else content anchor tag since block t
      | .scalar style text =>
        emit (.scalar anchor (properTag tag) style text) since
        advance
      | .flowSequenceStart =>
        emit (.sequenceStart anchor) since
        advance
        flowItems fuel t.start true
      | .flowMappingStart =>
        emit (.mappingStart anchor) since
        advance
        flowPairs fuel t.start true
      | .blockSequenceStart =>
        if block then
          emit (.sequenceStart anchor) since
          advance
          entries fuel t.start
        else content anchor tag since block t
      | .blockMappingStart =>
        if block then
          emit (.mappingStart anchor) since
          advance
          pairs fuel t.start
        else content anchor tag since block t
      | _ => content anchor tag since block t
where
  /-- A node of which only the properties are there. -/
  content (anchor tag : Option String) (since : Mark) (block : Bool) (t : Token) : Parser Unit :=
    if anchor.isSome || tag.isSome then emit (.scalar anchor tag .plain "") since
    else fault (if block then .blockNode else .flowNode) since .missingContent t.start

/-- The entries of a block sequence. -/
def entries : (fuel : Nat) → (since : Mark) → Parser Unit
  | 0, _ => pure ()
  | fuel + 1, since => do
    let t ← peek
    match t.kind with
    | .blockEntry =>
      advance
      match (← peek).kind with
      | .blockEntry | .blockEnd => emitEmpty t.stop
      | _ => node fuel true false
      entries fuel since
    | .blockEnd =>
      emit .sequenceEnd t.start
      advance
    | _ => fault .blockSequence since .missingDash t.start

/-- The entries of a block sequence that is not indented. -/
def unindentedEntries : (fuel : Nat) → Parser Unit
  | 0 => pure ()
  | fuel + 1 => do
    let t ← peek
    match t.kind with
    | .blockEntry =>
      advance
      match (← peek).kind with
      | .blockEntry | .key | .value | .blockEnd => emitEmpty t.stop
      | _ => node fuel true false
      unindentedEntries fuel
    | _ => emit .sequenceEnd t.start

/-- The pairs of a block mapping. -/
def pairs : (fuel : Nat) → (since : Mark) → Parser Unit
  | 0, _ => pure ()
  | fuel + 1, since => do
    let t ← peek
    match t.kind with
    | .key =>
      advance
      match (← peek).kind with
      | .key | .value | .blockEnd => emitEmpty t.stop
      | _ => node fuel true true
      let u ← peek
      match u.kind with
      | .value =>
        advance
        match (← peek).kind with
        | .key | .value | .blockEnd => emitEmpty u.stop
        | _ => node fuel true true
      | _ => emitEmpty u.start
      pairs fuel since
    | .blockEnd =>
      emit .mappingEnd t.start
      advance
    | _ => fault .blockMapping since .missingKey t.start

/-- The items of a flow sequence. A pair among them is a mapping of its own. -/
def flowItems : (fuel : Nat) → (since : Mark) → (first : Bool) → Parser Unit
  | 0, _, _ => pure ()
  | fuel + 1, since, first => do
    let t ← peek
    let t ←
      if t.kind = .flowSequenceEnd || first then pure t
      else if t.kind = .flowEntry then do
        advance
        peek
      else fault .flowSequence since .missingCommaOrBracket t.start
    match t.kind with
    | .flowSequenceEnd =>
      emit .sequenceEnd t.start
      advance
    | .key =>
      emit (.mappingStart none) t.start
      advance
      let u ← peek
      match u.kind with
      | .value | .flowEntry | .flowSequenceEnd =>
        advance
        emitEmpty u.stop
      | _ => node fuel false false
      let u ← peek
      match u.kind with
      | .value =>
        advance
        let v ← peek
        match v.kind with
        | .flowEntry | .flowSequenceEnd => emitEmpty v.start
        | _ => node fuel false false
      | _ => emitEmpty u.start
      emit .mappingEnd (← peek).start
      flowItems fuel since false
    | _ =>
      node fuel false false
      flowItems fuel since false

/-- The pairs of a flow mapping. -/
def flowPairs : (fuel : Nat) → (since : Mark) → (first : Bool) → Parser Unit
  | 0, _, _ => pure ()
  | fuel + 1, since, first => do
    let t ← peek
    let t ←
      if t.kind = .flowMappingEnd || first then pure t
      else if t.kind = .flowEntry then do
        advance
        peek
      else fault .flowMapping since .missingCommaOrBrace t.start
    match t.kind with
    | .flowMappingEnd =>
      emit .mappingEnd t.start
      advance
    | .key =>
      advance
      let u ← peek
      match u.kind with
      | .value | .flowEntry | .flowMappingEnd => emitEmpty u.start
      | _ => node fuel false false
      let u ← peek
      match u.kind with
      | .value =>
        advance
        let v ← peek
        match v.kind with
        | .flowEntry | .flowMappingEnd => emitEmpty v.start
        | _ => node fuel false false
      | _ => emitEmpty u.start
      flowPairs fuel since false
    | _ =>
      node fuel false false
      emitEmpty (← peek).start
      flowPairs fuel since false

end

end Parser

end IssueGraph.Yaml
