import IssueGraph.Json.Shape.Basic
import IssueGraph.Json.Skip

/-!
# Shapes in JSON text

Text is read to the value that a shape gives it. What is of the wrong kind is noticed at its end if
it is a literal and before it if it is a bracket; what is missing is noticed after the closing
bracket.
-/
namespace IssueGraph.Json

variable {α σ τ : Type}

/-! ## Brackets -/

/-- Whether an item of a list is ahead; unless it is the first one, a comma comes before it. -/
def itemAhead (first : Bool) (i : Input) : Except Fault (Within i Bool) :=
  let j := i.skipBlanks
  have hj : j.length ≤ i.length := i.length_skipBlanks_le
  match h : j.next? with
  | none => j.faultAhead .endInList
  | some (c, k) =>
    have hk := Input.length_of_next? h
    if c == ']' then .ok ⟨false, j, hj⟩
    else if first then .ok ⟨true, j, hj⟩
    else if c == ',' then
      let m := k.skipBlanks
      match m.ahead with
      | [] => m.faultAhead .endInValue
      | ']' :: _ => m.faultAhead .trailingComma
      | _ => .ok ⟨true, m, by have : m.length ≤ k.length := k.length_skipBlanks_le; omega⟩
    else j.faultAhead .expectedListCommaOrEnd

/-- Pass over the end of a list. -/
def readListEnd : Reader Unit := fun i =>
  let j := i.skipBlanks
  have hj : j.length ≤ i.length := i.length_skipBlanks_le
  match h : j.next? with
  | none => j.faultAhead .endInList
  | some (']', k) => .ok ⟨(), k, by have := Input.length_of_next? h; omega⟩
  | some (',', k) =>
    let m := k.skipBlanks
    m.faultAhead (if m.ahead.head? == some ']' then .trailingComma else .trailingCharacters)
  | some _ => j.faultAhead .trailingCharacters

/-- Whether a key of an object is ahead; unless it is the first one, a comma comes before it. -/
def keyAhead (first : Bool) (i : Input) : Except Fault (Within i Bool) :=
  let j := i.skipBlanks
  have hj : j.length ≤ i.length := i.length_skipBlanks_le
  match h : j.next? with
  | none => j.faultAhead .endInObject
  | some (c, k) =>
    have hk := Input.length_of_next? h
    if c == '}' then .ok ⟨false, j, hj⟩
    else if first then
      if c == '"' then .ok ⟨true, j, hj⟩ else j.faultAhead .keyNotString
    else if c == ',' then
      let m := k.skipBlanks
      match m.ahead with
      | [] => m.faultAhead .endInValue
      | '"' :: _ => .ok ⟨true, m, by have : m.length ≤ k.length := k.length_skipBlanks_le; omega⟩
      | '}' :: _ => m.faultAhead .trailingComma
      | _ => m.faultAhead .keyNotString
    else j.faultAhead .expectedObjectCommaOrEnd

/-- Past blanks and a closing bracket, if one is ahead. -/
def Input.pastClosing (i : Input) (closing : Char) : Input :=
  let j := i.skipBlanks
  if j.ahead.head? == some closing then j.drop 1 else j

theorem Input.length_pastClosing_le (i : Input) (closing : Char) :
    (i.pastClosing closing).length ≤ i.length := by
  have := i.length_skipBlanks_le
  have := i.skipBlanks.length_drop 1
  dsimp only [Input.pastClosing]
  split <;> omega

/-- The items up to the closing bracket, with those before them in reverse, as a step from an input
further back. -/
def readItems (start : Input) (item : Reader α) (before : List α) (i : Input)
    (h : i.length < start.length) : Except Fault (Step start (List α)) := do
  let w ← itemAhead before.isEmpty i
  if w.value then
    let s ← item w.rest
    readItems start item (s.value :: before) s.rest (by
      have := w.bound; have := s.shorter; omega)
  else
    let s ← readListEnd w.rest
    return ⟨before.reverse, s.rest, by have := w.bound; have := s.shorter; omega⟩
termination_by i.length
decreasing_by have := w.bound; have := s.shorter; omega

/-- The members up to the closing brace, as a step from an input further back. What is read of them
is kept in `slots`; `member` says how to go on after a key. -/
def readMembers (start : Input) (member : String → σ → Except Cause (Reader σ)) (first : Bool)
    (slots : σ) (i : Input) (h : i.length < start.length) : Except Fault (Step start σ) := do
  let w ← keyAhead first i
  if w.value then
    let key ← readString w.rest
    match member key.value slots with
    | .error cause => (key.rest.pastClosing '}').fault cause
    | .ok value => do
      let colon ← readColon key.rest
      let s ← value colon.rest
      readMembers start member false s.value s.rest (by
        have := w.bound
        have := key.shorter
        have := colon.shorter
        have := s.shorter
        omega)
  else
    return ⟨slots, w.rest.pastClosing '}', by
      have := w.bound; have := w.rest.length_pastClosing_le '}'; omega⟩
termination_by i.length
decreasing_by
  have := w.bound
  have := key.shorter
  have := colon.shorter
  have := s.shorter
  omega

/-- Read what follows an opening bracket that is ahead. -/
def afterBracket (r : (start i : Input) → i.length < start.length → Except Fault (Step start α)) :
    Reader α := fun i =>
  match h : i.next? with
  | none => i.fault .endInValue
  | some (_, j) => r i j (Input.length_lt_of_next? h)

/-! ## Values -/

/-- Take what a reader yields only if it passes a check. -/
def Reader.check (f : σ → Except Cause τ) (r : Reader σ) : Reader τ := fun i => do
  let s ← r i
  match f s.value with
  | .ok a => return s.map fun _ => a
  | .error cause => s.rest.fault cause

/-- What is ahead is not of the wanted kind. -/
def wrongKindAhead (expected : String) (c : Char) : Reader α := fun i =>
  match c with
  | 'n' => do
    let s ← Reader.word "ull" () i
    s.rest.fault (.invalidType .null expected)
  | 't' => do
    let s ← Reader.word "rue" () i
    s.rest.fault (.invalidType (.bool true) expected)
  | 'f' => do
    let s ← Reader.word "alse" () i
    s.rest.fault (.invalidType (.bool false) expected)
  | '"' => do
    let s ← readString i
    s.rest.fault (.invalidType (.str s.value) expected)
  | '[' => i.fault (.invalidType .sequence expected)
  | '{' => i.fault (.invalidType .map expected)
  | c =>
    if c == '-' || c.isDigit then do
      let s ← readNumber i
      s.rest.fault (.invalidType s.value.found expected)
    else i.faultAhead .expectedValue

/-- A number, which `convert` has to take. -/
def readNumberAs (expected : String) (convert : Number → Except Cause α) : Reader α :=
  Reader.atValue fun c =>
    if c == '-' || c.isDigit then Reader.check convert readNumber else wrongKindAhead expected c

/-- A string, called `expected` in messages. -/
def readStringAs (expected : String) : Reader String :=
  Reader.atValue fun c => if c == '"' then readString else wrongKindAhead expected c

/-- One of some words. -/
def readWordOf (expected : String) (options : List (String × α)) : Reader α :=
  Reader.check (optionOf options) (readStringAs expected)

/-- Pass over null. -/
def readNull : Reader Unit :=
  Reader.atValue fun c => if c == 'n' then Reader.word "ull" () else wrongKindAhead "unit" c

/-- One of some words as the only key of an object, after the opening brace. -/
def readTag (options : List (String × α)) : Reader α := fun i =>
  let j := i.skipBlanks
  match j.ahead with
  | [] => j.faultAhead .endInObject
  | '"' :: _ => readWordOf "variant identifier" options i
  | '}' :: _ => j.faultAhead .expectedValue
  | _ => j.faultAhead .keyNotString

/-- An object that maps one of some words to null, after its opening brace. -/
def readTagged (options : List (String × α)) (start i : Input) (h : i.length < start.length) :
    Except Fault (Step start α) := do
  let key ← readTag options i
  let colon ← readColon key.rest
  let null ← readNull colon.rest
  let j := null.rest.skipBlanks
  have hj : j.length ≤ null.rest.length := null.rest.length_skipBlanks_le
  match j.ahead with
  | [] => j.fault .endInObject
  | '}' :: _ => return ⟨key.value, j.drop 1, by
      have := key.shorter
      have := colon.shorter
      have := null.shorter
      have := j.length_drop 1
      omega⟩
  | _ => j.fault .expectedValue

/-- Two items, after the opening bracket. -/
def readPair {β : Type} (first : Reader α) (second : Reader β) (start i : Input)
    (h : i.length < start.length) : Except Fault (Step start (α × β)) := do
  let v ← itemAhead true i
  if v.value then
    let a ← first v.rest
    let w ← itemAhead false a.rest
    if w.value then
      let b ← second w.rest
      let s ← readListEnd b.rest
      return ⟨(a.value, b.value), s.rest, by
        have := v.bound
        have := w.bound
        have := a.shorter
        have := b.shorter
        have := s.shorter
        omega⟩
    else (w.rest.pastClosing ']').fault (.invalidLength 1 "a tuple of size 2")
  else (v.rest.pastClosing ']').fault (.invalidLength 0 "a tuple of size 2")

/-- A whole number from zero to below `limit`. -/
def countOf (limit : Nat) (name : String) : Number → Except Cause Nat
  | .int i =>
    if 0 ≤ i && i < limit then .ok i.toNat else .error (.invalidValue (.int i) name)
  | .float x => .error (.invalidType (.float x) name)

/-- The double nearest to a number. -/
def realOf : Number → Except Cause Float
  | .int i => .ok (signed (i < 0) (Binary64.ofRatio i.natAbs 1))
  | .float x => .ok x

mutual

/-- Read the text of a value. -/
def Shape.read : {α : Type} → Shape α → Reader α
  | _, .text => readStringAs "a string"
  | _, .flag => Reader.atValue fun c =>
    if c == 't' then Reader.word "rue" true
    else if c == 'f' then Reader.word "alse" false
    else wrongKindAhead "a boolean" c
  | _, .count limit name => readNumberAs name (countOf limit name)
  | _, .real => readNumberAs "f64" realOf
  | _, .optional s => Reader.atValue fun c =>
    if c == 'n' then Reader.word "ull" none else Reader.map some s.read
  | _, .list s => Reader.atValue fun c =>
    if c == '[' then afterBracket fun start i h => readItems start s.read [] i h
    else wrongKindAhead "a sequence" c
  | _, .table s => Reader.atValue fun c =>
    if c == '{' then
      Reader.map List.reverse (afterBracket fun start i h =>
        readMembers start (fun key before => .ok (Reader.map (fun a => (key, a) :: before) s.read))
          true [] i h)
    else wrongKindAhead "a map" c
  | _, .pair s t => Reader.atValue fun c =>
    if c == '[' then afterBracket (readPair s.read t.read)
    else wrongKindAhead "a tuple of size 2" c
  | _, .choice options => Reader.atValue fun c =>
    if c == '"' then readWordOf "variant identifier" options
    else if c == '{' then afterBracket (readTagged options)
    else fun i => i.faultAhead .expectedValue
  | _, .record name fields => Reader.atValue fun c =>
    if c == '[' then
      afterBracket fun start i h => do
        let w ← fields.readItems (Shape.recordLength name fields.count) 0 i
        let s ← readListEnd w.rest
        return ⟨w.value, s.rest, by have := w.bound; have := s.shorter; omega⟩
    else if c == '{' then
      Reader.check fields.complete (afterBracket fun start i h =>
        readMembers start fields.readMember true fields.none i h)
    else wrongKindAhead (Shape.recordName name) c
  | _, .image f s => Reader.map f s.read

/-- The fields of a record written as a list, of which `index` have been read. -/
def Fields.readItems : {σ τ : Type} → Fields σ τ → (expected : String) → (index : Nat) →
    (i : Input) → Except Fault (Within i τ)
  | _, _, .nil, _, _, i => .ok ⟨(), i, Nat.le_refl _⟩
  | _, _, .cons _ absent s rest, expected, index, i => do
    let w ← itemAhead (index == 0) i
    let a ← if w.value then do
        let a ← s.read w.rest
        pure (⟨a.value, a.rest, Nat.le_of_lt a.shorter⟩ : Within w.rest _)
      else match absent.inArray? with
        | some a => pure ⟨a, w.rest, Nat.le_refl _⟩
        | none => (w.rest.pastClosing ']').fault (.invalidLength index expected)
    let r ← rest.readItems expected (index + 1) a.rest
    return ⟨(a.value, r.value), r.rest, by
      have := w.bound; have := a.bound; have := r.bound; omega⟩

/-- How to go on after a key: read the field of its name, or pass over a value of another name. -/
def Fields.readMember : {σ τ : Type} → Fields σ τ → String → σ → Except Cause (Reader σ)
  | _, _, .nil, _, slots => .ok (Reader.map (fun _ => slots) skipValue)
  | _, _, .cons name _ s rest, key, (a, slots) =>
    if key == name then
      if a.isSome then .error (.duplicateField name)
      else .ok (Reader.map (fun a => (some a, slots)) s.read)
    else (rest.readMember key slots).map (Reader.map fun slots => (a, slots))

end

/-- The value that a text stands for. -/
def Shape.readText (s : Shape α) (text : String) : Except Fault α := Json.readText s.read text

end IssueGraph.Json
