import IssueGraph.Json.Shape.Basic

/-!
# Shapes of parsed values

A JSON value is fitted to a shape. The members of an object are visited in their order, so the first
member that does not fit is the one that is reported.
-/
namespace IssueGraph.Json

/-- The value is not of the wanted kind. -/
def wrongKind (j : Json) (expected : String) : Except Cause α :=
  .error (.invalidType (.of j) expected)

mutual

/-- The value that a JSON value stands for. -/
def Shape.fit : {α : Type} → Shape α → Json → Except Cause α
  | _, .text, j =>
    match j with
    | .str s => .ok s
    | j => wrongKind j "a string"
  | _, .flag, j =>
    match j with
    | .bool b => .ok b
    | j => wrongKind j "a boolean"
  | _, .count limit name, j =>
    match j with
    | .int i =>
      if 0 ≤ i && i < limit then .ok i.toNat else .error (.invalidValue (.int i) name)
    | j => wrongKind j name
  | _, .real, j =>
    match j with
    | .float x => .ok x
    | .int i => .ok (if i < 0 then -Binary64.ofRatio i.natAbs 1 else Binary64.ofRatio i.natAbs 1)
    | j => wrongKind j "f64"
  | _, .optional s, j =>
    match j with
    | .null => .ok none
    | j => (s.fit j).map some
  | _, .list s, j =>
    match j with
    | .arr items => items.mapM fun j => s.fit j
    | j => wrongKind j "a sequence"
  | _, .table s, j =>
    match j with
    | .obj members => members.mapM fun m => (s.fit m.2).map fun a => (m.1, a)
    | j => wrongKind j "a map"
  | _, .pair s t, j =>
    match j with
    | .arr [] => .error (.invalidLength 0 "a tuple of size 2")
    | .arr [a] => do
      let _ ← s.fit a
      .error (.invalidLength 1 "a tuple of size 2")
    | .arr (a :: b :: rest) => do
      let a ← s.fit a
      let b ← t.fit b
      if rest.isEmpty then return (a, b)
      else .error (.invalidLength (rest.length + 2) "fewer elements in array")
    | j => wrongKind j "a tuple of size 2"
  | _, .choice options, j =>
    match j with
    | .str name => optionOf options name
    | .obj [(name, j)] => do
      let a ← optionOf options name
      match j with
      | .null => return a
      | j => wrongKind j "unit"
    | .obj _ => .error (.invalidValue .map "map with a single key")
    | j => wrongKind j "string or map"
  | _, .record name fields, j =>
    match j with
    | .arr items => fields.fitItems (Shape.recordLength name fields.count) 0 items
    | .obj members => do
      let slots ← members.foldlM (fun slots m => fields.fitMember m.1 m.2 slots) fields.none
      fields.complete slots
    | j => wrongKind j (Shape.recordName name)
  | _, .image f s, j => (s.fit j).map f

/-- The fields of a record given as an array, of which `index` have been read. -/
def Fields.fitItems : {σ τ : Type} → Fields σ τ → (expected : String) → (index : Nat) →
    List Json → Except Cause τ
  | _, _, .nil, _, index, items =>
    if items.isEmpty then .ok ()
    else .error (.invalidLength (index + items.length) "fewer elements in array")
  | _, _, .cons _ absent s rest, expected, index, items => do
    let a ← match items.head? with
      | some j => s.fit j
      | none => match absent.inArray? with
        | some a => pure a
        | none => .error (.invalidLength index expected)
    return (a, ← rest.fitItems expected (index + 1) (items.drop 1))

/-- Fit one member of an object to the field of its name; a member of another name is ignored. -/
def Fields.fitMember : {σ τ : Type} → Fields σ τ → String → Json → σ → Except Cause σ
  | _, _, .nil, _, _, slots => .ok slots
  | _, _, .cons name _ s rest, key, j, (a, slots) =>
    if key == name then do
      if a.isSome then .error (.duplicateField name)
      return (some (← s.fit j), slots)
    else do return (a, ← rest.fitMember key j slots)

end

end IssueGraph.Json
