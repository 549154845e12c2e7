import IssueGraph.Json.Cause

/-!
# Shapes of JSON values

A shape says what a JSON value has to look like and which value of a Lean type it stands for.
Records are written as objects or as arrays of their fields in order. A shape can be read from text,
where faults have places, and from a JSON value.
-/
namespace IssueGraph.Json

/-- What stands for a field that is not given. -/
inductive Absent (α : Type) where
  /-- The field has to be given. -/
  | refused
  /-- The field has this value, in objects and at the end of arrays. -/
  | byDefault (value : α)
  /-- The field has this value in objects; arrays have to give it. -/
  | inObjects (value : α)

namespace Absent

variable {α : Type}

/-- The value of a field that an object does not give. -/
def inObject? : Absent α → Option α
  | refused => none
  | byDefault a => some a
  | inObjects a => some a

/-- The value of a field that an array does not reach. -/
def inArray? : Absent α → Option α
  | byDefault a => some a
  | _ => none

end Absent

mutual

/-- The JSON values that stand for values of a type. -/
inductive Shape : Type → Type 1 where
  | text : Shape String
  | flag : Shape Bool
  /-- A whole number from zero to below `limit`. -/
  | count (limit : Nat) (name : String) : Shape Nat
  | real : Shape Float
  /-- Null, or a value of another shape. -/
  | optional {α : Type} (shape : Shape α) : Shape (Option α)
  | list {α : Type} (shape : Shape α) : Shape (List α)
  /-- An object with any keys. -/
  | table {α : Type} (shape : Shape α) : Shape (List (String × α))
  /-- An array of two values. -/
  | pair {α β : Type} (first : Shape α) (second : Shape β) : Shape (α × β)
  /-- One of some words, or an object that maps the word to null. -/
  | choice {α : Type} (options : List (String × α)) : Shape α
  | record {σ τ : Type} (name : String) (fields : Fields σ τ) : Shape τ
  | image {α β : Type} (f : α → β) (shape : Shape α) : Shape β

/-- The fields of a record: `σ` holds those read so far, `τ` holds them all. -/
inductive Fields : Type → Type → Type 1 where
  | nil : Fields Unit Unit
  | cons {α σ τ : Type} (name : String) (absent : Absent α) (shape : Shape α)
      (rest : Fields σ τ) : Fields (Option α × σ) (α × τ)

end

namespace Fields

/-- No field has been read. -/
def none : {σ τ : Type} → Fields σ τ → σ
  | _, _, nil => ()
  | _, _, cons _ _ _ rest => (.none, rest.none)

/-- The number of fields. -/
def count : {σ τ : Type} → Fields σ τ → Nat
  | _, _, nil => 0
  | _, _, cons _ _ _ rest => rest.count + 1

/-- All fields, with values for those that an object does not give; else the first one missing. -/
def complete : {σ τ : Type} → Fields σ τ → σ → Except Cause τ
  | _, _, nil, () => .ok ()
  | _, _, cons name absent _ rest, (a, slots) => do
    let a ← match a.or absent.inObject? with
      | some a => pure a
      | .none => .error (.missingField name)
    return (a, ← rest.complete slots)

end Fields

namespace Shape

/-- How a record is called in messages about its kind. -/
def recordName (name : String) : String := "struct " ++ name

/-- How a record is called in messages about its length. -/
def recordLength (name : String) (count : Nat) : String :=
  "struct " ++ name ++ " with " ++ toString count ++ (if count = 1 then " element" else " elements")

end Shape

/-- The value that a word stands for among some words. -/
def optionOf {α : Type} (options : List (String × α)) (name : String) : Except Cause α :=
  match options.lookup name with
  | some a => .ok a
  | none => .error (.unknownVariant name (options.map (·.1)))

end IssueGraph.Json
