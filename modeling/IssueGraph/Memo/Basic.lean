/-!
# Memos

A memo keeps the results of the keys that were asked for last, up to its capacity, and counts which
requests it could answer. The entry that has not been asked for longest gives way to a new one.
-/
namespace IssueGraph

/-- How many requests were answered from a memo and how many were computed. -/
structure MemoStats where
  hits : Nat := 0
  misses : Nat := 0
  deriving DecidableEq, Repr, Inhabited

structure Memo (κ ν : Type) where
  capacity : Nat
  /-- The kept results, the one asked for last at the front. -/
  entries : List (κ × ν)
  stats : MemoStats
  capacity_pos : 0 < capacity
  length_le : entries.length ≤ capacity

/-- A result, and whether it had to be computed. -/
structure Served (ν : Type) where
  value : ν
  computed : Bool
  deriving DecidableEq, Repr

namespace Memo

variable {κ ν : Type}

/-- A memo that keeps nothing yet; it has room for one result at least. -/
def empty (capacity : Nat) : Memo κ ν where
  capacity := max 1 capacity
  entries := []
  stats := {}
  capacity_pos := by omega
  length_le := by simp

def size (m : Memo κ ν) : Nat := m.entries.length

def isEmpty (m : Memo κ ν) : Bool := m.entries.isEmpty

/-- Forget every result, but not the counts. -/
def clear (m : Memo κ ν) : Memo κ ν :=
  { m with entries := [], length_le := by simp }

variable [BEq κ]

/-- The result kept for a key. -/
def find? (m : Memo κ ν) (key : κ) : Option ν := m.entries.lookup key

/-- The entries with one for `key` at the front and nothing past the capacity. -/
def use (m : Memo κ ν) (key : κ) (value : ν) : List (κ × ν) :=
  ((key, value) :: m.entries.filter (!·.1 == key)).take m.capacity

theorem length_use_le (m : Memo κ ν) (key : κ) (value : ν) :
    (m.use key value).length ≤ m.capacity := by
  simp only [use, List.length_take]
  omega

/-- The result of a key, computed only if none is kept. -/
def get (m : Memo κ ν) (key : κ) (compute : Unit → ν) : Memo κ ν × Served ν :=
  match m.find? key with
  | some value =>
    ({ m with
        entries := m.use key value
        stats := { m.stats with hits := m.stats.hits + 1 }
        length_le := m.length_use_le key value },
      ⟨value, false⟩)
  | none =>
    let value := compute ()
    ({ m with
        entries := m.use key value
        stats := { m.stats with misses := m.stats.misses + 1 }
        length_le := m.length_use_le key value },
      ⟨value, true⟩)

end Memo

end IssueGraph
