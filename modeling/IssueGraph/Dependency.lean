import IssueGraph.SortedSet

/-!
# Dependencies between issues

A dependency says that one issue needs another. Its type is one of ten known tags or a tag of the
user's own; the first four known tags block work. Main statements: `DependencyType.ofTag_tag`,
`DependencyType.tag_ofTag` and `DependencyType.tag_injective`, by which a type is the same thing as
its tag.
-/
namespace IssueGraph

/-- The identifier of an issue is free text. -/
abbrev IssueId := String

/-- The dependency tags with a meaning of their own, blocking ones first. -/
inductive KnownType where
  | blocks
  | parentChild
  | conditionalBlocks
  | waitsFor
  | related
  | discoveredFrom
  | repliesTo
  | relatesTo
  | duplicates
  | supersedes
  deriving DecidableEq, Repr, Inhabited

namespace KnownType

/-- The written form. -/
def tag : KnownType → String
  | blocks => "blocks"
  | parentChild => "parent-child"
  | conditionalBlocks => "conditional-blocks"
  | waitsFor => "waits-for"
  | related => "related"
  | discoveredFrom => "discovered-from"
  | repliesTo => "replies-to"
  | relatesTo => "relates-to"
  | duplicates => "duplicates"
  | supersedes => "supersedes"

/-- Every known type, in the order in which types are sorted. -/
def all : List KnownType :=
  [blocks, parentChild, conditionalBlocks, waitsFor, related, discoveredFrom, repliesTo, relatesTo,
    duplicates, supersedes]

/-- The place in `all`. -/
def rank : KnownType → Nat
  | blocks => 0
  | parentChild => 1
  | conditionalBlocks => 2
  | waitsFor => 3
  | related => 4
  | discoveredFrom => 5
  | repliesTo => 6
  | relatesTo => 7
  | duplicates => 8
  | supersedes => 9

/-- Blocking types hold their dependent back and count toward blocked totals. -/
def isBlocking : KnownType → Bool
  | blocks | parentChild | conditionalBlocks | waitsFor => true
  | _ => false

/-- The known type written as `tag`, if there is one. -/
def ofTag? (tag : String) : Option KnownType := all.find? (fun k => k.tag == tag)

theorem ofTag?_tag (k : KnownType) : ofTag? k.tag = some k := by cases k <;> decide

theorem tag_of_ofTag? {t : String} {k : KnownType} (h : ofTag? t = some k) : k.tag = t := by
  simpa using List.find?_some h

end KnownType

/-- A known type, or a tag outside the known ones, which never blocks. -/
inductive DependencyType where
  | known (k : KnownType)
  | custom (tag : String) (unknown : KnownType.ofTag? tag = none)
  deriving DecidableEq, Repr

namespace DependencyType

instance : Inhabited DependencyType := ⟨known default⟩

/-- The written form. -/
def tag : DependencyType → String
  | known k => k.tag
  | custom t _ => t

/-- Read a tag: the known type written so, else a custom type. -/
def ofTag (tag : String) : DependencyType :=
  match h : KnownType.ofTag? tag with
  | some k => known k
  | none => custom tag h

def isBlocking : DependencyType → Bool
  | known k => k.isBlocking
  | custom _ _ => false

def isCustom : DependencyType → Bool
  | known _ => false
  | custom _ _ => true

/-- Known types come first, in the order of `KnownType.all`. -/
def rank : DependencyType → Nat
  | known k => k.rank
  | custom _ _ => KnownType.all.length

/-- The types that block. -/
def blockingTypes : List DependencyType := (KnownType.all.filter KnownType.isBlocking).map known

theorem tag_ofTag (t : String) : (ofTag t).tag = t := by
  unfold ofTag
  split
  · next k h => exact KnownType.tag_of_ofTag? h
  · rfl

theorem ofTag_tag (d : DependencyType) : ofTag d.tag = d := by
  cases d with
  | known k =>
    have h := KnownType.ofTag?_tag k
    unfold ofTag tag
    split
    · next l hl => rw [h] at hl; cases hl; rfl
    · next hl => rw [h] at hl; cases hl
  | custom t ht =>
    unfold ofTag tag
    split
    · next l hl => simp_all
    · rfl

theorem tag_injective {d e : DependencyType} (h : d.tag = e.tag) : d = e := by
  rw [← ofTag_tag d, h, ofTag_tag]

theorem isBlocking_iff_mem (d : DependencyType) : d.isBlocking = true ↔ d ∈ blockingTypes := by
  cases d with
  | known k => cases k <;> decide
  | custom t h => simp [isBlocking, blockingTypes]

instance : Ord DependencyType := ⟨compareLex (compareOn rank) (compareOn tag)⟩

theorem compare_eq (d e : DependencyType) :
    compare d e = (compare d.rank e.rank).then (compare d.tag e.tag) := rfl

instance : Std.TransOrd DependencyType :=
  inferInstanceAs (Std.TransCmp (compareLex (compareOn rank) (compareOn tag)))

instance : Std.LawfulEqOrd DependencyType where
  compare_self := Std.ReflCmp.compare_self
  eq_of_compare {d e} h := by
    rw [compare_eq, Ordering.then_eq_eq] at h
    exact tag_injective (Std.LawfulEqCmp.eq_of_compare h.2)

end DependencyType

/-- The issue `issueId` needs the issue `dependsOnId`. -/
structure Dependency where
  issueId : IssueId
  dependsOnId : IssueId
  type : DependencyType
  deriving DecidableEq, Repr, Inhabited

end IssueGraph
