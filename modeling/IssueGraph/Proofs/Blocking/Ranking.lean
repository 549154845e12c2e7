import IssueGraph.Proofs.Blocking.Chain

/-!
# Blocked counts along blocking

Whatever waits for an issue waits for everything that blocks this issue too. With the issue itself
put in, the sets that are counted are nested along blocking, and two of them have the same size only
if they are the same, which means that their issues block each other. Counting the start or leaving
it out makes no difference to the comparison, as every set loses exactly one member.
-/
namespace IssueGraph

variable {edges : List Edge} {x y z : IssueId}

/-- The chain of `x`, followed to its end, holds `y` among the issues that `x` blocks. -/
def BlocksThrough (edges : List Edge) (x y : IssueId) : Prop :=
  ∃ depth, (Chain.ofEdges edges x depth).truncated = false ∧
    y ∈ (Chain.ofEdges edges x depth).blockedBy

theorem finite_onBlockingEdge (edges : List Edge) : {x | OnBlockingEdge edges x}.Finite := by
  refine (List.finite_toSet (endpoints (blockingPairs edges))).subset ?_
  rintro x ⟨y, h | h⟩
  · exact mem_endpoints.mpr ⟨(x, y), mem_blockingPairs.mpr h, .inl rfl⟩
  · exact mem_endpoints.mpr ⟨(y, x), mem_blockingPairs.mpr h, .inr rfl⟩

/-- Every chain comes to its end. -/
theorem Chain.exists_not_truncated (edges : List Edge) (x : IssueId) :
    ∃ depth, (ofEdges edges x depth).truncated = false := by
  obtain ⟨n, hn⟩ := (finite_onBlockingEdge edges).exists_encard_eq_coe
  refine ⟨n, not_truncated_of_encard_le ?_⟩
  rw [hn]
  exact Nat.cast_le.mpr (Nat.le_succ n)

theorem blocksThrough_iff :
    BlocksThrough edges x y ↔ y ∈ othersReaching (WaitsFor edges) x := by
  constructor
  · rintro ⟨depth, hcut, hy⟩
    exact (Chain.mem_blockedBy_of_not_truncated hcut).mp hy
  · intro hy
    obtain ⟨depth, hcut⟩ := Chain.exists_not_truncated edges x
    exact ⟨depth, hcut, (Chain.mem_blockedBy_of_not_truncated hcut).mpr hy⟩

/-- Any depth that is enough tells whether one issue blocks another. -/
theorem blocksThrough_iff_of_not_truncated {depth : Nat}
    (hcut : (Chain.ofEdges edges x depth).truncated = false) :
    BlocksThrough edges x y ↔ y ∈ (Chain.ofEdges edges x depth).blockedBy := by
  rw [blocksThrough_iff, Chain.mem_blockedBy_of_not_truncated hcut]

/-- The issue and everything that waits for it. -/
def waitingWith (edges : List Edge) (x : IssueId) : Set IssueId :=
  {y | Relation.ReflTransGen (WaitsFor edges) y x}

theorem insert_blocksThrough :
    insert x {y | BlocksThrough edges x y} = waitingWith edges x := by
  ext y
  change (y = x ∨ BlocksThrough edges x y) ↔ Relation.ReflTransGen (WaitsFor edges) y x
  rw [blocksThrough_iff, Relation.reflTransGen_iff_eq_or_transGen]
  by_cases hyx : y = x
  · exact iff_of_true (.inl hyx) (.inl hyx.symm)
  · exact or_congr eq_comm (and_iff_right hyx)

theorem encard_waitingWith :
    (waitingWith edges x).encard = ((blockedCount (blockingPairs edges) x + 1 : Nat) : ℕ∞) := by
  have hset : {y | BlocksThrough edges x y} = othersReaching (WaitsFor edges) x := by
    ext y
    exact blocksThrough_iff
  have hnot : x ∉ othersReaching (WaitsFor edges) x := fun h => h.1 rfl
  rw [← insert_blocksThrough, hset, Set.encard_insert_of_notMem hnot, ← blockedCount_eq_encard]
  rfl

theorem finite_waitingWith (edges : List Edge) (x : IssueId) : (waitingWith edges x).Finite :=
  Set.finite_of_encard_eq_coe encard_waitingWith

section Nested

variable (h : BlocksThrough edges x y)
include h

theorem waitingWith_subset : waitingWith edges y ⊆ waitingWith edges x := by
  intro z hz
  have hyx := (blocksThrough_iff.mp h).2
  exact Relation.ReflTransGen.trans hz hyx.to_reflTransGen

theorem blockedCount_le :
    blockedCount (blockingPairs edges) y ≤ blockedCount (blockingPairs edges) x := by
  have hle := Set.encard_le_encard (waitingWith_subset h)
  rw [encard_waitingWith, encard_waitingWith, Nat.cast_le] at hle
  omega

theorem waitingWith_eq_of_mutual (hback : BlocksThrough edges y x) :
    waitingWith edges x = waitingWith edges y :=
  Set.Subset.antisymm (waitingWith_subset hback) (waitingWith_subset h)

/-- Issues of which one blocks the other have equal counts exactly when they block each other. -/
theorem blockedCount_eq_iff :
    blockedCount (blockingPairs edges) y = blockedCount (blockingPairs edges) x ↔
      BlocksThrough edges y x := by
  constructor
  · intro hcount
    have hle : (waitingWith edges x).encard ≤ (waitingWith edges y).encard := by
      rw [encard_waitingWith, encard_waitingWith, hcount]
    have heq : waitingWith edges y = waitingWith edges x :=
      (finite_waitingWith edges y).eq_of_subset_of_encard_le (waitingWith_subset h) hle
    have hx : x ∈ waitingWith edges y := by
      rw [heq]
      exact Relation.ReflTransGen.refl
    have hne : y ≠ x := (blocksThrough_iff.mp h).1
    have hxy := (Relation.reflTransGen_iff_eq_or_transGen.mp hx).resolve_left hne
    exact blocksThrough_iff.mpr ⟨hne.symm, hxy⟩
  · intro hback
    have hxy := blockedCount_le hback
    have hyx := blockedCount_le h
    omega

theorem blockedCount_lt (hback : ¬ BlocksThrough edges y x) :
    blockedCount (blockingPairs edges) y < blockedCount (blockingPairs edges) x :=
  lt_of_le_of_ne (blockedCount_le h) fun hcount => hback ((blockedCount_eq_iff h).mp hcount)

end Nested

end IssueGraph
