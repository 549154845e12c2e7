import IssueGraph.Proofs.Blocking.Walk

/-!
# Blocking chains

The sets of a chain are the two balls around an issue whose radius is the depth, without the issue
itself, and the chain is truncated exactly when one of the balls would grow at a larger depth. Up to
truncation a chain therefore agrees with the unlimited blocked count. Main statements:
`Chain.exact_within_depth` and `blockedCounts_agree_with_chains`.
-/
namespace IssueGraph

variable {edges : List Edge} {id : IssueId} {depth : Nat}

namespace Chain

/-- Truncation means that one more hop would add an issue on one side. -/
theorem truncated_iff_grows : (ofEdges edges id depth).truncated = true ↔ ∃ y,
    (y ∈ (ofEdges edges id (depth + 1)).blockers ∧ ¬ y ∈ (ofEdges edges id depth).blockers) ∨
    (y ∈ (ofEdges edges id (depth + 1)).blockedBy ∧ ¬ y ∈ (ofEdges edges id depth).blockedBy) := by
  simp only [exists_or, mem_blockers, mem_blockedBy, truncated_iff_or]
  refine or_congr exists_distance_gt_iff_grows ?_
  simp only [← distance_flip (r := WaitsFor edges)]
  exact exists_distance_gt_iff_grows

/-- An id on no blocking edge is at a distance from nothing but itself. -/
theorem eq_of_not_onBlockingEdge (hid : ¬ OnBlockingEdge edges id) {y : IssueId} {n : Nat}
    (h : Distance (WaitsFor edges) {id} n y ∨ Distance (WaitsFor edges) {y} n id) :
    n = 0 ∧ y = id := by
  cases n with
  | zero =>
    refine ⟨rfl, ?_⟩
    rcases h with h | h
    · exact distance_zero_iff.mp h
    · exact (distance_zero_iff.mp h).symm
  | succ n =>
    rcases h with h | h
    · obtain ⟨a, rfl, hops⟩ := h.reached
      obtain ⟨b, hb⟩ := hops.exists_first
      exact absurd ⟨b, .inl hb⟩ hid
    · obtain ⟨b, -, hb⟩ := h.exists_last
      exact absurd ⟨b, .inr hb⟩ hid

theorem ofEdges_of_not_onBlockingEdge (hid : ¬ OnBlockingEdge edges id) :
    ofEdges edges id depth =
      { blockers := .empty, blockedBy := .empty, blockedCount := 0, truncated := false } := by
  have hup : (ofEdges edges id depth).blockers = .empty := by
    refine SortedSet.ext fun y => ?_
    simp only [mem_blockers, SortedSet.not_mem_empty, iff_false]
    rintro ⟨hne, n, -, h⟩
    exact hne (eq_of_not_onBlockingEdge hid (.inl h)).2
  have hdown : (ofEdges edges id depth).blockedBy = .empty := by
    refine SortedSet.ext fun y => ?_
    simp only [mem_blockedBy, SortedSet.not_mem_empty, iff_false]
    rintro ⟨hne, n, -, h⟩
    exact hne (eq_of_not_onBlockingEdge hid (.inr h)).2
  have hcut : (ofEdges edges id depth).truncated = false := by
    rw [← Bool.not_eq_true, truncated_iff]
    rintro ⟨y, n, hn, h⟩
    have := (eq_of_not_onBlockingEdge hid h).1
    omega
  refine Chain.ext hup hdown ?_ hcut
  rw [blockedCount_eq_size, hdown]
  rfl

/-- The chain of an issue holds exactly the other issues at a distance up to the depth, upstream and
downstream, and is truncated exactly when an issue lies farther away on one side. -/
theorem exact_within_depth (edges : List Edge) (id : IssueId) (depth : Nat) :
    (∀ y, y ∈ (ofEdges edges id depth).blockers ↔
      y ≠ id ∧ ∃ n, 1 ≤ n ∧ n ≤ depth ∧ Distance (WaitsFor edges) {id} n y) ∧
    (∀ y, y ∈ (ofEdges edges id depth).blockedBy ↔
      y ≠ id ∧ ∃ n, 1 ≤ n ∧ n ≤ depth ∧ Distance (WaitsFor edges) {y} n id) ∧
    (ofEdges edges id depth).blockedCount = (ofEdges edges id depth).blockedBy.size ∧
    ((ofEdges edges id depth).truncated = true ↔ ∃ y n, depth < n ∧
      (Distance (WaitsFor edges) {id} n y ∨ Distance (WaitsFor edges) {y} n id)) ∧
    ((ofEdges edges id depth).truncated = true ↔ ∃ y,
      (y ∈ (ofEdges edges id (depth + 1)).blockers ∧ ¬ y ∈ (ofEdges edges id depth).blockers) ∨
      (y ∈ (ofEdges edges id (depth + 1)).blockedBy ∧
        ¬ y ∈ (ofEdges edges id depth).blockedBy)) ∧
    (¬ OnBlockingEdge edges id → ofEdges edges id depth =
      { blockers := .empty, blockedBy := .empty, blockedCount := 0, truncated := false }) := by
  refine ⟨?_, ?_, blockedCount_eq_size, truncated_iff, truncated_iff_grows,
    ofEdges_of_not_onBlockingEdge⟩
  · intro y
    rw [mem_blockers]
    exact and_congr_right fun hne => exists_distance_between_iff hne
  · intro y
    rw [mem_blockedBy]
    exact and_congr_right fun hne => exists_distance_between_iff hne.symm

/-- Three issues that block each other in a circle, and a fourth one that is only related. -/
def ringEdges : List Edge :=
  [⟨"a", "b", .known .blocks⟩, ⟨"b", "c", .known .waitsFor⟩, ⟨"c", "a", .known .parentChild⟩,
    ⟨"d", "a", .known .related⟩].map Edge.ofDependency

theorem waitsFor_ringEdges {x y : IssueId} : WaitsFor ringEdges x y ↔
    (x, y) = ("a", "b") ∨ (x, y) = ("b", "c") ∨ (x, y) = ("c", "a") := by
  have hpairs : blockingPairs ringEdges = [("a", "b"), ("b", "c"), ("c", "a")] := by decide
  rw [← mem_blockingPairs, hpairs]
  simp

theorem exact_within_depth_off_ring :
    ¬ OnBlockingEdge ringEdges "d" ∧ ofEdges ringEdges "d" 1 =
      { blockers := .empty, blockedBy := .empty, blockedCount := 0, truncated := false } := by
  have hoff : ¬ OnBlockingEdge ringEdges "d" := by
    rintro ⟨y, h | h⟩
    · simp [waitsFor_ringEdges] at h
    · simp [waitsFor_ringEdges] at h
  exact ⟨hoff, (exact_within_depth ringEdges "d" 1).2.2.2.2.2 hoff⟩

/-- Without truncation nothing lies beyond the depth. -/
theorem le_depth_of_not_truncated (hcut : (ofEdges edges id depth).truncated = false) {y : IssueId}
    {n : Nat} (h : Distance (WaitsFor edges) {id} n y ∨ Distance (WaitsFor edges) {y} n id) :
    n ≤ depth := by
  by_contra hlt
  rw [← Bool.not_eq_true, truncated_iff] at hcut
  exact hcut ⟨y, n, Nat.lt_of_not_le hlt, h⟩

/-- A bound on something that stays within a smaller bound may be lowered. -/
theorem exists_le_iff_of_le {p : Nat → Prop} (hp : ∀ n, p n → n ≤ depth) {depth' : Nat}
    (hle : depth ≤ depth') : (∃ n ≤ depth', p n) ↔ ∃ n ≤ depth, p n := by
  constructor
  · rintro ⟨n, -, h⟩
    exact ⟨n, hp n h, h⟩
  · rintro ⟨n, hn, h⟩
    exact ⟨n, hn.trans hle, h⟩

/-- An untruncated chain is the chain at every larger depth. -/
theorem ofEdges_eq_of_le (hcut : (ofEdges edges id depth).truncated = false) {depth' : Nat}
    (hle : depth ≤ depth') : ofEdges edges id depth' = ofEdges edges id depth := by
  apply ofEdges_eq_of_mem
  · intro y
    rw [mem_blockers, mem_blockers]
    refine and_congr_right fun _ => exists_le_iff_of_le ?_ hle
    exact fun n h => le_depth_of_not_truncated hcut (.inl h)
  · intro y
    rw [mem_blockedBy, mem_blockedBy]
    refine and_congr_right fun _ => exists_le_iff_of_le ?_ hle
    exact fun n h => le_depth_of_not_truncated hcut (.inr h)
  · rw [hcut, ← Bool.not_eq_true, truncated_iff]
    rintro ⟨y, n, hn, h⟩
    have := le_depth_of_not_truncated hcut h
    omega

theorem mem_blockers_of_le {depth' : Nat} (hle : depth ≤ depth') {y : IssueId}
    (hy : y ∈ (ofEdges edges id depth).blockers) : y ∈ (ofEdges edges id depth').blockers := by
  obtain ⟨hne, n, hn, h⟩ := mem_blockers.mp hy
  exact mem_blockers.mpr ⟨hne, n, hn.trans hle, h⟩

theorem mem_blockedBy_of_le {depth' : Nat} (hle : depth ≤ depth') {y : IssueId}
    (hy : y ∈ (ofEdges edges id depth).blockedBy) : y ∈ (ofEdges edges id depth').blockedBy := by
  obtain ⟨hne, n, hn, h⟩ := mem_blockedBy.mp hy
  exact mem_blockedBy.mpr ⟨hne, n, hn.trans hle, h⟩

/-- An untruncated chain holds everything that waits for the issue, however far away. -/
theorem mem_blockedBy_of_not_truncated (hcut : (ofEdges edges id depth).truncated = false)
    {y : IssueId} :
    y ∈ (ofEdges edges id depth).blockedBy ↔ y ∈ othersReaching (WaitsFor edges) id := by
  rw [mem_blockedBy, mem_othersReaching_iff_distance]
  refine and_congr_right fun _ => exists_congr fun n => and_iff_right_of_imp ?_
  exact fun h => le_depth_of_not_truncated hcut (.inr h)

theorem blockedCount_of_not_truncated (hcut : (ofEdges edges id depth).truncated = false) :
    (ofEdges edges id depth).blockedCount =
      IssueGraph.blockedCount (blockingPairs edges) id := by
  rw [← ENat.natCast_inj, blockedCount_eq_encard]
  refine (encard_eq_length nodup_reached_walk fun y => ?_).symm
  exact SortedSet.mem_ofList.symm.trans (mem_blockedBy_of_not_truncated hcut)

/-- A depth of one less than the number of ids on blocking edges is always enough. -/
theorem not_truncated_of_encard_le
    (h : {x | OnBlockingEdge edges x}.encard ≤ ((depth + 1 : Nat) : ℕ∞)) :
    (ofEdges edges id depth).truncated = false := by
  rw [← Bool.not_eq_true, truncated_iff]
  rintro ⟨y, n, hn, hy⟩
  have hcount : ((n + 1 : Nat) : ℕ∞) ≤ {x | OnBlockingEdge edges x}.encard := by
    rcases hy with hy | hy
    · exact hy.succ_le_encard_field (by omega)
    · exact hy.succ_le_encard_field (by omega)
  have := Nat.cast_le.mp (hcount.trans h)
  omega

end Chain

theorem find?_blockedCounts {ids : List IssueId} :
    (blockedCounts ids edges).find? id =
      if id ∈ ids then some (blockedCount (blockingPairs edges) id) else none :=
  SortedMap.find?_ofList_map _ _ _

/-- The unlimited count of an issue and its chains at all depths are about the same issues: an
untruncated chain has the same count and grows no more, a large enough depth truncates nothing, and
a larger depth loses nothing. -/
theorem blockedCounts_agree_with_chains (ids : List IssueId) (edges : List Edge) :
    (∀ id, ((blockedCounts ids edges).find? id).isSome = true ↔ id ∈ ids) ∧
    ∀ id ∈ ids, ∃ count : Nat,
      (blockedCounts ids edges).find? id = some count ∧
      (count : ℕ∞) = (othersReaching (WaitsFor edges) id).encard ∧
      (∀ d, (Chain.ofEdges edges id d).truncated = false →
        (Chain.ofEdges edges id d).blockedCount = count ∧
        ∀ d', d ≤ d' → Chain.ofEdges edges id d' = Chain.ofEdges edges id d) ∧
      (∀ d : Nat, {x | OnBlockingEdge edges x}.encard ≤ ((d + 1 : Nat) : ℕ∞) →
        (Chain.ofEdges edges id d).truncated = false) ∧
      ∀ d₁ d₂, d₁ ≤ d₂ →
        (∀ y, y ∈ (Chain.ofEdges edges id d₁).blockers →
          y ∈ (Chain.ofEdges edges id d₂).blockers) ∧
        ∀ y, y ∈ (Chain.ofEdges edges id d₁).blockedBy →
          y ∈ (Chain.ofEdges edges id d₂).blockedBy := by
  constructor
  · intro id
    rw [find?_blockedCounts]
    split <;> simp_all
  · intro id hid
    refine ⟨blockedCount (blockingPairs edges) id, ?_, blockedCount_eq_encard, ?_, ?_, ?_⟩
    · rw [find?_blockedCounts, if_pos hid]
    · intro d hcut
      exact ⟨Chain.blockedCount_of_not_truncated hcut,
        fun d' hle => Chain.ofEdges_eq_of_le hcut hle⟩
    · intro d h
      exact Chain.not_truncated_of_encard_le h
    · intro d₁ d₂ hle
      exact ⟨fun y hy => Chain.mem_blockers_of_le hle hy,
        fun y hy => Chain.mem_blockedBy_of_le hle hy⟩

theorem blockedCounts_agree_on_ring :
    "a" ∈ ["d", "a"] ∧ {x | OnBlockingEdge Chain.ringEdges x}.encard ≤ ((2 + 1 : Nat) : ℕ∞) ∧
    (blockedCounts ["d", "a"] Chain.ringEdges).find? "a" =
      some (Chain.ofEdges Chain.ringEdges "a" 2).blockedCount ∧
    Chain.ofEdges Chain.ringEdges "a" 7 = Chain.ofEdges Chain.ringEdges "a" 2 := by
  have hmem : "a" ∈ ["d", "a"] := by decide
  have hfield : {x | OnBlockingEdge Chain.ringEdges x}.encard ≤ ((2 + 1 : Nat) : ℕ∞) := by
    have hsub : {x | OnBlockingEdge Chain.ringEdges x} ⊆
        (({"a", "b", "c"} : Finset IssueId) : Set IssueId) := by
      rintro x ⟨y, h | h⟩
      · rcases Chain.waitsFor_ringEdges.mp h with h | h | h <;> cases h <;> simp
      · rcases Chain.waitsFor_ringEdges.mp h with h | h | h <;> cases h <;> simp
    refine (Set.encard_le_encard hsub).trans ?_
    rw [Set.encard_coe_eq_coe_finsetCard]
    exact Nat.cast_le.mpr (by decide)
  obtain ⟨count, hcount, -, hchain, hdeep, -⟩ :=
    (blockedCounts_agree_with_chains ["d", "a"] Chain.ringEdges).2 "a" hmem
  obtain ⟨heq, hgrow⟩ := hchain 2 (hdeep 2 hfield)
  exact ⟨hmem, hfield, by rw [hcount, heq], hgrow 7 (by decide)⟩

end IssueGraph
