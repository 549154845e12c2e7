import IssueGraph.Graph.Build
import IssueGraph.Proofs.Blocking.Walk

/-!
# Blocked counts of a built graph

The analysis sees the kept dependencies with a present target, whoever they name as the dependent.
Its ways therefore stay inside the collection but for their first step, and the blocked count of a
node is the number of issues that wait for it plus the number of missing ids that a record puts in
front of one of them.
-/
namespace IssueGraph.Graph

variable {issues : List Issue} {options : BuildOptions} {id x y : IssueId}

/-- A kept dependency blocks `x` by `y`, and both are issues of the collection. -/
def WaitsWithin (issues : List Issue) (options : BuildOptions) (x y : IssueId) : Prop :=
  ∃ d ∈ kept issues options, d.type.isBlocking = true ∧ d.issueId = x ∧ d.dependsOnId = y ∧
    isPresent issues x = true ∧ isPresent issues y = true

/-- The missing ids that a kept dependency blocks by `id`, or by an issue that waits for `id`. -/
def missingDependents (issues : List Issue) (options : BuildOptions) (id : IssueId) :
    Set IssueId :=
  {x | isPresent issues x = false ∧ ∃ d ∈ kept issues options, d.type.isBlocking = true ∧
    d.issueId = x ∧ (d.dependsOnId = id ∨
      d.dependsOnId ∈ othersReaching (WaitsWithin issues options) id)}

/-- The edges that the analysis sees. -/
def analysedEdges (issues : List Issue) (options : BuildOptions) : List Edge :=
  ((kept issues options).filter (isPresent issues ·.dependsOnId)).map Edge.ofDependency

theorem isPresent_iff : isPresent issues id = true ↔ id ∈ issues.map (·.id) := by
  simp [isPresent]

theorem waitsFor_analysedEdges : WaitsFor (analysedEdges issues options) x y ↔
    isPresent issues y = true ∧
      ∃ d ∈ kept issues options, d.type.isBlocking = true ∧ d.issueId = x ∧ d.dependsOnId = y := by
  rw [analysedEdges, waitsFor_map_ofDependency]
  constructor
  · rintro ⟨d, hd, hblocks, hx, rfl⟩
    obtain ⟨hkept, hpresent⟩ := List.mem_filter.mp hd
    exact ⟨hpresent, d, hkept, hblocks, hx, rfl⟩
  · rintro ⟨hpresent, d, hkept, hblocks, hx, rfl⟩
    exact ⟨d, List.mem_filter.mpr ⟨hkept, hpresent⟩, hblocks, hx, rfl⟩

theorem waitsFor_edges_build : WaitsFor (build issues options).edges x y ↔
    ∃ d ∈ kept issues options, d.type.isBlocking = true ∧ d.issueId = x ∧ d.dependsOnId = y :=
  waitsFor_map_ofDependency

theorem waitsWithin_eq : WaitsWithin issues options =
    fun x y => WaitsFor (analysedEdges issues options) x y ∧ isPresent issues x = true := by
  funext x y
  rw [waitsFor_analysedEdges]
  refine propext ⟨?_, ?_⟩
  · rintro ⟨d, hd, hblocks, hx, hy, hpx, hpy⟩
    exact ⟨⟨hpy, d, hd, hblocks, hx, hy⟩, hpx⟩
  · rintro ⟨⟨hpy, d, hd, hblocks, hx, hy⟩, hpx⟩
    exact ⟨d, hd, hblocks, hx, hy, hpx, hpy⟩

theorem isPresent_of_mem_othersReaching (h : x ∈ othersReaching (WaitsWithin issues options) id) :
    isPresent issues x = true := by
  rw [waitsWithin_eq] at h
  exact of_mem_othersReaching (p := (isPresent issues · = true)) h

/-- What the analysis finds before an issue: the issues that wait for it, and missing ids. -/
theorem othersReaching_analysedEdges (hid : isPresent issues id = true) :
    othersReaching (WaitsFor (analysedEdges issues options)) id =
      othersReaching (WaitsWithin issues options) id ∪ missingDependents issues options id := by
  have htarget : ∀ x y, WaitsFor (analysedEdges issues options) x y → isPresent issues y = true :=
    fun x y h => (waitsFor_analysedEdges.mp h).1
  rw [othersReaching_eq_union htarget hid, ← waitsWithin_eq]
  congr 1
  ext x
  simp only [missingDependents, Set.mem_ofPred_eq, Bool.not_eq_true]
  refine and_congr_right fun _ => ?_
  constructor
  · rintro ⟨y, hxy, hy⟩
    obtain ⟨-, d, hd, hblocks, hx, rfl⟩ := waitsFor_analysedEdges.mp hxy
    exact ⟨d, hd, hblocks, hx, hy⟩
  · rintro ⟨d, hd, hblocks, hx, hy⟩
    have hpresent : isPresent issues d.dependsOnId = true := by
      rcases hy with hy | hy
      · exact hy ▸ hid
      · exact isPresent_of_mem_othersReaching hy
    exact ⟨d.dependsOnId, waitsFor_analysedEdges.mpr ⟨hpresent, d, hd, hblocks, hx, rfl⟩, hy⟩

theorem not_mem_missingDependents (hx : x ∈ othersReaching (WaitsWithin issues options) id) :
    x ∉ missingDependents issues options id := by
  rintro ⟨hmissing, -⟩
  rw [isPresent_of_mem_othersReaching hx] at hmissing
  exact Bool.noConfusion hmissing

/-- An issue and those that wait for it are all in the collection. -/
theorem encard_othersReaching_add_one_le (hid : isPresent issues id = true) :
    (othersReaching (WaitsWithin issues options) id).encard + 1 ≤ issues.length := by
  have hnot : id ∉ othersReaching (WaitsWithin issues options) id := fun h => h.1 rfl
  have hsub : insert id (othersReaching (WaitsWithin issues options) id) ⊆
      (((issues.map (·.id)).toFinset : Finset IssueId) : Set IssueId) := by
    intro x hx
    rw [List.coe_toFinset]
    rcases hx with rfl | hx
    · exact isPresent_iff.mp hid
    · exact isPresent_iff.mp (isPresent_of_mem_othersReaching hx)
  have hcard : (issues.map (·.id)).toFinset.card ≤ issues.length :=
    (List.toFinset_card_le _).trans_eq (List.length_map _)
  rw [← Set.encard_insert_of_notMem hnot]
  refine (Set.encard_le_encard hsub).trans ?_
  rw [Set.encard_coe_eq_coe_finsetCard]
  exact Nat.cast_le.mpr hcard

theorem nodes_build : (build issues options).nodes =
    issues.map (realNode options (kept issues options)
      (blockingPairs (analysedEdges issues options))) ++
      (missingTargets issues (kept issues options)).map (ghostNode (kept issues options)) := rfl

theorem realNodes_build : (build issues options).realNodes =
    issues.map (realNode options (kept issues options)
      (blockingPairs (analysedEdges issues options))) := by
  rw [realNodes, nodes_build, List.filter_append, List.filter_map, List.filter_map]
  change (issues.filter fun _ => true).map _ ++ (List.filter (fun _ => false) _).map _ = _
  rw [List.filter_true, List.filter_false, List.map_nil, List.append_nil]

theorem mem_realNodes_build {n : Node} : n ∈ (build issues options).realNodes ↔
    ∃ i ∈ issues, realNode options (kept issues options)
      (blockingPairs (analysedEdges issues options)) i = n := by
  rw [realNodes_build, List.mem_map]

theorem isPresent_of_mem_realNodes {n : Node} (hn : n ∈ (build issues options).realNodes) :
    isPresent issues n.issueId = true := by
  obtain ⟨i, hi, rfl⟩ := mem_realNodes_build.mp hn
  exact isPresent_iff.mpr (List.mem_map_of_mem hi)

theorem exists_realNode (hid : isPresent issues id = true) :
    ∃ n ∈ (build issues options).realNodes, n.issueId = id := by
  obtain ⟨i, hi, rfl⟩ := List.mem_map.mp (isPresent_iff.mp hid)
  exact ⟨_, mem_realNodes_build.mpr ⟨i, hi, rfl⟩, rfl⟩

theorem blockedCount_eq_encard_add {n : Node} (hn : n ∈ (build issues options).realNodes) :
    (n.data.blockedCount : ℕ∞) = (othersReaching (WaitsWithin issues options) n.issueId).encard +
      (missingDependents issues options n.issueId).encard := by
  have hid := isPresent_of_mem_realNodes hn
  obtain ⟨i, hi, rfl⟩ := mem_realNodes_build.mp hn
  rw [← Set.encard_union_eq (Set.disjoint_left.mpr fun _ => not_mem_missingDependents),
    ← othersReaching_analysedEdges hid]
  exact blockedCount_eq_encard

theorem encard_othersReaching_lt (hid : isPresent issues id = true) :
    (othersReaching (WaitsWithin issues options) id).encard < issues.length := by
  have hle : (othersReaching (WaitsWithin issues options) id).encard + 1 ≤ issues.length :=
    encard_othersReaching_add_one_le hid
  exact (ENat.add_one_le_iff' (ENat.natCast_ne_top _)).mp hle

/-- A count is right exactly when no missing id waits for the issue. -/
theorem blockedCount_eq_encard_iff {n : Node} (hn : n ∈ (build issues options).realNodes) :
    (n.data.blockedCount : ℕ∞) = (othersReaching (WaitsWithin issues options) n.issueId).encard ↔
      missingDependents issues options n.issueId = ∅ := by
  have hfinite : (othersReaching (WaitsWithin issues options) n.issueId).encard ≠ ⊤ :=
    (encard_othersReaching_lt (isPresent_of_mem_realNodes hn)).ne_top
  rw [blockedCount_eq_encard_add hn, ← Set.encard_eq_zero]
  exact (ENat.add_right_injective_of_ne_top hfinite).eq_iff' (add_zero _)

/-- No missing id waits for an issue exactly when every record between them names an issue. -/
theorem missingDependents_eq_empty_iff :
    (∀ n ∈ (build issues options).realNodes, missingDependents issues options n.issueId = ∅) ↔
      ∀ d ∈ kept issues options, d.type.isBlocking = true →
        isPresent issues d.dependsOnId = true → isPresent issues d.issueId = true := by
  constructor
  · intro h d hd hblocks htarget
    obtain ⟨n, hn, hid⟩ : ∃ n ∈ (build issues options).realNodes, n.issueId = d.dependsOnId :=
      exists_realNode htarget
    by_contra hmissing
    have hmem : d.issueId ∈ missingDependents issues options n.issueId :=
      ⟨by simpa using hmissing, d, hd, hblocks, rfl, .inl hid.symm⟩
    rw [h n hn] at hmem
    exact hmem
  · intro h n hn
    refine Set.eq_empty_of_forall_notMem ?_
    rintro x ⟨hmissing, d, hd, hblocks, rfl, htarget⟩
    have hpresent : isPresent issues d.dependsOnId = true := by
      rcases htarget with hid | hid
      · exact hid ▸ isPresent_of_mem_realNodes hn
      · exact isPresent_of_mem_othersReaching hid
    rw [h d hd hblocks hpresent] at hmissing
    exact Bool.noConfusion hmissing

/-- The blocked count of an issue exceeds the number of other issues that wait for it within the
collection by the missing ids that wait for it. It is right for all issues exactly when every kept
record that blocks on a present target names a present dependent, and then it stays below the number
of issues. -/
theorem blockedCount_within_collection (issues : List Issue) (options : BuildOptions) :
    (∀ n ∈ (build issues options).realNodes,
      (n.data.blockedCount : ℕ∞) =
        (othersReaching (WaitsWithin issues options) n.issueId).encard +
          (missingDependents issues options n.issueId).encard ∧
      ((n.data.blockedCount : ℕ∞) =
          (othersReaching (WaitsWithin issues options) n.issueId).encard ↔
        missingDependents issues options n.issueId = ∅) ∧
      (missingDependents issues options n.issueId = ∅ → n.data.blockedCount < issues.length)) ∧
    ((∀ n ∈ (build issues options).realNodes, (n.data.blockedCount : ℕ∞) =
        (othersReaching (WaitsWithin issues options) n.issueId).encard) ↔
      ∀ d ∈ kept issues options, d.type.isBlocking = true →
        isPresent issues d.dependsOnId = true → isPresent issues d.issueId = true) := by
  constructor
  · intro n hn
    refine ⟨blockedCount_eq_encard_add hn, blockedCount_eq_encard_iff hn, ?_⟩
    intro hnone
    have hlt : (othersReaching (WaitsWithin issues options) n.issueId).encard < issues.length :=
      encard_othersReaching_lt (isPresent_of_mem_realNodes hn)
    rw [← (blockedCount_eq_encard_iff hn).mpr hnone] at hlt
    exact Nat.cast_lt.mp hlt
  · rw [← missingDependents_eq_empty_iff]
    exact forall₂_congr fun n hn => blockedCount_eq_encard_iff hn

/-- An issue that carries a record of a missing dependent. -/
def strayRecord : List Issue := [{ id := "a", dependencies := [⟨"z", "a", .known .blocks⟩] }]

theorem blockedCount_counts_missing_dependent :
    (strayRecord.map (·.id)).Nodup ∧ ∃ n ∈ (build strayRecord {}).realNodes,
      n.data.blockedCount = 1 ∧ othersReaching (WaitsWithin strayRecord {}) n.issueId = ∅ ∧
      ¬ n.data.blockedCount < strayRecord.length := by
  have hcount : IssueGraph.blockedCount (blockingPairs (analysedEdges strayRecord {})) "a" = 1 := by
    decide +kernel
  have hnone : othersReaching (WaitsWithin strayRecord {}) "a" = ∅ := by
    have hlt : (othersReaching (WaitsWithin strayRecord {}) "a").encard < strayRecord.length :=
      encard_othersReaching_lt (by decide)
    exact Set.encard_eq_zero.mp (Order.lt_one_iff.mp hlt)
  refine ⟨by decide, _, mem_realNodes_build.mpr ⟨_, List.mem_singleton_self _, rfl⟩, hcount,
    hnone, ?_⟩
  exact Nat.not_lt.mpr hcount.ge

end IssueGraph.Graph
