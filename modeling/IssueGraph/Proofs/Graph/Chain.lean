import IssueGraph.Proofs.Blocking.Chain
import IssueGraph.Proofs.Graph.References

/-!
# Chains over a built graph

The count on a node is taken over the edges between issues, a chain over all edges. When records
name issues of the collection as their dependents no edge leaves a ghost, so a way from an issue
down to what waits for it meets none, and the two agree. Ways up may end in a ghost. Main statement:
`chain_agrees_with_node`.
-/
namespace IssueGraph.Graph

variable {issues : List Issue} {options : BuildOptions} {id x y : IssueId} {depth : Nat}

theorem mem_missingTargetIds_build : id ∈ (build issues options).missingTargetIds ↔
    isPresent issues id = false ∧ ∃ d ∈ kept issues options, d.dependsOnId = id := by
  rw [← mem_missingTargets]
  exact SortedSet.mem_ofList

/-- The target of a blocking edge is an issue or has a ghost. -/
theorem isPresent_or_mem_missingTargetIds (h : WaitsFor (build issues options).edges x y) :
    isPresent issues y = true ∨ y ∈ (build issues options).missingTargetIds := by
  obtain ⟨d, hd, -, -, rfl⟩ := waitsFor_edges_build.mp h
  by_cases hpresent : isPresent issues d.dependsOnId = true
  · exact .inl hpresent
  · exact .inr (mem_missingTargetIds_build.mpr ⟨by simpa using hpresent, d, hd, rfl⟩)

/-- Blocking edges to ghosts are what the analysis leaves out. -/
theorem waitsFor_analysedEdges_eq : WaitsFor (analysedEdges issues options) =
    fun x y => isPresent issues y = true ∧ WaitsFor (build issues options).edges x y := by
  funext x y
  rw [waitsFor_analysedEdges, waitsFor_edges_build]

section Records

variable (hrecords : ∀ i ∈ issues, ∀ d ∈ i.dependencies, d.issueId ∈ issues.map (·.id))
include hrecords

/-- No blocking edge leaves a ghost. -/
theorem isPresent_of_waitsFor (h : WaitsFor (build issues options).edges x y) :
    isPresent issues x = true := by
  obtain ⟨d, hd, -, rfl, -⟩ := waitsFor_edges_build.mp h
  obtain ⟨i, hi, hcarried⟩ := List.mem_flatMap.mp (List.mem_filter.mp hd).1
  exact isPresent_iff.mpr (hrecords i hi d hcarried)

theorem blockedCount_edges_build (hid : isPresent issues id = true) :
    IssueGraph.blockedCount (blockingPairs (build issues options).edges) id =
      IssueGraph.blockedCount (blockingPairs (analysedEdges issues options)) id := by
  have hstarts : ∀ x y, WaitsFor (build issues options).edges x y → isPresent issues x = true :=
    fun _ _ h => isPresent_of_waitsFor hrecords h
  rw [← ENat.natCast_inj, blockedCount_eq_encard, blockedCount_eq_encard,
    waitsFor_analysedEdges_eq, othersReaching_eq_of_starts hstarts hid]

theorem isPresent_of_mem_blockedBy
    (hy : y ∈ (Chain.ofEdges (build issues options).edges id depth).blockedBy) :
    isPresent issues y = true := by
  obtain ⟨hne, n, -, hdist⟩ := Chain.mem_blockedBy.mp hy
  obtain ⟨-, hway⟩ := mem_othersReaching_iff_distance.mpr ⟨hne, n, hdist⟩
  obtain ⟨z, hyz, -⟩ := Relation.TransGen.head'_iff.mp hway
  exact isPresent_of_waitsFor hrecords hyz

end Records

theorem isPresent_or_missing_of_mem_blockers
    (hy : y ∈ (Chain.ofEdges (build issues options).edges id depth).blockers) :
    isPresent issues y = true ∨ y ∈ (build issues options).missingTargetIds := by
  obtain ⟨hne, n, -, hdist⟩ := Chain.mem_blockers.mp hy
  obtain ⟨-, hway⟩ := mem_othersReaching_iff_distance.mpr ⟨hne.symm, n, hdist⟩
  obtain ⟨z, -, hzy⟩ := Relation.TransGen.tail'_iff.mp hway
  exact isPresent_or_mem_missingTargetIds hzy

/-- If all records name issues of the collection as dependents, the chain of an issue over a built
graph counts what the node of the issue counts unless it is truncated, what it blocks are issues,
and what blocks it are issues or missing targets. -/
theorem chain_agrees_with_node (issues : List Issue) (options : BuildOptions)
    (hrecords : ∀ i ∈ issues, ∀ d ∈ i.dependencies, d.issueId ∈ issues.map (·.id))
    (n : Node) (hn : n ∈ (build issues options).realNodes) (depth : Nat) :
    ((Chain.ofEdges (build issues options).edges n.issueId depth).truncated = false →
      (Chain.ofEdges (build issues options).edges n.issueId depth).blockedCount =
        n.data.blockedCount) ∧
    (∀ y ∈ (Chain.ofEdges (build issues options).edges n.issueId depth).blockedBy,
      y ∈ issues.map (·.id)) ∧
    ∀ y ∈ (Chain.ofEdges (build issues options).edges n.issueId depth).blockers,
      y ∈ issues.map (·.id) ∨ y ∈ (build issues options).missingTargetIds := by
  refine ⟨?_, ?_, ?_⟩
  · intro hcut
    have hid : isPresent issues n.issueId = true := isPresent_of_mem_realNodes hn
    obtain ⟨i, -, rfl⟩ := mem_realNodes_build.mp hn
    exact (Chain.blockedCount_of_not_truncated hcut).trans (blockedCount_edges_build hrecords hid)
  · intro y hy
    exact isPresent_iff.mp (isPresent_of_mem_blockedBy hrecords hy)
  · intro y hy
    exact (isPresent_or_missing_of_mem_blockers hy).imp_left isPresent_iff.mp

/-- A site and a cache that need a database, which needs a disk nobody has an issue for. -/
def diskless : List Issue :=
  [(Issue.new "site" "").dependsOn "db" (.known .blocks),
    (Issue.new "cache" "").dependsOn "db" (.known .waitsFor),
    (Issue.new "db" "").dependsOn "disk" (.known .blocks)]

theorem chain_agrees_with_node_diskless : ∃ n ∈ (build diskless { orphans := true }).realNodes,
    (Chain.ofEdges (build diskless { orphans := true }).edges n.issueId 2).blockedCount =
      n.data.blockedCount ∧
    n.data.blockedCount = 2 ∧
    ∀ y ∈ (Chain.ofEdges (build diskless { orphans := true }).edges n.issueId 2).blockers,
      y ∈ diskless.map (·.id) ∨ y ∈ (build diskless { orphans := true }).missingTargetIds := by
  have hrecords : ∀ i ∈ diskless, ∀ d ∈ i.dependencies, d.issueId ∈ diskless.map (·.id) := by
    decide
  have hcut :
      (Chain.ofEdges (build diskless { orphans := true }).edges "db" 2).truncated = false := by
    decide +kernel
  have hcount : IssueGraph.blockedCount
      (blockingPairs (analysedEdges diskless { orphans := true })) "db" = 2 := by
    decide +kernel
  have hnode : realNode { orphans := true } (kept diskless { orphans := true })
      (blockingPairs (analysedEdges diskless { orphans := true }))
      ((Issue.new "db" "").dependsOn "disk" (.known .blocks)) ∈
        (build diskless { orphans := true }).realNodes :=
    mem_realNodes_build.mpr ⟨_, by decide, rfl⟩
  obtain ⟨heq, -, hblockers⟩ :=
    chain_agrees_with_node diskless { orphans := true } hrecords _ hnode 2
  exact ⟨_, hnode, heq hcut, hcount, hblockers⟩

end IssueGraph.Graph
