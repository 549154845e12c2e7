import IssueGraph.Proofs.Graph.Structure

/-!
# Graphs with and without orphan edges

An orphan edge points at a missing issue. Keeping such edges adds them and their ghosts, and takes
nothing away: the analysis is made without them, and none of them arrives at an issue of the
collection. So the node of an issue shows what it showed before, except that it counts the orphan
edges among those that leave it. Main statement: `build_withOrphans`.
-/
namespace IssueGraph

/-- The edge points at an issue that is not in the collection. -/
def Edge.isOrphan (issues : List Issue) (e : Edge) : Bool :=
  e.data.any (·.targetIssueId ∉ issues.map (·.id))

/-- The node with some more edges counted that leave it. -/
def Node.withMoreDependencies (n : Node) (count : Nat) : Node :=
  { n with data := { n.data with dependencyCount := n.data.dependencyCount + count } }

namespace Graph

variable {issues : List Issue} {options : BuildOptions} {id : IssueId}

/-- `g'` is `g` with orphan edges added to it. -/
structure AddsOrphans (issues : List Issue) (g g' : Graph) : Prop where
  edges : g.edges = g'.edges.filter (!·.isOrphan issues)
  /-- All nodes of `g` stay, in order, as the nodes of issues. -/
  nodes : g'.realNodes = g.nodes.map fun n =>
    n.withMoreDependencies (countFrom (g'.edges.filter (·.isOrphan issues)) n.issueId)
  totalDependencies : g'.totalDependencies = g.totalDependencies + g'.orphanEdgeCount
  known : g'.realNodes.map (fun n => (n.data.issue, n.data.blockedCount, n.data.isRootBlocker,
      n.data.isReady, n.data.dependentCount)) =
    g.nodes.map fun n => (n.data.issue, n.data.blockedCount, n.data.isRootBlocker,
      n.data.isReady, n.data.dependentCount)

theorem isOrphan_ofDependency (d : Dependency) :
    (Edge.ofDependency d).isOrphan issues = !isPresent issues d.dependsOnId := by
  rw [Bool.eq_iff_iff, Bool.not_eq_true', ← Bool.not_eq_true, isPresent_iff]
  exact decide_eq_true_iff

/-- A record is kept without orphans if it is kept with them and its target is present. -/
theorem kept_withOrphans_false : kept issues (options.withOrphans false) =
    (kept issues (options.withOrphans true)).filter (isPresent issues ·.dependsOnId) := by
  have hkeeps : ∀ d, keeps issues (options.withOrphans false) d =
      (isPresent issues d.dependsOnId && keeps issues (options.withOrphans true) d) := by
    intro d
    simp [keeps, BuildOptions.accepts, BuildOptions.withOrphans, Bool.and_comm]
  rw [kept, kept, List.filter_filter]
  exact List.filter_congr fun d _ => hkeeps d

/-- The analysis never sees an orphan edge. -/
theorem analysedEdges_withOrphans : analysedEdges issues (options.withOrphans true) =
    analysedEdges issues (options.withOrphans false) := by
  rw [analysedEdges, analysedEdges, kept_withOrphans_false, List.filter_filter]
  simp only [Bool.and_self]

theorem edges_build_withOrphans_false : (build issues (options.withOrphans false)).edges =
    (build issues (options.withOrphans true)).edges.filter (!·.isOrphan issues) := by
  have horphan : ((!·.isOrphan issues) ∘ Edge.ofDependency : Dependency → Bool) =
      (isPresent issues ·.dependsOnId) := by
    funext d
    rw [Function.comp_apply, isOrphan_ofDependency, Bool.not_not]
  rw [edges_build, edges_build, kept_withOrphans_false, List.filter_map, horphan]

theorem orphanEdges_build :
    (build issues options).edges.filter (·.isOrphan issues) =
      ((kept issues options).filter (!isPresent issues ·.dependsOnId)).map Edge.ofDependency := by
  have horphan : ((·.isOrphan issues) ∘ Edge.ofDependency : Dependency → Bool) =
      (!isPresent issues ·.dependsOnId) := funext isOrphan_ofDependency
  rw [edges_build, List.filter_map, horphan]

theorem countFrom_orphanEdges_build :
    countFrom ((build issues options).edges.filter (·.isOrphan issues)) id =
      ((kept issues options).filter (!isPresent issues ·.dependsOnId)).countP
        (·.issueId == id) := by
  rw [orphanEdges_build, countFrom, List.countP_map]
  rfl

/-- Orphan edges are the rest of the edges that leave an issue. -/
theorem countP_issueId_kept_withOrphans :
    (kept issues (options.withOrphans true)).countP (·.issueId == id) =
      (kept issues (options.withOrphans false)).countP (·.issueId == id) +
        countFrom ((build issues (options.withOrphans true)).edges.filter (·.isOrphan issues))
          id := by
  rw [countFrom_orphanEdges_build, kept_withOrphans_false]
  exact List.countP_eq_countP_filter_add _ _ _

/-- No orphan edge arrives at an issue that is present. -/
theorem countP_dependsOnId_kept_withOrphans (hid : isPresent issues id = true) :
    (kept issues (options.withOrphans true)).countP (·.dependsOnId == id) =
      (kept issues (options.withOrphans false)).countP (·.dependsOnId == id) := by
  rw [kept_withOrphans_false, List.countP_filter]
  refine List.countP_congr fun d _ => ?_
  rw [Bool.and_eq_true, beq_iff_eq]
  constructor
  · intro htarget
    exact ⟨htarget, htarget ▸ hid⟩
  · intro h
    exact h.1

theorem realNode_withOrphans {i : Issue} (hi : i ∈ issues) :
    realNode (options.withOrphans true) (kept issues (options.withOrphans true))
        (blockingPairs (analysedEdges issues (options.withOrphans true))) i =
      (realNode (options.withOrphans false) (kept issues (options.withOrphans false))
        (blockingPairs (analysedEdges issues (options.withOrphans false))) i).withMoreDependencies
        (countFrom ((build issues (options.withOrphans true)).edges.filter (·.isOrphan issues))
          i.id) := by
  have hpresent : isPresent issues i.id = true := isPresent_iff.mpr (List.mem_map_of_mem hi)
  rw [analysedEdges_withOrphans, realNode, countP_issueId_kept_withOrphans,
    countP_dependsOnId_kept_withOrphans hpresent]
  rfl

/-- Without orphan edges there are no ghosts. -/
theorem nodes_build_withOrphans_false : (build issues (options.withOrphans false)).nodes =
    (build issues (options.withOrphans false)).realNodes := by
  have hnone : missingTargets issues (kept issues (options.withOrphans false)) = [] := by
    refine List.eq_nil_iff_forall_not_mem.mpr fun id hid => ?_
    obtain ⟨hmissing, d, hd, rfl⟩ := mem_missingTargets.mp hid
    rw [kept_withOrphans_false] at hd
    rw [(List.mem_filter.mp hd).2] at hmissing
    cases hmissing
  rw [realNodes_build, nodes_build, hnone, List.map_nil, List.append_nil]

theorem realNodes_build_withOrphans : (build issues (options.withOrphans true)).realNodes =
    (build issues (options.withOrphans false)).nodes.map fun n => n.withMoreDependencies
      (countFrom ((build issues (options.withOrphans true)).edges.filter (·.isOrphan issues))
        n.issueId) := by
  rw [nodes_build_withOrphans_false, realNodes_build, realNodes_build, List.map_map]
  exact List.map_congr_left fun i hi => realNode_withOrphans hi

theorem totalDependencies_build_withOrphans :
    (build issues (options.withOrphans true)).totalDependencies =
      (build issues (options.withOrphans false)).totalDependencies +
        (build issues (options.withOrphans true)).orphanEdgeCount := by
  have hsplit := List.length_eq_countP_add_countP (isPresent issues ·.dependsOnId)
    (l := kept issues (options.withOrphans true))
  have hpresent : (kept issues (options.withOrphans true)).countP
      (isPresent issues ·.dependsOnId) = (kept issues (options.withOrphans false)).length := by
    rw [kept_withOrphans_false, List.countP_eq_length_filter]
  rw [hpresent] at hsplit
  simpa [build] using hsplit

/-- Allowing orphan edges adds them and changes nothing else: the edges, the nodes of issues and
what is known about these stay, except that each issue counts the orphan edges that leave it. -/
theorem build_withOrphans (issues : List Issue) (options : BuildOptions) :
    AddsOrphans issues (build issues (options.withOrphans false))
      (build issues (options.withOrphans true)) where
  edges := edges_build_withOrphans_false
  nodes := realNodes_build_withOrphans
  totalDependencies := totalDependencies_build_withOrphans
  known := by
    rw [realNodes_build_withOrphans, List.map_map]
    rfl

end Graph

end IssueGraph
