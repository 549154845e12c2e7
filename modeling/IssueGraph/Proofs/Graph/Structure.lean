import IssueGraph.Proofs.Graph.References
import IssueGraph.Proofs.List

/-!
# The shape of a built graph

What a graph shows of a collection: an edge for each retained record, a node for each issue and for
each missing target, and counts that are counts of these edges. `Draws` says so without the steps of
the construction. Every edge has its target among the nodes, and nodes of different issues differ, so
the counts of arriving edges add up to all edges and a lookup by issue finds the one node of it.
-/
namespace IssueGraph

theorem DependencyType.isBlocking_eq (t : DependencyType) : t.isBlocking =
    decide (t = .known .blocks ∨ t = .known .parentChild ∨ t = .known .conditionalBlocks ∨
      t = .known .waitsFor) := by
  rw [Bool.eq_iff_iff, decide_eq_true_iff, isBlocking_iff_mem]
  change t ∈ [.known .blocks, .known .parentChild, .known .conditionalBlocks, .known .waitsFor] ↔ _
  simp only [List.mem_cons, List.not_mem_nil, or_false]

namespace Graph

variable {issues : List Issue} {options : BuildOptions} {id : IssueId}

/-- The record is of a type that passes the filter, and its target is present or need not be. -/
structure Retains (issues : List Issue) (options : BuildOptions) (d : Dependency) : Prop where
  type : ∀ types, options.types = some types → d.type ∈ types
  target : d.dependsOnId ∈ issues.map (·.id) ∨ options.orphans = true

theorem accepts_iff {t : DependencyType} :
    options.accepts t = true ↔ ∀ types, options.types = some types → t ∈ types := by
  rw [BuildOptions.accepts]
  cases options.types with
  | none => simp
  | some types => simp [SortedSet.contains_iff]

theorem keeps_iff {d : Dependency} : keeps issues options d = true ↔ Retains issues options d := by
  rw [keeps, Bool.and_eq_true, Bool.or_eq_true, accepts_iff, isPresent_iff]
  constructor
  · rintro ⟨htype, htarget⟩
    exact ⟨htype, htarget.symm⟩
  · rintro ⟨htype, htarget⟩
    exact ⟨htype, htarget.symm⟩

instance (issues : List Issue) (options : BuildOptions) :
    DecidablePred (Retains issues options) :=
  fun _ => decidable_of_iff _ keeps_iff

/-- The retained records, issue by issue in the order in which each issue carries them. -/
def retained (issues : List Issue) (options : BuildOptions) : List Dependency :=
  (issues.flatMap (·.dependencies)).filter (Retains issues options ·)

/-- The number of edges that leave the issue. -/
def countFrom (edges : List Edge) (id : IssueId) : Nat :=
  edges.countP fun e => e.data.any (·.sourceIssueId == id)

/-- The number of edges that arrive at the issue. -/
def countTo (edges : List Edge) (id : IssueId) : Nat :=
  edges.countP fun e => e.data.any (·.targetIssueId == id)

/-- `g` shows the retained records of a collection as its edges, the issues and after them the
missing targets as its nodes, and sums both up. -/
structure Draws (issues : List Issue) (options : BuildOptions) (g : Graph) : Prop where
  edges : g.edges = (retained issues options).map fun d =>
    { id := edgeId d.issueId d.dependsOnId d.type
      source := nodeId d.issueId
      target := nodeId d.dependsOnId
      data := some
        { depType := d.type
          isBlocking := decide (d.type = .known .blocks ∨ d.type = .known .parentChild ∨
            d.type = .known .conditionalBlocks ∨ d.type = .known .waitsFor)
          sourceIssueId := d.issueId
          targetIssueId := d.dependsOnId } }
  nodes : g.nodes = g.realNodes ++ g.ghostNodes
  ids : ∀ n ∈ g.nodes, n.id = nodeId n.issueId
  realIssues : g.realNodes.map (·.data.issue) = issues
  ghostIssue : ∀ n ∈ g.ghostNodes, n.data.issue = Issue.missing n.issueId
  ghostIds : ∀ id, id ∈ g.ghostNodes.map (·.issueId) ↔
    id ∉ issues.map (·.id) ∧ ∃ d ∈ retained issues options, d.dependsOnId = id
  /-- A missing target that is named earlier has its ghost earlier, and only one. -/
  ghostOrder : (g.ghostNodes.map (·.issueId)).Pairwise fun a b =>
    ((retained issues options).map (·.dependsOnId)).idxOf a <
      ((retained issues options).map (·.dependsOnId)).idxOf b
  totalDependencies : g.totalDependencies = g.edges.length
  blockingDependencies : g.blockingDependencies = g.edges.countP Edge.isBlocking
  orphanEdgeCount : g.orphanEdgeCount =
    g.edges.countP fun e => e.data.any (·.targetIssueId ∉ issues.map (·.id))
  missingTargetIds : ∀ id, id ∈ g.missingTargetIds ↔ id ∈ g.ghostNodes.map (·.issueId)
  missingTargets_size : g.missingTargetIds.size = g.ghostNodes.length
  missingTargets_disjoint : ∀ id ∈ g.missingTargetIds, id ∉ issues.map (·.id)
  dependencyCount : ∀ n ∈ g.realNodes, n.data.dependencyCount = countFrom g.edges n.issueId
  dependentCount : ∀ n ∈ g.nodes, n.data.dependentCount = countTo g.edges n.issueId
  dependentCount_sum : (g.nodes.map (·.data.dependentCount)).sum = g.edges.length
  nodeIds : ∀ id s, g.nodeIds.find? id = some s ↔
    id ∈ g.nodes.map (·.issueId) ∧ s = nodeId id
  lookup : ∀ id n, g.node? id = some n ↔ n ∈ g.nodes ∧ n.issueId = id
  isEmpty : g.isEmpty = true ↔ issues = []

theorem kept_eq_retained (issues : List Issue) (options : BuildOptions) :
    kept issues options = retained issues options := by
  refine List.filter_congr fun d _ => ?_
  rw [Bool.eq_iff_iff, keeps_iff, decide_eq_true_iff]

theorem edges_build : (build issues options).edges =
    (kept issues options).map Edge.ofDependency := rfl

theorem countFrom_edges_build :
    countFrom (build issues options).edges id = (kept issues options).countP (·.issueId == id) := by
  rw [countFrom, edges_build, List.countP_map]
  rfl

theorem countTo_edges_build : countTo (build issues options).edges id =
    (kept issues options).countP (·.dependsOnId == id) := by
  rw [countTo, edges_build, List.countP_map]
  rfl

theorem mem_nodes_build {n : Node} : n ∈ (build issues options).nodes ↔
    (∃ i ∈ issues, realNode options (kept issues options)
      (blockingPairs (analysedEdges issues options)) i = n) ∨
    ∃ id ∈ missingTargets issues (kept issues options),
      ghostNode (kept issues options) id = n := by
  rw [nodes_build, List.mem_append, List.mem_map, List.mem_map]

/-- The issues of the nodes are those of the collection and then the missing targets. -/
theorem issueIds_build : (build issues options).nodes.map (·.issueId) =
    issues.map (·.id) ++ missingTargets issues (kept issues options) := by
  have hghost : (missingTargets issues (kept issues options)).map
      ((·.issueId) ∘ ghostNode (kept issues options)) =
      missingTargets issues (kept issues options) :=
    List.map_id _
  rw [nodes_build, List.map_append, List.map_map, List.map_map, hghost]
  rfl

theorem nodup_issueIds_build (hids : (issues.map (·.id)).Nodup) :
    ((build issues options).nodes.map (·.issueId)).Nodup := by
  rw [issueIds_build, List.nodup_append]
  refine ⟨hids, nodup_eraseDups _, ?_⟩
  rintro a ha b hb rfl
  have hmissing : isPresent issues a = false := (mem_missingTargets.mp hb).1
  rw [isPresent_iff.mpr ha] at hmissing
  cases hmissing

theorem dependentCount_build {n : Node} (hn : n ∈ (build issues options).nodes) :
    n.data.dependentCount = countTo (build issues options).edges n.issueId := by
  rw [countTo_edges_build]
  rcases mem_nodes_build.mp hn with ⟨i, -, rfl⟩ | ⟨m, -, rfl⟩
  · rfl
  · rfl

/-- Each edge arrives at exactly one node. -/
theorem sum_dependentCount_build (hids : (issues.map (·.id)).Nodup) :
    ((build issues options).nodes.map (·.data.dependentCount)).sum =
      (build issues options).edges.length := by
  have hcounts : (build issues options).nodes.map (·.data.dependentCount) =
      ((build issues options).nodes.map (·.issueId)).map
        (((kept issues options).map (·.dependsOnId)).count ·) := by
    rw [List.map_map]
    refine List.map_congr_left fun n hn => ?_
    rw [dependentCount_build hn, countTo_edges_build, Function.comp_apply, List.count_eq_countP,
      List.countP_map]
    rfl
  have htarget : ∀ t ∈ (kept issues options).map (·.dependsOnId),
      t ∈ (build issues options).nodes.map (·.issueId) := by
    intro t ht
    rw [issueIds_build, List.mem_append]
    by_cases hpresent : isPresent issues t = true
    · exact .inl (isPresent_iff.mp hpresent)
    · exact .inr (mem_missingTargets.mpr ⟨by simpa using hpresent, List.mem_map.mp ht⟩)
  rw [hcounts, sum_map_count_eq_length (nodup_issueIds_build hids) htarget, List.length_map,
    edges_build, List.length_map]

theorem find?_nodeIds_build : (build issues options).nodeIds.find? id =
    if id ∈ (build issues options).nodes.map (·.issueId) then some (nodeId id) else none := by
  rw [issueIds_build]
  exact SortedMap.find?_ofList_map _ _ _

theorem id_of_mem_nodes {n : Node} (hn : n ∈ (build issues options).nodes) :
    n.id = nodeId n.issueId := by
  rcases mem_nodes_build.mp hn with ⟨i, -, rfl⟩ | ⟨m, -, rfl⟩
  · rfl
  · rfl

theorem nodup_ids_build (hids : (issues.map (·.id)).Nodup) :
    ((build issues options).nodes.map (·.id)).Nodup := by
  have hmap : (build issues options).nodes.map (·.id) =
      ((build issues options).nodes.map (·.issueId)).map nodeId := by
    rw [List.map_map]
    exact List.map_congr_left fun n hn => id_of_mem_nodes hn
  rw [hmap]
  exact (nodup_issueIds_build hids).map fun a b => nodeId_inj.mp

/-- A lookup goes by way of the node id, which no other issue has. -/
theorem node?_build (hids : (issues.map (·.id)).Nodup) {n : Node} :
    (build issues options).node? id = some n ↔
      n ∈ (build issues options).nodes ∧ n.issueId = id := by
  rw [node?, find?_nodeIds_build]
  by_cases hid : id ∈ (build issues options).nodes.map (·.issueId)
  · rw [if_pos hid, Option.bind_some, find?_eq_some_iff_of_nodup (nodup_ids_build hids)]
    refine and_congr_right fun hn => ?_
    rw [id_of_mem_nodes hn, nodeId_inj]
  · rw [if_neg hid]
    constructor
    · intro h
      cases h
    · rintro ⟨hn, rfl⟩
      exact absurd (List.mem_map_of_mem hn) hid

theorem ghostIds_build : (build issues options).ghostNodes.map (·.issueId) =
    missingTargets issues (kept issues options) := by
  rw [ghostNodes_build, List.map_map]
  exact List.map_id _

theorem orphanEdgeCount_build : (build issues options).orphanEdgeCount =
    (build issues options).edges.countP fun e =>
      e.data.any (·.targetIssueId ∉ issues.map (·.id)) := by
  rw [edges_build, List.countP_map]
  refine List.countP_congr fun d _ => ?_
  change (!isPresent issues d.dependsOnId) = true ↔
    decide (d.dependsOnId ∉ issues.map (·.id)) = true
  rw [decide_eq_true_iff, ← isPresent_iff, Bool.not_eq_true', Bool.not_eq_true]

/-- Without issues there are no records and so no missing targets either. -/
theorem isEmpty_build : (build issues options).isEmpty = true ↔ issues = [] := by
  rw [isEmpty, List.isEmpty_iff]
  constructor
  · intro h
    rw [nodes_build, List.append_eq_nil_iff] at h
    exact List.map_eq_nil_iff.mp h.1
  · rintro rfl
    rfl

/-- A built graph draws its collection. -/
theorem draws_build (issues : List Issue) (options : BuildOptions)
    (hids : (issues.map (·.id)).Nodup) : Draws issues options (build issues options) where
  edges := by
    rw [edges_build, kept_eq_retained]
    refine List.map_congr_left fun d _ => ?_
    rw [Edge.ofDependency, DependencyType.isBlocking_eq]
  nodes := by rw [realNodes_build, ghostNodes_build, nodes_build]
  ids := fun _ => id_of_mem_nodes
  realIssues := by
    rw [realNodes_build, List.map_map]
    exact List.map_id _
  ghostIssue := by
    intro n hn
    obtain ⟨m, -, rfl⟩ := mem_ghostNodes_build.mp hn
    rfl
  ghostIds := by
    intro id
    rw [ghostIds_build, mem_missingTargets, ← kept_eq_retained, ← isPresent_iff, Bool.not_eq_true]
  ghostOrder := by
    rw [ghostIds_build, ← kept_eq_retained]
    exact pairwise_idxOf_eraseDups_filter _ _
  totalDependencies := by
    rw [edges_build, List.length_map]
    rfl
  blockingDependencies := by
    rw [edges_build, List.countP_map]
    rfl
  orphanEdgeCount := orphanEdgeCount_build
  missingTargetIds := by
    intro id
    rw [ghostIds_build]
    exact SortedSet.mem_ofList
  missingTargets_size := by
    rw [ghostNodes_build, List.length_map]
    exact SortedSet.size_ofList (nodup_eraseDups _)
  missingTargets_disjoint := by
    intro id hid
    have hmissing : isPresent issues id = false :=
      (mem_missingTargets.mp (SortedSet.mem_ofList.mp hid)).1
    rw [← isPresent_iff, hmissing]
    exact Bool.false_ne_true
  dependencyCount := by
    intro n hn
    obtain ⟨i, -, rfl⟩ := mem_realNodes_build.mp hn
    exact countFrom_edges_build.symm
  dependentCount := fun _ => dependentCount_build
  dependentCount_sum := sum_dependentCount_build hids
  nodeIds := by
    intro id s
    rw [find?_nodeIds_build]
    split
    · next hid => simp [hid, eq_comm]
    · next hid => simp [hid]
  lookup := fun _ _ => node?_build hids
  isEmpty := isEmpty_build

/-- An issue that names two missing targets, one of them twice, and one with a loop and a record of a
missing dependent. -/
def tangledIssues : List Issue :=
  [{ id := "a",
     dependencies := [⟨"a", "y", .known .blocks⟩, ⟨"a", "x", .known .waitsFor⟩,
       ⟨"a", "y", .known .related⟩, ⟨"a", "b", .known .duplicates⟩] },
    { id := "b",
      dependencies := [⟨"b", "b", .known .conditionalBlocks⟩, ⟨"z", "a", .known .parentChild⟩] }]

def tangledOptions : BuildOptions :=
  ({ orphans := true } : BuildOptions).withTypes
    (.known .related :: DependencyType.blockingTypes)

theorem draws_build_of_tangle :
    (tangledIssues.map (·.id)).Nodup ∧
      Draws tangledIssues tangledOptions (build tangledIssues tangledOptions) ∧
      ((build tangledIssues tangledOptions).nodes.map (·.data.dependentCount)).sum = 5 := by
  have hids : (tangledIssues.map (·.id)).Nodup := by decide
  have hdraws := draws_build tangledIssues tangledOptions hids
  refine ⟨hids, hdraws, ?_⟩
  rw [hdraws.dependentCount_sum]
  decide +kernel

end Graph

end IssueGraph
