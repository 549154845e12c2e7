import IssueGraph.Proofs.Blocking.Pairs
import IssueGraph.Proofs.Graph.Ready
import IssueGraph.Proofs.Graph.Structure
import IssueGraph.Proofs.Graph.TopBlockers
import IssueGraph.Proofs.SortedMap

/-!
# Reordered collections

Building a graph scans the issues in order, collects missing targets as they come up and walks along
edges in the order of their records. None of this shows in the result but as the order of nodes and
edges: presence, counts and sets are the same for every order of the issues, a walk reaches the same
issues, and the listings sort by orders in which different issues never tie. Main statement:
`analyses_of_reordered_issues`.
-/
namespace IssueGraph

variable {issues issues' : List Issue} {options : BuildOptions}

theorem liveBlocked_eq_of_perm (hperm : issues.Perm issues') (hids : (issues.map (·.id)).Nodup) :
    liveBlocked issues = liveBlocked issues' := by
  have hids' : (issues'.map (·.id)).Nodup := (hperm.map _).nodup_iff.mp hids
  have hopen : ∀ x, Live.Open issues x ↔ Live.Open issues' x := fun x => by
    simp only [Live.Open, hperm.mem_iff]
  have hrecorded : ∀ t x y, Live.Recorded issues t x y ↔ Live.Recorded issues' t x y :=
    fun t x y => by simp only [Live.Recorded, hperm.mem_iff]
  refine SortedSet.ext fun v => ⟨?_, ?_⟩
  · exact Live.mem_liveBlocked_of_le hids hids' (fun x => (hopen x).mp)
      fun t x y => (hrecorded t x y).mp
  · exact Live.mem_liveBlocked_of_le hids' hids (fun x => (hopen x).mpr)
      fun t x y => (hrecorded t x y).mpr

namespace Graph

/-- The graphs have the same nodes and edges, though perhaps in another order, and say the same
about each issue and in sum. -/
structure SameUpToOrder (g g' : Graph) : Prop where
  nodes : g.nodes.Perm g'.nodes
  edges : g.edges.Perm g'.edges
  lookup : ∀ id, g.node? id = g'.node? id
  nodeIds : g.nodeIds = g'.nodeIds
  totalDependencies : g.totalDependencies = g'.totalDependencies
  blockingDependencies : g.blockingDependencies = g'.blockingDependencies
  orphanEdgeCount : g.orphanEdgeCount = g'.orphanEdgeCount
  missingTargetIds : g.missingTargetIds = g'.missingTargetIds

section

variable (hperm : issues.Perm issues')
include hperm

theorem isPresent_eq_of_perm : isPresent issues = isPresent issues' := by
  funext id
  rw [Bool.eq_iff_iff, isPresent_iff, isPresent_iff, (hperm.map _).mem_iff]

theorem kept_perm : (kept issues options).Perm (kept issues' options) := by
  have hkeeps : keeps issues options = keeps issues' options := by
    funext d
    rw [keeps, isPresent_eq_of_perm hperm, keeps]
  rw [kept, hkeeps]
  exact (hperm.flatMap_right _).filter _

theorem analysedEdges_perm :
    (analysedEdges issues options).Perm (analysedEdges issues' options) := by
  rw [analysedEdges, isPresent_eq_of_perm hperm]
  exact ((kept_perm hperm).filter _).map _

theorem waitsFor_analysedEdges_of_perm :
    WaitsFor (analysedEdges issues options) = WaitsFor (analysedEdges issues' options) :=
  waitsFor_congr fun _ => ((analysedEdges_perm hperm).filterMap _).mem_iff

theorem missingTargets_perm : (missingTargets issues (kept issues options)).Perm
    (missingTargets issues' (kept issues' options)) := by
  have hmem : ∀ id, id ∈ missingTargets issues (kept issues options) ↔
      id ∈ missingTargets issues' (kept issues' options) := fun id => by
    rw [mem_missingTargets, mem_missingTargets, isPresent_eq_of_perm hperm]
    simp only [(kept_perm hperm).mem_iff]
  exact (List.perm_ext_iff_of_nodup (nodup_eraseDups _) (nodup_eraseDups _)).mpr hmem

theorem realNode_eq_of_perm :
    realNode options (kept issues options) (blockingPairs (analysedEdges issues options)) =
      realNode options (kept issues' options) (blockingPairs (analysedEdges issues' options)) := by
  funext i
  rw [realNode, blockedCount_congr (waitsFor_analysedEdges_of_perm hperm),
    (kept_perm hperm).countP_eq, (kept_perm hperm).countP_eq, realNode]

theorem ghostNode_eq_of_perm : ghostNode (kept issues options) =
    ghostNode (kept issues' options) := by
  funext id
  rw [ghostNode, (kept_perm hperm).countP_eq, ghostNode]

theorem realNodes_perm :
    (build issues options).realNodes.Perm (build issues' options).realNodes := by
  rw [realNodes_build, realNodes_build, realNode_eq_of_perm hperm]
  exact hperm.map _

theorem nodes_perm : (build issues options).nodes.Perm (build issues' options).nodes := by
  rw [nodes_build, nodes_build, realNode_eq_of_perm hperm, ghostNode_eq_of_perm hperm]
  exact (hperm.map _).append ((missingTargets_perm hperm).map _)

theorem build_sameUpToOrder (hids : (issues.map (·.id)).Nodup) :
    SameUpToOrder (build issues options) (build issues' options) where
  nodes := nodes_perm hperm
  edges := (kept_perm hperm).map _
  lookup := by
    have hids' : (issues'.map (·.id)).Nodup := (hperm.map _).nodup_iff.mp hids
    intro id
    refine Option.ext fun n => ?_
    rw [node?_build hids, node?_build hids', (nodes_perm hperm).mem_iff]
  nodeIds := by
    refine SortedMap.ext fun id => ?_
    rw [find?_nodeIds_build, find?_nodeIds_build]
    simp only [((nodes_perm hperm).map _).mem_iff]
  totalDependencies := (kept_perm hperm).length_eq
  blockingDependencies := (kept_perm hperm).countP_eq _
  orphanEdgeCount := by
    change (kept issues options).countP _ = (kept issues' options).countP _
    rw [isPresent_eq_of_perm hperm, (kept_perm hperm).countP_eq]
  missingTargetIds := by
    refine SortedSet.ext fun id => ?_
    change id ∈ SortedSet.ofList (missingTargets _ _) ↔ id ∈ SortedSet.ofList (missingTargets _ _)
    rw [SortedSet.mem_ofList, SortedSet.mem_ofList, (missingTargets_perm hperm).mem_iff]

end

/-- Real nodes of one issue are one node. -/
theorem eq_of_issueId_eq (hids : (issues.map (·.id)).Nodup) {a b : Node}
    (ha : a ∈ (build issues options).realNodes) (hb : b ∈ (build issues options).realNodes)
    (hid : a.issueId = b.issueId) : a = b :=
  List.inj_on_of_nodup_map (nodup_issueIds_build hids) (List.mem_of_mem_filter ha)
    (List.mem_of_mem_filter hb) hid

theorem topBlockers_eq_of_perm (hperm : issues.Perm issues') (hids : (issues.map (·.id)).Nodup)
    (limit : Nat) :
    (build issues options).topBlockers limit = (build issues' options).topBlockers limit := by
  refine congrArg (List.take limit) (mergeSort_eq_of_perm Node.blocksMore_trans
    Node.blocksMore_total ((realNodes_perm hperm).filter _) ?_)
  intro a ha b hb hab hba
  exact eq_of_issueId_eq hids (List.mem_of_mem_filter ha) (List.mem_of_mem_filter hb)
    (Node.issueId_eq_of_blocksMore hab hba)

theorem readyIssues_eq_of_perm (hperm : issues.Perm issues') (hids : (issues.map (·.id)).Nodup)
    (limit : Option Nat) :
    (build issues options).readyIssues limit = (build issues' options).readyIssues limit := by
  have hsorted : (build issues options).readyNodes.mergeSort Node.isMoreUrgent =
      (build issues' options).readyNodes.mergeSort Node.isMoreUrgent := by
    refine mergeSort_eq_of_perm Node.isMoreUrgent_trans Node.isMoreUrgent_total
      ((realNodes_perm hperm).filter _) ?_
    intro a ha b hb hab hba
    exact eq_of_issueId_eq hids (List.mem_of_mem_filter ha) (List.mem_of_mem_filter hb)
      (Node.issueId_eq_of_isMoreUrgent hab hba)
  cases limit with
  | none => exact hsorted
  | some n => exact congrArg (List.take n) hsorted

end Graph

/-- The order of issues with distinct ids does not matter: the same issues are blocked by open ones,
the graphs differ in the order of nodes and edges only, and the listings are the same at every
limit. -/
theorem analyses_of_reordered_issues (issues issues' : List Issue) (hperm : issues.Perm issues')
    (hids : (issues.map (·.id)).Nodup) :
    liveBlocked issues = liveBlocked issues' ∧
      ∀ options : BuildOptions,
        (Graph.build issues options).SameUpToOrder (Graph.build issues' options) ∧
        (∀ limit, (Graph.build issues options).topBlockers limit =
          (Graph.build issues' options).topBlockers limit) ∧
        ∀ limit, (Graph.build issues options).readyIssues limit =
          (Graph.build issues' options).readyIssues limit := by
  refine ⟨liveBlocked_eq_of_perm hperm hids, fun options => ⟨?_, ?_, ?_⟩⟩
  · exact Graph.build_sameUpToOrder hperm hids
  · exact Graph.topBlockers_eq_of_perm hperm hids
  · exact Graph.readyIssues_eq_of_perm hperm hids

theorem analyses_of_reversed_tangle :
    Graph.tangledIssues.Perm Graph.tangledIssues.reverse ∧
      (Graph.tangledIssues.map (·.id)).Nodup ∧
      (Graph.build Graph.tangledIssues Graph.tangledOptions).nodes ≠
        (Graph.build Graph.tangledIssues.reverse Graph.tangledOptions).nodes ∧
      (Graph.build Graph.tangledIssues Graph.tangledOptions).SameUpToOrder
        (Graph.build Graph.tangledIssues.reverse Graph.tangledOptions) ∧
      (Graph.build Graph.tangledIssues Graph.tangledOptions).topBlockers 1 =
        (Graph.build Graph.tangledIssues.reverse Graph.tangledOptions).topBlockers 1 := by
  have hperm : Graph.tangledIssues.Perm Graph.tangledIssues.reverse :=
    (List.reverse_perm _).symm
  have hids : (Graph.tangledIssues.map (·.id)).Nodup := by decide
  have hnodes : (Graph.build Graph.tangledIssues Graph.tangledOptions).nodes ≠
      (Graph.build Graph.tangledIssues.reverse Graph.tangledOptions).nodes := by
    intro h
    have hfirst := congrArg (fun nodes => (nodes.map (·.issueId)).head?) h
    revert hfirst
    decide +kernel
  obtain ⟨-, hgraphs⟩ := analyses_of_reordered_issues _ _ hperm hids
  obtain ⟨hsame, htop, -⟩ := hgraphs Graph.tangledOptions
  exact ⟨hperm, hids, hnodes, hsame, htop 1⟩

end IssueGraph
