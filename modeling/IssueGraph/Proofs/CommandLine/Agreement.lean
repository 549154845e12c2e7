import IssueGraph.CommandLine.Run
import IssueGraph.Proofs.Graph.Structure
import IssueGraph.Proofs.Graph.TopBlockers

/-!
# What two commands say of one issue

The listing of top blockers is taken from a graph that is built without the live blocked set, the
graph that is drawn by default with it. The set does not enter any count, so both commands give the
same counts. It does decide which issues are root blockers: the listing calls every issue on it one,
the drawn graph only those that are not live blocked. Main statement: `top_agrees_with_graph_iff`.
-/
namespace IssueGraph

namespace Graph

variable {issues : List Issue} {options : BuildOptions} {blocked : SortedSet IssueId}
  {m n : Node}

theorem analysedEdges_withBlocked :
    analysedEdges issues (options.withBlocked blocked) = analysedEdges issues options := rfl

/-- A node of an issue that is present is no ghost. -/
theorem mem_realNodes_of_isPresent (hn : n ∈ (build issues options).nodes)
    (hid : isPresent issues n.issueId = true) : n ∈ (build issues options).realNodes := by
  rcases mem_nodes_build.mp hn with hreal | ⟨id, hmissing, rfl⟩
  · exact mem_realNodes_build.mpr hreal
  · have habsent : isPresent issues id = false := (mem_missingTargets.mp hmissing).1
    exact absurd (hid.symm.trans habsent) (by decide)

theorem exists_realNode_withBlocked (hn : n ∈ (build issues options).realNodes) :
    ∃ m ∈ (build issues (options.withBlocked blocked)).realNodes, m.data.issue = n.data.issue := by
  obtain ⟨i, hi, rfl⟩ := mem_realNodes_build.mp hn
  exact ⟨_, mem_realNodes_build.mpr ⟨i, hi, rfl⟩, rfl⟩

/-- The counts of an issue are those of its id, whatever is blocked. -/
theorem blockedCount_withBlocked (hn : n ∈ (build issues options).realNodes)
    (hm : m ∈ (build issues (options.withBlocked blocked)).realNodes)
    (hid : m.issueId = n.issueId) : m.data.blockedCount = n.data.blockedCount := by
  rw [blockedCount_of_mem_realNodes hn, blockedCount_of_mem_realNodes hm, hid,
    analysedEdges_withBlocked]

theorem isRootBlocker_of_mem_realNodes (hn : n ∈ (build issues options).realNodes) :
    n.data.isRootBlocker =
      (0 < n.data.blockedCount && !options.blocked.any (·.contains n.issueId)) := by
  obtain ⟨i, -, rfl⟩ := mem_realNodes_build.mp hn
  rfl

end Graph

namespace CommandLine

variable {c : Collection} {config : Config}

/-- On a new board nothing is remembered yet, so a graph is built. -/
theorem value_graph_new (options : BuildOptions) :
    ((Board.new c config).graph options).2.value = Graph.build c.issues options := rfl

theorem find_top (limit : Nat) : Command.find (Board.new c config) (.top limit) =
    .ok (.top ((Graph.build c.issues config.buildOptions).topBlockers limit)) := by
  rw [Command.find, value_graph_new]
  rfl

theorem find_graph : Command.find (Board.new c config) (.graph {}) =
    .ok (.graph (Graph.build c.issues
      (config.buildOptions.withBlocked (liveBlocked c.issues)))) := by
  rw [Command.find, value_graph_new]
  rfl

/-- Every issue on the listing of top blockers is in the graph that is drawn by default, with the
same count. The listing calls it a root blocker, and the graph does so exactly if the issue is not
live blocked. -/
theorem top_agrees_with_graph_iff (c : Collection) (config : Config) (limit : Nat) :
    ∃ nodes g, Command.find (Board.new c config) (.top limit) = .ok (.top nodes) ∧
      Command.find (Board.new c config) (.graph {}) = .ok (.graph g) ∧
      ∀ n ∈ nodes, (∃ m ∈ g.nodes, m.data.issue = n.data.issue) ∧
        n.data.isRootBlocker = true ∧
        ∀ m ∈ g.nodes, m.issueId = n.issueId →
          m.data.blockedCount = n.data.blockedCount ∧
          (m.data.isRootBlocker = n.data.isRootBlocker ↔ ¬ n.issueId ∈ liveBlocked c.issues) := by
  refine ⟨_, _, find_top limit, find_graph, ?_⟩
  intro n hn
  obtain ⟨hreal, hpos⟩ := Graph.mem_rankedBlockers.mp (List.mem_of_mem_take hn)
  have hroot : n.data.isRootBlocker = true := by
    rw [Graph.isRootBlocker_of_mem_realNodes hreal]
    simpa [Config.buildOptions] using hpos
  refine ⟨?_, hroot, ?_⟩
  · obtain ⟨m, hm, hissue⟩ := Graph.exists_realNode_withBlocked hreal
    exact ⟨m, (List.mem_filter.mp hm).1, hissue⟩
  · intro m hm hid
    have hpresent : Graph.isPresent c.issues m.issueId = true :=
      hid ▸ Graph.isPresent_of_mem_realNodes hreal
    have hmreal := Graph.mem_realNodes_of_isPresent hm hpresent
    have hcount := Graph.blockedCount_withBlocked hreal hmreal hid
    refine ⟨hcount, ?_⟩
    rw [Graph.isRootBlocker_of_mem_realNodes hmreal, hroot, hcount, hid,
      ← SortedSet.contains_iff]
    simp [BuildOptions.withBlocked, hpos]

/-- Two open issues that wait for another one, the last through the second. -/
def queue : Collection where
  issues :=
    [{ id := "a" },
      { id := "b", dependencies := [⟨"b", "a", .known .blocks⟩] },
      { id := "c", dependencies := [⟨"c", "b", .known .blocks⟩] }]

/-- An issue that is live blocked is a root blocker on the listing, and none in the graph. -/
theorem top_calls_blocked_issue_root_blocker :
    ∃ nodes g, Command.find (Board.new queue {}) (.top 10) = .ok (.top nodes) ∧
      Command.find (Board.new queue {}) (.graph {}) = .ok (.graph g) ∧
      "b" ∈ liveBlocked queue.issues ∧
      ("b", true) ∈ nodes.map (fun n => (n.issueId, n.data.isRootBlocker)) ∧
      ("b", false) ∈ g.nodes.map (fun n => (n.issueId, n.data.isRootBlocker)) := by
  have hsorted : ((Graph.build queue.issues {}).realNodes.filter
      (0 < ·.data.blockedCount)).Pairwise fun a b => a.blocksMore b = true := by
    decide +kernel
  refine ⟨_, _, find_top 10, find_graph, ?_, ?_, ?_⟩
  · rw [← SortedSet.contains_iff]
    decide +kernel
  · change _ ∈ ((Graph.build queue.issues {}).topBlockers 10).map _
    rw [Graph.topBlockers, List.mergeSort_of_pairwise hsorted]
    decide +kernel
  · decide +kernel

end CommandLine

end IssueGraph
