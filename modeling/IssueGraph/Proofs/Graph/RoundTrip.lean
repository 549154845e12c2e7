import IssueGraph.Proofs.Collection
import IssueGraph.Proofs.Graph.Structure
import IssueGraph.Proofs.Json.Pretty
import IssueGraph.Proofs.SortedMap
import IssueGraph.Report.Finding

/-!
# Reading written graphs

A built graph is read back from its JSON text, on one line or over several, if its counts fit 64
bits. What is written of a graph is fitted back to it whatever its positions are; a built graph has
all its nodes at the origin, so the only double in its text is zero. No count of a built graph
exceeds the number of its edges. Main statement: `Graph.readText_written_build`.
-/
namespace IssueGraph

open Json

/-! ## What is written is fitted back -/

/-- The counts of a node that lie below a limit. -/
structure NodeData.CountsBelow (limit : Nat) (d : NodeData) : Prop where
  dependencyCount : d.dependencyCount < limit
  dependentCount : d.dependentCount < limit
  blockedCount : d.blockedCount < limit

/-- The counts of a graph and of its nodes that lie below a limit. -/
structure Graph.CountsBelow (limit : Nat) (g : Graph) : Prop where
  nodes : ∀ n ∈ g.nodes, n.data.CountsBelow limit
  totalDependencies : g.totalDependencies < limit
  blockingDependencies : g.blockingDependencies < limit
  orphanEdgeCount : g.orphanEdgeCount < limit

theorem Json.fit_size {n : Nat} (h : n < Nat.pow 2 64) : Shape.size.fit (.int n) = .ok n :=
  fit_count h

theorem Position.fit_toJson (p : Position) : shape.fit p.toJson = .ok p :=
  fit_image (Fields.Written.fit (.given rfl (.given rfl .nil)) (by decide))

theorem NodeData.fit_toJson {d : NodeData} (h : d.CountsBelow (Nat.pow 2 64)) :
    shape.fit d.toJson = .ok d :=
  fit_image (Fields.Written.fit
    (.given d.issue.fit_toJson (.given (fit_size h.dependencyCount)
      (.given (fit_size h.dependentCount) (.given rfl (.given (fit_size h.blockedCount)
        (.given rfl (.given rfl (.given rfl .nil)))))))) (by decide))

theorem Node.fit_toJson {n : Node} (h : n.data.CountsBelow (Nat.pow 2 64)) :
    shape.fit n.toJson = .ok n :=
  fit_image (Fields.Written.fit
    (.given rfl (.given n.position.fit_toJson (.given (NodeData.fit_toJson h) .nil))) (by decide))

theorem Graph.fit_toJson {g : Graph} (h : g.CountsBelow (Nat.pow 2 64)) :
    shape.fit g.toJson = .ok g := by
  have hnodeIds : (Shape.image SortedMap.ofList (.table .text)).fit
      (.obj (g.nodeIds.entries.map fun e => (e.1, .str e.2))) = .ok g.nodeIds :=
    (fit_image (fit_table fun _ _ => rfl)).trans (congrArg Except.ok g.nodeIds.ofList_entries)
  exact fit_image (Fields.Written.fit
    (.given (fit_list fun n hn => Node.fit_toJson (h.nodes n hn))
      (.given (fit_list fun e _ => e.fit_toJson) (.given hnodeIds
        (.given (fit_size h.totalDependencies) (.given (fit_size h.blockingDependencies)
          (.given (fit_size h.orphanEdgeCount)
            (.given (fit_setOf (fun _ => rfl) g.missingTargetIds) .nil))))))) (by decide))

/-! ## The numbers in a text -/

section Numbers

variable {p : Number → Prop} {limit : Nat} (hp : ∀ n < limit, p (.int n))
include hp

theorem NodeData.every_toJson {d : NodeData} (h : d.CountsBelow limit)
    (hpriority : p (.int d.issue.priority.toNat)) : Every p d.toJson :=
  .obj (by
    simp [Every.bool, d.issue.every_toJson hpriority, Every.int (hp _ h.dependencyCount),
      Every.int (hp _ h.dependentCount), Every.int (hp _ h.blockedCount)])

theorem Node.every_toJson {n : Node} (h : n.data.CountsBelow limit)
    (hpriority : p (.int n.data.issue.priority.toNat)) (hzero : p (.float 0.0))
    (hposition : n.position = {}) : Every p n.toJson := by
  have hplace : Every p n.position.toJson := by
    rw [hposition]
    exact .obj (by simp [Every.float hzero])
  exact .obj (by simp [Every.str, hplace, NodeData.every_toJson hp h hpriority])

theorem Graph.every_toJson {g : Graph} (h : g.CountsBelow limit) (hlimit : 256 ≤ limit)
    (hzero : p (.float 0.0)) (hposition : ∀ n ∈ g.nodes, n.position = {}) :
    Every p g.toJson := by
  have hnode : ∀ n ∈ g.nodes, Every p n.toJson := fun n hn =>
    Node.every_toJson hp (h.nodes n hn)
      (hp _ (Nat.lt_of_lt_of_le n.data.issue.priority.toNat_lt hlimit)) hzero (hposition n hn)
  have hnodes : Every p (.arr (g.nodes.map Node.toJson)) :=
    .arr (List.forall_mem_map.mpr hnode)
  have hedges : Every p (.arr (g.edges.map Edge.toJson)) := .arr_map Edge.every_toJson
  have hnodeIds : Every p (.obj (g.nodeIds.entries.map fun e => (e.1, .str e.2))) :=
    .obj (List.forall_mem_map.mpr fun e _ => .str e.2)
  have hmissing : Every p (idsJson g.missingTargetIds) := .arr_map fun _ => .str _
  exact .obj (by
    simp [hnodes, hedges, hnodeIds, hmissing, Every.int (hp _ h.totalDependencies),
      Every.int (hp _ h.blockingDependencies), Every.int (hp _ h.orphanEdgeCount)])

end Numbers

namespace Graph

variable {issues : List Issue} {options : BuildOptions}

/-! ## Built graphs -/

theorem position_of_mem_nodes_build {n : Node} (hn : n ∈ (build issues options).nodes) :
    n.position = {} := by
  rcases mem_nodes_build.mp hn with ⟨i, -, rfl⟩ | ⟨m, -, rfl⟩
  · rfl
  · rfl

theorem length_analysedEdges_le :
    (analysedEdges issues options).length ≤ (build issues options).totalDependencies := by
  rw [analysedEdges, List.length_map]
  exact List.length_filter_le _ _

/-- Every count counts some of the edges. -/
theorem countsBelow_build {limit : Nat}
    (h : (build issues options).totalDependencies < limit) :
    (build issues options).CountsBelow limit where
  nodes := by
    intro n hn
    rcases mem_nodes_build.mp hn with ⟨i, -, rfl⟩ | ⟨m, -, rfl⟩
    · exact ⟨Nat.lt_of_le_of_lt List.countP_le_length h,
        Nat.lt_of_le_of_lt List.countP_le_length h,
        Nat.lt_of_le_of_lt (blockedCount_le_length.trans length_analysedEdges_le) h⟩
    · exact ⟨Nat.zero_lt_of_lt h, Nat.lt_of_le_of_lt List.countP_le_length h,
        Nat.zero_lt_of_lt h⟩
  totalDependencies := h
  blockingDependencies := Nat.lt_of_le_of_lt List.countP_le_length h
  orphanEdgeCount := Nat.lt_of_le_of_lt List.countP_le_length h

/-- A built graph whose edges can be counted in 64 bits is read back from its text on one line, from
its text over several lines and from what is printed of it. -/
theorem readText_written_build (issues : List Issue) (options : BuildOptions)
    (h : (build issues options).totalDependencies < Nat.pow 2 64) (console : Report.Console) :
    shape.readText (build issues options).toJson.compactText = .ok (build issues options) ∧
    shape.readText (build issues options).toJson.prettyText = .ok (build issues options) ∧
    shape.readText ((Report.Finding.graph (build issues options)).print true console).1 =
      .ok (build issues options) := by
  have hcounts := countsBelow_build h
  have hfit := fit_toJson hcounts
  have hnumerals : Every (fun n => Numeral n.toJson.compact n) (build issues options).toJson :=
    every_toJson (fun _ hn => numeral_natCast hn) hcounts (by decide) numeral_zero
      fun _ => position_of_mem_nodes_build
  refine ⟨Shape.readText_compactText hnumerals hfit, Shape.readText_prettyText hnumerals hfit, ?_⟩
  -- A line break stands behind what is printed.
  exact Shape.readText_pretty hnumerals (blank_newline 0) hfit

theorem readText_written_build_awkward :
    (build [Collection.awkwardIssue] { orphans := true }).totalDependencies < Nat.pow 2 64 ∧
    (build [Collection.awkwardIssue] { orphans := true }).edges.map (·.target) =
      ["node-\u2028"] ∧
    shape.readText (build [Collection.awkwardIssue] { orphans := true }).toJson.compactText =
      .ok (build [Collection.awkwardIssue] { orphans := true }) ∧
    shape.readText (Report.printJson
      (build [Collection.awkwardIssue] { orphans := true }).toJson) =
      .ok (build [Collection.awkwardIssue] { orphans := true }) := by
  have hcount : (build [Collection.awkwardIssue] { orphans := true }).totalDependencies <
      Nat.pow 2 64 := by
    decide
  obtain ⟨hcompact, -, hprinted⟩ := readText_written_build [Collection.awkwardIssue]
    { orphans := true } hcount ⟨fun _ => none, false, none⟩
  exact ⟨hcount, by decide, hcompact, hprinted⟩

end Graph

end IssueGraph
