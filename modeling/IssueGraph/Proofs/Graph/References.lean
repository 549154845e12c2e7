import IssueGraph.Proofs.Graph.BlockedCount

/-!
# References within a built graph

A graph is closed when each end of each edge is one of its nodes and each node counts the edges that
leave it. What a kept dependency points to always has a node, since a missing target gets a ghost.
Nothing makes a node for a missing dependent, and no edge that leaves a ghost is counted, so a built
graph is closed exactly when its kept dependencies are those of issues in the collection.
-/
namespace IssueGraph

theorem nodeId_inj {a b : IssueId} : nodeId a = nodeId b ↔ a = b := String.append_right_inj _

namespace Graph

variable {issues : List Issue} {options : BuildOptions} {id : IssueId}

/-- Some node of the graph has this id. -/
def HasNode (g : Graph) (id : String) : Prop := ∃ n ∈ g.nodes, n.id = id

/-- Edges join nodes of the graph, and nodes count the edges that leave them. -/
structure Closed (g : Graph) : Prop where
  source : ∀ e ∈ g.edges, g.HasNode e.source
  target : ∀ e ∈ g.edges, g.HasNode e.target
  dependencyCount : ∀ n ∈ g.nodes, n.data.dependencyCount = g.edges.countP (·.source == n.id)

theorem mem_nodes_iff {g : Graph} {n : Node} :
    n ∈ g.nodes ↔ n ∈ g.realNodes ∨ n ∈ g.ghostNodes := by
  rw [realNodes, ghostNodes, List.mem_filter, List.mem_filter, ← and_or_left]
  cases n.data.isGhost <;> simp

theorem mem_layout_nodes {g : Graph} {size : NodeDimensions} {id : String} (h : g.HasNode id) :
    id ∈ (g.layout size).nodes.map (·.1) := by
  obtain ⟨n, hn, rfl⟩ := h
  exact List.mem_map.mpr ⟨(n.id, size), List.mem_map.mpr ⟨n, hn, rfl⟩, rfl⟩

/-- The layout of a closed graph has no dangling edge either. -/
theorem Closed.layout {g : Graph} (h : g.Closed) (size : NodeDimensions) :
    ∀ p ∈ (g.layout size).edges, p.1 ∈ (g.layout size).nodes.map (·.1) ∧
      p.2 ∈ (g.layout size).nodes.map (·.1) := by
  intro p hp
  obtain ⟨e, he, rfl⟩ := List.mem_map.mp hp
  exact ⟨mem_layout_nodes (h.source e he), mem_layout_nodes (h.target e he)⟩

theorem mem_missingTargets {dependencies : List Dependency} :
    id ∈ missingTargets issues dependencies ↔
      isPresent issues id = false ∧ ∃ d ∈ dependencies, d.dependsOnId = id := by
  rw [missingTargets, List.mem_eraseDups, List.mem_filter, List.mem_map, and_comm,
    Bool.not_eq_true']

theorem ghostNodes_build : (build issues options).ghostNodes =
    (missingTargets issues (kept issues options)).map (ghostNode (kept issues options)) := by
  rw [ghostNodes, nodes_build, List.filter_append, List.filter_map, List.filter_map]
  change (issues.filter fun _ => false).map _ ++ (List.filter (fun _ => true) _).map _ = _
  rw [List.filter_true, List.filter_false, List.map_nil, List.nil_append]

theorem mem_ghostNodes_build {n : Node} : n ∈ (build issues options).ghostNodes ↔
    ∃ id ∈ missingTargets issues (kept issues options), ghostNode (kept issues options) id = n := by
  rw [ghostNodes_build, List.mem_map]

theorem mem_edges_build {e : Edge} : e ∈ (build issues options).edges ↔
    ∃ d ∈ kept issues options, Edge.ofDependency d = e :=
  List.mem_map

/-- The nodes of a built graph are those of its issues and those of its kept targets. -/
theorem hasNode_build_iff : (build issues options).HasNode (nodeId id) ↔
    isPresent issues id = true ∨ ∃ d ∈ kept issues options, d.dependsOnId = id := by
  constructor
  · rintro ⟨n, hn, hid⟩
    rcases mem_nodes_iff.mp hn with hreal | hghost
    · obtain ⟨i, hi, rfl⟩ := mem_realNodes_build.mp hreal
      obtain rfl := nodeId_inj.mp hid
      exact .inl (isPresent_of_mem_realNodes hreal)
    · obtain ⟨m, hm, rfl⟩ := mem_ghostNodes_build.mp hghost
      obtain rfl := nodeId_inj.mp hid
      exact .inr (mem_missingTargets.mp hm).2
  · intro h
    by_cases hpresent : isPresent issues id = true
    · obtain ⟨n, hn, rfl⟩ : ∃ n ∈ (build issues options).realNodes, n.issueId = id :=
        exists_realNode hpresent
      obtain ⟨i, -, rfl⟩ := mem_realNodes_build.mp hn
      exact ⟨_, mem_nodes_iff.mpr (.inl hn), rfl⟩
    · have hmissing : id ∈ missingTargets issues (kept issues options) :=
        mem_missingTargets.mpr ⟨by simpa using hpresent, h.resolve_left hpresent⟩
      exact ⟨_, mem_nodes_iff.mpr (.inr (mem_ghostNodes_build.mpr ⟨id, hmissing, rfl⟩)), rfl⟩

/-- A missing target gets a ghost, so no edge points to nowhere. -/
theorem hasNode_target {e : Edge} (he : e ∈ (build issues options).edges) :
    (build issues options).HasNode e.target := by
  obtain ⟨d, hd, rfl⟩ := mem_edges_build.mp he
  exact hasNode_build_iff.mpr (.inr ⟨d, hd, rfl⟩)

theorem forall_hasNode_source_iff :
    (∀ e ∈ (build issues options).edges, (build issues options).HasNode e.source) ↔
      ∀ d ∈ kept issues options, isPresent issues d.issueId = true ∨
        ∃ d' ∈ kept issues options, d'.dependsOnId = d.issueId := by
  constructor
  · intro h d hd
    exact hasNode_build_iff.mp (h _ (mem_edges_build.mpr ⟨d, hd, rfl⟩))
  · intro h e he
    obtain ⟨d, hd, rfl⟩ := mem_edges_build.mp he
    exact hasNode_build_iff.mpr (h d hd)

theorem countP_source_build : (build issues options).edges.countP (·.source == nodeId id) =
    (kept issues options).countP (·.issueId == id) := by
  have hsource : ((·.source == nodeId id) ∘ Edge.ofDependency : Dependency → Bool) =
      (·.issueId == id) := by
    funext d
    rw [Bool.eq_iff_iff, Function.comp_apply, beq_iff_eq, beq_iff_eq]
    exact nodeId_inj
  rw [build, List.countP_map, hsource]

theorem dependencyCount_of_mem_realNodes {n : Node} (hn : n ∈ (build issues options).realNodes) :
    n.data.dependencyCount = (build issues options).edges.countP (·.source == n.id) := by
  obtain ⟨i, -, rfl⟩ := mem_realNodes_build.mp hn
  exact countP_source_build.symm

/-- A ghost counts no edges, so its count is right exactly when it is no dependent. -/
theorem dependencyCount_of_mem_ghostNodes {n : Node}
    (hn : n ∈ (build issues options).ghostNodes) :
    n.data.dependencyCount = (build issues options).edges.countP (·.source == n.id) ↔
      ∀ d ∈ kept issues options, d.issueId ≠ n.issueId := by
  obtain ⟨id, -, rfl⟩ := mem_ghostNodes_build.mp hn
  have hcount : (build issues options).edges.countP (·.source == nodeId id) = 0 ↔
      ∀ d ∈ kept issues options, d.issueId ≠ id := by
    rw [countP_source_build, List.countP_eq_zero]
    simp only [beq_iff_eq, ne_eq]
  exact eq_comm.trans hcount

/-- A graph of dependencies of present issues is closed: whoever leaves a ghost would be one. -/
theorem closed_build (h : ∀ d ∈ kept issues options, isPresent issues d.issueId = true) :
    (build issues options).Closed where
  source := forall_hasNode_source_iff.mpr fun d hd => .inl (h d hd)
  target := fun _ => hasNode_target
  dependencyCount := by
    intro n hn
    rcases mem_nodes_iff.mp hn with hreal | hghost
    · exact dependencyCount_of_mem_realNodes hreal
    · refine (dependencyCount_of_mem_ghostNodes hghost).mpr ?_
      obtain ⟨id, hid, rfl⟩ := mem_ghostNodes_build.mp hghost
      rintro d hd rfl
      have hmissing : isPresent issues d.issueId = false := (mem_missingTargets.mp hid).1
      rw [h d hd] at hmissing
      exact Bool.noConfusion hmissing

/-- In a closed graph a missing dependent would be a ghost that an edge leaves. -/
theorem isPresent_of_closed_build (h : (build issues options).Closed) {d : Dependency}
    (hd : d ∈ kept issues options) : isPresent issues d.issueId = true := by
  by_contra hmissing
  have htarget : ∃ d' ∈ kept issues options, d'.dependsOnId = d.issueId :=
    (forall_hasNode_source_iff.mp h.source d hd).resolve_left hmissing
  have hghost : ghostNode (kept issues options) d.issueId ∈ (build issues options).ghostNodes :=
    mem_ghostNodes_build.mpr
      ⟨d.issueId, mem_missingTargets.mpr ⟨by simpa using hmissing, htarget⟩, rfl⟩
  exact (dependencyCount_of_mem_ghostNodes hghost).mp
    (h.dependencyCount _ (mem_nodes_iff.mpr (.inr hghost))) d hd rfl

/-- The targets of all edges are nodes, and the nodes of issues count the edges that leave them. The
sources of all edges are nodes exactly when each kept dependency has a present dependent or one that
is itself a kept target, and ghosts count right exactly when none of them is a dependent. So a built
graph is closed, and with it its layout, exactly when every kept dependency has a present
dependent. -/
theorem closed_build_iff (issues : List Issue) (options : BuildOptions) :
    (∀ e ∈ (build issues options).edges, (build issues options).HasNode e.target) ∧
    (∀ n ∈ (build issues options).realNodes,
      n.data.dependencyCount = (build issues options).edges.countP (·.source == n.id)) ∧
    ((∀ e ∈ (build issues options).edges, (build issues options).HasNode e.source) ↔
      ∀ d ∈ kept issues options, isPresent issues d.issueId = true ∨
        ∃ d' ∈ kept issues options, d'.dependsOnId = d.issueId) ∧
    (∀ n ∈ (build issues options).ghostNodes,
      (n.data.dependencyCount = (build issues options).edges.countP (·.source == n.id) ↔
        ∀ d ∈ kept issues options, d.issueId ≠ n.issueId)) ∧
    ((build issues options).Closed ↔
      ∀ d ∈ kept issues options, isPresent issues d.issueId = true) ∧
    ((∀ d ∈ kept issues options, isPresent issues d.issueId = true) →
      ∀ size, ∀ p ∈ ((build issues options).layout size).edges,
        p.1 ∈ ((build issues options).layout size).nodes.map (·.1) ∧
        p.2 ∈ ((build issues options).layout size).nodes.map (·.1)) := by
  refine ⟨fun _ => hasNode_target, fun _ => dependencyCount_of_mem_realNodes,
    forall_hasNode_source_iff, fun _ => dependencyCount_of_mem_ghostNodes, ⟨?_, closed_build⟩,
    fun h => (closed_build h).layout⟩
  intro h d hd
  exact isPresent_of_closed_build h hd

/-- An issue that carries a record of a missing issue on itself. -/
def strayLoop : List Issue := [{ id := "a", dependencies := [⟨"x", "x", .known .blocks⟩] }]

theorem closed_build_fails_on_missing_dependent :
    ((strayRecord.map (·.id)).Nodup ∧
      ∃ e ∈ (build strayRecord {}).edges, ¬ (build strayRecord {}).HasNode e.source) ∧
    (strayLoop.map (·.id)).Nodup ∧ ∃ n ∈ (build strayLoop { orphans := true }).ghostNodes,
      n.data.dependencyCount = 0 ∧
      (build strayLoop { orphans := true }).edges.countP (·.source == n.id) = 1 := by
  refine ⟨⟨by decide, Edge.ofDependency ⟨"z", "a", .known .blocks⟩, by decide, ?_⟩, by decide,
    ghostNode (kept strayLoop { orphans := true }) "x", by decide, rfl, by decide⟩
  rw [HasNode]
  decide

end Graph

end IssueGraph
