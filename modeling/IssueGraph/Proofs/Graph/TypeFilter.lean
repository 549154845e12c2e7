import IssueGraph.Proofs.Blocking.Pairs
import IssueGraph.Proofs.Graph.Structure

/-!
# Graphs under type filters

A filter on dependency types picks edges by their type alone, so graphs of one collection under two
filters differ by the edges whose types tell the filters apart. What is known of an issue without
looking at edges stays the same, what waits for it grows with the filter, and types that do not
block change neither. Main statement: `build_filteredBy`.
-/
namespace IssueGraph

/-- The options with another type filter. -/
def BuildOptions.filteredBy (o : BuildOptions) (types : Option (SortedSet DependencyType)) :
    BuildOptions :=
  { o with types := types }

/-- The type passes a filter; without a set every type does. -/
def Admits (types : Option (SortedSet DependencyType)) (t : DependencyType) : Prop :=
  ∀ S ∈ types, t ∈ S

/-- The type of the edge is among these. -/
def Edge.hasType (S : SortedSet DependencyType) (e : Edge) : Bool :=
  e.data.any fun d => S.contains d.depType

namespace Graph

variable {issues : List Issue} {options : BuildOptions} {d : Dependency}
  {types types' : Option (SortedSet DependencyType)} {S T : SortedSet DependencyType}

theorem mem_kept_filteredBy : d ∈ kept issues (options.filteredBy types) ↔
    Admits types d.type ∧ d ∈ kept issues (options.filteredBy none) := by
  rw [kept, kept, List.mem_filter, List.mem_filter, keeps_iff, keeps_iff]
  constructor
  · rintro ⟨hd, htype, htarget⟩
    exact ⟨htype, hd, nofun, htarget⟩
  · rintro ⟨htype, hd, -, htarget⟩
    exact ⟨hd, htype, htarget⟩

theorem kept_filteredBy_some : kept issues (options.filteredBy (some S)) =
    (kept issues (options.filteredBy none)).filter (S.contains ·.type) := by
  rw [kept, kept, List.filter_filter]
  refine List.filter_congr fun d _ => ?_
  simp [keeps, BuildOptions.accepts, BuildOptions.filteredBy]

theorem edges_build_filteredBy_some : (build issues (options.filteredBy (some S))).edges =
    (build issues (options.filteredBy none)).edges.filter (Edge.hasType S) := by
  rw [edges_build, edges_build, kept_filteredBy_some, List.filter_map]
  rfl

/-- Filters that part the types of a graph part its edges. -/
theorem edges_build_filteredBy_perm
    (hparts : ∀ e ∈ (build issues (options.filteredBy none)).edges, e.hasType T = !e.hasType S) :
    ((build issues (options.filteredBy (some S))).edges ++
      (build issues (options.filteredBy (some T))).edges).Perm
      (build issues (options.filteredBy none)).edges := by
  rw [edges_build_filteredBy_some, edges_build_filteredBy_some, List.filter_congr hparts]
  exact List.filter_append_perm _ _

theorem not_mem_edges_build_filteredBy
    (hparts : ∀ e ∈ (build issues (options.filteredBy none)).edges, e.hasType T = !e.hasType S)
    {e : Edge} (he : e ∈ (build issues (options.filteredBy (some S))).edges) :
    e ∉ (build issues (options.filteredBy (some T))).edges := by
  rw [edges_build_filteredBy_some, List.mem_filter] at he ⊢
  rintro ⟨-, hT⟩
  rw [hparts e he.1, he.2] at hT
  cases hT

/-- Only which blocking types pass matters to the analysis. -/
theorem waitsFor_analysedEdges_filteredBy_le
    (h : ∀ t, t.isBlocking = true → Admits types t → Admits types' t) :
    WaitsFor (analysedEdges issues (options.filteredBy types)) ≤
      WaitsFor (analysedEdges issues (options.filteredBy types')) := by
  intro x y hxy
  rw [waitsFor_analysedEdges] at hxy ⊢
  obtain ⟨hpresent, d, hd, hblocks, hx, hy⟩ := hxy
  obtain ⟨htype, hd⟩ := mem_kept_filteredBy.mp hd
  exact ⟨hpresent, d, mem_kept_filteredBy.mpr ⟨h d.type hblocks htype, hd⟩, hblocks, hx, hy⟩

theorem waitsFor_analysedEdges_filteredBy
    (h : ∀ t, t.isBlocking = true → (Admits types t ↔ Admits types' t)) :
    WaitsFor (analysedEdges issues (options.filteredBy types)) =
      WaitsFor (analysedEdges issues (options.filteredBy types')) :=
  le_antisymm (waitsFor_analysedEdges_filteredBy_le fun t ht => (h t ht).mp)
    (waitsFor_analysedEdges_filteredBy_le fun t ht => (h t ht).mpr)

theorem readiness_build_filteredBy :
    (build issues (options.filteredBy types)).realNodes.map
        (fun n => (n.data.issue, n.data.isReady, n.data.isClosed)) =
      (build issues (options.filteredBy types')).realNodes.map
        (fun n => (n.data.issue, n.data.isReady, n.data.isClosed)) := by
  rw [realNodes_build, realNodes_build, List.map_map, List.map_map]
  rfl

theorem blockedCount_build_filteredBy_le (h : ∀ t, Admits types t → Admits types' t) :
    List.Forall₂
      (fun n n' => n.data.issue = n'.data.issue ∧ n.data.blockedCount ≤ n'.data.blockedCount)
      (build issues (options.filteredBy types)).realNodes
      (build issues (options.filteredBy types')).realNodes := by
  rw [realNodes_build, realNodes_build, List.forall₂_map_left_iff, List.forall₂_map_right_iff,
    List.forall₂_same]
  intro i _
  exact ⟨rfl, blockedCount_mono (waitsFor_analysedEdges_filteredBy_le fun t _ => h t)⟩

theorem blockers_build_filteredBy
    (h : ∀ t, t.isBlocking = true → (Admits types t ↔ Admits types' t)) :
    (build issues (options.filteredBy types)).realNodes.map
        (fun n => (n.data.issue, n.data.blockedCount, n.data.isRootBlocker)) =
      (build issues (options.filteredBy types')).realNodes.map
        (fun n => (n.data.issue, n.data.blockedCount, n.data.isRootBlocker)) := by
  rw [realNodes_build, realNodes_build, List.map_map, List.map_map]
  have hwaits : WaitsFor (analysedEdges issues (options.filteredBy types)) =
      WaitsFor (analysedEdges issues (options.filteredBy types')) :=
    waitsFor_analysedEdges_filteredBy h
  refine List.map_congr_left fun i _ => ?_
  simp only [Function.comp_apply, realNode, blockedCount_congr hwaits]
  rfl

/-- A filter keeps the edges of its types in their order, so that two filters that part the types
part the edges. Whether an issue is ready or closed does not depend on the filter. A wider filter
lowers no blocked count, and filters that admit the same blocking types find the same counts and the
same root blockers. -/
theorem build_filteredBy (issues : List Issue) (options : BuildOptions) :
    (∀ S, (build issues (options.filteredBy (some S))).edges =
      (build issues (options.filteredBy none)).edges.filter (Edge.hasType S)) ∧
    (∀ S T, (∀ e ∈ (build issues (options.filteredBy none)).edges,
        e.hasType T = !e.hasType S) →
      ((build issues (options.filteredBy (some S))).edges ++
        (build issues (options.filteredBy (some T))).edges).Perm
        (build issues (options.filteredBy none)).edges ∧
      ∀ e ∈ (build issues (options.filteredBy (some S))).edges,
        e ∉ (build issues (options.filteredBy (some T))).edges) ∧
    (∀ types types',
      (build issues (options.filteredBy types)).realNodes.map
          (fun n => (n.data.issue, n.data.isReady, n.data.isClosed)) =
        (build issues (options.filteredBy types')).realNodes.map
          (fun n => (n.data.issue, n.data.isReady, n.data.isClosed))) ∧
    (∀ types types', (∀ t, Admits types t → Admits types' t) →
      List.Forall₂
        (fun n n' => n.data.issue = n'.data.issue ∧ n.data.blockedCount ≤ n'.data.blockedCount)
        (build issues (options.filteredBy types)).realNodes
        (build issues (options.filteredBy types')).realNodes) ∧
    ∀ types types', (∀ t, t.isBlocking = true → (Admits types t ↔ Admits types' t)) →
      (build issues (options.filteredBy types)).realNodes.map
          (fun n => (n.data.issue, n.data.blockedCount, n.data.isRootBlocker)) =
        (build issues (options.filteredBy types')).realNodes.map
          (fun n => (n.data.issue, n.data.blockedCount, n.data.isRootBlocker)) := by
  refine ⟨fun _ => edges_build_filteredBy_some, ?_, fun _ _ => readiness_build_filteredBy,
    fun _ _ => blockedCount_build_filteredBy_le, fun _ _ => blockers_build_filteredBy⟩
  intro S T hparts
  exact ⟨edges_build_filteredBy_perm hparts, fun _ => not_mem_edges_build_filteredBy hparts⟩

/-- The types that only link issues of the tangle. -/
def linkTypes : SortedSet DependencyType := .ofList [.known .related, .known .duplicates]

def blockTypes : SortedSet DependencyType := .ofList DependencyType.blockingTypes

theorem build_filteredBy_of_tangle :
    (∀ e ∈ (build tangledIssues (tangledOptions.filteredBy none)).edges,
      e.hasType blockTypes = !e.hasType linkTypes) ∧
    ((build tangledIssues (tangledOptions.filteredBy (some linkTypes))).edges ++
      (build tangledIssues (tangledOptions.filteredBy (some blockTypes))).edges).Perm
      (build tangledIssues (tangledOptions.filteredBy none)).edges ∧
    (∀ t, Admits (some linkTypes) t → Admits none t) ∧
    List.Forall₂
      (fun n n' => n.data.issue = n'.data.issue ∧ n.data.blockedCount ≤ n'.data.blockedCount)
      (build tangledIssues (tangledOptions.filteredBy (some linkTypes))).realNodes
      (build tangledIssues (tangledOptions.filteredBy none)).realNodes ∧
    (∀ t, t.isBlocking = true → (Admits (some blockTypes) t ↔ Admits none t)) ∧
    (build tangledIssues (tangledOptions.filteredBy (some blockTypes))).realNodes.map
        (fun n => (n.data.issue, n.data.blockedCount, n.data.isRootBlocker)) =
      (build tangledIssues (tangledOptions.filteredBy none)).realNodes.map
        (fun n => (n.data.issue, n.data.blockedCount, n.data.isRootBlocker)) := by
  have hparts : ∀ e ∈ (build tangledIssues (tangledOptions.filteredBy none)).edges,
      e.hasType blockTypes = !e.hasType linkTypes := by
    decide
  have hwider : ∀ t, Admits (some linkTypes) t → Admits none t := fun _ _ => nofun
  have hblocking : ∀ t, t.isBlocking = true → (Admits (some blockTypes) t ↔ Admits none t) := by
    intro t ht
    refine iff_of_true ?_ nofun
    rintro S ⟨⟩
    exact SortedSet.mem_ofList.mpr ((DependencyType.isBlocking_iff_mem t).mp ht)
  obtain ⟨-, hsplit, -, hcounts, hblockers⟩ := build_filteredBy tangledIssues tangledOptions
  exact ⟨hparts, (hsplit _ _ hparts).1, hwider, hcounts _ _ hwider, hblocking,
    hblockers _ _ hblocking⟩

end Graph

end IssueGraph
