import IssueGraph.Proofs.Blocking.Chain

/-!
# Chains and blocking pairs

Walks meet issues in an order that the edges decide, but what they reach and whether they are cut
follows from distances alone, and these from the blocking pairs. Two edge lists with the same pairs
therefore have the same chains and counts. Read backwards, a way down from `x` to `y` is a way up
from `y` to `x`, so turning every edge around exchanges the two sides of each chain.
-/
namespace IssueGraph

variable {edges edges' : List Edge} {id x y : IssueId} {depth : Nat}

theorem waitsFor_congr (h : ∀ p, p ∈ blockingPairs edges ↔ p ∈ blockingPairs edges') :
    WaitsFor edges = WaitsFor edges' := by
  funext x y
  have hxy := h (x, y)
  rw [mem_blockingPairs, mem_blockingPairs] at hxy
  exact propext hxy

theorem Chain.ofEdges_congr (h : WaitsFor edges = WaitsFor edges') :
    ofEdges edges id depth = ofEdges edges' id depth := by
  apply ofEdges_eq_of_mem
  · intro x
    rw [mem_blockers, mem_blockers, h]
  · intro x
    rw [mem_blockedBy, mem_blockedBy, h]
  · rw [Bool.eq_iff_iff, truncated_iff, truncated_iff, h]

theorem blockedCount_congr (h : WaitsFor edges = WaitsFor edges') :
    blockedCount (blockingPairs edges) id = blockedCount (blockingPairs edges') id := by
  rw [← ENat.natCast_inj, blockedCount_eq_encard, blockedCount_eq_encard, h]

/-- Chains and counts depend only on which pairs block, not on the order or number of the edges nor
on anything else that edges carry. -/
theorem analyses_of_same_pairs (edges edges' : List Edge)
    (h : ∀ p, (∃ e ∈ edges, e.blockingPair? = some p) ↔ ∃ e ∈ edges', e.blockingPair? = some p) :
    (∀ id depth, Chain.ofEdges edges id depth = Chain.ofEdges edges' id depth) ∧
      ∀ ids, blockedCounts ids edges = blockedCounts ids edges' := by
  have hwaits : WaitsFor edges = WaitsFor edges' := waitsFor_congr fun p => by
    simpa only [blockingPairs, List.mem_filterMap] using h p
  constructor
  · intro id depth
    exact Chain.ofEdges_congr hwaits
  · intro ids
    have hcount : blockedCount (blockingPairs edges) = blockedCount (blockingPairs edges') :=
      funext fun id => blockedCount_congr hwaits
    rw [blockedCounts, hcount, blockedCounts]

/-- The ring with other types, one pair twice, an edge that blocks nothing and one without data. -/
def Chain.ringAgain : List Edge :=
  { id := "", source := "d", target := "a", data := none } ::
    [⟨"c", "a", .known .parentChild⟩, ⟨"a", "b", .known .waitsFor⟩, ⟨"a", "c", .known .related⟩,
      ⟨"b", "c", .known .blocks⟩, ⟨"a", "b", .known .blocks⟩].map fun d =>
        { Edge.ofDependency d with id := "", source := d.dependsOnId }

theorem analyses_of_same_pairs_on_ring :
    (∀ p, (∃ e ∈ Chain.ringEdges, e.blockingPair? = some p) ↔
      ∃ e ∈ Chain.ringAgain, e.blockingPair? = some p) ∧
    Chain.ofEdges Chain.ringEdges "a" 1 = Chain.ofEdges Chain.ringAgain "a" 1 ∧
    blockedCounts ["a", "d"] Chain.ringEdges = blockedCounts ["a", "d"] Chain.ringAgain := by
  have hpairs : ∀ p, (∃ e ∈ Chain.ringEdges, e.blockingPair? = some p) ↔
      ∃ e ∈ Chain.ringAgain, e.blockingPair? = some p := by
    have hring : blockingPairs Chain.ringEdges = [("a", "b"), ("b", "c"), ("c", "a")] := by decide
    have hagain : blockingPairs Chain.ringAgain =
        [("c", "a"), ("a", "b"), ("b", "c"), ("a", "b")] := by
      decide
    intro p
    rw [← List.mem_filterMap, ← List.mem_filterMap]
    change p ∈ blockingPairs Chain.ringEdges ↔ p ∈ blockingPairs Chain.ringAgain
    rw [hring, hagain]
    simp only [List.mem_cons, List.not_mem_nil, or_false]
    tauto
  obtain ⟨hchains, hcounts⟩ :=
    analyses_of_same_pairs Chain.ringEdges Chain.ringAgain hpairs
  exact ⟨hpairs, hchains "a" 1, hcounts ["a", "d"]⟩

/-- The edge with the two issues of its data exchanged. -/
def Edge.turned (e : Edge) : Edge :=
  { e with data := e.data.map fun d =>
    { d with sourceIssueId := d.targetIssueId, targetIssueId := d.sourceIssueId } }

theorem Edge.blockingPair?_turned {e : Edge} :
    e.turned.blockingPair? = some (x, y) ↔ e.blockingPair? = some (y, x) := by
  obtain ⟨id, source, target, data⟩ := e
  cases data with
  | none => simp [turned, blockingPair?]
  | some d => simp [turned, blockingPair?, and_comm]

theorem waitsFor_turned : WaitsFor (edges.map Edge.turned) = flip (WaitsFor edges) := by
  funext x y
  have h : WaitsFor (edges.map Edge.turned) x y ↔ WaitsFor edges y x := by
    simp [WaitsFor, Edge.blockingPair?_turned]
  exact propext h

namespace Chain

theorem mem_blockedBy_iff_mem_blockers :
    y ∈ (ofEdges edges x depth).blockedBy ↔ x ∈ (ofEdges edges y depth).blockers := by
  rw [mem_blockedBy, mem_blockers, ne_comm]

theorem blockers_turned :
    (ofEdges (edges.map Edge.turned) id depth).blockers = (ofEdges edges id depth).blockedBy := by
  refine SortedSet.ext fun y => ?_
  rw [mem_blockers, mem_blockedBy, waitsFor_turned]
  simp only [distance_flip]

theorem blockedBy_turned :
    (ofEdges (edges.map Edge.turned) id depth).blockedBy = (ofEdges edges id depth).blockers := by
  refine SortedSet.ext fun y => ?_
  rw [mem_blockedBy, mem_blockers, waitsFor_turned]
  simp only [distance_flip]

theorem truncated_turned :
    (ofEdges (edges.map Edge.turned) id depth).truncated = (ofEdges edges id depth).truncated := by
  rw [Bool.eq_iff_iff, truncated_iff, truncated_iff, waitsFor_turned]
  simp only [distance_flip, or_comm]

/-- At every depth `x` blocks `y` exactly when `y` is blocked by `x`, and turning all edges around
exchanges the two sides of each chain and truncates the same chains. -/
theorem mirrored (edges : List Edge) (depth : Nat) :
    (∀ x y, y ∈ (ofEdges edges x depth).blockedBy ↔ x ∈ (ofEdges edges y depth).blockers) ∧
    ∀ id,
      (ofEdges (edges.map Edge.turned) id depth).blockers = (ofEdges edges id depth).blockedBy ∧
      (ofEdges (edges.map Edge.turned) id depth).blockedBy = (ofEdges edges id depth).blockers ∧
      (ofEdges (edges.map Edge.turned) id depth).blockedCount =
        (ofEdges edges id depth).blockers.size ∧
      (ofEdges (edges.map Edge.turned) id depth).truncated =
        (ofEdges edges id depth).truncated := by
  constructor
  · intro x y
    exact mem_blockedBy_iff_mem_blockers
  · intro id
    refine ⟨blockers_turned, blockedBy_turned, ?_, truncated_turned⟩
    rw [blockedCount_eq_size, blockedBy_turned]

end Chain

end IssueGraph
