import IssueGraph.Blocking.Chain
import IssueGraph.Proofs.Search

/-!
# Walks along blocking edges

An issue waits for another when some edge blocks it by the other one. A walk reaches exactly the
other issues within its limit of hops along this relation, or against it, and is cut exactly when an
issue lies farther away. Without a limit it reaches whatever the relation reaches.
-/
namespace IssueGraph

variable {edges : List Edge} {direction : Direction} {limit : Option Nat} {id x y : IssueId}

/-- Some edge blocks `x` by `y`. -/
def WaitsFor (edges : List Edge) (x y : IssueId) : Prop :=
  ∃ e ∈ edges, e.blockingPair? = some (x, y)

/-- The id is an end of some blocking edge. -/
def OnBlockingEdge (edges : List Edge) (x : IssueId) : Prop :=
  ∃ y, WaitsFor edges x y ∨ WaitsFor edges y x

/-- One hop of a walk in a direction. -/
def Direction.Along (direction : Direction) (edges : List Edge) : IssueId → IssueId → Prop :=
  match direction with
  | .toBlockers => WaitsFor edges
  | .toBlocked => flip (WaitsFor edges)

theorem blockingPair?_ofDependency {d : Dependency} :
    (Edge.ofDependency d).blockingPair? = some (x, y) ↔
      d.type.isBlocking = true ∧ d.issueId = x ∧ d.dependsOnId = y := by
  simp [Edge.blockingPair?, Edge.ofDependency]

theorem waitsFor_map_ofDependency {dependencies : List Dependency} :
    WaitsFor (dependencies.map Edge.ofDependency) x y ↔
      ∃ d ∈ dependencies, d.type.isBlocking = true ∧ d.issueId = x ∧ d.dependsOnId = y := by
  simp [WaitsFor, blockingPair?_ofDependency]

theorem mem_blockingPairs : (x, y) ∈ blockingPairs edges ↔ WaitsFor edges x y := by
  simp [blockingPairs, WaitsFor]

theorem mem_neighbours {pairs : List (IssueId × IssueId)} :
    y ∈ neighbours direction pairs x ↔ ∃ p ∈ pairs, direction.orient p = (x, y) := by
  simp [neighbours, Prod.ext_iff]

theorem mem_endpoints {pairs : List (IssueId × IssueId)} :
    x ∈ endpoints pairs ↔ ∃ p ∈ pairs, x = p.1 ∨ x = p.2 := by
  simp [endpoints]

/-- Every hop leads to an end of a pair. -/
theorem neighbours_subset_endpoints (direction : Direction) (pairs : List (IssueId × IssueId))
    (x : IssueId) : ∀ y ∈ neighbours direction pairs x, y ∈ endpoints pairs := by
  intro y hy
  obtain ⟨p, hp, horient⟩ := mem_neighbours.mp hy
  refine mem_endpoints.mpr ⟨p, hp, ?_⟩
  cases direction with
  | toBlockers => exact .inr (congrArg Prod.snd horient).symm
  | toBlocked => exact .inl (congrArg Prod.snd horient).symm

theorem hop_neighbours :
    Search.Hop (neighbours direction (blockingPairs edges)) = direction.Along edges := by
  funext x y
  refine propext (mem_neighbours.trans ?_)
  cases direction with
  | toBlockers =>
    constructor
    · rintro ⟨p, hp, rfl⟩
      exact mem_blockingPairs.mp hp
    · intro h
      exact ⟨(x, y), mem_blockingPairs.mpr h, rfl⟩
  | toBlocked =>
    constructor
    · rintro ⟨p, hp, horient⟩
      obtain ⟨rfl, rfl⟩ := Prod.mk.inj horient
      exact mem_blockingPairs.mp hp
    · intro h
      exact ⟨(y, x), mem_blockingPairs.mpr h, rfl⟩

theorem mem_endpoints_blockingPairs : x ∈ endpoints (blockingPairs edges) ↔ OnBlockingEdge edges x := by
  rw [mem_endpoints]
  constructor
  · rintro ⟨⟨y, z⟩, hp, rfl | rfl⟩
    · exact ⟨z, .inl (mem_blockingPairs.mp hp)⟩
    · exact ⟨y, .inr (mem_blockingPairs.mp hp)⟩
  · rintro ⟨y, h | h⟩
    · exact ⟨(x, y), mem_blockingPairs.mpr h, .inl rfl⟩
    · exact ⟨(y, x), mem_blockingPairs.mpr h, .inr rfl⟩

theorem Direction.Along.onBlockingEdge (h : direction.Along edges x y) :
    OnBlockingEdge edges x ∧ OnBlockingEdge edges y := by
  cases direction with
  | toBlockers => exact ⟨⟨y, .inl h⟩, ⟨x, .inr h⟩⟩
  | toBlocked => exact ⟨⟨y, .inr h⟩, ⟨x, .inl h⟩⟩

/-- Only an end of a blocking edge is at a distance from anything else. -/
theorem onBlockingEdge_of_distance {n : Nat} (h : Distance (direction.Along edges) {id} n x)
    (hn : n ≠ 0) : OnBlockingEdge edges id := by
  obtain ⟨m, rfl⟩ := Nat.exists_eq_succ_of_ne_zero hn
  obtain ⟨a, rfl, hops⟩ := h.reached
  obtain ⟨b, hab⟩ := hops.exists_first
  exact hab.onBlockingEdge.1

/-- Where the walk from `id` starts. -/
def walkSources (edges : List Edge) (id : IssueId) : List IssueId :=
  [id].filter (endpoints (blockingPairs edges)).contains

theorem mem_walkSources : x ∈ walkSources edges id ↔ x = id ∧ OnBlockingEdge edges id := by
  rw [walkSources, List.mem_filter, List.mem_singleton, List.contains_iff_mem,
    mem_endpoints_blockingPairs]
  exact and_congr_right fun h => h ▸ Iff.rfl

theorem nodup_walkSources (edges : List Edge) (id : IssueId) : (walkSources edges id).Nodup :=
  (List.nodup_singleton id).filter _

theorem walkStart_eq :
    walkStart (blockingPairs edges) id =
      .start (walkSources edges id) (endpoints (blockingPairs edges)) :=
  rfl

theorem distance_walkSources {n : Nat} :
    Distance (direction.Along edges) {y | y ∈ walkSources edges id} n x ↔
      OnBlockingEdge edges id ∧ Distance (direction.Along edges) {id} n x := by
  by_cases hid : OnBlockingEdge edges id
  · have hsources : {y | y ∈ walkSources edges id} = {id} := by
      ext y
      exact mem_walkSources.trans (and_iff_left hid)
    rw [hsources, and_iff_right hid]
  · constructor
    · intro h
      obtain ⟨y, hy, -⟩ := h.reached
      exact absurd (mem_walkSources.mp hy).2 hid
    · exact fun h => absurd h.1 hid

theorem depth_neighbours {n : Nat} :
    Search.Depth (neighbours direction (blockingPairs edges)) (walkSources edges id) n x ↔
      OnBlockingEdge edges id ∧ Distance (direction.Along edges) {id} n x := by
  rw [Search.Depth, hop_neighbours, distance_walkSources]

theorem mem_visited_walk {n : Nat} :
    (x, n) ∈ (walk direction (blockingPairs edges) limit id).visited ↔
      (∀ l ∈ limit, n ≤ l) ∧ OnBlockingEdge edges id ∧
        Distance (direction.Along edges) {id} n x := by
  rw [walk, walkStart_eq, Search.State.mem_visited_run_start (nodup_walkSources edges id)
    (neighbours_subset_endpoints _ _), depth_neighbours]

/-- A walk reaches the other issues within its limit. -/
theorem mem_reached_walk :
    x ∈ (walk direction (blockingPairs edges) limit id).reached ↔
      x ≠ id ∧ ∃ n, (∀ l ∈ limit, n ≤ l) ∧ Distance (direction.Along edges) {id} n x := by
  have hmem : x ∈ (walk direction (blockingPairs edges) limit id).reached ↔
      ∃ n, (x, n) ∈ (walk direction (blockingPairs edges) limit id).visited ∧ n ≠ 0 := by
    simp [Search.State.reached]
  rw [hmem]
  constructor
  · rintro ⟨n, hn, hzero⟩
    obtain ⟨hlimit, -, hdist⟩ := mem_visited_walk.mp hn
    refine ⟨?_, n, hlimit, hdist⟩
    rintro rfl
    exact hzero (hdist.unique (distance_zero_iff.mpr rfl))
  · rintro ⟨hne, n, hlimit, hdist⟩
    have hn : n ≠ 0 := Nat.one_le_iff_ne_zero.mp (hdist.one_le hne)
    exact ⟨n, mem_visited_walk.mpr ⟨hlimit, onBlockingEdge_of_distance hdist hn, hdist⟩, hn⟩

theorem nodup_reached_walk : (walk direction (blockingPairs edges) limit id).reached.Nodup := by
  have hvisited : ((walk direction (blockingPairs edges) limit id).visited.map (·.1)).Nodup :=
    Search.State.nodup_visited_run_start (nodup_walkSources edges id)
      (neighbours_subset_endpoints _ _)
  exact hvisited.sublist (List.filter_sublist.map _)

/-- A walk is cut exactly when an issue lies beyond its limit. -/
theorem cut_walk {depth : Nat} :
    (walk direction (blockingPairs edges) (some depth) id).cut = true ↔
      ∃ y n, depth < n ∧ Distance (direction.Along edges) {id} n y := by
  rw [walk, walkStart_eq, Search.State.cut_run_start (nodup_walkSources edges id)
    (neighbours_subset_endpoints _ _)]
  simp only [depth_neighbours, Option.mem_some, exists_eq_left']
  refine exists_congr fun y => exists_congr fun n => and_congr_right fun hn => ?_
  exact and_iff_right_of_imp fun h => onBlockingEdge_of_distance h (Nat.ne_zero_of_lt hn)

/-- The blocked count has no limit: it counts whatever waits for the issue, however far away. -/
theorem blockedCount_eq_encard :
    (blockedCount (blockingPairs edges) id : ℕ∞) = (othersReaching (WaitsFor edges) id).encard := by
  refine (encard_eq_length nodup_reached_walk fun x => ?_).symm
  rw [mem_reached_walk, mem_othersReaching_iff_distance]
  simp [Direction.Along, distance_flip]

/-- Whoever waits over some edges still waits over more. -/
theorem blockedCount_mono {edges' : List Edge} (h : WaitsFor edges ≤ WaitsFor edges') :
    blockedCount (blockingPairs edges) id ≤ blockedCount (blockingPairs edges') id := by
  rw [← ENat.natCast_le_natCast, blockedCount_eq_encard, blockedCount_eq_encard]
  refine Set.encard_le_encard ?_
  rintro x ⟨hne, hway⟩
  exact ⟨hne, Relation.TransGen.mono h x id hway⟩

/-- Each issue that waits has an edge of its own. -/
theorem blockedCount_le_length : blockedCount (blockingPairs edges) id ≤ edges.length := by
  have hsub : othersReaching (WaitsFor edges) id ⊆
      (((blockingPairs edges).map (·.1)).toFinset : Finset IssueId) := by
    rintro x ⟨-, hway⟩
    obtain ⟨y, hxy, -⟩ := Relation.TransGen.head'_iff.mp hway
    rw [List.coe_toFinset]
    exact List.mem_map.mpr ⟨(x, y), mem_blockingPairs.mpr hxy, rfl⟩
  have hcard : ((blockingPairs edges).map (·.1)).toFinset.card ≤ edges.length := by
    refine (List.toFinset_card_le _).trans ?_
    rw [List.length_map]
    exact List.length_filterMap_le _ _
  rw [← ENat.natCast_le_natCast, blockedCount_eq_encard]
  refine (Set.encard_le_encard hsub).trans ?_
  rw [Set.encard_coe_eq_coe_finsetCard]
  exact Nat.cast_le.mpr hcard

namespace Chain

variable {depth : Nat}

theorem mem_blockers : x ∈ (ofEdges edges id depth).blockers ↔
    x ≠ id ∧ ∃ n ≤ depth, Distance (WaitsFor edges) {id} n x := by
  refine SortedSet.mem_ofList.trans (mem_reached_walk.trans ?_)
  simp [Direction.Along]

theorem mem_blockedBy : x ∈ (ofEdges edges id depth).blockedBy ↔
    x ≠ id ∧ ∃ n ≤ depth, Distance (WaitsFor edges) {x} n id := by
  refine SortedSet.mem_ofList.trans (mem_reached_walk.trans ?_)
  simp [Direction.Along, distance_flip]

theorem blockedCount_eq_size :
    (ofEdges edges id depth).blockedCount = (ofEdges edges id depth).blockedBy.size :=
  (SortedSet.size_ofList nodup_reached_walk).symm

theorem truncated_iff_or : (ofEdges edges id depth).truncated = true ↔
    (∃ y n, depth < n ∧ Distance (WaitsFor edges) {id} n y) ∨
      ∃ y n, depth < n ∧ Distance (WaitsFor edges) {y} n id := by
  refine Bool.or_eq_true_iff.trans ?_
  rw [cut_walk, cut_walk]
  simp [Direction.Along, distance_flip]

theorem truncated_iff : (ofEdges edges id depth).truncated = true ↔
    ∃ y n, depth < n ∧
      (Distance (WaitsFor edges) {id} n y ∨ Distance (WaitsFor edges) {y} n id) := by
  rw [truncated_iff_or, ← exists_or]
  refine exists_congr fun y => ?_
  rw [← exists_or]
  exact exists_congr fun n => and_or_left.symm

/-- A chain is determined by its two sets and by whether it was cut. -/
theorem ofEdges_eq_of_mem {edges' : List Edge} {id' : IssueId} {depth' : Nat}
    (hup : ∀ x, x ∈ (ofEdges edges id depth).blockers ↔ x ∈ (ofEdges edges' id' depth').blockers)
    (hdown : ∀ x,
      x ∈ (ofEdges edges id depth).blockedBy ↔ x ∈ (ofEdges edges' id' depth').blockedBy)
    (hcut : (ofEdges edges id depth).truncated = (ofEdges edges' id' depth').truncated) :
    ofEdges edges id depth = ofEdges edges' id' depth' := by
  have hblockers := SortedSet.ext hup
  have hblockedBy := SortedSet.ext hdown
  refine Chain.ext hblockers hblockedBy ?_ hcut
  rw [blockedCount_eq_size, blockedCount_eq_size, hblockedBy]

end Chain

end IssueGraph
