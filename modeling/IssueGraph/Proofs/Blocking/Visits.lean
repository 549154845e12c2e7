import IssueGraph.Proofs.Blocking.Chain
import IssueGraph.Proofs.Blocking.Live
import IssueGraph.Proofs.Search.Running

/-!
# What the searches visit, and how often

A walk along blocking edges and the search for live blocked issues are searches whose queues are
filled in no particular order. Each of them takes every id off its queue at most once, at its
distance from the start, and so ends after no more steps than there are ids to visit. Main statement:
`searches_visit_once`.
-/
namespace IssueGraph

open Search.State (Running)

/-! ## Walks -/

section Walk

variable {edges : List Edge} {direction : Direction} {limit : Option Nat} {id x : IssueId}
  {n : Nat} {s : Search.State IssueId}

/-- The states of the walk from `id`, with the number of steps taken. -/
def Walking (direction : Direction) (edges : List Edge) (limit : Option Nat) (id : IssueId) :
    Nat → Search.State IssueId → Prop :=
  Running (neighbours direction (blockingPairs edges)) limit (walkStart (blockingPairs edges) id)

theorem Walking.orderly_sources (h : Walking direction edges limit id n s) :
    s.Orderly (direction.Along edges) {y | y ∈ walkSources edges id} n :=
  hop_neighbours ▸ Running.orderly (nodup_walkSources edges id) (neighbours_subset_endpoints _ _) h

theorem Walking.orderly (h : Walking direction edges limit id n s) :
    s.Orderly (direction.Along edges) {id} n where
  steps := h.orderly_sources.steps
  once := h.orderly_sources.once
  sorted := h.orderly_sources.sorted
  span := h.orderly_sources.span
  shortest := fun e he => (distance_walkSources.mp (h.orderly_sources.shortest e he)).2

/-- Only ends of blocking edges are visited. -/
theorem Walking.onBlockingEdge (h : Walking direction edges limit id n s) :
    ∀ e ∈ s.visited, OnBlockingEdge edges e.1 := by
  intro e he
  refine Distance.mem_of_subset (T := {y | OnBlockingEdge edges y}) ?_ ?_
    (h.orderly_sources.shortest e (List.mem_append_left _ he))
  · intro y hy
    obtain ⟨rfl, hon⟩ := mem_walkSources.mp hy
    exact hon
  · exact fun a b hab => hab.onBlockingEdge.2

end Walk

/-! ## Live blocked issues -/

namespace Live

variable {issues : List Issue} {x y : IssueId} {n : Nat} {s : Search.State IssueId}

/-- The open issue `y` passes a block on to its open child `x`. -/
def PassesOn (issues : List Issue) (y x : IssueId) : Prop :=
  Recorded issues (.known .parentChild) x y ∧ Open issues x ∧ Open issues y

/-- The open issue needs an open issue through a record that blocks directly. -/
def Waits (issues : List Issue) (x : IssueId) : Prop :=
  Open issues x ∧ ∃ t y, t.blocksDirectly = true ∧ Recorded issues t x y ∧ Open issues y

/-- The states of the search for live blocked issues, with the number of steps taken. -/
def Propagating (issues : List Issue) : Nat → Search.State IssueId → Prop :=
  Running (children (openDependencies issues)) (some maxLevels)
    (.start (directlyBlocked (openDependencies issues))
      ((openDependencies issues).map (·.issueId)))

section DistinctIds

variable (hids : (issues.map (·.id)).Nodup)
include hids

theorem hop_children :
    Search.Hop (children (openDependencies issues)) = PassesOn issues := by
  funext y x
  exact propext (mem_children.trans (mem_openDependencies hids))

theorem mem_directlyBlocked_iff :
    x ∈ directlyBlocked (openDependencies issues) ↔ Waits issues x := by
  simp only [mem_directlyBlocked, mem_openDependencies hids, Waits]
  constructor
  · rintro ⟨t, y, ht, hneeds, hx, hy⟩
    exact ⟨hx, t, y, ht, hneeds, hy⟩
  · rintro ⟨hx, t, y, ht, hneeds, hy⟩
    exact ⟨t, y, ht, hneeds, hx, hy⟩

theorem Propagating.orderly (h : Propagating issues n s) :
    s.Orderly (PassesOn issues) {x | Waits issues x} n := by
  have hsources : {x | x ∈ directlyBlocked (openDependencies issues)} = {x | Waits issues x} := by
    ext x
    exact mem_directlyBlocked_iff hids
  rw [← hop_children hids, ← hsources]
  exact Running.orderly (nodup_directlyBlocked _) (children_subset _) h

/-- Only open issues are visited, so there are no more steps than issues. -/
theorem Propagating.steps_le (h : Propagating issues n s) : n ≤ issues.length := by
  have hvisited : ∀ e ∈ s.visited, e.1 ∈ {x | x ∈ issues.map (·.id)} := by
    intro e he
    have hopen : e.1 ∈ {x | Open issues x} :=
      ((h.orderly hids).shortest e (List.mem_append_left _ he)).mem_of_subset
        (fun x hx => hx.1) fun y x hx => hx.2.1
    obtain ⟨i, hi, hid, -⟩ := hopen
    exact List.mem_map.mpr ⟨i, hi, hid⟩
  have hcount : {x | x ∈ issues.map (·.id)}.encard = (issues.map (·.id)).length :=
    encard_eq_length hids fun _ => Iff.rfl
  rw [List.length_map] at hcount
  exact Nat.cast_le.mp (((h.orderly hids).steps_le_encard hvisited).trans_eq hcount)

end DistinctIds

end Live

/-- Both searches take every id off their queue at most once, at its distance from where they start,
and their queues hold rising depths that differ by at most one. So a walk ends after no more steps
than there are ids on blocking edges, and the search for live blocked issues after no more than there
are issues. The order in which the queues are filled makes no difference to what is visited. -/
theorem searches_visit_once :
    (∀ (edges : List Edge) (direction : Direction) (limit : Option Nat) (id : IssueId),
      (∀ n s, Walking direction edges limit id n s →
        s.Orderly (direction.Along edges) {id} n ∧
        (n : ℕ∞) ≤ {x | OnBlockingEdge edges x}.encard ∧
        (s.queue = [] →
          (∀ e, e ∈ s.visited ↔
            e ∈ (walk direction (blockingPairs edges) limit id).visited) ∧
          s.cut = (walk direction (blockingPairs edges) limit id).cut)) ∧
      ∃ n, Walking direction edges limit id n (walk direction (blockingPairs edges) limit id) ∧
        (walk direction (blockingPairs edges) limit id).queue = []) ∧
    ∀ issues : List Issue, (issues.map (·.id)).Nodup →
      (∀ n s, Live.Propagating issues n s →
        s.Orderly (Live.PassesOn issues) {x | Live.Waits issues x} n ∧ n ≤ issues.length ∧
        (s.queue = [] →
          ∀ e, e ∈ s.visited ↔ e ∈ (Live.propagate (Live.openDependencies issues)).visited)) ∧
      ∃ n, Live.Propagating issues n (Live.propagate (Live.openDependencies issues)) ∧
        (Live.propagate (Live.openDependencies issues)).queue = [] := by
  constructor
  · intro edges direction limit id
    refine ⟨fun n s h => ⟨h.orderly, h.orderly.steps_le_encard h.onBlockingEdge, ?_⟩,
      Search.State.exists_running_run _ _ _⟩
    exact Running.visited_eq_run (nodup_walkSources edges id) (neighbours_subset_endpoints _ _) h
  · intro issues hids
    refine ⟨fun n s h => ⟨h.orderly hids, h.steps_le hids, fun hqueue => ?_⟩,
      Search.State.exists_running_run _ _ _⟩
    exact (Running.visited_eq_run (Live.nodup_directlyBlocked _) (Live.children_subset _) h
      hqueue).1

theorem searches_visit_once_on_ring :
    (walk .toBlocked (blockingPairs Chain.ringEdges) (some 1) "a").visited =
      [("a", 0), ("c", 1)] ∧
    Walking .toBlocked Chain.ringEdges (some 1) "a" 2
      (walk .toBlocked (blockingPairs Chain.ringEdges) (some 1) "a") ∧
    ((2 : Nat) : ℕ∞) ≤ {x | OnBlockingEdge Chain.ringEdges x}.encard ∧
    (Live.loopIssues.map (·.id)).Nodup ∧
    ∃ n ≤ 4, Live.Propagating Live.loopIssues n
      (Live.propagate (Live.openDependencies Live.loopIssues)) := by
  have hvisited : (walk .toBlocked (blockingPairs Chain.ringEdges) (some 1) "a").visited =
      [("a", 0), ("c", 1)] := by decide +kernel
  have hids : (Live.loopIssues.map (·.id)).Nodup := by decide
  obtain ⟨hwalk, n, hn, -⟩ := searches_visit_once.1 Chain.ringEdges .toBlocked (some 1) "a"
  obtain ⟨horderly, hbound, -⟩ := hwalk n _ hn
  obtain rfl : n = 2 := by rw [← horderly.steps, hvisited]; rfl
  obtain ⟨hlive, m, hm, -⟩ := searches_visit_once.2 Live.loopIssues hids
  exact ⟨hvisited, hn, hbound, hids, m, (hlive m _ hm).2.1, hm⟩

end IssueGraph
