import IssueGraph.Proofs.Search

/-!
# Searches step by step

A search may put what it meets into the queue in any order, and so may the start with its sources.
`State.Running` holds of the states that such searches pass through, with the number of steps taken.
None of them breaks the layers, so every state on the way is `State.Orderly`: nothing is queued
twice, the depths in the queue rise by at most one from front to back, and whatever is or has been
queued carries its distance. Main statements: `State.Running.orderly`, `State.exists_running_run`.
-/
namespace IssueGraph.Search.State

variable {α : Type} {next : α → List α} {sources among : List α} {limit : Option Nat}
  {s t u : State α} {n : Nat}

/-- `t` is `s` but for the order of the items at one depth and of those not yet met. -/
structure SameUpToOrder (s t : State α) : Prop where
  depths : t.queue.map (·.2) = s.queue.map (·.2)
  queue : t.queue.Perm s.queue
  unreached : t.unreached.Perm s.unreached
  visited : t.visited = s.visited
  cut : t.cut = s.cut

namespace SameUpToOrder

theorem refl (s : State α) : SameUpToOrder s s := ⟨rfl, .refl _, .refl _, rfl, rfl⟩

theorem entries_perm (h : SameUpToOrder s t) : t.entries.Perm s.entries := by
  rw [entries, entries, h.visited]
  exact h.queue.append_left _

theorem mem_items_iff (h : SameUpToOrder s t) {a : α} : a ∈ t.items ↔ a ∈ s.items :=
  (h.entries_perm.map _).mem_iff

/-- The depths from front to back are the same. -/
theorem ordered (h : SameUpToOrder s t) (hs : s.entries.Pairwise (fun e f => e.2 ≤ f.2)) :
    t.entries.Pairwise (fun e f => e.2 ≤ f.2) := by
  have hdepths : t.entries.map (·.2) = s.entries.map (·.2) := by
    rw [entries, entries, List.map_append, List.map_append, h.visited, h.depths]
  have hsorted : (s.entries.map (·.2)).Pairwise (· ≤ ·) := List.pairwise_map.mpr hs
  exact List.pairwise_map.mp (hdepths ▸ hsorted)

/-- The layers do not depend on the order inside them. -/
theorem layered (h : SameUpToOrder s t) (hs : Layered next sources limit s) :
    Layered next sources limit t where
  ordered := h.ordered hs.ordered
  span := fun e he f hf => hs.span e (h.queue.mem_iff.mp he) f (h.queue.mem_iff.mp hf)
  nodup := (h.entries_perm.map _).nodup_iff.mpr hs.nodup
  depth := fun e he => hs.depth e (h.entries_perm.mem_iff.mp he)
  within := fun e he => hs.within e (h.entries_perm.mem_iff.mp he)
  source := fun a ha => h.mem_items_iff.mpr (hs.source a ha)
  unreached_nodup := h.unreached.nodup_iff.mpr hs.unreached_nodup
  fresh := fun a ha hmet => hs.fresh a (h.unreached.mem_iff.mp ha) (h.mem_items_iff.mp hmet)
  covered := fun a b hb =>
    (hs.covered a b hb).imp h.unreached.mem_iff.mpr h.mem_items_iff.mpr
  expanded := fun e he hlt b hb =>
    h.mem_items_iff.mpr (hs.expanded e (h.visited ▸ he) hlt b hb)
  cut_iff := by
    rw [h.cut, hs.cut_iff, h.visited]
    simp only [h.unreached.mem_iff]

end SameUpToOrder

section Running

variable [BEq α]

/-- The states before each step of a search from `s`, whatever order its queue is filled in, with
the number of steps taken. -/
inductive Running (next : α → List α) (limit : Option Nat) (s : State α) : Nat → State α → Prop
  | here {t : State α} (h : SameUpToOrder s t) : Running next limit s 0 t
  | step {n : Nat} {t u v : State α} (h : Running next limit s n t)
    (hstep : t.step next limit = some u) (hv : SameUpToOrder u v) : Running next limit s (n + 1) v

theorem step_eq_some_iff : t.step next limit = some u ↔
    ∃ item depth queue, t.queue = (item, depth) :: queue ∧
      u = t.visit next limit item depth queue := by
  unfold step
  cases hq : t.queue with
  | nil => simp
  | cons e queue => simp [Prod.ext_iff, eq_comm]

/-- A step may be put in front. -/
theorem Running.head (hstep : s.step next limit = some t) (h : Running next limit t n u) :
    Running next limit s (n + 1) u := by
  induction h with
  | here h => exact .step (.here (.refl s)) hstep h
  | step _ hnext hv ih => exact .step ih hnext hv

/-- A run goes step by step until the queue is empty. -/
theorem exists_running_run (next : α → List α) (limit : Option Nat) (s : State α) :
    ∃ n, Running next limit s n (s.run next limit) ∧ (s.run next limit).queue = [] := by
  induction s using State.run.induct next limit with
  | case1 s hs =>
    rw [run_eq_of_queue_nil hs]
    exact ⟨0, .here (.refl s), hs⟩
  | case2 s item depth queue hs ih =>
    obtain ⟨n, hn, hqueue⟩ := ih
    rw [run_eq_of_queue_cons hs]
    exact ⟨n + 1, hn.head (step_eq_some_iff.mpr ⟨item, depth, queue, hs, rfl⟩), hqueue⟩

theorem Running.length_visited (h : Running next limit s n t) :
    t.visited.length = s.visited.length + n := by
  induction h with
  | here h => rw [h.visited, Nat.add_zero]
  | step _ hstep hv ih =>
    obtain ⟨item, depth, queue, -, rfl⟩ := step_eq_some_iff.mp hstep
    rw [hv.visited, visited_visit, List.length_append, ih]
    rfl

variable [LawfulBEq α]

theorem Running.layered (h : Running next limit s n t) (hs : Layered next sources limit s) :
    Layered next sources limit t := by
  induction h with
  | here h => exact h.layered hs
  | step _ hstep hv ih =>
    obtain ⟨item, depth, queue, hqueue, rfl⟩ := step_eq_some_iff.mp hstep
    exact hv.layered (ih.visit hqueue)

end Running

/-- A state after `n` steps of a search from the members of `S` along `r`. -/
structure Orderly (r : α → α → Prop) (S : Set α) (n : Nat) (s : State α) : Prop where
  /-- Each step takes one item off the front of the queue. -/
  steps : s.visited.length = n
  /-- No item is queued twice, not even after it has been taken off. -/
  once : ((s.visited ++ s.queue).map (·.1)).Nodup
  /-- The depths do not fall from front to back. -/
  sorted : s.queue.Pairwise (fun e f => e.2 ≤ f.2)
  span : ∀ e ∈ s.queue, ∀ f ∈ s.queue, f.2 ≤ e.2 + 1
  shortest : ∀ e ∈ s.visited ++ s.queue, Distance r S e.2 e.1

theorem Orderly.nodup_visited {r : α → α → Prop} {S : Set α} (h : Orderly r S n s) :
    (s.visited.map (·.1)).Nodup :=
  h.once.sublist ((List.sublist_append_left _ _).map _)

/-- There are no more steps than things that can be visited. -/
theorem Orderly.steps_le_encard {r : α → α → Prop} {S T : Set α} (h : Orderly r S n s)
    (hT : ∀ e ∈ s.visited, e.1 ∈ T) : (n : ℕ∞) ≤ T.encard := by
  have hcount : {a | a ∈ s.visited.map (·.1)}.encard = (s.visited.map (·.1)).length :=
    encard_eq_length h.nodup_visited fun _ => Iff.rfl
  rw [List.length_map, h.steps] at hcount
  rw [← hcount]
  refine Set.encard_le_encard ?_
  rintro a ha
  obtain ⟨e, he, rfl⟩ := List.mem_map.mp ha
  exact hT e he

section Start

variable [BEq α] [LawfulBEq α] (hsources : sources.Nodup)
  (hamong : ∀ a, ∀ b ∈ next a, b ∈ among)
include hsources hamong

/-- Every state on the way of a search is orderly. -/
theorem Running.orderly (h : Running next limit (start sources among) n t) :
    Orderly (Hop next) {x | x ∈ sources} n t := by
  have hlayers := h.layered (layered_start hsources hamong)
  exact
    { steps := h.length_visited.trans (Nat.zero_add n)
      once := hlayers.nodup
      sorted := (List.pairwise_append.mp hlayers.ordered).2.1
      span := hlayers.span
      shortest := hlayers.depth }

/-- What is visited in the end does not depend on the order. -/
theorem Running.visited_eq_run (h : Running next limit (start sources among) n t)
    (hqueue : t.queue = []) :
    (∀ e, e ∈ t.visited ↔ e ∈ ((start sources among).run next limit).visited) ∧
      t.cut = ((start sources among).run next limit).cut := by
  have hlayers := h.layered (layered_start hsources hamong)
  constructor
  · rintro ⟨a, d⟩
    rw [hlayers.mem_visited_iff hqueue, mem_visited_run_start hsources hamong]
  · rw [Bool.eq_iff_iff, hlayers.cut_iff_beyond hqueue, cut_run_start hsources hamong]

end Start

end IssueGraph.Search.State
