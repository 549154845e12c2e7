import IssueGraph.Proofs.Distance
import IssueGraph.Proofs.List
import IssueGraph.Search

/-!
# What a breadth-first search visits

A search meets items in layers: first the sources, then what is one hop away, and so on. The
invariant `State.Layered` says that every item met so far is recorded with its distance from the
sources, that the queue spans at most two neighbouring layers, and that nothing next to a visited
item was missed. Main statements: a run from the start visits exactly the items whose distance is
within the limit (`State.mem_visited_run_start`), each once, and is cut exactly when some item lies
farther away (`State.cut_run_start`).
-/
namespace IssueGraph

namespace Search

variable {α : Type} {next : α → List α} {sources among : List α} {limit : Option Nat}

/-- The hops that a search follows. -/
def Hop (next : α → List α) (a b : α) : Prop := b ∈ next a

/-- `n` is the distance of `a` from the sources of a search. -/
def Depth (next : α → List α) (sources : List α) (n : Nat) (a : α) : Prop :=
  Distance (Hop next) {x | x ∈ sources} n a

theorem map_fst_pairs (l : List α) (n : Nat) : (l.map (·, n)).map (·.1) = l := by
  rw [List.map_map]
  exact List.map_id l

namespace State

/-- Every item met so far with its depth, those still in the queue last. -/
def entries (s : State α) : List (α × Nat) := s.visited ++ s.queue

/-- Every item met so far. -/
def items (s : State α) : List α := s.entries.map (·.1)

theorem mem_items {s : State α} {a : α} : a ∈ s.items ↔ ∃ n, (a, n) ∈ s.entries := by
  simp [items]

/-- The sources are met layer by layer, and whatever is next to a visited item is met too. -/
structure Layered (next : α → List α) (sources : List α) (limit : Option Nat) (s : State α) :
    Prop where
  ordered : s.entries.Pairwise (fun e f => e.2 ≤ f.2)
  /-- The queue holds at most two layers. -/
  span : ∀ e ∈ s.queue, ∀ f ∈ s.queue, f.2 ≤ e.2 + 1
  nodup : s.items.Nodup
  depth : ∀ e ∈ s.entries, Depth next sources e.2 e.1
  within : ∀ e ∈ s.entries, ∀ l ∈ limit, e.2 ≤ l
  source : ∀ a ∈ sources, a ∈ s.items
  unreached_nodup : s.unreached.Nodup
  fresh : ∀ a ∈ s.unreached, a ∉ s.items
  /-- A neighbour of anything is either met or still to be met. -/
  covered : ∀ a, ∀ b ∈ next a, b ∈ s.unreached ∨ b ∈ s.items
  /-- Below the limit a visit meets every neighbour. -/
  expanded : ∀ e ∈ s.visited, (∀ l ∈ limit, e.2 < l) → ∀ b ∈ next e.1, b ∈ s.items
  cut_iff : s.cut = true ↔
    ∃ e ∈ s.visited, (∃ l ∈ limit, l ≤ e.2) ∧ ∃ b ∈ next e.1, b ∈ s.unreached

namespace Layered

variable {s : State α}

theorem eq_depth (h : Layered next sources limit s) {a : α} {m n : Nat} (hm : (a, m) ∈ s.entries)
    (hn : Depth next sources n a) : m = n :=
  (h.depth _ hm).unique hn

/-- An item closer than everything in the queue has been visited, if it has been met. -/
theorem mem_visited_of_mem_items (h : Layered next sources limit s) {a : α} {n : Nat}
    (ha : a ∈ s.items) (hn : Depth next sources n a) (hq : ∀ e ∈ s.queue, n < e.2) :
    (a, n) ∈ s.visited := by
  obtain ⟨m, hm⟩ := mem_items.mp ha
  obtain rfl := h.eq_depth hm hn
  rcases List.mem_append.mp hm with hv | hv
  · exact hv
  · exact absurd (hq _ hv) (Nat.lt_irrefl _)

/-- Everything within the limit that is closer than the queue has been visited. -/
theorem mem_visited (h : Layered next sources limit s) {a : α} {n : Nat}
    (hn : Depth next sources n a) (hl : ∀ l ∈ limit, n ≤ l) (hq : ∀ e ∈ s.queue, n < e.2) :
    (a, n) ∈ s.visited := by
  induction n generalizing a with
  | zero => exact h.mem_visited_of_mem_items (h.source a hn.mem_of_zero) hn hq
  | succ n ih =>
    obtain ⟨b, hb, hba⟩ := hn.exists_last
    have hvisited : (b, n) ∈ s.visited := by
      refine ih hb ?_ ?_
      · intro l hl'
        have := hl l hl'
        omega
      · intro e he
        have := hq e he
        omega
    have hmet : a ∈ s.items := h.expanded _ hvisited hl a hba
    exact h.mem_visited_of_mem_items hmet hn hq

section Front

variable {item : α} {depth : Nat} {queue : List (α × Nat)}

theorem depth_le_of_mem_queue (h : Layered next sources limit s)
    (hs : s.queue = (item, depth) :: queue) {e : α × Nat} (he : e ∈ s.queue) : depth ≤ e.2 := by
  have hord := (List.pairwise_append.mp h.ordered).2.1
  rw [hs] at hord he
  rcases List.mem_cons.mp he with rfl | he
  · exact Nat.le_refl _
  · exact (List.pairwise_cons.mp hord).1 e he

theorem le_depth_of_mem_visited (h : Layered next sources limit s)
    (hs : s.queue = (item, depth) :: queue) {e : α × Nat} (he : e ∈ s.visited) : e.2 ≤ depth := by
  have hfront : (item, depth) ∈ s.queue := by simp [hs]
  exact (List.pairwise_append.mp h.ordered).2.2 e he _ hfront

theorem le_succ_of_mem_entries (h : Layered next sources limit s)
    (hs : s.queue = (item, depth) :: queue) {e : α × Nat} (he : e ∈ s.entries) :
    e.2 ≤ depth + 1 := by
  rcases List.mem_append.mp he with hv | hq
  · exact (h.le_depth_of_mem_visited hs hv).trans (Nat.le_succ _)
  · exact h.span (item, depth) (by simp [hs]) e hq

theorem depth_front (h : Layered next sources limit s) (hs : s.queue = (item, depth) :: queue) :
    Depth next sources depth item :=
  h.depth (item, depth) (by simp [entries, hs])

/-- A neighbour of the front of the queue that has not been met lies one hop farther away. -/
theorem depth_succ (h : Layered next sources limit s) (hs : s.queue = (item, depth) :: queue)
    (hl : ∀ l ∈ limit, depth < l) {b : α} (hb : b ∈ next item) (hfresh : b ∉ s.items) :
    Depth next sources (depth + 1) b := by
  obtain ⟨a, ha, hops⟩ := (h.depth_front hs).reached
  refine ⟨⟨a, ha, hops.hop hb⟩, ?_⟩
  intro m a' ha' hm
  by_contra hlt
  obtain ⟨k, hk, hkb⟩ := Distance.exists_le ha' hm
  -- `b` would be next to something closer than the queue, and such neighbours have been met.
  cases k with
  | zero => exact hfresh (h.source b hkb.mem_of_zero)
  | succ k =>
    obtain ⟨c, hc, hcb⟩ := hkb.exists_last
    have hqueue : ∀ e ∈ s.queue, k < e.2 := by
      intro e he
      have := h.depth_le_of_mem_queue hs he
      omega
    have hlimit : ∀ l ∈ limit, k < l := by
      intro l hl'
      have := hl l hl'
      omega
    have hvisited := h.mem_visited hc (fun l hl' => (hlimit l hl').le) hqueue
    exact hfresh (h.expanded _ hvisited hlimit b hcb)

end Front

/-! ### An empty queue -/

section Finished

variable (h : Layered next sources limit s) (hqueue : s.queue = [])
include h hqueue

/-- When the queue is empty, exactly what lies within the limit has been visited. -/
theorem mem_visited_iff {a : α} {n : Nat} :
    (a, n) ∈ s.visited ↔ (∀ l ∈ limit, n ≤ l) ∧ Depth next sources n a := by
  constructor
  · intro hmem
    have hentry : (a, n) ∈ s.entries := List.mem_append_left _ hmem
    exact ⟨h.within _ hentry, h.depth _ hentry⟩
  · rintro ⟨hlimit, hdepth⟩
    refine h.mem_visited hdepth hlimit ?_
    simp [hqueue]

theorem mem_items_iff {a : α} :
    a ∈ s.items ↔ ∃ n, (∀ l ∈ limit, n ≤ l) ∧ Depth next sources n a := by
  rw [mem_items]
  refine exists_congr fun n => ?_
  rw [← h.mem_visited_iff hqueue]
  simp [entries, hqueue]

/-- When the queue is empty, the search has been cut exactly if something lies beyond the limit. -/
theorem cut_iff_beyond : s.cut = true ↔ ∃ l ∈ limit, ∃ a n, l < n ∧ Depth next sources n a := by
  rw [h.cut_iff]
  constructor
  · rintro ⟨e, he, ⟨l, hl, hle⟩, b, hb, hunmet⟩
    obtain ⟨c, hc, hops⟩ := ((h.mem_visited_iff hqueue).mp he).2.reached
    obtain ⟨n, -, hn⟩ := Distance.exists_le hc (hops.hop hb)
    refine ⟨l, hl, b, n, ?_, hn⟩
    by_contra hlt
    refine h.fresh b hunmet ((h.mem_items_iff hqueue).mpr ⟨n, ?_, hn⟩)
    intro l' hl'
    obtain rfl := Option.mem_unique hl hl'
    omega
  · rintro ⟨l, hl, a, n, hlt, hn⟩
    obtain ⟨b, hb⟩ := exists_distance_gt_iff.mp ⟨a, n, hlt, hn⟩
    obtain ⟨c, hc, hcb⟩ := hb.exists_last
    have hcv : (c, l) ∈ s.visited := by
      refine (h.mem_visited_iff hqueue).mpr ⟨?_, hc⟩
      intro l' hl'
      obtain rfl := Option.mem_unique hl hl'
      exact Nat.le_refl _
    refine ⟨(c, l), hcv, ⟨l, hl, Nat.le_refl _⟩, b, hcb, ?_⟩
    refine (h.covered c b hcb).resolve_right ?_
    intro hmet
    obtain ⟨m, hm, hdepth⟩ := (h.mem_items_iff hqueue).mp hmet
    have := hm l hl
    have := hdepth.unique hb
    omega

end Finished

end Layered

section Visit

variable [BEq α] {s : State α} {item : α} {depth l : Nat} {queue : List (α × Nat)}

theorem visit_of_le (next : α → List α) (hl : l ∈ limit) (hle : l ≤ depth) :
    s.visit next limit item depth queue =
      { s with
        queue := queue
        visited := s.visited ++ [(item, depth)]
        cut := s.cut || s.unreached.any (next item).contains } := by
  have hany : limit.any (· ≤ depth) = true := by
    rw [Option.any_eq_true]
    exact ⟨l, hl, by simpa using hle⟩
  rw [visit, if_pos hany]

theorem visit_of_lt (next : α → List α) (hl : ∀ l ∈ limit, depth < l) :
    s.visit next limit item depth queue =
      { queue := queue ++ (s.unreached.filter (next item).contains).map (·, depth + 1)
        unreached := s.unreached.filter (!(next item).contains ·)
        visited := s.visited ++ [(item, depth)]
        cut := s.cut } := by
  have hany : ¬ limit.any (· ≤ depth) = true := by
    rw [Option.any_eq_true]
    rintro ⟨l, hl', hle⟩
    have := hl l hl'
    simp only [decide_eq_true_eq] at hle
    omega
  rw [visit, if_neg hany]

/-- The front of the queue has been visited, whatever the limit. -/
theorem visited_visit (next : α → List α) (limit : Option Nat) :
    (s.visit next limit item depth queue).visited = s.visited ++ [(item, depth)] := by
  unfold visit
  split
  · rfl
  · rfl

theorem mem_visited_visit {e : α × Nat} :
    e ∈ (s.visit next limit item depth queue).visited ↔ e ∈ s.visited ∨ e = (item, depth) := by
  rw [visited_visit, List.mem_append, List.mem_singleton]

theorem entries_visit_of_le (next : α → List α) (hs : s.queue = (item, depth) :: queue)
    (hl : l ∈ limit) (hle : l ≤ depth) :
    (s.visit next limit item depth queue).entries = s.entries := by
  rw [visit_of_le next hl hle]
  simp [entries, hs]

theorem entries_visit_of_lt (next : α → List α) (hs : s.queue = (item, depth) :: queue)
    (hl : ∀ l ∈ limit, depth < l) :
    (s.visit next limit item depth queue).entries =
      s.entries ++ (s.unreached.filter (next item).contains).map (·, depth + 1) := by
  rw [visit_of_lt next hl]
  simp [entries, hs]

section BelowLimit

variable (h : Layered next sources limit s) (hs : s.queue = (item, depth) :: queue)
  (hl : ∀ l ∈ limit, depth < l)
include h hs hl

/-- What is met below the limit goes to the back, one layer deeper than what has been visited. -/
theorem Layered.ordered_visit_of_lt :
    (s.visit next limit item depth queue).entries.Pairwise (fun e f => e.2 ≤ f.2) := by
  have hdepth : ∀ e ∈ (s.unreached.filter (next item).contains).map (·, depth + 1),
      e.2 = depth + 1 := by
    intro e he
    obtain ⟨a, -, rfl⟩ := List.mem_map.mp he
    rfl
  rw [entries_visit_of_lt next hs hl, List.pairwise_append]
  refine ⟨h.ordered, ?_, ?_⟩
  · refine List.pairwise_of_forall_mem_list ?_
    intro e he f hf
    rw [hdepth e he, hdepth f hf]
  · intro e he f hf
    rw [hdepth f hf]
    exact h.le_succ_of_mem_entries hs he

theorem Layered.span_visit_of_lt :
    ∀ e ∈ (s.visit next limit item depth queue).queue, depth ≤ e.2 ∧ e.2 ≤ depth + 1 := by
  intro e he
  rw [State.visit_of_lt next hl] at he
  rcases List.mem_append.mp he with hq | hq
  · have hq' : e ∈ s.queue := hs ▸ List.mem_cons_of_mem _ hq
    exact ⟨h.depth_le_of_mem_queue hs hq',
      h.le_succ_of_mem_entries hs (List.mem_append_right _ hq')⟩
  · obtain ⟨a, -, rfl⟩ := List.mem_map.mp hq
    exact ⟨Nat.le_succ depth, Nat.le_refl _⟩

theorem Layered.nodup_visit_of_lt : (s.visit next limit item depth queue).items.Nodup := by
  rw [items, entries_visit_of_lt next hs hl, List.map_append, map_fst_pairs, List.nodup_append]
  refine ⟨h.nodup, h.unreached_nodup.filter _, ?_⟩
  rintro a ha b hb rfl
  exact h.fresh a (List.mem_filter.mp hb).1 ha

/-- Below the limit nothing has been left out so far, and nothing is. -/
theorem Layered.not_at_limit_visit_of_lt :
    ∀ e ∈ (s.visit next limit item depth queue).visited, ¬ ∃ l ∈ limit, l ≤ e.2 := by
  rintro e he ⟨l, hl', hle⟩
  have hlt := hl l hl'
  rcases mem_visited_visit.mp he with hv | rfl
  · have := h.le_depth_of_mem_visited hs hv
    omega
  · exact absurd hle (Nat.not_le.mpr hlt)

end BelowLimit

variable [LawfulBEq α]

theorem mem_items_visit_of_lt (hs : s.queue = (item, depth) :: queue)
    (hl : ∀ l ∈ limit, depth < l) {a : α} :
    a ∈ (s.visit next limit item depth queue).items ↔
      a ∈ s.items ∨ a ∈ s.unreached ∧ a ∈ next item := by
  rw [items, entries_visit_of_lt next hs hl, List.map_append, List.mem_append]
  simp [items]

theorem mem_unreached_visit_of_lt (hl : ∀ l ∈ limit, depth < l) {a : α} :
    a ∈ (s.visit next limit item depth queue).unreached ↔ a ∈ s.unreached ∧ a ∉ next item := by
  rw [visit_of_lt next hl]
  simp

/-- An entry is old, or a neighbour met by the visit. -/
theorem mem_entries_visit_of_lt (hs : s.queue = (item, depth) :: queue)
    (hl : ∀ l ∈ limit, depth < l) {e : α × Nat} :
    e ∈ (s.visit next limit item depth queue).entries ↔
      e ∈ s.entries ∨ e.2 = depth + 1 ∧ e.1 ∈ s.unreached ∧ e.1 ∈ next item := by
  rw [entries_visit_of_lt next hs hl, List.mem_append]
  refine or_congr_right ?_
  simp only [List.mem_map, List.mem_filter, List.contains_iff_mem]
  constructor
  · rintro ⟨a, ⟨ha, hnext⟩, rfl⟩
    exact ⟨rfl, ha, hnext⟩
  · rintro ⟨hdepth, ha, hnext⟩
    exact ⟨e.1, ⟨ha, hnext⟩, Prod.ext rfl hdepth.symm⟩

theorem cut_visit_of_le (hl : l ∈ limit) (hle : l ≤ depth) :
    (s.visit next limit item depth queue).cut = true ↔
      s.cut = true ∨ ∃ b ∈ next item, b ∈ s.unreached := by
  rw [visit_of_le next hl hle]
  simp [and_comm]

/-- A visit at the limit meets nothing; it only notes whether something was left out. -/
theorem Layered.visit_of_le (h : Layered next sources limit s)
    (hs : s.queue = (item, depth) :: queue) (hl : l ∈ limit) (hle : l ≤ depth) :
    Layered next sources limit (s.visit next limit item depth queue) := by
  have hentries := entries_visit_of_le next hs hl hle
  have hitems : (s.visit next limit item depth queue).items = s.items := by
    rw [items, hentries, items]
  have hvisit : s.visit next limit item depth queue = _ := State.visit_of_le next hl hle
  have hunreached : (s.visit next limit item depth queue).unreached = s.unreached := by rw [hvisit]
  constructor
  case ordered => exact hentries ▸ h.ordered
  case span =>
    have hqueue : ∀ e ∈ (s.visit next limit item depth queue).queue, e ∈ s.queue := by
      intro e he
      rw [hvisit] at he
      exact hs ▸ List.mem_cons_of_mem _ he
    exact fun e he f hf => h.span e (hqueue e he) f (hqueue f hf)
  case nodup => exact hitems ▸ h.nodup
  case depth => exact hentries ▸ h.depth
  case within => exact hentries ▸ h.within
  case source => exact hitems ▸ h.source
  case unreached_nodup => exact hunreached ▸ h.unreached_nodup
  case fresh => exact hunreached ▸ hitems ▸ h.fresh
  case covered => exact hunreached ▸ hitems ▸ h.covered
  case expanded =>
    intro e he hlt
    rw [hitems]
    rcases mem_visited_visit.mp he with hv | rfl
    · exact h.expanded e hv hlt
    · exact absurd (hlt l hl) (Nat.not_lt.mpr hle)
  case cut_iff =>
    rw [cut_visit_of_le hl hle, h.cut_iff, hunreached]
    constructor
    · rintro (⟨e, he, hbound, hb⟩ | hb)
      · exact ⟨e, mem_visited_visit.mpr (.inl he), hbound, hb⟩
      · exact ⟨(item, depth), mem_visited_visit.mpr (.inr rfl), ⟨l, hl, hle⟩, hb⟩
    · rintro ⟨e, he, hbound, hb⟩
      rcases mem_visited_visit.mp he with hv | rfl
      · exact .inl ⟨e, hv, hbound, hb⟩
      · exact .inr hb

/-- A visit below the limit meets the neighbours that were still to be met, one layer deeper. -/
theorem Layered.visit_of_lt (h : Layered next sources limit s)
    (hs : s.queue = (item, depth) :: queue) (hl : ∀ l ∈ limit, depth < l) :
    Layered next sources limit (s.visit next limit item depth queue) := by
  have hitems : ∀ a, a ∈ (s.visit next limit item depth queue).items ↔
      a ∈ s.items ∨ a ∈ s.unreached ∧ a ∈ next item :=
    fun a => mem_items_visit_of_lt hs hl
  constructor
  case ordered => exact h.ordered_visit_of_lt hs hl
  case span =>
    intro e he f hf
    have := (h.span_visit_of_lt hs hl e he).1
    have := (h.span_visit_of_lt hs hl f hf).2
    omega
  case nodup => exact h.nodup_visit_of_lt hs hl
  case depth =>
    intro e he
    rcases (mem_entries_visit_of_lt hs hl).mp he with hold | ⟨hdepth, hunmet, hnext⟩
    · exact h.depth e hold
    · rw [hdepth]
      exact h.depth_succ hs hl hnext (h.fresh _ hunmet)
  case within =>
    intro e he l hl'
    rcases (mem_entries_visit_of_lt hs hl).mp he with hold | ⟨hdepth, -⟩
    · exact h.within e hold l hl'
    · rw [hdepth]
      exact hl l hl'
  case source => exact fun a ha => (hitems a).mpr (.inl (h.source a ha))
  case unreached_nodup =>
    rw [State.visit_of_lt next hl]
    exact h.unreached_nodup.filter _
  case fresh =>
    intro a ha hmem
    obtain ⟨hunmet, hnext⟩ := (mem_unreached_visit_of_lt hl).mp ha
    rcases (hitems a).mp hmem with hold | hnew
    · exact h.fresh a hunmet hold
    · exact hnext hnew.2
  case covered =>
    intro a b hb
    rw [hitems, mem_unreached_visit_of_lt hl]
    by_cases hnext : b ∈ next item
    · rcases h.covered a b hb with hunmet | hold
      · exact .inr (.inr ⟨hunmet, hnext⟩)
      · exact .inr (.inl hold)
    · rcases h.covered a b hb with hunmet | hold
      · exact .inl ⟨hunmet, hnext⟩
      · exact .inr (.inl hold)
  case expanded =>
    intro e he hlt b hb
    rw [hitems]
    rcases mem_visited_visit.mp he with hv | rfl
    · exact .inl (h.expanded e hv hlt b hb)
    · rcases h.covered item b hb with hunmet | hold
      · exact .inr ⟨hunmet, hb⟩
      · exact .inl hold
  case cut_iff =>
    have hcut : (s.visit next limit item depth queue).cut = s.cut := by
      rw [State.visit_of_lt next hl]
    rw [hcut, h.cut_iff]
    constructor
    · rintro ⟨e, he, hbad, -⟩
      exact absurd hbad (h.not_at_limit_visit_of_lt hs hl e (mem_visited_visit.mpr (.inl he)))
    · rintro ⟨e, he, hbad, -⟩
      exact absurd hbad (h.not_at_limit_visit_of_lt hs hl e he)

/-- One visit of the front of the queue keeps the layers. -/
theorem Layered.visit (h : Layered next sources limit s)
    (hs : s.queue = (item, depth) :: queue) :
    Layered next sources limit (s.visit next limit item depth queue) := by
  by_cases hlimit : ∃ l ∈ limit, l ≤ depth
  · obtain ⟨l, hl, hle⟩ := hlimit
    exact h.visit_of_le hs hl hle
  · push Not at hlimit
    exact h.visit_of_lt hs hlimit

end Visit

section Run

variable [BEq α] [LawfulBEq α] {s : State α}

/-- A run visits until nothing is left in the queue, and keeps the layers. -/
theorem Layered.run (h : Layered next sources limit s) :
    Layered next sources limit (s.run next limit) ∧ (s.run next limit).queue = [] := by
  induction s using State.run.induct next limit with
  | case1 s hs =>
    rw [run_eq_of_queue_nil hs]
    exact ⟨h, hs⟩
  | case2 s item depth queue hs ih =>
    rw [run_eq_of_queue_cons hs]
    exact ih (h.visit hs)

/-- The start of a search from distinct sources, among all items that are next to another. -/
theorem layered_start (hsources : sources.Nodup) (hamong : ∀ a, ∀ b ∈ next a, b ∈ among) :
    Layered next sources limit (start sources among) := by
  have hentries : (start sources among).entries = sources.map (·, 0) := rfl
  have hitems : (start sources among).items = sources := map_fst_pairs _ _
  have hunreached : ∀ a, a ∈ (start sources among).unreached ↔ a ∈ among ∧ a ∉ sources := by
    simp [start]
  have hzero : ∀ e ∈ (start sources among).entries, e.2 = 0 ∧ e.1 ∈ sources := by
    simp only [hentries, List.mem_map]
    rintro e ⟨a, ha, rfl⟩
    exact ⟨rfl, ha⟩
  constructor
  case ordered =>
    refine List.pairwise_of_forall_mem_list ?_
    intro e he f hf
    rw [(hzero e he).1, (hzero f hf).1]
  case span =>
    intro e _ f hf
    rw [(hzero f hf).1]
    exact Nat.zero_le _
  case nodup =>
    rw [hitems]
    exact hsources
  case depth =>
    intro e he
    rw [(hzero e he).1]
    exact Distance.of_mem (hzero e he).2
  case within =>
    intro e he l _
    rw [(hzero e he).1]
    exact Nat.zero_le _
  case source =>
    rw [hitems]
    exact fun a ha => ha
  case unreached_nodup => exact (nodup_eraseDups among).filter _
  case fresh =>
    rw [hitems]
    exact fun a ha => ((hunreached a).mp ha).2
  case covered =>
    intro a b hb
    rw [hitems, hunreached]
    by_cases hsource : b ∈ sources
    · exact .inr hsource
    · exact .inl ⟨hamong a b hb, hsource⟩
  case expanded => exact fun e he => absurd he List.not_mem_nil
  case cut_iff =>
    constructor
    · exact fun hcut => Bool.noConfusion hcut
    · rintro ⟨e, he, -⟩
      exact absurd he List.not_mem_nil

theorem layered_run_start (limit : Option Nat) (hsources : sources.Nodup)
    (hamong : ∀ a, ∀ b ∈ next a, b ∈ among) :
    Layered next sources limit ((start sources among).run next limit) ∧
      ((start sources among).run next limit).queue = [] :=
  (layered_start hsources hamong).run

/-- A run visits exactly what lies within the limit, with its depth. -/
theorem mem_visited_run_start (hsources : sources.Nodup) (hamong : ∀ a, ∀ b ∈ next a, b ∈ among)
    {a : α} {n : Nat} :
    (a, n) ∈ ((start sources among).run next limit).visited ↔
      (∀ l ∈ limit, n ≤ l) ∧ Depth next sources n a := by
  obtain ⟨h, hqueue⟩ := layered_run_start limit hsources hamong
  exact h.mem_visited_iff hqueue

/-- A run with a limit visits whatever some source reaches within that many hops. -/
theorem mem_map_visited_run_start (hsources : sources.Nodup)
    (hamong : ∀ a, ∀ b ∈ next a, b ∈ among) {a : α} {l : Nat} :
    a ∈ ((start sources among).run next (some l)).visited.map (·.1) ↔
      ∃ n ≤ l, ∃ b ∈ sources, Hops (Hop next) b n a := by
  have hmem : a ∈ ((start sources among).run next (some l)).visited.map (·.1) ↔
      ∃ n, (a, n) ∈ ((start sources among).run next (some l)).visited := by
    simp
  rw [hmem]
  refine Iff.trans ?_ (exists_distance_le_iff (S := {x | x ∈ sources}))
  refine exists_congr fun n => ?_
  rw [mem_visited_run_start hsources hamong]
  simp [Depth]

theorem nodup_visited_run_start (hsources : sources.Nodup)
    (hamong : ∀ a, ∀ b ∈ next a, b ∈ among) :
    (((start sources among).run next limit).visited.map (·.1)).Nodup := by
  obtain ⟨h, hqueue⟩ := layered_run_start limit hsources hamong
  simpa [items, entries, hqueue] using h.nodup

/-- A run is cut exactly when something lies beyond the limit. -/
theorem cut_run_start (hsources : sources.Nodup) (hamong : ∀ a, ∀ b ∈ next a, b ∈ among) :
    ((start sources among).run next limit).cut = true ↔
      ∃ l ∈ limit, ∃ a n, l < n ∧ Depth next sources n a := by
  obtain ⟨h, hqueue⟩ := layered_run_start limit hsources hamong
  exact h.cut_iff_beyond hqueue

end Run

end State

end Search

end IssueGraph
