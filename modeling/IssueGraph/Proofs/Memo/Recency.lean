import IssueGraph.Proofs.List
import IssueGraph.Proofs.Memo

/-!
# What a memo keeps

The entries of a memo are the keys that were looked up last, as many different ones as there is
room for, each with the value last computed for it. So whether a lookup is answered from the memo
can be read off the requests alone: from the keys that were looked up since the key was. Keys that
stay with some room stay with more, and more room never costs a hit.
Main statement: `Memo.followsHistory_after`.
-/
namespace IssueGraph

/-! ## Keys by recency -/

section Recency

variable {α : Type} [DecidableEq α] {a : α} {l : List α} {n : Nat}

theorem eraseDups_cons_eq_erase (a : α) (l : List α) :
    (a :: l).eraseDups = a :: l.eraseDups.erase a := by
  have hbne : (fun b => !b == a) = (· != a) := rfl
  rw [List.eraseDups_cons, (nodup_eraseDups l).erase_eq_filter, hbne, eraseDups_filter]

/-- What is cut off by a limit is past the limit also after a member has come to the front. -/
theorem take_cons_erase_take (a : α) (l : List α) (n : Nat) :
    (a :: (l.take n).erase a).take n = (a :: l.erase a).take n := by
  induction l generalizing n with
  | nil => simp
  | cons b l ih =>
    cases n with
    | zero => rfl
    | succ n =>
      rw [List.take_succ_cons, List.take_succ_cons, List.take_succ_cons]
      by_cases hb : b = a
      · subst hb
        rw [List.erase_cons_head, List.erase_cons_head, List.take_take, min_self]
      · rw [List.erase_cons_tail (by simpa using hb), List.erase_cons_tail (by simpa using hb)]
        cases n with
        | zero => rfl
        | succ n =>
          have htail := ih (n + 1)
          rw [List.take_succ_cons, List.take_succ_cons, List.cons.injEq] at htail
          rw [List.take_succ_cons, List.take_succ_cons, htail.2]

theorem length_eraseDups (l : List α) : l.eraseDups.length = l.toFinset.card := by
  have hset : l.eraseDups.toFinset = l.toFinset := by
    ext a
    simp
  rw [← hset, List.toFinset_card_of_nodup (nodup_eraseDups l)]

omit [DecidableEq α] in
theorem mem_take_append_cons_iff {front rest : List α} (ha : a ∉ front) :
    a ∈ (front ++ a :: rest).take n ↔ front.length < n := by
  constructor
  · intro hmem
    by_contra hn
    rw [List.take_append_of_le_length (Nat.le_of_not_lt hn)] at hmem
    exact ha (List.mem_of_mem_take hmem)
  · intro hn
    obtain ⟨m, rfl⟩ := Nat.exists_eq_add_of_lt hn
    rw [List.take_append, Nat.add_assoc, Nat.add_sub_cancel_left, List.take_succ_cons,
      List.mem_append]
    exact .inr List.mem_cons_self

theorem takeWhile_ne_append_cons {front rest : List α} (ha : a ∉ front) :
    (front ++ a :: rest).takeWhile (· ≠ a) = front := by
  have hne : ∀ b ∈ front, decide (b ≠ a) = true := by
    intro b hb
    rw [decide_eq_true_iff]
    rintro rfl
    exact ha hb
  rw [List.takeWhile_append_of_pos hne, List.takeWhile_cons_of_neg (by simp), List.append_nil]

/-- An item is among the first different ones if few different items stand in front of it. -/
theorem mem_take_eraseDups_iff : a ∈ l.eraseDups.take n ↔
    a ∈ l ∧ (l.takeWhile (· ≠ a)).toFinset.card < n := by
  by_cases ha : a ∈ l
  · obtain ⟨front, rest, rfl, hfront⟩ := List.eq_append_cons_of_mem ha
    have hdups : a ∉ front.eraseDups := fun h => hfront (List.mem_eraseDups.mp h)
    rw [takeWhile_ne_append_cons hfront, List.eraseDups_append, List.removeAll,
      List.filter_cons_of_pos (by simpa using hfront), List.eraseDups_cons,
      mem_take_append_cons_iff hdups, length_eraseDups, and_iff_right ha]
  · have hnot : a ∉ l.eraseDups.take n := fun h =>
      ha (List.mem_eraseDups.mp (List.mem_of_mem_take h))
    exact iff_of_false hnot fun h => ha h.1

end Recency

namespace Memo

/-! ## Requests and their answers -/

/-- What a memo is asked for. The values of a memo may be of any type, so that a value may also name
the request it was computed for. -/
inductive Request (κ ν : Type) where
  | get (key : κ) (compute : Unit → ν)
  | clear

section History

variable {κ ν : Type} [DecidableEq κ]

/-- The memo after some requests to a new one. Here and below the last request stands first. -/
def after (capacity : Nat) : List (Request κ ν) → Memo κ ν
  | [] => empty capacity
  | .get key compute :: past => ((after capacity past).get key compute).1
  | .clear :: past => (after capacity past).clear

/-- The lookups among the requests, each with its answer. -/
def answers (capacity : Nat) : List (Request κ ν) → List (κ × Served ν)
  | [] => []
  | .get key compute :: past =>
    (key, ((after capacity past).get key compute).2) :: answers capacity past
  | .clear :: past => answers capacity past

/-- The keys that were looked up since results were last forgotten. -/
def asked : List (Request κ ν) → List κ
  | [] => []
  | .get key _ :: past => key :: asked past
  | .clear :: _ => []

/-- The value of a key that was computed last. -/
def lastComputed (key : κ) (answers : List (κ × Served ν)) : Option ν :=
  (answers.find? fun a => a.1 == key && a.2.computed).map (·.2.value)

/-- The key was looked up, and since then fewer different keys than there is room for. -/
def Kept (capacity : Nat) (past : List (Request κ ν)) (key : κ) : Prop :=
  key ∈ asked past ∧ ((asked past).takeWhile (· ≠ key)).toFinset.card < capacity

instance (capacity : Nat) (past : List (Request κ ν)) (key : κ) :
    Decidable (Kept capacity past key) :=
  inferInstanceAs (Decidable (_ ∧ _))

/-- The memo after the requests does what the requests say, without its entries being looked at. -/
structure FollowsHistory (capacity : Nat) (past : List (Request κ ν)) : Prop where
  hit : ∀ key compute,
    ((after capacity past).get key compute).2.computed = false ↔ Kept capacity past key
  /-- What would compute the value is not looked at when the value is kept. -/
  reused : ∀ key, Kept capacity past key → ∃ value m,
    lastComputed key (answers capacity past) = some value ∧
      ∀ compute, (after capacity past).get key compute = (m, ⟨value, false⟩)
  computed : ∀ key compute, ¬ Kept capacity past key →
    ((after capacity past).get key compute).2 = ⟨compute (), true⟩
  size : (after capacity past).size = min capacity (asked past).toFinset.card
  lookups : (after capacity past).stats.hits + (after capacity past).stats.misses =
    past.countP fun r => r matches .get ..
  misses : (after capacity past).stats.misses = (answers capacity past).countP (·.2.computed)
  hits_mono : ∀ larger, capacity ≤ larger →
    (after capacity past).stats.hits ≤ (after larger past).stats.hits

end History

/-! ## One lookup -/

section Lookup

variable {κ ν : Type} [DecidableEq κ] {m : Memo κ ν} {key : κ} {compute : Unit → ν} {v : ν}

theorem get_of_find?_eq_some (h : m.find? key = some v) (compute : Unit → ν) :
    m.get key compute =
      ({ m with
          entries := m.use key v
          stats := { m.stats with hits := m.stats.hits + 1 }
          length_le := m.length_use_le key v }, ⟨v, false⟩) := by
  unfold get
  split
  · next w hw =>
    obtain rfl : w = v := Option.some.inj (hw.symm.trans h)
    rfl
  · next hnone => cases h.symm.trans hnone

theorem get_of_find?_eq_none (h : m.find? key = none) (compute : Unit → ν) :
    m.get key compute =
      ({ m with
          entries := m.use key (compute ())
          stats := { m.stats with misses := m.stats.misses + 1 }
          length_le := m.length_use_le key (compute ()) }, ⟨compute (), true⟩) := by
  unfold get
  split
  · next w hw => cases hw.symm.trans h
  · rfl

theorem entries_get : (m.get key compute).1.entries =
    m.use key (m.get key compute).2.value := by
  unfold get
  split <;> rfl

theorem capacity_get : (m.get key compute).1.capacity = m.capacity := by
  unfold get
  split <;> rfl

theorem hits_get : (m.get key compute).1.stats.hits =
    m.stats.hits + if (m.get key compute).2.computed then 0 else 1 := by
  unfold get
  split <;> rfl

theorem misses_get : (m.get key compute).1.stats.misses =
    m.stats.misses + if (m.get key compute).2.computed then 1 else 0 := by
  unfold get
  split <;> rfl

theorem find?_eq_none_iff : m.find? key = none ↔ key ∉ m.entries.map (·.1) := by
  rw [find?, List.lookup_eq_none_iff]
  constructor
  · rintro h hkey
    obtain ⟨e, he, rfl⟩ := List.mem_map.mp hkey
    simpa using h e he
  · intro h e he
    rw [bne_iff_ne]
    rintro rfl
    exact h (List.mem_map_of_mem he)

theorem computed_get : (m.get key compute).2.computed = (m.find? key).isNone := by
  unfold get
  split
  · next value hvalue => rw [hvalue, Option.isNone_some]
  · next hnone => rw [hnone, Option.isNone_none]

/-- A lookup brings its key to the front. -/
theorem keys_use (hkeys : (m.entries.map (·.1)).Nodup) (v : ν) :
    (m.use key v).map (·.1) = (key :: (m.entries.map (·.1)).erase key).take m.capacity := by
  rw [use, List.map_take, List.map_cons, hkeys.erase_eq_filter, List.filter_map]
  rfl

theorem mem_use_cases {e : κ × ν} (h : e ∈ m.use key v) :
    e = (key, v) ∨ e ∈ m.entries ∧ e.1 ≠ key := by
  rcases List.mem_cons.mp (List.mem_of_mem_take h) with rfl | h
  · exact .inl rfl
  · obtain ⟨hmem, hkey⟩ := List.mem_filter.mp h
    exact .inr ⟨hmem, by simpa using hkey⟩

end Lookup

/-! ## The entries by recency -/

section History

variable {κ ν : Type} [DecidableEq κ] {capacity : Nat} {past : List (Request κ ν)} {key : κ}
  {value : ν}

/-- The entries are the keys looked up last, each with the value last computed for it. -/
structure Recent (capacity : Nat) (past : List (Request κ ν)) : Prop where
  room : (after capacity past).capacity = capacity
  keys : (after capacity past).entries.map (·.1) = (asked past).eraseDups.take capacity
  values : ∀ e ∈ (after capacity past).entries,
    lastComputed e.1 (answers capacity past) = some e.2

theorem lastComputed_cons_of_ne {key : κ} {a : κ × Served ν} (h : a.1 ≠ key)
    (answers : List (κ × Served ν)) :
    lastComputed key (a :: answers) = lastComputed key answers := by
  rw [lastComputed, List.find?_cons_of_neg (by simp [h]), lastComputed]

theorem lastComputed_cons_reused (key : κ) (value : ν) (answers : List (κ × Served ν)) :
    lastComputed key ((key, ⟨value, false⟩) :: answers) = lastComputed key answers := by
  rw [lastComputed, List.find?_cons_of_neg (by simp), lastComputed]

theorem lastComputed_cons_computed (key : κ) (value : ν) (answers : List (κ × Served ν)) :
    lastComputed key ((key, ⟨value, true⟩) :: answers) = some value := by
  rw [lastComputed, List.find?_cons_of_pos (by simp), Option.map_some]

theorem Recent.lastComputed_of_find? (h : Recent capacity past)
    (hfind : (after capacity past).find? key = some value) :
    lastComputed key (answers capacity past) = some value :=
  h.values _ (mem_of_find? hfind)

/-- What a lookup answers is from then on the value of its key. -/
theorem Recent.lastComputed_get (h : Recent capacity past) (key : κ) (compute : Unit → ν) :
    lastComputed key (answers capacity (.get key compute :: past)) =
      some ((after capacity past).get key compute).2.value := by
  rw [answers]
  cases hfind : (after capacity past).find? key with
  | some value =>
    rw [get_of_find?_eq_some hfind, lastComputed_cons_reused, h.lastComputed_of_find? hfind]
  | none => rw [get_of_find?_eq_none hfind, lastComputed_cons_computed]

theorem Recent.get (h : Recent capacity past) (key : κ) (compute : Unit → ν) :
    Recent capacity (.get key compute :: past) where
  room := capacity_get.trans h.room
  keys := by
    have hkeys : ((after capacity past).entries.map (·.1)).Nodup := by
      rw [h.keys]
      exact (nodup_eraseDups _).sublist (List.take_sublist _ _)
    rw [after, asked, entries_get, keys_use hkeys, h.keys, h.room, take_cons_erase_take,
      eraseDups_cons_eq_erase]
  values := by
    intro e he
    rw [after, entries_get] at he
    rcases mem_use_cases he with rfl | ⟨hmem, hne⟩
    · exact h.lastComputed_get key compute
    · rw [answers, lastComputed_cons_of_ne hne.symm, h.values e hmem]

theorem recent_after (hcap : 1 ≤ capacity) (past : List (Request κ ν)) : Recent capacity past := by
  induction past with
  | nil => exact ⟨max_eq_right hcap, (List.take_nil).symm, nofun⟩
  | cons r past ih =>
    cases r with
    | get key compute => exact ih.get key compute
    | clear => exact ⟨ih.room, (List.take_nil).symm, nofun⟩

theorem Recent.find?_eq_none_iff (h : Recent capacity past) (key : κ) :
    (after capacity past).find? key = none ↔ ¬ Kept capacity past key := by
  rw [Memo.find?_eq_none_iff, h.keys, mem_take_eraseDups_iff]
  rfl

theorem Recent.hit_iff (h : Recent capacity past) (key : κ) (compute : Unit → ν) :
    ((after capacity past).get key compute).2.computed = false ↔ Kept capacity past key := by
  rw [computed_get, ← Bool.not_eq_true, Option.isNone_iff_eq_none, h.find?_eq_none_iff, not_not]

theorem Recent.reused (h : Recent capacity past) (hkept : Kept capacity past key) :
    ∃ value m, lastComputed key (answers capacity past) = some value ∧
      ∀ compute, (after capacity past).get key compute = (m, ⟨value, false⟩) := by
  have hfind : (after capacity past).find? key ≠ none := fun hnone =>
    (h.find?_eq_none_iff key).mp hnone hkept
  obtain ⟨value, hvalue⟩ := Option.ne_none_iff_exists'.mp hfind
  exact ⟨value, _, h.lastComputed_of_find? hvalue, get_of_find?_eq_some hvalue⟩

theorem Recent.size_eq (h : Recent capacity past) :
    (after capacity past).size = min capacity (asked past).toFinset.card := by
  rw [size, ← List.length_map (·.1), h.keys, List.length_take, length_eraseDups]

/-! ## Counts -/

theorem stats_after (capacity : Nat) (past : List (Request κ ν)) :
    (after capacity past).stats.hits = (answers capacity past).countP (!·.2.computed) ∧
      (after capacity past).stats.misses = (answers capacity past).countP (·.2.computed) := by
  induction past with
  | nil => exact ⟨rfl, rfl⟩
  | cons r past ih =>
    cases r with
    | get key compute =>
      obtain ⟨hhits, hmisses⟩ := ih
      rw [after, answers, hits_get, misses_get, hhits, hmisses, List.countP_cons, List.countP_cons]
      cases ((after capacity past).get key compute).2.computed with
      | false => exact ⟨rfl, rfl⟩
      | true => exact ⟨rfl, rfl⟩
    | clear => exact ih

theorem length_answers (capacity : Nat) (past : List (Request κ ν)) :
    (answers capacity past).length = past.countP fun r => r matches .get .. := by
  induction past with
  | nil => rfl
  | cons r past ih =>
    cases r with
    | get key compute => rw [answers, List.length_cons, ih, List.countP_cons_of_pos rfl]
    | clear => rw [answers, ih, List.countP_cons_of_neg Bool.false_ne_true]

theorem lookups_after (capacity : Nat) (past : List (Request κ ν)) :
    (after capacity past).stats.hits + (after capacity past).stats.misses =
      past.countP fun r => r matches .get .. := by
  obtain ⟨hhits, hmisses⟩ := stats_after capacity past
  rw [hhits, hmisses, ← length_answers capacity, Nat.add_comm,
    List.length_eq_countP_add_countP fun a => a.2.computed]
  simp

theorem Kept.mono {larger : Nat} (h : Kept capacity past key) (hle : capacity ≤ larger) :
    Kept larger past key :=
  ⟨h.1, h.2.trans_le hle⟩

theorem hits_after_mono {larger : Nat} (hcap : 1 ≤ capacity) (hle : capacity ≤ larger)
    (past : List (Request κ ν)) :
    (after capacity past).stats.hits ≤ (after larger past).stats.hits := by
  induction past with
  | nil => exact Nat.le_refl _
  | cons r past ih =>
    cases r with
    | get key compute =>
      have hit := (recent_after hcap past).hit_iff key compute
      have hlarger := (recent_after (hcap.trans hle) past).hit_iff key compute
      rw [after, after, hits_get, hits_get]
      by_cases hkept : Kept capacity past key
      · rw [hit.mpr hkept, hlarger.mpr (hkept.mono hle)]
        exact Nat.add_le_add_right ih _
      · rw [Bool.eq_true_of_not_eq_false (mt hit.mp hkept), if_pos rfl]
        exact Nat.le_add_right_of_le ih
    | clear => exact ih

/-- What a memo with room for one result at least answers, keeps and counts is told by the requests
that were made. -/
theorem followsHistory_after (hcap : 1 ≤ capacity) (past : List (Request κ ν)) :
    FollowsHistory capacity past where
  hit := (recent_after hcap past).hit_iff
  reused := fun _ => (recent_after hcap past).reused
  computed := by
    intro key compute hkept
    rw [get_of_find?_eq_none (((recent_after hcap past).find?_eq_none_iff key).mpr hkept)]
  size := (recent_after hcap past).size_eq
  lookups := lookups_after capacity past
  misses := (stats_after capacity past).2
  hits_mono := fun _ hle => hits_after_mono hcap hle past

/-- Three keys for a memo with room for two results; before, all results were forgotten once. -/
def threeKeys : List (Request Nat Nat) :=
  [.get 2 fun _ => 12, .get 0 fun _ => 100, .get 1 fun _ => 11, .get 0 fun _ => 10, .clear,
    .get 1 fun _ => 1]

theorem followsHistory_after_three_keys : 1 ≤ 2 ∧ FollowsHistory 2 threeKeys ∧
    (∀ compute, ((after 2 threeKeys).get 0 compute).2 = ⟨10, false⟩) ∧
    (∀ compute, ((after 2 threeKeys).get 1 compute).2 = ⟨compute (), true⟩) ∧
    (after 2 threeKeys).stats = { hits := 1, misses := 4 } := by
  have h : FollowsHistory 2 threeKeys := followsHistory_after (by decide) threeKeys
  refine ⟨by decide, h, ?_, fun compute => h.computed 1 compute (by decide), by decide⟩
  intro compute
  obtain ⟨value, m, hlast, hget⟩ := h.reused 0 (by decide)
  obtain rfl : value = 10 := Option.some.inj (hlast.symm.trans (by decide))
  rw [hget]

end History

end Memo

end IssueGraph
