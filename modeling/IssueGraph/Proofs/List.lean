import Mathlib.Algebra.BigOperators.Group.Finset.Basic
import Mathlib.Algebra.GroupWithZero.Nat
import Mathlib.Data.List.Nodup

/-!
# Lists with keys

Looking something up by a key that no two items share, the order in which repetitions are dropped,
counting by key, what a sorted list has in front of an item, when sorting forgets the order in which
items came, and where the digits of a number end in front of other characters.
-/
namespace IssueGraph

variable {α β : Type}

/-- When keys are distinct, a lookup finds whatever carries the key. -/
theorem find?_eq_some_iff_of_nodup [BEq β] [LawfulBEq β] {key : α → β} {l : List α}
    (hkeys : (l.map key).Nodup) {k : β} {a : α} :
    l.find? (key · == k) = some a ↔ a ∈ l ∧ key a = k := by
  constructor
  · intro h
    exact ⟨List.mem_of_find?_eq_some h, by simpa using List.find?_some h⟩
  · rintro ⟨ha, rfl⟩
    have hsome : (l.find? (key · == key a)).isSome = true := by
      rw [List.find?_isSome]
      exact ⟨a, ha, beq_self_eq_true (key a)⟩
    obtain ⟨b, hb⟩ := Option.isSome_iff_exists.mp hsome
    have hba : key b = key a := by simpa using List.find?_some hb
    rw [hb, List.inj_on_of_nodup_map hkeys (List.mem_of_find?_eq_some hb) ha hba]

theorem lookup_eq_some_iff_of_nodup [BEq α] [LawfulBEq α] {l : List (α × β)}
    (hkeys : (l.map (·.1)).Nodup) {k : α} {v : β} : l.lookup k = some v ↔ (k, v) ∈ l := by
  induction l with
  | nil => simp
  | cons e l ih =>
    obtain ⟨a, w⟩ := e
    obtain ⟨hkey, hkeys⟩ := List.nodup_cons.mp hkeys
    by_cases hk : k = a
    · subst hk
      have hnot : (k, v) ∉ l := fun h => hkey (List.mem_map.mpr ⟨_, h, rfl⟩)
      simp [hnot, eq_comm]
    · rw [List.lookup_cons, beq_false_of_ne hk]
      simp [ih hkeys, hk]

theorem nodup_eraseDups [BEq α] [LawfulBEq α] (l : List α) : l.eraseDups.Nodup := by
  induction l using List.reverseRecOn with
  | nil => simp
  | append_singleton l a ih =>
    rw [List.eraseDups_append]
    by_cases ha : a ∈ l
    · simpa [List.removeAll, ha] using ih
    · have hnew : ∀ b ∈ l, ¬ b = a := fun b hb hba => ha (hba ▸ hb)
      simpa [List.removeAll, ha, List.eraseDups_cons, List.nodup_append, ih] using hnew

theorem eraseDups_filter [BEq α] [LawfulBEq α] (p : α → Bool) (l : List α) :
    (l.filter p).eraseDups = l.eraseDups.filter p := by
  induction l using List.reverseRecOn with
  | nil => rfl
  | append_singleton l a ih =>
    rw [List.filter_append, List.eraseDups_append, List.eraseDups_append, List.filter_append, ih]
    by_cases hp : p a = true
    · by_cases ha : a ∈ l
      · simp [List.removeAll, ha, hp]
      · simp [List.removeAll, ha, hp, List.eraseDups_cons]
    · by_cases ha : a ∈ l
      · simp [List.removeAll, ha, hp]
      · simp [List.removeAll, ha, hp, List.eraseDups_cons]

/-- Dropping repetitions keeps items in the order in which they come first. -/
theorem pairwise_idxOf_eraseDups_filter [BEq α] [LawfulBEq α] (p : α → Bool) (l : List α) :
    (l.filter p).eraseDups.Pairwise fun a b => l.idxOf a < l.idxOf b := by
  induction l generalizing p with
  | nil => simp
  | cons c l ih =>
    -- Among items other than the head, first places are those in the tail, one further on.
    have htail : ∀ q : α → Bool, (∀ a, q a = true → c ≠ a) →
        (l.filter q).eraseDups.Pairwise fun a b => (c :: l).idxOf a < (c :: l).idxOf b := by
      intro q hq
      have hne : ∀ a ∈ (l.filter q).eraseDups, c ≠ a := fun a ha =>
        hq a (List.mem_filter.mp (List.mem_eraseDups.mp ha)).2
      refine (ih q).imp_of_mem ?_
      intro a b ha hb hlt
      rw [List.idxOf_cons_ne l (hne a ha), List.idxOf_cons_ne l (hne b hb)]
      omega
    by_cases hc : p c = true
    · rw [List.filter_cons_of_pos hc, List.eraseDups_cons, List.filter_filter, List.pairwise_cons]
      refine ⟨?_, htail _ ?_⟩
      · intro b hb
        have hcb : c ≠ b := by
          rintro rfl
          simp at hb
        rw [List.idxOf_cons_self, List.idxOf_cons_ne l hcb]
        exact Nat.succ_pos _
      · rintro a ha rfl
        simp at ha
    · rw [List.filter_cons_of_neg hc]
      refine htail p ?_
      rintro a ha rfl
      exact hc ha

/-- Counting each member of a list that holds everything once counts all items. -/
theorem sum_map_count_eq_length [DecidableEq α] {l keys : List α} (hkeys : keys.Nodup)
    (h : ∀ a ∈ l, a ∈ keys) : (keys.map (l.count ·)).sum = l.length := by
  have hcover : ∀ a ∈ (l : Multiset α), a ∈ keys.toFinset := fun a ha =>
    List.mem_toFinset.mpr (h a (Multiset.mem_coe.mp ha))
  rw [← List.sum_toFinset _ hkeys]
  simpa only [Multiset.coe_count, Multiset.coe_card] using Multiset.sum_count_eq_card hcover

/-- In a sorted list an item stands behind whatever it may not stand in front of. -/
theorem exists_lt_getElem?_of_pairwise {r : α → α → Prop} (hr : ∀ a, r a a) {l : List α}
    (hl : l.Pairwise r) {a b : α} (ha : a ∈ l) {j : Nat} (hb : l[j]? = some b) (hba : ¬ r b a) :
    ∃ i < j, l[i]? = some a := by
  obtain ⟨i, hi⟩ := List.mem_iff_getElem?.mp ha
  obtain ⟨hilt, rfl⟩ := List.getElem?_eq_some_iff.mp hi
  obtain ⟨hjlt, rfl⟩ := List.getElem?_eq_some_iff.mp hb
  refine ⟨i, ?_, hi⟩
  by_contra hij
  rcases Nat.lt_or_eq_of_le (Nat.le_of_not_lt hij) with hlt | rfl
  · exact hba (List.pairwise_iff_getElem.mp hl j i hjlt hilt hlt)
  · exact hba (hr _)

/-- A list that is sorted by a key increases strictly if no two items share the key. -/
theorem pairwise_lt_of_nodup [PartialOrder β] {key : α → β} {l : List α}
    (hl : l.Pairwise fun a b => key a ≤ key b) (hkeys : (l.map key).Nodup) :
    l.Pairwise fun a b => key a < key b :=
  (hl.and (List.pairwise_map.mp hkeys)).imp fun h => lt_of_le_of_ne h.1 h.2

/-- Sorting forgets the order of a list if no two of its items may stand either way round. -/
theorem mergeSort_eq_of_perm {le : α → α → Bool}
    (htrans : ∀ a b c, le a b = true → le b c = true → le a c = true)
    (htotal : ∀ a b, (le a b || le b a) = true) {l l' : List α} (h : l.Perm l')
    (hanti : ∀ a ∈ l, ∀ b ∈ l, le a b = true → le b a = true → a = b) :
    l.mergeSort le = l'.mergeSort le := by
  have hperm : (l.mergeSort le).Perm (l'.mergeSort le) :=
    (List.mergeSort_perm l le).trans (h.trans (List.mergeSort_perm l' le).symm)
  refine hperm.eq_of_pairwise ?_ (List.pairwise_mergeSort htrans htotal l)
    (List.pairwise_mergeSort htrans htotal l')
  intro a b ha hb
  exact hanti a (List.mem_mergeSort.mp ha) b (h.mem_iff.mpr (List.mem_mergeSort.mp hb))

/-! ## Digits -/

section Digits

variable {m n : Nat} {r s : List Char}

/-- The digits of a number end where the first character that is no digit follows. -/
theorem takeWhile_toDigits (hr : ∀ c ∈ r.head?, c.isDigit = false) :
    (Nat.toDigits 10 n ++ r).takeWhile Char.isDigit = Nat.toDigits 10 n := by
  have hdigits : ∀ c ∈ Nat.toDigits 10 n, c.isDigit = true := fun c hc =>
    Nat.isDigit_of_mem_toDigits (by decide) (by decide) hc
  rw [List.takeWhile_append_of_pos hdigits]
  cases r with
  | nil => simp
  | cons c r => simp [hr c rfl]

/-- A number in front of a character that is no digit can be read off. -/
theorem number_append_inj (hr : ∀ c ∈ r.head?, c.isDigit = false)
    (hs : ∀ c ∈ s.head?, c.isDigit = false)
    (h : Nat.toDigits 10 m ++ r = Nat.toDigits 10 n ++ s) : m = n ∧ r = s := by
  have hdigits : Nat.toDigits 10 m = Nat.toDigits 10 n := by
    rw [← takeWhile_toDigits hr, h, takeWhile_toDigits hs]
  have hm : m = n := by
    have hvalue := congrArg (fun ds => Nat.ofDigitChars 10 ds 0) hdigits
    simpa only [Nat.ofDigitChars_ten_toDigits] using hvalue
  exact ⟨hm, List.append_cancel_left (hdigits ▸ h)⟩

end Digits

end IssueGraph
