import Mathlib.Data.Finset.Card
import Mathlib.Data.Set.Card
import Mathlib.Logic.Relation

/-!
# Hops and distances

`Hops r a n b` follows a relation from `a` to `b` in exactly `n` hops. The distance of `b` from a
set of starts is the least number of hops from one of them. Whatever has a distance has something at
every smaller distance before it, so that a distance is bounded by the number of things on the way.
-/
namespace IssueGraph

variable {α : Type} {r : α → α → Prop}

/-- `b` is reached from `a` in exactly `n` hops along `r`. -/
inductive Hops (r : α → α → Prop) (a : α) : Nat → α → Prop
  | here : Hops r a 0 a
  | hop {n : Nat} {b c : α} : Hops r a n b → r b c → Hops r a (n + 1) c

namespace Hops

theorem eq_of_zero {a b : α} (h : Hops r a 0 b) : a = b := by
  cases h
  rfl

theorem exists_last {a c : α} {n : Nat} (h : Hops r a (n + 1) c) : ∃ b, Hops r a n b ∧ r b c := by
  cases h with
  | hop hb hbc => exact ⟨_, hb, hbc⟩

/-- A hop may be put in front. -/
theorem head {a b c : α} {n : Nat} (hab : r a b) (h : Hops r b n c) : Hops r a (n + 1) c := by
  induction h with
  | here => exact .hop .here hab
  | hop _ hcd ih => exact .hop ih hcd

theorem flip {a b : α} {n : Nat} (h : Hops r a n b) : Hops (flip r) b n a := by
  induction h with
  | here => exact .here
  | hop _ hbc ih => exact ih.head hbc

theorem exists_first {a c : α} {n : Nat} (h : Hops r a (n + 1) c) : ∃ b, r a b := by
  obtain ⟨b, -, hab⟩ := h.flip.exists_last
  exact ⟨b, hab⟩

theorem reflTransGen {a b : α} {n : Nat} (h : Hops r a n b) : Relation.ReflTransGen r a b := by
  induction h with
  | here => exact .refl
  | hop _ hbc ih => exact ih.tail hbc

end Hops

theorem hops_flip {a b : α} {n : Nat} : Hops (flip r) a n b ↔ Hops r b n a :=
  ⟨fun h => h.flip, fun h => h.flip⟩

theorem exists_hops_iff {a b : α} : (∃ n, Hops r a n b) ↔ Relation.ReflTransGen r a b := by
  constructor
  · rintro ⟨n, h⟩
    exact h.reflTransGen
  · intro h
    induction h with
    | refl => exact ⟨0, .here⟩
    | tail _ hbc ih =>
      obtain ⟨n, hn⟩ := ih
      exact ⟨n + 1, hn.hop hbc⟩

/-- Hops are the steps of a numbered path. -/
theorem hops_iff_path {a b : α} {n : Nat} :
    Hops r a n b ↔ ∃ p : Nat → α, p 0 = a ∧ p n = b ∧ ∀ i < n, r (p i) (p (i + 1)) := by
  constructor
  · intro h
    induction h with
    | here => exact ⟨fun _ => a, rfl, rfl, by simp⟩
    | @hop n b c _ hbc ih =>
      obtain ⟨p, h0, hn, hp⟩ := ih
      refine ⟨fun i => if i ≤ n then p i else c, by simp [h0], by simp, ?_⟩
      intro i hi
      rcases Nat.lt_succ_iff_lt_or_eq.mp hi with hlt | rfl
      · simpa [hlt.le, hlt] using hp i hlt
      · simpa [hn] using hbc
  · rintro ⟨p, rfl, rfl, hp⟩
    induction n with
    | zero => exact .here
    | succ n ih => exact (ih fun i hi => hp i (by omega)).hop (hp n (by omega))

/-- The nearest member of `S` is `n` hops before `b`. -/
structure Distance (r : α → α → Prop) (S : Set α) (n : Nat) (b : α) : Prop where
  reached : ∃ a ∈ S, Hops r a n b
  least : ∀ m, ∀ a ∈ S, Hops r a m b → n ≤ m

namespace Distance

variable {S : Set α}

theorem unique {b : α} {m n : Nat} (hm : Distance r S m b) (hn : Distance r S n b) : m = n := by
  obtain ⟨a, ha, hab⟩ := hm.reached
  obtain ⟨a', ha', hab'⟩ := hn.reached
  exact Nat.le_antisymm (hm.least n a' ha' hab') (hn.least m a ha hab)

theorem of_mem {b : α} (hb : b ∈ S) : Distance r S 0 b :=
  ⟨⟨b, hb, .here⟩, fun _ _ _ _ => Nat.zero_le _⟩

theorem mem_of_zero {b : α} (h : Distance r S 0 b) : b ∈ S := by
  obtain ⟨a, ha, hab⟩ := h.reached
  exact hab.eq_of_zero ▸ ha

/-- Whatever can be reached has a distance, which no way falls short of. -/
theorem exists_le {a b : α} {m : Nat} (ha : a ∈ S) (h : Hops r a m b) :
    ∃ n ≤ m, Distance r S n b := by
  classical
  have hex : ∃ n, ∃ a ∈ S, Hops r a n b := ⟨m, a, ha, h⟩
  refine ⟨Nat.find hex, Nat.find_min' hex ⟨a, ha, h⟩, Nat.find_spec hex, ?_⟩
  intro k a' ha' hk
  exact Nat.find_min' hex ⟨a', ha', hk⟩

/-- Something lies one hop closer. -/
theorem exists_last {c : α} {n : Nat} (h : Distance r S (n + 1) c) :
    ∃ b, Distance r S n b ∧ r b c := by
  obtain ⟨a, ha, hac⟩ := h.reached
  obtain ⟨b, hab, hbc⟩ := hac.exists_last
  refine ⟨b, ⟨⟨a, ha, hab⟩, ?_⟩, hbc⟩
  intro m a' ha' hb
  have := h.least (m + 1) a' ha' (hb.hop hbc)
  omega

/-- What the starts and the ends of all hops have in common, whatever has a distance has. -/
theorem mem_of_subset {T : Set α} (hS : S ⊆ T) (hr : ∀ a b, r a b → b ∈ T) {b : α} {n : Nat}
    (h : Distance r S n b) : b ∈ T := by
  cases n with
  | zero => exact hS h.mem_of_zero
  | succ n =>
    obtain ⟨a, -, hab⟩ := h.exists_last
    exact hr a b hab

/-- Something lies at every smaller distance. -/
theorem exists_of_le {c : α} {m n : Nat} (h : Distance r S n c) (hm : m ≤ n) :
    ∃ b, Distance r S m b := by
  induction n generalizing c with
  | zero =>
    obtain rfl : m = 0 := by omega
    exact ⟨c, h⟩
  | succ n ih =>
    rcases Nat.lt_or_ge n m with hlt | hge
    · obtain rfl : m = n + 1 := by omega
      exact ⟨c, h⟩
    · obtain ⟨b, hb, -⟩ := h.exists_last
      exact ih hb hge

theorem flip {a b : α} {n : Nat} (h : Distance r {a} n b) : Distance (flip r) {b} n a := by
  obtain ⟨a', rfl, hab⟩ := h.reached
  refine ⟨⟨b, rfl, hab.flip⟩, ?_⟩
  rintro m b' rfl hb
  exact h.least m a' rfl (hops_flip.mp hb)

end Distance

theorem distance_flip {a b : α} {n : Nat} :
    Distance (flip r) {a} n b ↔ Distance r {b} n a :=
  ⟨fun h => h.flip, fun h => h.flip⟩

theorem distance_zero_iff {a b : α} : Distance r {a} 0 b ↔ b = a :=
  ⟨fun h => h.mem_of_zero, fun h => .of_mem h⟩

theorem Distance.one_le {a b : α} {n : Nat} (h : Distance r {a} n b) (hne : b ≠ a) : 1 ≤ n := by
  by_contra hn
  obtain rfl : n = 0 := by omega
  exact hne (distance_zero_iff.mp h)

/-- Only `a` itself is at no distance from `a`. -/
theorem exists_distance_between_iff {a b : α} (hne : b ≠ a) {d : Nat} :
    (∃ n ≤ d, Distance r {a} n b) ↔ ∃ n, 1 ≤ n ∧ n ≤ d ∧ Distance r {a} n b := by
  refine exists_congr fun n => ?_
  constructor
  · rintro ⟨hn, h⟩
    exact ⟨h.one_le hne, hn, h⟩
  · rintro ⟨-, hn, h⟩
    exact ⟨hn, h⟩

/-- Having a distance from `a` and being reachable from it is the same. -/
theorem exists_distance_iff {a b : α} :
    (∃ n, Distance r {a} n b) ↔ Relation.ReflTransGen r a b := by
  rw [← exists_hops_iff]
  constructor
  · rintro ⟨n, h⟩
    obtain ⟨a', rfl, hab⟩ := h.reached
    exact ⟨n, hab⟩
  · rintro ⟨n, h⟩
    obtain ⟨m, -, hm⟩ := Distance.exists_le (S := {a}) rfl h
    exact ⟨m, hm⟩

/-- A distance within a bound is a way within the bound. -/
theorem exists_distance_le_iff {S : Set α} {b : α} {l : Nat} :
    (∃ n ≤ l, Distance r S n b) ↔ ∃ n ≤ l, ∃ a ∈ S, Hops r a n b := by
  constructor
  · rintro ⟨n, hn, h⟩
    exact ⟨n, hn, h.reached⟩
  · rintro ⟨n, hn, a, ha, hab⟩
    obtain ⟨m, hm, h⟩ := Distance.exists_le ha hab
    exact ⟨m, hm.trans hn, h⟩

/-- Beyond a bound lies something exactly when something lies one hop beyond it. -/
theorem exists_distance_gt_iff {S : Set α} {d : Nat} :
    (∃ b n, d < n ∧ Distance r S n b) ↔ ∃ b, Distance r S (d + 1) b := by
  constructor
  · rintro ⟨b, n, hn, h⟩
    exact h.exists_of_le hn
  · rintro ⟨b, h⟩
    exact ⟨b, d + 1, by omega, h⟩

/-- Something lies beyond a bound exactly when a larger bound lets something else in. -/
theorem exists_distance_gt_iff_grows {a : α} {d : Nat} :
    (∃ b n, d < n ∧ Distance r {a} n b) ↔
      ∃ b, (b ≠ a ∧ ∃ n ≤ d + 1, Distance r {a} n b) ∧
        ¬ (b ≠ a ∧ ∃ n ≤ d, Distance r {a} n b) := by
  rw [exists_distance_gt_iff]
  constructor
  · rintro ⟨b, hb⟩
    have hne : b ≠ a := by
      rintro rfl
      exact absurd (hb.unique (distance_zero_iff.mpr rfl)) (Nat.succ_ne_zero d)
    refine ⟨b, ⟨hne, d + 1, Nat.le_refl _, hb⟩, ?_⟩
    rintro ⟨-, n, hn, hbn⟩
    have := hbn.unique hb
    omega
  · rintro ⟨b, ⟨hne, n, hn, hb⟩, hnew⟩
    obtain rfl : n = d + 1 := by
      by_contra hlt
      exact hnew ⟨hne, n, by omega, hb⟩
    exact ⟨b, hb⟩

/-- A distance is smaller than the number of things at that distance or less. -/
theorem Distance.succ_le_encard {S T : Set α} {c : α} {n : Nat} (h : Distance r S n c)
    (hT : ∀ b, ∀ m ≤ n, Distance r S m b → b ∈ T) : ((n + 1 : Nat) : ℕ∞) ≤ T.encard := by
  have : Nonempty α := ⟨c⟩
  choose! f hf using fun m (hm : m ≤ n) => h.exists_of_le hm
  have hmaps : Set.MapsTo f (Finset.range (n + 1)) T := by
    intro m hm
    have hm' : m ≤ n := by simpa [Nat.lt_succ_iff] using hm
    exact hT _ m hm' (hf m hm')
  have hinj : Set.InjOn f (Finset.range (n + 1)) := by
    intro i hi j hj hij
    have hi' : i ≤ n := by simpa [Nat.lt_succ_iff] using hi
    have hj' : j ≤ n := by simpa [Nat.lt_succ_iff] using hj
    exact (hf i hi').unique (hij ▸ hf j hj')
  have hle := Set.encard_le_encard_of_injOn hmaps hinj
  rwa [Set.encard_coe_eq_coe_finsetCard, Finset.card_range] at hle

/-- A distance is smaller than the number of things that the relation joins to another. -/
theorem Distance.succ_le_encard_field {a c : α} {n : Nat} (h : Distance r {a} n c) (hn : n ≠ 0) :
    ((n + 1 : Nat) : ℕ∞) ≤ {x | ∃ y, r x y ∨ r y x}.encard := by
  refine h.succ_le_encard fun b m _ hb => ?_
  cases m with
  | zero =>
    obtain rfl := distance_zero_iff.mp hb
    obtain ⟨k, rfl⟩ := Nat.exists_eq_succ_of_ne_zero hn
    obtain ⟨b', rfl, hops⟩ := h.reached
    obtain ⟨y, hy⟩ := hops.exists_first
    exact ⟨y, .inl hy⟩
  | succ m =>
    obtain ⟨y, -, hy⟩ := hb.exists_last
    exact ⟨y, .inr hy⟩

/-- Everything else from which `a` is reached, in one hop or more. -/
def othersReaching (r : α → α → Prop) (a : α) : Set α :=
  {b | b ≠ a ∧ Relation.TransGen r b a}

theorem mem_othersReaching_iff_distance {a b : α} :
    b ∈ othersReaching r a ↔ b ≠ a ∧ ∃ n, Distance r {b} n a := by
  rw [exists_distance_iff, Relation.reflTransGen_iff_eq_or_transGen]
  constructor
  · rintro ⟨hne, h⟩
    exact ⟨hne, .inr h⟩
  · rintro ⟨hne, rfl | h⟩
    · exact absurd rfl hne
    · exact ⟨hne, h⟩

/-- When every hop ends in `p`, a way that starts in `p` stays there. -/
theorem transGen_within {p : α → Prop} (hp : ∀ x y, r x y → p y) {a b : α}
    (h : Relation.TransGen r b a) (hb : p b) :
    Relation.TransGen (fun x y => r x y ∧ p x) b a := by
  induction h using Relation.TransGen.head_induction_on with
  | single hba => exact .single ⟨hba, hb⟩
  | head hbc _ ih => exact .head ⟨hbc, hb⟩ (ih (hp _ _ hbc))

/-- When every hop starts in `p`, a way that ends in `p` stays there. -/
theorem transGen_into {p : α → Prop} (hp : ∀ x y, r x y → p x) {a b : α}
    (h : Relation.TransGen r b a) (ha : p a) :
    Relation.TransGen (fun x y => p y ∧ r x y) b a := by
  induction h with
  | single hba => exact .single ⟨ha, hba⟩
  | tail _ hca ih => exact .tail (ih (hp _ _ hca)) ⟨ha, hca⟩

theorem of_mem_othersReaching {p : α → Prop} {a b : α}
    (h : b ∈ othersReaching (fun x y => r x y ∧ p x) a) : p b := by
  obtain ⟨c, hbc, -⟩ := Relation.TransGen.head'_iff.mp h.2
  exact hbc.2

/-- Things outside `p` can only stand at the start of a way into `p`. -/
theorem othersReaching_eq_union {p : α → Prop} (hp : ∀ x y, r x y → p y) {a : α} (ha : p a) :
    othersReaching r a = othersReaching (fun x y => r x y ∧ p x) a ∪
      {b | ¬ p b ∧ ∃ c, r b c ∧ (c = a ∨ c ∈ othersReaching (fun x y => r x y ∧ p x) a)} := by
  ext b
  constructor
  · rintro ⟨hne, h⟩
    by_cases hb : p b
    · exact .inl ⟨hne, transGen_within hp h hb⟩
    · obtain ⟨c, hbc, hca⟩ := Relation.TransGen.head'_iff.mp h
      refine .inr ⟨hb, c, hbc, ?_⟩
      by_cases hc : c = a
      · exact .inl hc
      · have htrans := (Relation.reflTransGen_iff_eq_or_transGen.mp hca).resolve_left (Ne.symm hc)
        exact .inr ⟨hc, transGen_within hp htrans (hp _ _ hbc)⟩
  · have hle : (fun x y => r x y ∧ p x) ≤ r := fun _ _ h => h.1
    have hmono : ∀ c, c ∈ othersReaching (fun x y => r x y ∧ p x) a → Relation.TransGen r c a :=
      fun c hc => Relation.TransGen.mono hle c a hc.2
    rintro (hb | ⟨hb, c, hbc, hc⟩)
    · exact ⟨hb.1, hmono b hb⟩
    · refine ⟨fun hba => hb (hba ▸ ha), ?_⟩
      rcases hc with rfl | hc
      · exact .single hbc
      · exact .head hbc (hmono c hc)

/-- Hops out of `p` do not matter for what leads into it if every hop starts in `p`. -/
theorem othersReaching_eq_of_starts {p : α → Prop} (hp : ∀ x y, r x y → p x) {a : α} (ha : p a) :
    othersReaching (fun x y => p y ∧ r x y) a = othersReaching r a := by
  ext b
  have hle : (fun x y => p y ∧ r x y) ≤ r := fun _ _ h => h.2
  refine and_congr_right fun _ => ⟨?_, fun h => transGen_into hp h ha⟩
  exact fun h => Relation.TransGen.mono hle b a h

/-- A set that a list without repetitions holds has as many members as the list. -/
theorem encard_eq_length {l : List α} {S : Set α} (hl : l.Nodup) (h : ∀ a, a ∈ l ↔ a ∈ S) :
    S.encard = l.length := by
  classical
  have hS : S = (l.toFinset : Set α) := by
    ext a
    simp [h]
  rw [hS, Set.encard_coe_eq_coe_finsetCard, List.toFinset_card_of_nodup hl]

end IssueGraph
