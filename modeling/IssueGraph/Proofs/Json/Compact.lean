import IssueGraph.Proofs.Json.Written
import IssueGraph.Proofs.List

/-!
# Compact texts are unambiguous

No two values without doubles have the same compact text, whatever follows it: the first character
tells the kind of a value, quotes and digits end where the other text ends, and the parts of lists
and objects are told apart one after the other. Main statement: `compact_injective`.
-/
namespace IssueGraph.Json

variable {j k : Json} {js ks : List Json} {ms ns : List (String × Json)} {c : Char}
  {r s : List Char} {m n : Nat}

/-- Numbers that are no doubles. -/
def Number.IsWhole (n : Number) : Prop := ∃ i, n = .int i

/-! ## Whole numbers -/

theorem toDigits_append_inj (hr : Follows r) (hs : Follows s)
    (h : Nat.toDigits 10 m ++ r = Nat.toDigits 10 n ++ s) : m = n ∧ r = s :=
  number_append_inj (fun c hc => (hr.not_numeral c hc).1)
    (fun c hc => (hs.not_numeral c hc).1) h

theorem compact_int (i : Int) : compact (.int i) =
    if i < 0 then '-' :: Nat.toDigits 10 i.natAbs else Nat.toDigits 10 i.natAbs := by
  cases i <;> simp [compact, toString, Int.repr]

theorem compact_int_lead (i : Int) :
    ∃ c ds, compact (.int i) = c :: ds ∧ (c = '-' ∨ c.isDigit = true) := by
  rw [compact_int]
  split
  · exact ⟨_, _, rfl, .inl rfl⟩
  · obtain ⟨c, ds, hds, hc⟩ := toDigits_lead i.natAbs
    exact ⟨c, ds, hds, .inr hc⟩

theorem compact_int_append_inj {i l : Int} (hr : Follows r) (hs : Follows s)
    (h : compact (.int i) ++ r = compact (.int l) ++ s) : i = l ∧ r = s := by
  have hminus (n : Nat) (r s : List Char) : Nat.toDigits 10 n ++ r ≠ '-' :: s := by
    obtain ⟨c, ds, hds, hc⟩ := toDigits_lead n
    rw [hds]
    exact fun h => ne_of_isDigit hc (by decide) (List.cons.inj h).1
  rw [compact_int, compact_int] at h
  split at h <;> split at h
  · obtain ⟨habs, hrest⟩ := toDigits_append_inj hr hs (List.cons.inj h).2
    exact ⟨by omega, hrest⟩
  · exact absurd h.symm (hminus _ _ _)
  · exact absurd h (hminus _ _ _)
  · obtain ⟨habs, hrest⟩ := toDigits_append_inj hr hs h
    exact ⟨by omega, hrest⟩

/-! ## Kinds -/

theorem lead_compact (hj : Every Number.IsWhole j) : ∃ c ds, j.compact = c :: ds ∧ Lead j c := by
  cases hj with
  | null | str => exact ⟨_, _, rfl, rfl⟩
  | bool b => cases b <;> exact ⟨_, _, rfl, rfl⟩
  | int => exact compact_int_lead _
  | float h => exact absurd h nofun
  | @arr js => cases js <;> exact ⟨_, _, rfl, rfl⟩
  | @obj ms => cases ms <;> exact ⟨_, _, rfl, rfl⟩

/-- The other value is of the kind of the first one. -/
def SameKind : Json → Json → Prop
  | .null, k => k = .null
  | .bool b, k => k = .bool b
  | .int _, k | .float _, k => (∃ i, k = .int i) ∨ ∃ x, k = .float x
  | .str _, k => ∃ s, k = .str s
  | .arr _, k => ∃ js, k = .arr js
  | .obj _, k => ∃ ms, k = .obj ms

theorem Lead.sameKind (hj : Lead j c) (hk : Lead k c) : SameKind j k := by
  rcases j with _ | (_ | _) | _ | _ | _ | _ | _ <;>
    rcases k with _ | (_ | _) | _ | _ | _ | _ | _ <;> dsimp only [Lead] at hj hk <;> subst_vars <;>
    first
    | rfl
    | exact ⟨_, rfl⟩
    | exact .inl ⟨_, rfl⟩
    | exact .inr ⟨_, rfl⟩
    | exact absurd hk (by decide)
    | exact absurd hj (by decide)

theorem sameKind_of_compact (hj : Every Number.IsWhole j) (hk : Every Number.IsWhole k)
    (h : j.compact ++ r = k.compact ++ s) : SameKind j k := by
  obtain ⟨c, ds, hcj, hleadj⟩ := lead_compact hj
  obtain ⟨d, es, hdk, hleadk⟩ := lead_compact hk
  rw [hcj, hdk] at h
  obtain rfl : c = d := (List.cons.inj h).1
  exact hleadj.sameKind hleadk

/-! ## Lists and objects -/

/-- The text of the value, with something behind it, is the text of no other value. -/
def Unambiguous (j : Json) : Prop :=
  ∀ ⦃k r s⦄, Every Number.IsWhole k → Follows r → Follows s →
    j.compact ++ r = k.compact ++ s → j = k ∧ r = s

theorem follows_compactItems : Follows (compactItems js ++ r) := by
  cases js <;> exact follows_cons (by decide)

theorem compact_ne_end (hj : Every Number.IsWhole j) {items : List Char} :
    j.compact ++ items ++ r ≠ ']' :: s := by
  obtain ⟨c, ds, hds, hc⟩ := lead_compact hj
  rw [hds]
  exact fun h => hc.not_follows.2.2.1 (List.cons.inj h).1

theorem follows_compactMembers : Follows (compactMembers ms ++ r) := by
  cases ms <;> exact follows_cons (by decide)

theorem compactItems_append_inj (hjs : ∀ j ∈ js, Unambiguous j)
    (hks : ∀ k ∈ ks, Every Number.IsWhole k)
    (h : compactItems js ++ r = compactItems ks ++ s) : js = ks ∧ r = s := by
  induction js generalizing ks with
  | nil =>
    cases ks with
    | nil => exact ⟨rfl, (List.cons.inj h).2⟩
    | cons k ks => exact absurd (List.cons.inj h).1 (by decide)
  | cons j js ih =>
    obtain ⟨hj, hjs⟩ := List.forall_mem_cons.mp hjs
    cases ks with
    | nil => exact absurd (List.cons.inj h).1 (by decide)
    | cons k ks =>
      obtain ⟨hk, hks⟩ := List.forall_mem_cons.mp hks
      simp only [compactItems, List.cons_append, List.append_assoc, List.cons.injEq] at h
      obtain ⟨hitem, h⟩ := hj hk follows_compactItems follows_compactItems h.2
      obtain ⟨hitems, hrest⟩ := ih hjs hks h
      exact ⟨by rw [hitem, hitems], hrest⟩

theorem quote_append_inj {a b : String} (h : quote a ++ r = quote b ++ s) : a = b ∧ r = s :=
  (takes_readString a).unique (h ▸ takes_readString b)

theorem compactMember_append_inj {a b : String} (hj : Unambiguous j)
    (hk : Every Number.IsWhole k)
    (h : quote a ++ ':' :: (j.compact ++ (compactMembers ms ++ r)) =
      quote b ++ ':' :: (k.compact ++ (compactMembers ns ++ s))) :
    a = b ∧ j = k ∧ compactMembers ms ++ r = compactMembers ns ++ s := by
  obtain ⟨hkey, h⟩ := quote_append_inj h
  exact ⟨hkey, hj hk follows_compactMembers follows_compactMembers (List.cons.inj h).2⟩

theorem compactMembers_append_inj (hms : ∀ m ∈ ms, Unambiguous m.2)
    (hns : ∀ m ∈ ns, Every Number.IsWhole m.2)
    (h : compactMembers ms ++ r = compactMembers ns ++ s) : ms = ns ∧ r = s := by
  induction ms generalizing ns with
  | nil =>
    cases ns with
    | nil => exact ⟨rfl, (List.cons.inj h).2⟩
    | cons n ns => exact absurd (List.cons.inj h).1 (by decide)
  | cons m ms ih =>
    obtain ⟨hm, hms⟩ := List.forall_mem_cons.mp hms
    cases ns with
    | nil => exact absurd (List.cons.inj h).1 (by decide)
    | cons n ns =>
      obtain ⟨hn, hns⟩ := List.forall_mem_cons.mp hns
      simp only [compactMembers, List.cons_append, List.append_assoc, List.cons.injEq] at h
      obtain ⟨hkey, hvalue, h⟩ := compactMember_append_inj hm hn h.2
      obtain ⟨hmembers, hrest⟩ := ih hms hns h
      exact ⟨by rw [Prod.ext hkey hvalue, hmembers], hrest⟩

/-! ## Every value -/

theorem unambiguous (hj : Every Number.IsWhole j) : Unambiguous j := by
  induction hj with
  | null =>
    intro k r s hk hr hs h
    obtain rfl := sameKind_of_compact .null hk h
    exact ⟨rfl, List.append_cancel_left h⟩
  | bool b =>
    intro k r s hk hr hs h
    obtain rfl := sameKind_of_compact (.bool b) hk h
    exact ⟨rfl, List.append_cancel_left h⟩
  | int hn =>
    intro k r s hk hr hs h
    obtain ⟨i, rfl⟩ | ⟨x, rfl⟩ := sameKind_of_compact (.int hn) hk h
    · obtain ⟨rfl, hrest⟩ := compact_int_append_inj hr hs h
      exact ⟨rfl, hrest⟩
    · cases hk with
      | float hx => exact absurd hx nofun
  | float hx => exact absurd hx nofun
  | str a =>
    intro k r s hk hr hs h
    obtain ⟨b, rfl⟩ := sameKind_of_compact (.str a) hk h
    obtain ⟨rfl, hrest⟩ := quote_append_inj h
    exact ⟨rfl, hrest⟩
  | @arr js hjs ih =>
    intro k r s hk hr hs h
    obtain ⟨ks, rfl⟩ := sameKind_of_compact (.arr hjs) hk h
    cases hk with
    | arr hks =>
      match js, ks, hjs, hks, ih with
      | [], [], _, _, _ => exact ⟨rfl, List.append_cancel_left h⟩
      | [], k :: ks, _, hks, _ =>
        exact absurd (List.cons.inj h).2.symm (compact_ne_end (hks k List.mem_cons_self))
      | j :: js, [], hjs, _, _ =>
        exact absurd (List.cons.inj h).2 (compact_ne_end (hjs j List.mem_cons_self))
      | j :: js, k :: ks, _, hks, ih =>
        obtain ⟨hj, hjs⟩ := List.forall_mem_cons.mp ih
        obtain ⟨hk, hks⟩ := List.forall_mem_cons.mp hks
        simp only [compact, List.cons_append, List.append_assoc, List.cons.injEq] at h
        obtain ⟨hitem, h⟩ := hj hk follows_compactItems follows_compactItems h.2
        obtain ⟨hitems, hrest⟩ := compactItems_append_inj hjs hks h
        exact ⟨by rw [hitem, hitems], hrest⟩
  | @obj ms hms ih =>
    intro k r s hk hr hs h
    obtain ⟨ns, rfl⟩ := sameKind_of_compact (.obj hms) hk h
    cases hk with
    | obj hns =>
      match ms, ns, hns, ih with
      | [], [], _, _ => exact ⟨rfl, List.append_cancel_left h⟩
      | [], n :: ns, _, _ => exact absurd (List.cons.inj (List.cons.inj h).2).1 (by decide)
      | m :: ms, [], _, _ => exact absurd (List.cons.inj (List.cons.inj h).2).1 (by decide)
      | m :: ms, n :: ns, hns, ih =>
        obtain ⟨hm, hms⟩ := List.forall_mem_cons.mp ih
        obtain ⟨hn, hns⟩ := List.forall_mem_cons.mp hns
        simp only [compact, List.cons_append, List.append_assoc, List.cons.injEq] at h
        obtain ⟨hkey, hvalue, h⟩ := compactMember_append_inj hm hn h.2
        obtain ⟨hmembers, hrest⟩ := compactMembers_append_inj hms hns h
        exact ⟨by rw [Prod.ext hkey hvalue, hmembers], hrest⟩

/-- A value without doubles is told by its compact text. -/
theorem compact_injective (hj : Every Number.IsWhole j) (hk : Every Number.IsWhole k)
    (h : j.compact = k.compact) : j = k :=
  (unambiguous hj hk follows_nil follows_nil (congrArg (· ++ []) h)).1

/-! ## One line -/

theorem le_toNat_of_isDigit (h : c.isDigit = true) : 32 ≤ c.toNat := by
  simp only [Char.isDigit, Bool.and_eq_true, decide_eq_true_eq] at h
  have hlow : 48 ≤ c.toNat := h.1
  omega

/-- Control characters are escaped. -/
theorem le_toNat_of_mem_escape {d : Char} (h : d ∈ escape c) : 32 ≤ d.toNat := by
  have hdigit : ∀ k < 16, 32 ≤ (Nat.digitChar k).toNat := by decide
  unfold escape at h
  split at h
  case h_8 =>
    split at h
    · next hlt =>
      have hhigh := hdigit (c.toNat / 16) (by omega)
      have hlow := hdigit (c.toNat % 16) (by omega)
      simp only [List.mem_cons, List.not_mem_nil, or_false] at h
      rcases h with rfl | rfl | rfl | rfl | rfl | rfl
      any_goals decide
      · exact hhigh
      · exact hlow
    · next hge =>
      obtain rfl := List.mem_singleton.mp h
      omega
  all_goals
    simp only [List.mem_cons, List.not_mem_nil, or_false] at h
    rcases h with rfl | rfl <;> decide

theorem le_toNat_of_mem_quote {a : String} (h : c ∈ quote a) : 32 ≤ c.toNat := by
  simp only [quote, List.mem_cons, List.mem_append, List.mem_flatMap, List.not_mem_nil,
    or_false] at h
  rcases h with rfl | ⟨d, -, hd⟩ | rfl
  · decide
  · exact le_toNat_of_mem_escape hd
  · decide

theorem le_toNat_of_mem_compactItems (hjs : ∀ j ∈ js, ∀ c ∈ j.compact, 32 ≤ c.toNat)
    (h : c ∈ compactItems js) : 32 ≤ c.toNat := by
  induction js with
  | nil =>
    obtain rfl := List.mem_singleton.mp h
    decide
  | cons j js ih =>
    obtain ⟨hj, hjs⟩ := List.forall_mem_cons.mp hjs
    simp only [compactItems, List.mem_cons, List.mem_append] at h
    rcases h with rfl | h | h
    · decide
    · exact hj c h
    · exact ih hjs h

theorem le_toNat_of_mem_compactMembers (hms : ∀ m ∈ ms, ∀ c ∈ m.2.compact, 32 ≤ c.toNat)
    (h : c ∈ compactMembers ms) : 32 ≤ c.toNat := by
  induction ms with
  | nil =>
    obtain rfl := List.mem_singleton.mp h
    decide
  | cons m ms ih =>
    obtain ⟨hm, hms⟩ := List.forall_mem_cons.mp hms
    simp only [compactMembers, List.mem_cons, List.mem_append] at h
    rcases h with rfl | h | rfl | h | h
    · decide
    · exact le_toNat_of_mem_quote h
    · decide
    · exact hm c h
    · exact ih hms h

theorem le_toNat_of_all {l : List Char} (h : l.all (32 ≤ ·.toNat) = true) :
    ∀ c ∈ l, 32 ≤ c.toNat := by
  simpa using h

/-- No control character, and so no line break, stands in a compact text. -/
theorem le_toNat_of_mem_compact (hj : Every Number.IsWhole j) :
    ∀ c ∈ j.compact, 32 ≤ c.toNat := by
  induction hj with
  | null => exact le_toNat_of_all (by decide)
  | bool b => cases b <;> exact le_toNat_of_all (by decide)
  | @int i _ =>
    intro c hc
    have hdigits (h : c ∈ Nat.toDigits 10 i.natAbs) : 32 ≤ c.toNat :=
      le_toNat_of_isDigit (Nat.isDigit_of_mem_toDigits (by decide) (by decide) h)
    rw [compact_int] at hc
    split at hc
    · rcases List.mem_cons.mp hc with rfl | hc
      · decide
      · exact hdigits hc
    · exact hdigits hc
  | float h => exact absurd h nofun
  | str a => exact fun c hc => le_toNat_of_mem_quote hc
  | @arr js _ ih =>
    cases js with
    | nil => exact le_toNat_of_all (by decide)
    | cons j js =>
      intro c hc
      obtain ⟨hj, hjs⟩ := List.forall_mem_cons.mp ih
      simp only [compact, List.mem_cons, List.mem_append] at hc
      rcases hc with rfl | hc | hc
      · decide
      · exact hj c hc
      · exact le_toNat_of_mem_compactItems hjs hc
  | @obj ms _ ih =>
    cases ms with
    | nil => exact le_toNat_of_all (by decide)
    | cons m ms =>
      intro c hc
      obtain ⟨hm, hms⟩ := List.forall_mem_cons.mp ih
      simp only [compact, List.mem_cons, List.mem_append] at hc
      rcases hc with rfl | hc | rfl | hc | hc
      · decide
      · exact le_toNat_of_mem_quote hc
      · decide
      · exact hm c hc
      · exact le_toNat_of_mem_compactMembers hms hc

end IssueGraph.Json
