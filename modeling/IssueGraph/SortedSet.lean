/-!
# Sorted sets and maps

A finite set is kept as the increasing list of its members and a finite map as the list of its
entries with increasing keys. Equal contents are therefore equal values, and both print in order.
Main statements: `SortedSet.mem_insert`, `SortedSet.mem_ofList`, `SortedSet.ext` and
`SortedMap.find?_insert`.
-/
namespace IssueGraph

section Insertion

variable {α : Type} {β : Type}

/-- Put `a` before the first larger key, taking the place of an entry with the same key. -/
def insertBy (cmp : α → α → Ordering) (key : β → α) (a : β) : List β → List β
  | [] => [a]
  | b :: l =>
    match cmp (key a) (key b) with
    | .lt => a :: b :: l
    | .eq => a :: l
    | .gt => b :: insertBy cmp key a l

/-- The keys grow strictly from the front to the back. -/
def Increasing (cmp : α → α → Ordering) (key : β → α) (l : List β) : Prop :=
  l.Pairwise (fun a b => cmp (key a) (key b) = .lt)

theorem forall_mem_insertBy {cmp : α → α → Ordering} {key : β → α} {a : β} {l : List β}
    {p : β → Prop} (ha : p a) (hl : ∀ b ∈ l, p b) : ∀ b ∈ insertBy cmp key a l, p b := by
  induction l with
  | nil => simpa [insertBy] using ha
  | cons b l ih =>
    intro c hc
    have htail : ∀ x ∈ l, p x := fun x hx => hl x (List.mem_cons_of_mem b hx)
    rw [insertBy] at hc
    split at hc
    · rcases List.mem_cons.1 hc with rfl | hc
      · exact ha
      · exact hl c hc
    · rcases List.mem_cons.1 hc with rfl | hc
      · exact ha
      · exact htail c hc
    · rcases List.mem_cons.1 hc with rfl | hc
      · exact hl c List.mem_cons_self
      · exact ih htail c hc

theorem Increasing.insertBy {cmp : α → α → Ordering} [Std.TransCmp cmp] {key : β → α} {a : β}
    {l : List β} (h : Increasing cmp key l) : Increasing cmp key (insertBy cmp key a l) := by
  induction l with
  | nil => simp [IssueGraph.insertBy, Increasing]
  | cons b l ih =>
    have ⟨hb, hl⟩ := List.pairwise_cons.1 h
    rw [IssueGraph.insertBy]
    split
    · next hab =>
      refine List.pairwise_cons.2 ⟨?_, h⟩
      intro c hc
      rcases List.mem_cons.1 hc with rfl | hc
      · exact hab
      · exact Std.TransCmp.lt_trans hab (hb c hc)
    · next hab =>
      refine List.pairwise_cons.2 ⟨?_, hl⟩
      intro c hc
      exact Std.TransCmp.lt_of_eq_of_lt hab (hb c hc)
    · next hab =>
      refine List.pairwise_cons.2 ⟨?_, ih hl⟩
      exact forall_mem_insertBy (Std.OrientedCmp.lt_of_gt hab) hb

theorem length_insertBy {cmp : α → α → Ordering} {key : β → α} {a : β} {l : List β}
    (h : ∀ b ∈ l, cmp (key a) (key b) ≠ .eq) : (insertBy cmp key a l).length = l.length + 1 := by
  induction l with
  | nil => rfl
  | cons b l ih =>
    rw [insertBy]
    split
    · rfl
    · next hab => exact absurd hab (h b List.mem_cons_self)
    · rw [List.length_cons, ih fun c hc => h c (List.mem_cons_of_mem b hc), List.length_cons]

theorem lookup_cons_ite [BEq α] {ν : Type} {k k' : α} {v : ν} {l : List (α × ν)} :
    ((k, v) :: l).lookup k' = if k' == k then some v else l.lookup k' := by
  rw [List.lookup_cons]
  cases k' == k <;> rfl

theorem lookup_insertBy [Ord α] [Std.LawfulEqOrd α] [BEq α] [LawfulBEq α] {ν : Type} {k k' : α}
    {v : ν} {l : List (α × ν)} :
    (insertBy compare Prod.fst (k, v) l).lookup k' =
      if k' == k then some v else l.lookup k' := by
  induction l with
  | nil => rw [insertBy, lookup_cons_ite]
  | cons b l ih =>
    obtain ⟨c, w⟩ := b
    rw [insertBy]
    split
    · rw [lookup_cons_ite]
    · next h =>
      obtain rfl : k = c := by simpa using h
      rw [lookup_cons_ite, lookup_cons_ite]
      split <;> rfl
    · next h =>
      have hkc : ¬ c = k := by
        rintro rfl
        simp at h
      rw [lookup_cons_ite, lookup_cons_ite, ih]
      by_cases hc : k' = c
      · subst hc
        simp [hkc]
      · simp [hc]

end Insertion

/-- A finite set, kept as the increasing list of its members. -/
structure SortedSet (α : Type) [Ord α] where
  toList : List α
  increasing : Increasing compare id toList

namespace SortedSet

variable {α : Type} [Ord α]

theorem toList_inj {s t : SortedSet α} (h : s.toList = t.toList) : s = t := by
  cases s; cases t; cases h; rfl

instance [DecidableEq α] : DecidableEq (SortedSet α) := fun s t =>
  if h : s.toList = t.toList then isTrue (toList_inj h)
  else isFalse (fun e => h (congrArg toList e))

instance [Repr α] : Repr (SortedSet α) where
  reprPrec s p := reprPrec s.toList p

/-- The set without members. -/
def empty : SortedSet α := ⟨[], List.Pairwise.nil⟩

instance : Inhabited (SortedSet α) := ⟨empty⟩

instance : Membership α (SortedSet α) where
  mem s a := a ∈ s.toList

theorem mem_def {s : SortedSet α} {a : α} : a ∈ s ↔ a ∈ s.toList := Iff.rfl

/-- Whether `a` is a member. -/
def contains [BEq α] (s : SortedSet α) (a : α) : Bool := s.toList.contains a

theorem contains_iff [BEq α] [LawfulBEq α] {s : SortedSet α} {a : α} :
    s.contains a = true ↔ a ∈ s := by
  simp [contains, mem_def]

/-- The number of members. -/
def size (s : SortedSet α) : Nat := s.toList.length

variable [Std.TransOrd α]

/-- Add one member. -/
def insert (a : α) (s : SortedSet α) : SortedSet α :=
  ⟨insertBy compare id a s.toList, s.increasing.insertBy⟩

/-- The set of the members of a list. -/
def ofList (l : List α) : SortedSet α := l.foldr insert empty

@[simp] theorem ofList_nil : ofList ([] : List α) = empty := rfl

@[simp] theorem ofList_cons (a : α) (l : List α) : ofList (a :: l) = insert a (ofList l) := rfl

omit [Std.TransOrd α] in
@[simp] theorem not_mem_empty (a : α) : ¬ a ∈ (empty : SortedSet α) := by simp [mem_def, empty]

theorem mem_insert [Std.LawfulEqOrd α] {a b : α} {s : SortedSet α} :
    a ∈ insert b s ↔ a = b ∨ a ∈ s := by
  simp only [mem_def, insert]
  generalize s.toList = l
  induction l with
  | nil => simp [insertBy]
  | cons c l ih =>
    rw [insertBy]
    split
    · simp
    · next h =>
      have hbc : b = c := by simpa using h
      subst hbc
      simp
    · simp only [List.mem_cons, ih]
      constructor
      · rintro (h | h | h)
        · exact .inr (.inl h)
        · exact .inl h
        · exact .inr (.inr h)
      · rintro (h | h | h)
        · exact .inr (.inl h)
        · exact .inl h
        · exact .inr (.inr h)

theorem mem_ofList [Std.LawfulEqOrd α] {a : α} {l : List α} : a ∈ ofList l ↔ a ∈ l := by
  induction l with
  | nil => simp
  | cons b l ih => simp [mem_insert, ih]

theorem size_insert [Std.LawfulEqOrd α] {a : α} {s : SortedSet α} (h : ¬ a ∈ s) :
    (insert a s).size = s.size + 1 := by
  refine length_insertBy ?_
  intro b hb hab
  obtain rfl : a = b := by simpa using hab
  exact h hb

theorem size_ofList [Std.LawfulEqOrd α] {l : List α} (h : l.Nodup) :
    (ofList l).size = l.length := by
  induction l with
  | nil => rfl
  | cons a l ih =>
    have ⟨ha, hl⟩ := List.nodup_cons.1 h
    rw [ofList_cons, size_insert (fun hmem => ha (mem_ofList.1 hmem)), ih hl, List.length_cons]

private theorem increasing_ext [Std.LawfulEqOrd α] :
    ∀ {l m : List α}, Increasing compare id l → Increasing compare id m →
      (∀ a, a ∈ l ↔ a ∈ m) → l = m
  | [], [], _, _, _ => rfl
  | [], b :: m, _, _, h => by simpa using (h b).2 List.mem_cons_self
  | a :: l, [], _, _, h => by simpa using (h a).1 List.mem_cons_self
  | a :: l, b :: m, hl, hm, h => by
    have ⟨hal, hl'⟩ := List.pairwise_cons.1 hl
    have ⟨hbm, hm'⟩ := List.pairwise_cons.1 hm
    have hab : a = b := by
      rcases List.mem_cons.1 ((h a).1 List.mem_cons_self) with e | ha
      · exact e
      · rcases List.mem_cons.1 ((h b).2 List.mem_cons_self) with e | hb
        · exact e.symm
        · have := Std.TransCmp.lt_trans (hal b hb) (hbm a ha)
          simp at this
    subst hab
    congr 1
    refine increasing_ext hl' hm' ?_
    intro c
    constructor
    · intro hc
      rcases List.mem_cons.1 ((h c).1 (List.mem_cons_of_mem a hc)) with e | hc'
      · subst e
        have := hal c hc
        simp at this
      · exact hc'
    · intro hc
      rcases List.mem_cons.1 ((h c).2 (List.mem_cons_of_mem a hc)) with e | hc'
      · subst e
        have := hbm c hc
        simp at this
      · exact hc'

/-- Two sets with the same members are the same value. -/
theorem ext [Std.LawfulEqOrd α] {s t : SortedSet α} (h : ∀ a, a ∈ s ↔ a ∈ t) : s = t :=
  toList_inj (increasing_ext s.increasing t.increasing h)

end SortedSet

/-- A finite map, kept as the list of its entries with increasing keys. -/
structure SortedMap (κ : Type) [Ord κ] (ν : Type) where
  entries : List (κ × ν)
  increasing : Increasing compare Prod.fst entries

namespace SortedMap

variable {κ : Type} [Ord κ] {ν : Type}

theorem entries_inj {m n : SortedMap κ ν} (h : m.entries = n.entries) : m = n := by
  cases m; cases n; cases h; rfl

instance [DecidableEq κ] [DecidableEq ν] : DecidableEq (SortedMap κ ν) := fun m n =>
  if h : m.entries = n.entries then isTrue (entries_inj h)
  else isFalse (fun e => h (congrArg entries e))

/-- The map without entries. -/
def empty : SortedMap κ ν := ⟨[], List.Pairwise.nil⟩

instance : Inhabited (SortedMap κ ν) := ⟨empty⟩

/-- The value at a key. -/
def find? [BEq κ] (m : SortedMap κ ν) (k : κ) : Option ν := m.entries.lookup k

variable [Std.TransOrd κ]

/-- Set the value at a key, replacing an earlier one. -/
def insert (k : κ) (v : ν) (m : SortedMap κ ν) : SortedMap κ ν :=
  ⟨insertBy compare Prod.fst (k, v) m.entries, m.increasing.insertBy⟩

/-- The map of a list of entries; of two entries with one key the later one counts. -/
def ofList (l : List (κ × ν)) : SortedMap κ ν :=
  l.foldl (fun m e => m.insert e.1 e.2) empty

variable [Std.LawfulEqOrd κ] [BEq κ] [LawfulBEq κ]

theorem find?_insert {k k' : κ} {v : ν} {m : SortedMap κ ν} :
    (m.insert k v).find? k' = if k' == k then some v else m.find? k' :=
  lookup_insertBy

/-- The map of the values of a function at some keys. -/
theorem find?_ofList_map [DecidableEq κ] (f : κ → ν) (l : List κ) (k : κ) :
    (ofList (l.map fun k => (k, f k))).find? k = if k ∈ l then some (f k) else none := by
  suffices h : ∀ m : SortedMap κ ν,
      ((l.map fun k => (k, f k)).foldl (fun m e => m.insert e.1 e.2) m).find? k =
        if k ∈ l then some (f k) else m.find? k from h empty
  induction l with
  | nil => simp
  | cons a l ih =>
    intro m
    rw [List.map_cons, List.foldl_cons, ih, find?_insert]
    by_cases hl : k ∈ l
    · simp [hl]
    · by_cases ha : k = a
      · simp [ha]
      · simp [hl, ha]

end SortedMap

end IssueGraph
