import IssueGraph.Json.Shape.Value
import IssueGraph.Proofs.Json.Reader

/-!
# Records written field by field

Objects are written with their fields in order, some of which are left out. Such an object is fitted
to the values of its fields and the defaults of those left out, if no two fields have one name. Main
statement: `Fields.Written.fit`.
-/
namespace IssueGraph.Json

variable {α σ τ : Type} {ms : List (String × Json)} {name : String} {absent : Absent α}
  {s : Shape α} {fields : Fields σ τ} {slots : σ} {t : τ}

/-- The names of the fields. -/
def Fields.names : {σ τ : Type} → Fields σ τ → List String
  | _, _, .nil => []
  | _, _, .cons name _ _ rest => name :: rest.names

/-- The members give the fields in order; what they leave out has a default. -/
inductive Fields.Written : {σ τ : Type} → Fields σ τ → List (String × Json) → τ → Prop where
  | nil : Written .nil [] ()
  | given {α σ τ : Type} {name : String} {absent : Absent α} {s : Shape α} {rest : Fields σ τ}
    {j : Json} {a : α} {ms : List (String × Json)} {t : τ} (h : s.fit j = .ok a)
    (hrest : Written rest ms t) : Written (.cons name absent s rest) ((name, j) :: ms) (a, t)
  | omitted {α σ τ : Type} {name : String} {absent : Absent α} {s : Shape α} {rest : Fields σ τ}
    {a : α} {ms : List (String × Json)} {t : τ} (h : absent.inObject? = some a)
    (hrest : Written rest ms t) : Written (.cons name absent s rest) ms (a, t)

namespace Fields

theorem Written.name_mem (h : fields.Written ms t) : ∀ m ∈ ms, m.1 ∈ fields.names := by
  induction h with
  | nil => nofun
  | given h hrest ih =>
    intro m hm
    rcases List.mem_cons.mp hm with rfl | hm
    · exact List.mem_cons_self
    · exact List.mem_cons_of_mem _ (ih m hm)
  | omitted h hrest ih => exact fun m hm => List.mem_cons_of_mem _ (ih m hm)

/-- Members of other names pass a field by. -/
theorem foldlM_fitMember_cons {a : Option α} {slots' : σ} (hms : ∀ m ∈ ms, m.1 ≠ name)
    (h : ms.foldlM (fun slots m => fields.fitMember m.1 m.2 slots) slots = .ok slots') :
    ms.foldlM (fun slots m => (cons name absent s fields).fitMember m.1 m.2 slots) (a, slots) =
      .ok (a, slots') := by
  induction ms generalizing slots with
  | nil => cases h; rfl
  | cons m ms ih =>
    obtain ⟨hm, hms⟩ := List.forall_mem_cons.mp hms
    rw [List.foldlM_cons] at h
    obtain ⟨slots₁, hslots₁, h⟩ := bind_eq_ok.mp h
    have hstep : (cons name absent s fields).fitMember m.1 m.2 (a, slots) = .ok (a, slots₁) := by
      rw [fitMember, if_neg (by simpa using hm)]
      exact bind_of_eq_ok hslots₁
    rw [List.foldlM_cons, bind_of_eq_ok hstep]
    exact ih hms h

theorem Written.fitted (h : fields.Written ms t) (hnames : fields.names.Nodup) :
    ∃ slots, ms.foldlM (fun slots m => fields.fitMember m.1 m.2 slots) fields.none = .ok slots ∧
      fields.complete slots = .ok t := by
  induction h with
  | nil => exact ⟨(), rfl, rfl⟩
  | @given _ _ _ name absent s rest j a ms t h hrest ih =>
    obtain ⟨hname, hnames⟩ := List.nodup_cons.mp hnames
    obtain ⟨slots, hslots, hcomplete⟩ := ih hnames
    have hfirst : (cons name absent s rest).fitMember name j (.none, rest.none) =
        .ok (some a, rest.none) := by
      rw [fitMember, if_pos (beq_self_eq_true name)]
      exact bind_of_eq_ok h
    -- No later member has this name again, so the value that was read stays.
    have hother : ∀ m ∈ ms, m.1 ≠ name := fun m hm heq => hname (heq ▸ hrest.name_mem m hm)
    refine ⟨(some a, slots), ?_, bind_of_eq_ok hcomplete⟩
    rw [List.foldlM_cons]
    exact (bind_of_eq_ok hfirst).trans (foldlM_fitMember_cons hother hslots)
  | @omitted _ _ _ name absent s rest a ms t h hrest ih =>
    obtain ⟨hname, hnames⟩ := List.nodup_cons.mp hnames
    obtain ⟨slots, hslots, hcomplete⟩ := ih hnames
    have hother : ∀ m ∈ ms, m.1 ≠ name := fun m hm heq => hname (heq ▸ hrest.name_mem m hm)
    refine ⟨(.none, slots), foldlM_fitMember_cons hother hslots, ?_⟩
    rw [complete]
    simp only [Option.none_or, h]
    exact bind_of_eq_ok hcomplete

/-- A record is fitted to what its object was written from. -/
theorem Written.fit {record : String} (h : fields.Written ms t) (hnames : fields.names.Nodup) :
    (Shape.record record fields).fit (.obj ms) = .ok t := by
  obtain ⟨slots, hslots, hcomplete⟩ := h.fitted hnames
  exact (bind_of_eq_ok hslots).trans hcomplete

end Fields

/-! ## Other shapes -/

theorem fit_image {β : Type} {f : α → β} {j : Json} {a : α} (h : s.fit j = .ok a) :
    (Shape.image f s).fit j = .ok (f a) :=
  map_eq_ok.mpr ⟨a, h, rfl⟩

theorem fit_count {limit n : Nat} {name : String} (h : n < limit) :
    (Shape.count limit name).fit (.int n) = .ok n := by
  change (if 0 ≤ (n : Int) && (n : Int) < limit then Except.ok (n : Int).toNat else _) = _
  rw [if_pos (by simp [h]), Int.toNat_natCast]

theorem fit_optional {j : Json} {a : α} (h : s.fit j = .ok a) (hj : j ≠ .null) :
    s.optional.fit j = .ok (some a) := by
  cases j with
  | null => exact absurd rfl hj
  | bool | int | float | str | arr | obj => exact map_eq_ok.mpr ⟨a, h, rfl⟩

/-- What is fitted to each of some values from what it is written as. -/
theorem mapM_map_eq_ok {β ε : Type} {g : β → Except ε α} {f : α → β} {as : List α}
    (h : ∀ a ∈ as, g (f a) = .ok a) : (as.map f).mapM g = .ok as := by
  induction as with
  | nil => rfl
  | cons a as ih =>
    obtain ⟨ha, has⟩ := List.forall_mem_cons.mp h
    rw [List.map_cons, List.mapM_cons, bind_of_eq_ok ha, bind_of_eq_ok (ih has)]
    rfl

theorem fit_list {f : α → Json} {as : List α} (h : ∀ a ∈ as, s.fit (f a) = .ok a) :
    s.list.fit (.arr (as.map f)) = .ok as :=
  mapM_map_eq_ok h

theorem fit_table {f : α → Json} {entries : List (String × α)}
    (h : ∀ e ∈ entries, s.fit (f e.2) = .ok e.2) :
    s.table.fit (.obj (entries.map fun e => (e.1, f e.2))) = .ok entries :=
  mapM_map_eq_ok fun e he => map_eq_ok.mpr ⟨e.2, h e he, rfl⟩

end IssueGraph.Json
