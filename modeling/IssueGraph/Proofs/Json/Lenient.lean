import IssueGraph.Json.Shape.Text
import IssueGraph.Proofs.Json.Reader

/-!
# Readers that differ in the numbers they take

`Shape.readWith` reads the fields of a record as `Shape.read` does, but leaves whole numbers to a
reader of one's own. A reader tightens another one if it yields what the other yields, or, where it
may, fails instead. Readers are built alike, so what tightens the numbers tightens the record: this
is shown along the readers, step by step. Main statement: `Shape.tightens_record`.
-/
namespace IssueGraph.Json

variable {α β σ τ : Type} {mayFail : Prop}

/-! ## Outcomes -/

/-- What comes out the first time comes out the second time as well, or a fault if one may. -/
def Tightens (mayFail : Prop) (x y : Except Fault α) : Prop :=
  ∀ a, x = .ok a → y = .ok a ∨ mayFail ∧ ∃ fault, y = .error fault

theorem Tightens.refl (x : Except Fault α) : Tightens mayFail x x := fun _ h => .inl h

theorem Tightens.bind {x y : Except Fault α} {f g : α → Except Fault β}
    (h : Tightens mayFail x y) (hfg : ∀ a, Tightens mayFail (f a) (g a)) :
    Tightens mayFail (x >>= f) (y >>= g) := by
  intro b hb
  obtain ⟨a, hx, hb⟩ := bind_eq_ok.mp hb
  rcases h a hx with rfl | ⟨hfail, fault, rfl⟩
  · exact hfg a b hb
  · exact .inr ⟨hfail, fault, rfl⟩

/-- The same first step does not matter. -/
theorem Tightens.bind_left {x : Except Fault α} {f g : α → Except Fault β}
    (hfg : ∀ a, Tightens mayFail (f a) (g a)) : Tightens mayFail (x >>= f) (x >>= g) :=
  (Tightens.refl x).bind hfg

/-! ## Readers -/

namespace Reader

variable {r s : Reader α}

/-- What the first reader yields is yielded by the second, unless that may fail and does. -/
def Tightens (mayFail : Prop) (r s : Reader α) : Prop := ∀ i, Json.Tightens mayFail (r i) (s i)

theorem Tightens.refl (r : Reader α) : Tightens mayFail r r := fun i => .refl (r i)

theorem Tightens.map (f : α → β) (h : Tightens mayFail r s) :
    Tightens mayFail (Reader.map f r) (Reader.map f s) := by
  intro i
  have hmap : ∀ x : Except Fault (Step i α), x.map (Step.map f) = x >>= fun a => .ok (a.map f) := by
    intro x
    cases x <;> rfl
  rw [Reader.map, Reader.map, hmap, hmap]
  exact (h i).bind fun _ => .refl _

theorem Tightens.atValue {r s : Char → Reader α}
    (h : ∀ c i, i.ahead.head? = some c → Json.Tightens mayFail (r c i) (s c i)) :
    Tightens mayFail (Reader.atValue r) (Reader.atValue s) := by
  intro i
  unfold Reader.atValue
  split
  · exact .refl _
  · next c j hj =>
    have hhead : i.skipBlanks.ahead.head? = some c := by
      rw [Input.ahead_of_next? hj, List.head?_cons]
    exact (h c i.skipBlanks hhead).bind fun _ => .refl _

theorem Tightens.check (f : α → Except Cause β) (h : Tightens mayFail r s) :
    Tightens mayFail (Reader.check f r) (Reader.check f s) :=
  fun i => (h i).bind fun _ => .refl _

theorem Tightens.afterBracket
    {r s : (start i : Input) → i.length < start.length → Except Fault (Step start α)}
    (h : ∀ start i hlt, Json.Tightens mayFail (r start i hlt) (s start i hlt)) :
    Tightens mayFail (afterBracket r) (Json.afterBracket s) := by
  intro i
  unfold Json.afterBracket
  split
  · exact .refl _
  · exact h i _ _

end Reader

/-- After each key that the first way of reading knows, the second one tightens it. -/
def MembersTighten (mayFail : Prop) (member member' : String → σ → Except Cause (Reader σ)) : Prop :=
  ∀ key slots r, member key slots = .ok r →
    ∃ s, member' key slots = .ok s ∧ Reader.Tightens mayFail r s

theorem tightens_readMembers {member member' : String → σ → Except Cause (Reader σ)}
    (h : MembersTighten mayFail member member') (start : Input) (first : Bool) (slots : σ)
    (i : Input) (hlt : i.length < start.length) :
    Tightens mayFail (readMembers start member first slots i hlt)
      (readMembers start member' first slots i hlt) := by
  induction hn : i.length using Nat.strongRecOn generalizing first slots i with
  | _ n ih =>
  subst hn
  rw [readMembers, readMembers]
  refine .bind_left fun w => ?_
  split
  · refine .bind_left fun key => ?_
    cases hmember : member key.value slots with
    | error cause => exact nofun
    | ok r =>
      obtain ⟨s, hs, htight⟩ := h _ _ _ hmember
      rw [hs]
      refine .bind_left fun colon => ?_
      refine (htight colon.rest).bind fun step => ?_
      refine ih _ ?_ _ _ _ _ rfl
      have := w.bound
      have := key.shorter
      have := colon.shorter
      have := step.shorter
      omega
  · exact .refl _

/-! ## Records -/

mutual

/-- Read a value, or the fields of a record; `number` reads those that are whole numbers. -/
def Shape.readWith (number : Reader Nat) : {α : Type} → Shape α → Reader α
  | _, .count _ _ => number
  | _, .record name fields => Reader.atValue fun c =>
    if c == '[' then
      afterBracket fun start i h => do
        let w ← fields.readItemsWith number (Shape.recordLength name fields.count) 0 i
        let s ← readListEnd w.rest
        return ⟨w.value, s.rest, by have := w.bound; have := s.shorter; omega⟩
    else if c == '{' then
      Reader.check fields.complete (afterBracket fun start i h =>
        readMembers start (fields.readMemberWith number) true fields.none i h)
    else wrongKindAhead (Shape.recordName name) c
  | _, .image f s => Reader.map f (s.readWith number)
  | _, s => s.read

def Fields.readItemsWith (number : Reader Nat) : {σ τ : Type} → Fields σ τ →
    (expected : String) → (index : Nat) → (i : Input) → Except Fault (Within i τ)
  | _, _, .nil, _, _, i => .ok ⟨(), i, Nat.le_refl _⟩
  | _, _, .cons _ absent s rest, expected, index, i => do
    let w ← itemAhead (index == 0) i
    let a ← if w.value then do
        let a ← s.readWith number w.rest
        pure (⟨a.value, a.rest, Nat.le_of_lt a.shorter⟩ : Within w.rest _)
      else match absent.inArray? with
        | some a => pure ⟨a, w.rest, Nat.le_refl _⟩
        | none => (w.rest.pastClosing ']').fault (.invalidLength index expected)
    let r ← rest.readItemsWith number expected (index + 1) a.rest
    return ⟨(a.value, r.value), r.rest, by
      have := w.bound; have := a.bound; have := r.bound; omega⟩

def Fields.readMemberWith (number : Reader Nat) : {σ τ : Type} → Fields σ τ → String → σ →
    Except Cause (Reader σ)
  | _, _, .nil, _, slots => .ok (Reader.map (fun _ => slots) skipValue)
  | _, _, .cons name _ s rest, key, (a, slots) =>
    if key == name then
      if a.isSome then .error (.duplicateField name)
      else .ok (Reader.map (fun a => (some a, slots)) (s.readWith number))
    else (rest.readMemberWith number key slots).map (Reader.map fun slots => (a, slots))

end

section Fields

variable {number : Reader Nat}

/-- Reading tightens reading with `number`. -/
structure Fields.Tighten (mayFail : Prop) (number : Reader Nat) (fields : Fields σ τ) : Prop where
  items : ∀ expected index i, Tightens mayFail (fields.readItemsWith number expected index i)
    (fields.readItems expected index i)
  members : MembersTighten mayFail (fields.readMemberWith number) fields.readMember

theorem Fields.Tighten.nil : Fields.nil.Tighten mayFail number where
  items := fun _ _ _ => .refl _
  members := fun _ _ r h => ⟨r, h, .refl r⟩

theorem Fields.Tighten.cons (name : String) (absent : Absent α) {s : Shape α}
    {fields : Fields σ τ} (hs : Reader.Tightens mayFail (s.readWith number) s.read)
    (hfields : fields.Tighten mayFail number) :
    (Fields.cons name absent s fields).Tighten mayFail number where
  items := by
    intro expected index i
    change Tightens mayFail (itemAhead (index == 0) i >>= _) (itemAhead (index == 0) i >>= _)
    refine .bind_left fun w => ?_
    dsimp only
    split
    · refine (hs w.rest).bind fun a => .bind_left fun a => ?_
      exact (hfields.items _ _ _).bind fun _ => .refl _
    · cases absent.inArray? with
      | some a => exact .bind_left fun a => (hfields.items _ _ _).bind fun _ => .refl _
      | none => exact .bind_left fun a => (hfields.items _ _ _).bind fun _ => .refl _
  members := by
    rintro key ⟨a, slots⟩ r h
    rw [Fields.readMemberWith] at h
    rw [Fields.readMember]
    by_cases hkey : (key == name) = true
    · rw [if_pos hkey] at h ⊢
      cases a with
      | some a => cases h
      | none =>
        cases h
        exact ⟨_, rfl, hs.map _⟩
    · rw [if_neg hkey] at h ⊢
      obtain ⟨r, hr, rfl⟩ := map_eq_ok.mp h
      obtain ⟨s, hs, htight⟩ := hfields.members _ _ _ hr
      exact ⟨_, map_eq_ok.mpr ⟨s, hs, rfl⟩, htight.map _⟩

theorem Shape.tightens_record (name : String) {fields : Fields σ τ}
    (hfields : fields.Tighten mayFail number) :
    Reader.Tightens mayFail ((Shape.record name fields).readWith number)
      (Shape.record name fields).read := by
  change Reader.Tightens mayFail (Reader.atValue _) (Reader.atValue _)
  refine .atValue fun c i _ => ?_
  split
  · exact Reader.Tightens.afterBracket
      (fun start i hlt => (hfields.items _ _ _).bind fun _ => .refl _) i
  · split
    · exact Reader.Tightens.check _ (.afterBracket fun start i hlt =>
        tightens_readMembers hfields.members start true _ i hlt) i
    · exact .refl _

theorem Shape.tightens_image (f : α → β) {s : Shape α}
    (hs : Reader.Tightens mayFail (s.readWith number) s.read) :
    Reader.Tightens mayFail ((Shape.image f s).readWith number) (Shape.image f s).read :=
  hs.map f

end Fields

theorem tightens_readText {r s : Reader α} (h : Reader.Tightens mayFail r s) (text : String) :
    Tightens mayFail (readText r text) (readText s text) :=
  (h (.ofString text)).bind fun _ => .refl _

end IssueGraph.Json
