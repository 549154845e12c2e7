import IssueGraph.Json.Shape.Value
import IssueGraph.Proofs.Json.Skip

/-!
# Reading a text by its value

A shape reads a text of a value to what the value itself is fitted to. The proof follows the shapes;
each kind of shape has its own lemma, from which those of the shapes inside it are taken. Main
statement: `Shape.readText_of_fit`.
-/
namespace IssueGraph.Json

variable {α β σ τ : Type} {i : Input} {j : Json} {js : List Json} {ms : List (String × Json)}
  {cs rest w : List Char} {first : Bool}

/-- The reader takes a text of a value to what the value is fitted to. -/
def Agrees (r : Reader α) (fit : Json → Except Cause α) : Prop :=
  ∀ ⦃j cs w rest a⦄, Writes j cs → Blank w → Follows rest → fit j = .ok a →
    r.Takes (w ++ (cs ++ rest)) a rest

/-! ## Literals -/

namespace Reader

theorem Takes.check {r : Reader α} {f : α → Except Cause β} {a : α} {b : β}
    (h : r.Takes cs a rest) (hf : f a = .ok b) : (Reader.check f r).Takes cs b rest := by
  intro i hi
  obtain ⟨s, hs, rfl, hahead⟩ := h i hi
  refine ⟨s.map fun _ => b, ?_, rfl, hahead⟩
  rw [Reader.check, bind_of_eq_ok hs, hf]
  rfl

end Reader

theorem takes_readStringAs {expected s : String} (hw : Blank w) :
    Reader.Takes (readStringAs expected) (w ++ (quote s ++ rest)) s rest :=
  Reader.Takes.atValue (takes_readString s) hw (by decide)

theorem takes_readWordOf {expected s : String} {options : List (String × α)} {a : α}
    (hw : Blank w) (ha : optionOf options s = .ok a) :
    Reader.Takes (readWordOf expected options) (w ++ (quote s ++ rest)) a rest :=
  (takes_readStringAs hw).check ha

theorem takes_readNumberAs {expected : String} {convert : Number → Except Cause α} {n : Number}
    {a : α} (h : Writes n.toJson cs) (hw : Blank w) (hrest : Follows rest)
    (ha : convert n = .ok a) :
    Reader.Takes (readNumberAs expected convert) (w ++ (cs ++ rest)) a rest := by
  have hread := (h.numeral.read hrest).check ha
  obtain ⟨c, ds, rfl, hc⟩ := h.lead
  refine Reader.Takes.atValue ?_ hw hc.not_follows.1
  have hnumber : c = '-' ∨ c.isDigit = true := by cases n <;> exact hc
  rw [if_pos (by simpa using hnumber)]
  exact hread

theorem agrees_text : Agrees Shape.text.read Shape.text.fit := by
  intro j cs w rest a h hw hrest ha
  cases j <;> cases ha
  cases h
  exact takes_readStringAs hw

theorem agrees_flag : Agrees Shape.flag.read Shape.flag.fit := by
  intro j cs w rest a h hw hrest ha
  cases j <;> cases ha
  cases h
  cases a with
  | true => exact Reader.Takes.atValue Reader.takes_word hw (by decide)
  | false => exact Reader.Takes.atValue Reader.takes_word hw (by decide)

theorem agrees_count (limit : Nat) (name : String) :
    Agrees (Shape.count limit name).read (Shape.count limit name).fit := by
  intro j cs w rest a h hw hrest ha
  cases j with
  | int n => exact takes_readNumberAs (n := .int n) h hw hrest ha
  | null | bool | float | str | arr | obj => cases ha

theorem agrees_real : Agrees Shape.real.read Shape.real.fit := by
  intro j cs w rest a h hw hrest ha
  cases j with
  | int n =>
    have hn : realOf (.int n) = .ok a := by
      rw [← ha]
      by_cases h : n < 0 <;> simp [realOf, signed, Shape.fit, h]
    exact takes_readNumberAs (n := .int n) h hw hrest hn
  | float x => exact takes_readNumberAs (n := .float x) h hw hrest ha
  | null | bool | str | arr | obj => cases ha

theorem agrees_optional {s : Shape α} (hs : Agrees s.read s.fit) :
    Agrees s.optional.read s.optional.fit := by
  intro j cs w rest a h hw hrest ha
  obtain ⟨c, ds, hcs, hc⟩ := h.lead
  by_cases hj : j = .null
  · subst hj
    cases h
    cases ha
    exact Reader.Takes.atValue Reader.takes_word hw (by decide)
  · obtain ⟨b, hb, rfl⟩ : ∃ b, s.fit j = .ok b ∧ some b = a := by
      cases j with
      | null => exact absurd rfl hj
      | bool | int | float | str | arr | obj => exact map_eq_ok.mp ha
    have hread := (hs h blank_nil hrest hb).map some
    subst hcs
    refine Reader.Takes.atValue ?_ hw hc.not_follows.1
    rw [if_neg (by simpa using mt hc.eq_null_iff.mp hj)]
    exact hread

theorem agrees_image (f : α → β) {s : Shape α} (hs : Agrees s.read s.fit) :
    Agrees (Shape.image f s).read (Shape.image f s).fit := by
  intro j cs w rest a h hw hrest ha
  obtain ⟨b, hb, rfl⟩ := map_eq_ok.mp ha
  exact (hs h hw hrest hb).map f

/-! ## Brackets -/

theorem takes_afterBracket {c : Char} {a : α}
    {r : (start i : Input) → i.length < start.length → Except Fault (Step start α)}
    (h : ∀ start i hlt, i.ahead = cs →
      ∃ s : Step start α, r start i hlt = .ok s ∧ s.value = a ∧ s.rest.ahead = rest) :
    (afterBracket r).Takes (c :: cs) a rest := by
  rintro ⟨_, place⟩ rfl
  exact h _ _ _ rfl

/-- An item that is ahead is read. -/
theorem read_item {r : Reader α} {fit : Json → Except Cause α} (hr : Agrees r fit) {a : α}
    {sep ds : List Char} (hsep : Separator first sep) (h : Writes j cs) (hds : Follows ds)
    (hi : i.ahead = sep ++ (cs ++ ds)) (ha : fit j = .ok a) :
    ∃ v : Within i Bool, itemAhead first i = .ok v ∧ v.value = true ∧
      ∃ s, r v.rest = .ok s ∧ s.value = a ∧ s.rest.ahead = ds := by
  have hread := hr (w := []) h blank_nil hds ha
  obtain ⟨c, ds, rfl, hc⟩ := h.lead
  obtain ⟨v, hv, htrue, hahead⟩ := itemAhead_item hsep hi hc
  exact ⟨v, hv, htrue, hread v.rest hahead⟩

/-- The items are read one after the other. -/
theorem readItems_of_writes {r : Reader α} {fit : Json → Except Cause α} (hr : Agrees r fit)
    {start : Input} {before as : List α} (hlt : i.length < start.length)
    (h : WritesItems before.isEmpty js cs) (hi : i.ahead = cs ++ rest)
    (has : js.mapM fit = .ok as) :
    ∃ s, readItems start r before i hlt = .ok s ∧ s.value = before.reverse ++ as ∧
      s.rest.ahead = rest := by
  -- The items read before are generalised; whether there are any tells if a comma is due.
  induction js generalizing before as cs i with
  | nil =>
    cases has
    cases h with
    | nil hw =>
      rw [List.append_assoc] at hi
      obtain ⟨⟨value, k, hk⟩, hv, rfl, hahead⟩ := itemAhead_end hw hi
      obtain ⟨s, hs, -, hrest⟩ := takes_readListEnd (w := []) blank_nil k hahead
      rw [readItems, bind_of_eq_ok hv]
      dsimp only
      rw [if_neg (by decide), bind_of_eq_ok hs]
      exact ⟨_, rfl, (List.append_nil _).symm, hrest⟩
  | cons j js ih =>
    cases h with
    | cons hsep h hs =>
      rw [List.mapM_cons] at has
      obtain ⟨a, ha, has⟩ := bind_eq_ok.mp has
      obtain ⟨as', has', has⟩ := bind_eq_ok.mp has
      cases has
      rw [List.append_assoc, List.append_assoc] at hi
      obtain ⟨v, hv, htrue, s, hread, rfl, hrest⟩ := read_item hr hsep h hs.follows hi ha
      rw [readItems, bind_of_eq_ok hv, if_pos htrue, bind_of_eq_ok hread]
      have hfirst : WritesItems (s.value :: before).isEmpty js _ := hs
      obtain ⟨t, ht, htvalue, htrest⟩ := ih _ hfirst hrest has'
      refine ⟨t, ht, ?_, htrest⟩
      rw [htvalue, List.reverse_cons, List.append_assoc, List.singleton_append]

theorem agrees_list {s : Shape α} (hs : Agrees s.read s.fit) :
    Agrees s.list.read s.list.fit := by
  intro j cs w rest a h hw hrest ha
  cases j with
  | arr js =>
    cases h with
    | arr h =>
      refine Reader.Takes.atValue (takes_afterBracket fun start i hlt hi => ?_) hw (by decide)
      exact readItems_of_writes hs hlt h hi ha
  | null | bool | int | float | str | obj => cases ha

/-- After any key, the reader goes on as the member is fitted. -/
def MembersAgree (member : String → σ → Except Cause (Reader σ))
    (fit : String → Json → σ → Except Cause σ) : Prop :=
  ∀ ⦃k j slots slots'⦄, fit k j slots = .ok slots' → ∃ r, member k slots = .ok r ∧
    ∀ ⦃cs w rest⦄, Writes j cs → Blank w → Follows rest → r.Takes (w ++ (cs ++ rest)) slots' rest

/-- After a key that is taken, its value is read and then the other members. -/
theorem readMembers_key {member : String → σ → Except Cause (Reader σ)} {start : Input}
    {slots : σ} {k : String} {r : Reader σ} {sep v tail : List Char}
    (hlt : i.length < start.length) (hsep : Separator first sep) (hv : Blank v)
    (hi : i.ahead = sep ++ (quote k ++ (v ++ ':' :: tail))) (hr : member k slots = .ok r) :
    ∃ (j : Input) (hj : j.length < start.length), j.ahead = tail ∧
      readMembers start member first slots i hlt = r j >>= fun s =>
        readMembers start member false s.value s.rest (Nat.lt_trans s.shorter hj) := by
  -- Key and colon are passed one after the other, each from where the last one ended.
  obtain ⟨⟨value, i₁, hi₁⟩, hahead, rfl, hkey⟩ := keyAhead_key hsep hi
  obtain ⟨key, hread, hvalue, hcolon⟩ := takes_readString _ i₁ hkey
  obtain ⟨colon, hc, -, htext⟩ := takes_readColon hv key.rest hcolon
  have hshorter : colon.rest.length < start.length := by
    have := key.shorter
    have := colon.shorter
    omega
  refine ⟨colon.rest, hshorter, htext, ?_⟩
  rw [readMembers, bind_of_eq_ok hahead]
  dsimp only
  rw [if_pos rfl, bind_of_eq_ok hread, hvalue, hr]
  dsimp only
  rw [bind_of_eq_ok hc]

/-- The members are read one after the other. -/
theorem readMembers_of_writes {member : String → σ → Except Cause (Reader σ)}
    {fit : String → Json → σ → Except Cause σ} (hm : MembersAgree member fit)
    {start : Input} {slots slots' : σ} (hlt : i.length < start.length)
    (h : WritesMembers first ms cs) (hi : i.ahead = cs ++ rest)
    (hfit : ms.foldlM (fun slots m => fit m.1 m.2 slots) slots = .ok slots') :
    ∃ s, readMembers start member first slots i hlt = .ok s ∧ s.value = slots' ∧
      s.rest.ahead = rest := by
  induction ms generalizing slots first cs i with
  | nil =>
    cases hfit
    cases h with
    | nil hw =>
      rw [List.append_assoc] at hi
      obtain ⟨⟨value, k, hk⟩, hv, rfl, hahead⟩ := keyAhead_end hw hi
      rw [readMembers, bind_of_eq_ok hv]
      dsimp only
      rw [if_neg (by decide)]
      exact ⟨_, rfl, rfl, Input.ahead_pastClosing hahead (by decide)⟩
  | cons m ms ih =>
    cases h with
    | cons hsep hv hw h hs =>
      rw [List.foldlM_cons] at hfit
      obtain ⟨slots₁, hslots, hfit⟩ := bind_eq_ok.mp hfit
      obtain ⟨r, hr, htakes⟩ := hm hslots
      simp only [List.append_assoc, List.cons_append] at hi
      obtain ⟨j, hj, htext, hmembers⟩ := readMembers_key hlt hsep hv hi hr
      obtain ⟨s, hs', rfl, hrest⟩ := htakes h hw hs.follows j htext
      rw [hmembers, bind_of_eq_ok hs']
      exact ih _ hs hrest hfit

theorem takes_members {member : String → σ → Except Cause (Reader σ)}
    {fit : String → Json → σ → Except Cause σ} {slots slots' : σ} (hm : MembersAgree member fit)
    (h : WritesMembers true ms cs)
    (hfit : ms.foldlM (fun slots m => fit m.1 m.2 slots) slots = .ok slots')
    (rest : List Char) :
    (afterBracket fun start i h => readMembers start member true slots i h).Takes
      ('{' :: (cs ++ rest)) slots' rest :=
  takes_afterBracket fun _ _ hlt hi => readMembers_of_writes hm hlt h hi hfit

/-- Collecting in front yields the images in reverse. -/
theorem foldlM_of_mapM {f : β → Except Cause α} {l : List β} {as : List α}
    (h : l.mapM f = .ok as) (before : List α) :
    l.foldlM (fun before b => (f b).map (· :: before)) before = .ok (as.reverse ++ before) := by
  induction l generalizing as before with
  | nil => cases h; rfl
  | cons b l ih =>
    rw [List.mapM_cons] at h
    obtain ⟨a, ha, h⟩ := bind_eq_ok.mp h
    obtain ⟨as', has, h⟩ := bind_eq_ok.mp h
    cases h
    have hfirst : (f b).map (· :: before) = .ok (a :: before) := map_eq_ok.mpr ⟨a, ha, rfl⟩
    rw [List.foldlM_cons, bind_of_eq_ok hfirst, ih has (a :: before)]
    simp

theorem agrees_table {s : Shape α} (hs : Agrees s.read s.fit) :
    Agrees s.table.read s.table.fit := by
  intro j cs w rest a h hw hrest ha
  cases j with
  | obj ms =>
    cases h with
    | obj h =>
      have hm : MembersAgree
          (fun key before => .ok (Reader.map (fun a => (key, a) :: before) s.read))
          (fun k j before => ((s.fit j).map fun a => (k, a)).map (· :: before)) := by
        intro k j slots slots' hfit
        obtain ⟨b, hb, rfl⟩ := map_eq_ok.mp hfit
        obtain ⟨a, ha, rfl⟩ := map_eq_ok.mp hb
        exact ⟨_, rfl, fun _ _ _ h hw hrest => (hs h hw hrest ha).map _⟩
      have hread := takes_members hm h (foldlM_of_mapM ha []) rest
      refine Reader.Takes.atValue ?_ hw (by decide)
      simpa using hread.map List.reverse
  | null | bool | int | float | str | arr => cases ha

theorem agrees_pair {s : Shape α} {t : Shape β} (hs : Agrees s.read s.fit)
    (ht : Agrees t.read t.fit) : Agrees (s.pair t).read (s.pair t).fit := by
  intro j cs w rest a h hw hrest hfit
  match j, h, hfit with
  | .arr [], _, hfit => cases hfit
  | .arr [_], _, hfit =>
    obtain ⟨_, _, hfit⟩ := bind_eq_ok.mp hfit
    cases hfit
  | .arr (_ :: _ :: _ :: _), _, hfit =>
    obtain ⟨_, _, hfit⟩ := bind_eq_ok.mp hfit
    obtain ⟨_, _, hfit⟩ := bind_eq_ok.mp hfit
    cases hfit
  | .arr [_, _], .arr (.cons hsep₁ h₁ hrest₁), hfit =>
    obtain ⟨a₁, ha₁, hfit⟩ := bind_eq_ok.mp hfit
    obtain ⟨a₂, ha₂, hfit⟩ := bind_eq_ok.mp hfit
    cases hfit
    refine Reader.Takes.atValue (takes_afterBracket fun start i hlt hi => ?_) hw (by decide)
    simp only [List.append_eq, List.append_assoc] at hi
    obtain ⟨v₁, hv₁, htrue₁, s₁, hs₁, rfl, hahead₁⟩ := read_item hs hsep₁ h₁ hrest₁.follows hi ha₁
    cases hrest₁ with
    | cons hsep₂ h₂ hrest₂ =>
      simp only [List.append_assoc] at hahead₁
      obtain ⟨v₂, hv₂, htrue₂, s₂, hs₂, rfl, hahead₂⟩ :=
        read_item ht hsep₂ h₂ hrest₂.follows hahead₁ ha₂
      cases hrest₂ with
      | nil hw' =>
        rw [List.append_assoc] at hahead₂
        obtain ⟨e, he, -, hahead⟩ := takes_readListEnd hw' s₂.rest hahead₂
        rw [readPair, bind_of_eq_ok hv₁, if_pos htrue₁, bind_of_eq_ok hs₁, bind_of_eq_ok hv₂,
          if_pos htrue₂, bind_of_eq_ok hs₂, bind_of_eq_ok he]
        exact ⟨_, rfl, rfl, hahead⟩

theorem takes_readTag {options : List (String × α)} {s : String} {a : α} (hw : Blank w)
    (ha : optionOf options s = .ok a) :
    Reader.Takes (readTag options) (w ++ (quote s ++ rest)) a rest := by
  intro i hi
  have hahead := Input.ahead_skipBlanks hi hw (by decide)
  unfold readTag
  dsimp only
  rw [hahead]
  exact takes_readWordOf hw ha i hi

theorem takes_readNull (hw : Blank w) :
    Reader.Takes readNull (w ++ (compact .null ++ rest)) () rest :=
  Reader.Takes.atValue Reader.takes_word hw (by decide)

theorem agrees_choice (options : List (String × α)) :
    Agrees (Shape.choice options).read (Shape.choice options).fit := by
  intro j cs w rest a h hw hrest hfit
  match j, h, hfit with
  | .str s, .str _, hfit =>
    exact Reader.Takes.atValue (takes_readWordOf (w := []) blank_nil hfit) hw (by decide)
  | .obj [(name, j)], .obj (.cons hsep hv hw' h (.nil hend)), hfit =>
    obtain ⟨b, hb, hfit⟩ := bind_eq_ok.mp hfit
    cases j <;> cases hfit
    cases h
    refine Reader.Takes.atValue (takes_afterBracket fun start i hlt hi => ?_) hw (by decide)
    simp only [List.append_eq, List.append_assoc, List.cons_append] at hi
    obtain ⟨key, hkey, rfl, hcolon⟩ := takes_readTag hsep hb i hi
    obtain ⟨colon, hc, -, hnull⟩ := takes_readColon hv key.rest hcolon
    obtain ⟨null, hn, -, hclose⟩ := takes_readNull hw' colon.rest hnull
    have hahead := Input.ahead_skipBlanks hclose hend (by decide)
    rw [readTagged, bind_of_eq_ok hkey, bind_of_eq_ok hc, bind_of_eq_ok hn]
    dsimp only
    split
    · next hnil => rw [hahead] at hnil; cases hnil
    · refine ⟨_, rfl, rfl, ?_⟩
      change null.rest.skipBlanks.ahead.drop 1 = rest
      rw [hahead]
      rfl
    · next hne => exact absurd hahead (hne _)

/-! ## Records -/

/-- The fields are read as they are fitted, in an array up to its closing bracket and in an object
member by member. -/
structure Fields.Agree (fields : Fields σ τ) : Prop where
  items : ∀ {expected : String} {index : Nat} {js : List Json} {cs rest : List Char} {i : Input}
    {a : τ}, WritesItems (index == 0) js cs → i.ahead = cs ++ rest →
      fields.fitItems expected index js = .ok a →
      ∃ v, fields.readItems expected index i = .ok v ∧ v.value = a ∧
        ∃ w, Blank w ∧ v.rest.ahead = w ++ ']' :: rest
  members : MembersAgree fields.readMember fields.fitMember

theorem Fields.agree_nil : Fields.nil.Agree where
  items := by
    intro expected index js cs rest i a h hi ha
    cases js with
    | cons j js => cases ha
    | nil =>
      cases h with
      | nil hw =>
        rw [List.append_assoc] at hi
        exact ⟨_, rfl, rfl, _, hw, hi⟩
  members := by
    intro k j slots slots' hfit
    cases hfit
    exact ⟨_, rfl, fun _ _ _ h hw hrest => (takes_skipValue h hw hrest).map _⟩

theorem Fields.agree_cons (name : String) (absent : Absent α) {s : Shape α}
    {fields : Fields σ τ} (hs : Agrees s.read s.fit) (hfields : fields.Agree) :
    (Fields.cons name absent s fields).Agree where
  items := by
    intro expected index js cs rest i a h hi ha
    rw [Fields.fitItems] at ha
    change ∃ v, (itemAhead (index == 0) i >>= _) = .ok v ∧ _
    cases js with
    | nil =>
      cases h with
      | nil hw =>
        rw [List.append_assoc] at hi
        obtain ⟨⟨value, k, hk⟩, hv, rfl, hahead⟩ := itemAhead_end hw hi
        cases hc : absent.inArray? with
        | none =>
          simp only [hc] at ha
          cases ha
        | some b =>
          simp only [hc] at ha
          obtain ⟨_, hb, ha⟩ := bind_eq_ok.mp ha
          obtain ⟨bs, hbs, ha⟩ := bind_eq_ok.mp ha
          cases hb
          cases ha
          obtain ⟨v, hv', rfl, hend⟩ := hfields.items (.nil blank_nil) hahead hbs
          rw [bind_of_eq_ok hv]
          dsimp only
          rw [if_neg (by decide)]
          exact ⟨_, bind_of_eq_ok hv', rfl, hend⟩
    | cons j js =>
      obtain ⟨b, hb, ha⟩ := bind_eq_ok.mp ha
      obtain ⟨bs, hbs, ha⟩ := bind_eq_ok.mp ha
      cases ha
      cases h with
      | cons hsep h hs' =>
        simp only [List.append_assoc] at hi
        obtain ⟨v, hv, htrue, t, ht, rfl, hahead⟩ := read_item hs hsep h hs'.follows hi hb
        obtain ⟨u, hu, rfl, hend⟩ := hfields.items (by simpa using hs') hahead hbs
        rw [bind_of_eq_ok hv, if_pos htrue, bind_of_eq_ok ht]
        exact ⟨_, bind_of_eq_ok hu, rfl, hend⟩
  members := by
    rintro k j ⟨a, slots⟩ slots' hfit
    unfold Fields.readMember
    unfold Fields.fitMember at hfit
    by_cases hk : (k == name) = true
    · rw [if_pos hk] at hfit ⊢
      cases a with
      | some a => cases hfit
      | none =>
        obtain ⟨b, hb, hfit⟩ := bind_eq_ok.mp hfit
        cases hfit
        exact ⟨_, rfl, fun _ _ _ h hw hrest => (hs h hw hrest hb).map _⟩
    · rw [if_neg hk] at hfit ⊢
      obtain ⟨slots₁, hslots, hfit⟩ := bind_eq_ok.mp hfit
      cases hfit
      obtain ⟨r, hr, htakes⟩ := hfields.members hslots
      exact ⟨_, map_eq_ok.mpr ⟨r, hr, rfl⟩, fun _ _ _ h hw hrest => (htakes h hw hrest).map _⟩

theorem agrees_record (name : String) {fields : Fields σ τ} (hfields : fields.Agree) :
    Agrees (Shape.record name fields).read (Shape.record name fields).fit := by
  intro j cs w rest a h hw hrest ha
  cases j with
  | arr js =>
    cases h with
    | arr h =>
      refine Reader.Takes.atValue ?_ hw (by decide)
      rw [if_pos (by decide)]
      refine takes_afterBracket fun start i hlt hi => ?_
      obtain ⟨v, hv, rfl, w', hw', hahead⟩ := hfields.items (by exact h) hi ha
      obtain ⟨s, hs, -, hend⟩ := takes_readListEnd hw' v.rest hahead
      rw [bind_of_eq_ok hv, bind_of_eq_ok hs]
      exact ⟨_, rfl, rfl, hend⟩
  | obj ms =>
    cases h with
    | obj h =>
      obtain ⟨slots, hslots, ha⟩ := bind_eq_ok.mp ha
      have hread := takes_members hfields.members h hslots rest
      exact Reader.Takes.atValue (hread.check ha) hw (by decide)
  | null | bool | int | float | str => cases ha

/-! ## Every shape -/

mutual

theorem Shape.agrees : {α : Type} → (s : Shape α) → Agrees s.read s.fit
  | _, .text => agrees_text
  | _, .flag => agrees_flag
  | _, .count limit name => agrees_count limit name
  | _, .real => agrees_real
  | _, .optional s => agrees_optional s.agrees
  | _, .list s => agrees_list s.agrees
  | _, .table s => agrees_table s.agrees
  | _, .pair s t => agrees_pair s.agrees t.agrees
  | _, .choice options => agrees_choice options
  | _, .record name fields => agrees_record name fields.agree
  | _, .image f s => agrees_image f s.agrees

theorem Fields.agree : {σ τ : Type} → (fields : Fields σ τ) → fields.Agree
  | _, _, .nil => Fields.agree_nil
  | _, _, .cons name absent s rest => Fields.agree_cons name absent s.agrees rest.agree

end

/-- A text is read to what the value that it writes is fitted to, also with blanks behind it. -/
theorem Shape.readText_of_fit {s : Shape α} {a : α} (h : Writes j cs) (hw : Blank w)
    (ha : s.fit j = .ok a) : s.readText (String.ofList (cs ++ w)) = .ok a := by
  have hfollows : Follows w := by simpa using hw.follows follows_nil
  have hread := s.agrees h blank_nil hfollows ha
  rw [List.nil_append, ← String.toList_ofList (l := cs ++ w)] at hread
  exact readText_of_takes hread hw

theorem Shape.readText_compactText {s : Shape α} {a : α}
    (h : Every (fun n => Numeral n.toJson.compact n) j) (ha : s.fit j = .ok a) :
    s.readText j.compactText = .ok a := by
  have hread := readText_of_fit (writes_compact h) blank_nil ha
  rwa [List.append_nil] at hread

end IssueGraph.Json
