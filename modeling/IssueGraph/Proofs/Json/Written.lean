import IssueGraph.Json.Text
import IssueGraph.Proofs.Json.Spelling

/-!
# Texts of a JSON value

A text writes a value when it is the compact text of the value but for blanks between its parts and
for the numerals, which may be any that the readers take. What is ahead at each point of such a text
is what the readers of lists and objects look for. Main statements: `Writes.lead`, `writes_compact`.
-/
namespace IssueGraph.Json

/-- The characters are read as a number and passed over as one, if nothing follows that could belong
to it. -/
structure Numeral (cs : List Char) (n : Number) : Prop where
  lead : ∃ c ds, cs = c :: ds ∧ (c = '-' ∨ c.isDigit = true)
  read : ∀ {rest}, Follows rest → Reader.Takes readNumber (cs ++ rest) n rest
  skip : ∀ {w rest}, Blank w → Follows rest →
    Reader.Takes skipToken (w ++ (cs ++ rest)) none rest

/-- What comes before the first part inside a bracket, or before any other one. -/
def Separator : (first : Bool) → List Char → Prop
  | true, cs => Blank cs
  | false, cs => ∃ v w, Blank v ∧ Blank w ∧ cs = v ++ ',' :: w

mutual

/-- The characters are a text of the value. -/
inductive Writes : Json → List Char → Prop where
  | null : Writes .null (compact .null)
  | bool (b : Bool) : Writes (.bool b) (compact (.bool b))
  | int {n : Int} {cs : List Char} (h : Numeral cs (.int n)) : Writes (.int n) cs
  | float {x : Float} {cs : List Char} (h : Numeral cs (.float x)) : Writes (.float x) cs
  | str (s : String) : Writes (.str s) (quote s)
  | arr {js : List Json} {cs : List Char} (h : WritesItems true js cs) :
    Writes (.arr js) ('[' :: cs)
  | obj {ms : List (String × Json)} {cs : List Char} (h : WritesMembers true ms cs) :
    Writes (.obj ms) ('{' :: cs)

/-- The characters are a text of the items up to the closing bracket. -/
inductive WritesItems : (first : Bool) → List Json → List Char → Prop where
  | nil {first : Bool} {w : List Char} (hw : Blank w) : WritesItems first [] (w ++ [']'])
  | cons {first : Bool} {sep cs ds : List Char} {j : Json} {js : List Json}
    (hsep : Separator first sep) (h : Writes j cs) (hs : WritesItems false js ds) :
    WritesItems first (j :: js) (sep ++ (cs ++ ds))

/-- The characters are a text of the members up to the closing brace. -/
inductive WritesMembers : (first : Bool) → List (String × Json) → List Char → Prop where
  | nil {first : Bool} {w : List Char} (hw : Blank w) : WritesMembers first [] (w ++ ['}'])
  | cons {first : Bool} {sep v w cs ds : List Char} {k : String} {j : Json}
    {ms : List (String × Json)} (hsep : Separator first sep) (hv : Blank v) (hw : Blank w)
    (h : Writes j cs) (hs : WritesMembers false ms ds) :
    WritesMembers first ((k, j) :: ms) (sep ++ (quote k ++ (v ++ ':' :: (w ++ (cs ++ ds)))))

end

variable {i : Input} {c : Char} {cs ds rest sep w : List Char} {j : Json} {js : List Json}
  {ms : List (String × Json)} {n : Number} {first : Bool}

/-! ## First characters -/

/-- The first character of a text tells the kind of the value. -/
def Lead : Json → Char → Prop
  | .null, c => c = 'n'
  | .bool true, c => c = 't'
  | .bool false, c => c = 'f'
  | .int _, c | .float _, c => c = '-' ∨ c.isDigit = true
  | .str _, c => c = '"'
  | .arr _, c => c = '['
  | .obj _, c => c = '{'

theorem Writes.lead (h : Writes j cs) : ∃ c ds, cs = c :: ds ∧ Lead j c := by
  cases h with
  | null | str | arr | obj => exact ⟨_, _, rfl, rfl⟩
  | bool b => cases b <;> exact ⟨_, _, rfl, rfl⟩
  | int h | float h => exact h.lead

theorem Writes.numeral (h : Writes n.toJson cs) : Numeral cs n := by
  cases n <;> cases h <;> assumption

/-- What may follow a value does not begin one. -/
theorem Lead.not_follows (h : Lead j c) :
    Input.isBlank c = false ∧ c ≠ ',' ∧ c ≠ ']' ∧ c ≠ '}' := by
  have hdigit : c.isDigit = true → Input.isBlank c = false ∧ c ≠ ',' ∧ c ≠ ']' ∧ c ≠ '}' :=
    fun hc => ⟨isBlank_of_isDigit hc, ne_of_isDigit hc (by decide), ne_of_isDigit hc (by decide),
      ne_of_isDigit hc (by decide)⟩
  cases j with
  | null | str | arr | obj => cases h; decide
  | bool b => cases b <;> cases h <;> decide
  | int _ | float _ =>
    rcases h with rfl | h
    · decide
    · exact hdigit h

/-- A null is told from other values by its first character. -/
theorem Lead.eq_null_iff (h : Lead j c) : c = 'n' ↔ j = .null := by
  cases j with
  | null => exact ⟨fun _ => rfl, fun _ => h⟩
  | str | arr | obj => cases h; exact ⟨fun h => absurd h (by decide), nofun⟩
  | bool b => cases b <;> cases h <;> exact ⟨fun h => absurd h (by decide), nofun⟩
  | int _ | float _ =>
    refine ⟨?_, nofun⟩
    rintro rfl
    rcases h with h | h <;> exact absurd h (by decide)

/-! ## Between the parts -/

theorem Separator.follows (h : Separator false sep) : Follows (sep ++ rest) := by
  obtain ⟨v, w, hv, -, rfl⟩ := h
  rw [List.append_assoc]
  exact hv.follows (follows_cons (.inr (.inl rfl)))

theorem WritesItems.follows (h : WritesItems false js cs) : Follows (cs ++ rest) := by
  cases h with
  | nil hw =>
    rw [List.append_assoc]
    exact hw.follows (follows_cons (.inr (.inr (.inl rfl))))
  | cons hsep =>
    rw [List.append_assoc]
    exact hsep.follows

theorem WritesMembers.follows (h : WritesMembers false ms cs) : Follows (cs ++ rest) := by
  cases h with
  | nil hw =>
    rw [List.append_assoc]
    exact hw.follows (follows_cons (.inr (.inr (.inr rfl))))
  | cons hsep =>
    rw [List.append_assoc]
    exact hsep.follows

theorem itemAhead_end (hw : Blank w) (hi : i.ahead = w ++ ']' :: rest) :
    ∃ v : Within i Bool, itemAhead first i = .ok v ∧ v.value = false ∧
      v.rest.ahead = ']' :: rest := by
  have hahead := Input.ahead_skipBlanks hi hw (by decide)
  obtain ⟨k, hk, -⟩ := Input.next?_of_ahead hahead
  unfold itemAhead
  dsimp only
  split
  · next hnone => rw [hk] at hnone; cases hnone
  · next heq =>
    obtain ⟨rfl, rfl⟩ := Input.next?_inj hk heq
    exact ⟨_, rfl, rfl, hahead⟩

theorem itemAhead_item (hsep : Separator first sep) (hi : i.ahead = sep ++ c :: cs)
    (hc : Lead j c) : ∃ v : Within i Bool, itemAhead first i = .ok v ∧ v.value = true ∧
      v.rest.ahead = c :: cs := by
  obtain ⟨hblank, -, hbracket, -⟩ := hc.not_follows
  cases first with
  | true =>
    have hahead := Input.ahead_skipBlanks hi hsep hblank
    obtain ⟨k, hk, -⟩ := Input.next?_of_ahead hahead
    unfold itemAhead
    dsimp only
    split
    · next hnone => rw [hk] at hnone; cases hnone
    · next heq =>
      obtain ⟨rfl, rfl⟩ := Input.next?_inj hk heq
      rw [if_neg (by simpa using hbracket)]
      exact ⟨_, rfl, rfl, hahead⟩
  | false =>
    obtain ⟨v, w, hv, hw, rfl⟩ := hsep
    rw [List.append_assoc] at hi
    obtain ⟨k, hk, hcomma⟩ := Input.next?_of_ahead (Input.ahead_skipBlanks hi hv (by decide))
    have hahead : k.skipBlanks.ahead = c :: cs := Input.ahead_skipBlanks hcomma hw hblank
    unfold itemAhead
    dsimp only
    split
    · next hnone => rw [hk] at hnone; cases hnone
    · next heq =>
      obtain ⟨rfl, rfl⟩ := Input.next?_inj hk heq
      rw [if_neg (by decide), if_neg (by decide), if_pos (by decide)]
      split
      · next hnone => rw [hahead] at hnone; cases hnone
      · next heq => rw [hahead] at heq; cases heq; exact absurd rfl hbracket
      · exact ⟨_, rfl, rfl, hahead⟩

theorem keyAhead_end (hw : Blank w) (hi : i.ahead = w ++ '}' :: rest) :
    ∃ v : Within i Bool, keyAhead first i = .ok v ∧ v.value = false ∧
      v.rest.ahead = '}' :: rest := by
  have hahead := Input.ahead_skipBlanks hi hw (by decide)
  obtain ⟨k, hk, -⟩ := Input.next?_of_ahead hahead
  unfold keyAhead
  dsimp only
  split
  · next hnone => rw [hk] at hnone; cases hnone
  · next heq =>
    obtain ⟨rfl, rfl⟩ := Input.next?_inj hk heq
    exact ⟨_, rfl, rfl, hahead⟩

theorem keyAhead_key (hsep : Separator first sep) (hi : i.ahead = sep ++ '"' :: cs) :
    ∃ v : Within i Bool, keyAhead first i = .ok v ∧ v.value = true ∧
      v.rest.ahead = '"' :: cs := by
  cases first with
  | true =>
    have hahead := Input.ahead_skipBlanks hi hsep (by decide)
    obtain ⟨k, hk, -⟩ := Input.next?_of_ahead hahead
    unfold keyAhead
    dsimp only
    split
    · next hnone => rw [hk] at hnone; cases hnone
    · next heq =>
      obtain ⟨rfl, rfl⟩ := Input.next?_inj hk heq
      exact ⟨_, rfl, rfl, hahead⟩
  | false =>
    obtain ⟨v, w, hv, hw, rfl⟩ := hsep
    rw [List.append_assoc] at hi
    obtain ⟨k, hk, hcomma⟩ := Input.next?_of_ahead (Input.ahead_skipBlanks hi hv (by decide))
    have hahead : k.skipBlanks.ahead = '"' :: cs := Input.ahead_skipBlanks hcomma hw (by decide)
    unfold keyAhead
    dsimp only
    split
    · next hnone => rw [hk] at hnone; cases hnone
    · next heq =>
      obtain ⟨rfl, rfl⟩ := Input.next?_inj hk heq
      rw [if_neg (by decide), if_neg (by decide), if_pos (by decide)]
      split
      · next hnone => rw [hahead] at hnone; cases hnone
      · exact ⟨_, rfl, rfl, hahead⟩
      · next heq => rw [hahead] at heq; cases heq
      · next hne _ => exact absurd hahead (hne _)

theorem takes_readListEnd (hw : Blank w) :
    Reader.Takes readListEnd (w ++ ']' :: rest) () rest := by
  intro i hi
  obtain ⟨k, hk, hahead⟩ := Input.next?_of_ahead (Input.ahead_skipBlanks hi hw (by decide))
  unfold readListEnd
  dsimp only
  split
  · next hnone => rw [hk] at hnone; cases hnone
  · next heq =>
    obtain ⟨-, rfl⟩ := Input.next?_inj hk heq
    exact ⟨_, rfl, rfl, hahead⟩
  · next heq => cases (Input.next?_inj hk heq).1
  · next hne _ heq => exact (hne k (Option.some.inj (heq.symm.trans hk))).elim

theorem Input.ahead_pastClosing {closing : Char} (hi : i.ahead = closing :: rest)
    (hc : isBlank closing = false) : (i.pastClosing closing).ahead = rest := by
  have hahead : i.skipBlanks.ahead = closing :: rest :=
    ahead_skipBlanks (w := []) hi blank_nil hc
  rw [pastClosing, hahead]
  simp [Input.drop, hahead]

/-! ## The compact text -/

/-- All numbers in the value have a property. -/
inductive Every (p : Number → Prop) : Json → Prop where
  | null : Every p .null
  | bool (b : Bool) : Every p (.bool b)
  | int {n : Int} (h : p (.int n)) : Every p (.int n)
  | float {x : Float} (h : p (.float x)) : Every p (.float x)
  | str (s : String) : Every p (.str s)
  | arr {js : List Json} (h : ∀ j ∈ js, Every p j) : Every p (.arr js)
  | obj {ms : List (String × Json)} (h : ∀ m ∈ ms, Every p m.2) : Every p (.obj ms)

theorem separator_nil : Separator true [] := blank_nil

theorem separator_comma : Separator false [','] := ⟨[], [], blank_nil, blank_nil, rfl⟩

theorem writesItems_compact (h : ∀ j ∈ js, Writes j j.compact) :
    WritesItems false js (compactItems js) := by
  induction js with
  | nil => exact .nil blank_nil
  | cons j js ih =>
    obtain ⟨hj, hjs⟩ := List.forall_mem_cons.mp h
    exact .cons separator_comma hj (ih hjs)

theorem writesMembers_compact (h : ∀ m ∈ ms, Writes m.2 m.2.compact) :
    WritesMembers false ms (compactMembers ms) := by
  induction ms with
  | nil => exact .nil blank_nil
  | cons m ms ih =>
    obtain ⟨hm, hms⟩ := List.forall_mem_cons.mp h
    exact .cons separator_comma blank_nil blank_nil hm (ih hms)

/-- The compact text of a value is a text of it, if that holds of its numbers. -/
theorem writes_compact (h : Every (fun n => Numeral n.toJson.compact n) j) :
    Writes j j.compact := by
  induction h with
  | null => exact .null
  | bool b => exact .bool b
  | int h => exact .int h
  | float h => exact .float h
  | str s => exact .str s
  | @arr js _ ih =>
    cases js with
    | nil => exact .arr (.nil blank_nil)
    | cons j js =>
      obtain ⟨hj, hjs⟩ := List.forall_mem_cons.mp ih
      exact .arr (.cons separator_nil hj (writesItems_compact hjs))
  | @obj ms _ ih =>
    cases ms with
    | nil => exact .obj (.nil blank_nil)
    | cons m ms =>
      obtain ⟨hm, hms⟩ := List.forall_mem_cons.mp ih
      exact .obj (.cons separator_nil blank_nil blank_nil hm
        (writesMembers_compact hms))

theorem takes_skipToken_digits {tail : List Char} (n : Nat) (hw : Blank w) (htail : NoDigit tail)
    (hfraction : Reaches skipFraction tail () rest) :
    Reader.Takes skipToken (w ++ (Nat.toDigits 10 n ++ tail)) none rest := by
  obtain ⟨c, ds, hds, hdigit⟩ := toDigits_lead n
  have hskip := takes_skipDigits n htail hfraction
  rw [hds, List.cons_append] at hskip ⊢
  refine Reader.Takes.atValue (fun i hi => ?_) hw (isBlank_of_isDigit hdigit)
  obtain ⟨s, hs, -, hahead⟩ := hskip i hi
  refine ⟨s.map fun _ => none, ?_, rfl, hahead⟩
  split
  all_goals first
    | exact absurd hdigit (by decide)
    | (rw [if_pos hdigit, hs]; rfl)

/-- The digits of a number of 64 bits. -/
theorem numeral_toDigits {n : Nat} (hn : n < Nat.pow 2 64) :
    Numeral (Nat.toDigits 10 n) (.int n) where
  lead :=
    have ⟨c, ds, hds, hdigit⟩ := toDigits_lead n
    ⟨c, ds, hds, .inr hdigit⟩
  read hrest := takes_readNumber hn hrest.noDigit (reaches_readFraction_whole hrest)
  skip hw hrest := takes_skipToken_digits n hw hrest.noDigit (reaches_skipFraction_whole hrest)

/-- A number that is spelled with a point or an exponent. -/
theorem Spelling.numeral {s : Spelling} {y : Float} (hreal : s.IsReal)
    (hdigits : s.digits < Nat.pow 2 64) (hpower : ∀ e ∈ s.power, e.natAbs < Nat.pow 2 31)
    (h : scaled? s.digits s.exponent = some y) : Numeral s.text (.float y) where
  lead :=
    have ⟨c, ds, hds, hdigit⟩ := toDigits_lead s.whole
    ⟨c, ds ++ s.tail, by rw [text, hds, List.cons_append], .inr hdigit⟩
  read hrest := s.takes_readNumber hreal hdigits hpower h hrest
  skip hw hrest := by
    rw [text, List.append_assoc]
    exact takes_skipToken_digits s.whole hw (s.noDigit_tail hrest) (s.reaches_skipFraction hrest)

theorem scaled?_zero : scaled? 0 (-1) = some 0.0 := by
  have hscale : scaleDown 0.0 1 = 0.0 := by
    rw [scaleDown]
    decide +kernel
  exact congrArg some hscale

/-- The text of the double zero. -/
theorem numeral_zero : Numeral (compact (.float 0.0)) (.float 0.0) := by
  have hzero : compact (.float 0.0) = ['0', '.', '0'] := by decide +kernel
  rw [hzero]
  exact Spelling.numeral (s := { whole := 0, places := ['0'] }) (.inl nofun) (by decide) nofun
    scaled?_zero

end IssueGraph.Json
