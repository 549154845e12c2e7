import IssueGraph.Proofs.Json.Written

/-!
# Passing over written values

A text of a value is passed over, to what follows it. The brackets around the value come into it:
what is claimed of a value is claimed inside any open brackets, under the condition that the text
after it closes them.
-/
namespace IssueGraph.Json

variable {i : Input} {c : Char} {cs ds rest tail v w sep : List Char} {j : Json} {k : String}
  {js : List Json} {ms : List (String × Json)} {first : Bool} {stack outer : List Bracket}

/-! ## Tokens -/

theorem takes_skipToken_compact (hj : j = .null ∨ ∃ b, j = .bool b) (hw : Blank w) :
    Reader.Takes skipToken (w ++ (j.compact ++ rest)) none rest := by
  obtain rfl | ⟨_ | _, rfl⟩ := hj
  all_goals exact Reader.Takes.atValue Reader.takes_word hw (by decide)

theorem takes_skipToken_quote (s : String) (hw : Blank w) :
    Reader.Takes skipToken (w ++ (quote s ++ rest)) none rest := by
  refine Reader.Takes.atValue (fun i hi => ?_) hw (by decide)
  obtain ⟨t, ht, -, hahead⟩ := takes_skipString s i hi
  exact ⟨t.map fun _ => none, by rw [ht]; rfl, rfl, hahead⟩

theorem takes_skipToken_list (hw : Blank w) :
    Reader.Takes skipToken (w ++ '[' :: rest) (some .list) rest := by
  refine Reader.Takes.atValue ?_ hw (by decide)
  rintro ⟨_, place⟩ rfl
  exact ⟨_, rfl, rfl, rfl⟩

theorem takes_skipToken_object (hw : Blank w) :
    Reader.Takes skipToken (w ++ '{' :: rest) (some .object) rest := by
  refine Reader.Takes.atValue ?_ hw (by decide)
  rintro ⟨_, place⟩ rfl
  exact ⟨_, rfl, rfl, rfl⟩

theorem takes_skipKey (hv : Blank v) (hw : Blank w) :
    Reader.Takes skipKey (v ++ (quote k ++ (w ++ ':' :: rest))) () rest := by
  intro i hi
  have hahead := Input.ahead_skipBlanks hi hv (by decide)
  obtain ⟨l, hl, -⟩ := Input.next?_of_ahead hahead
  obtain ⟨s, hs, -, hkey⟩ := takes_skipString k i.skipBlanks hahead
  obtain ⟨t, ht, -, hcolon⟩ := takes_readColon hw s.rest hkey
  have hlt : t.rest.length < i.length := by
    have := i.length_skipBlanks_le
    have := s.shorter
    have := t.shorter
    omega
  refine ⟨⟨(), t.rest, hlt⟩, ?_, rfl, hcolon⟩
  unfold skipKey
  split
  · next hnone => rw [hl] at hnone; cases hnone
  · exact (bind_of_eq_ok hs).trans (bind_of_eq_ok ht)
  · next hne heq => exact (hne l (Option.some.inj (heq.symm.trans hl))).elim

/-! ## Open brackets -/

/-- With these brackets open, a value is passed over and then all that follows, until `rest`. -/
def Inside (stack : List Bracket) (cs rest : List Char) : Prop :=
  ∀ (start i : Input) (h : i.length ≤ start.length), i.ahead = cs →
    ∃ s, skipInside start stack i h = .ok s ∧ s.rest.ahead = rest

/-- The same where another value is due, before a key if the innermost bracket is one of an object,
or where no bracket is left open. -/
def Resumes : (stack : List Bracket) → (cs rest : List Char) → Prop
  | [], cs, rest => cs = rest
  | .list :: stack, cs, rest => Inside (.list :: stack) cs rest
  | .object :: stack, cs, rest =>
    ∃ tail, Reader.Takes skipKey cs () tail ∧ Inside (.object :: stack) tail rest

/-- The same behind a value or, when `first`, behind an opening bracket. -/
def Closes (first : Bool) : (stack : List Bracket) → (cs rest : List Char) → Prop
  | [], cs, rest => cs = rest
  | frame :: stack, cs, rest => ∀ i : Input, i.ahead = cs →
    ∃ v, skipClosing first frame stack i = .ok v ∧ Resumes v.value v.rest.ahead rest

theorem inside_of_token {b : Option Bracket} (htoken : Reader.Takes skipToken cs b tail)
    (hcloses : Closes b.isSome (b.toList ++ stack) tail rest) : Inside stack cs rest := by
  intro start i h hi
  obtain ⟨⟨b', r, hr⟩, hs, hb, hahead⟩ := htoken i hi
  obtain rfl : b' = b := hb
  rw [skipInside, bind_of_eq_ok hs]
  obtain _ | frame := b'
  obtain _ | ⟨frame, outer⟩ := stack
  · exact ⟨_, rfl, hahead.trans hcloses⟩
  -- Brackets are open around the value, or the token has opened one.
  all_goals
    simp only [Option.isSome, Option.toList, List.nil_append, List.singleton_append] at hcloses
    obtain ⟨⟨inner, r', hr'⟩, hv, hresumes⟩ := hcloses r hahead
    dsimp only
    rw [bind_of_eq_ok hv]
    match inner, hresumes with
    | [], hrest => exact ⟨_, rfl, hrest⟩
    | .list :: _, hinside => exact hinside start r' _ rfl
    | .object :: _, ⟨tail, hkey, hinside⟩ =>
      obtain ⟨u, hu, -, htail⟩ := hkey r' rfl
      dsimp only
      rw [bind_of_eq_ok hu]
      exact hinside start u.rest _ htail

/-! ## Inside brackets -/

theorem closes_end (frame : Bracket) (hw : Blank w) (h : Closes false outer tail rest) :
    Closes first (frame :: outer) (w ++ frame.closing :: tail) rest := by
  intro i hi
  have hclosing : Input.isBlank frame.closing = false ∧ frame.closing ≠ ',' := by
    cases frame <;> decide
  obtain ⟨k, hk, hahead⟩ := Input.next?_of_ahead (Input.ahead_skipBlanks hi hw hclosing.1)
  rw [skipClosing]
  dsimp only
  split
  · next hnone => rw [hk] at hnone; cases hnone
  · next heq =>
    obtain ⟨rfl, rfl⟩ := Input.next?_inj hk heq
    rw [if_neg (by simp [hclosing.2]), if_pos (beq_self_eq_true _)]
    cases outer with
    | nil => exact ⟨_, rfl, hahead.trans h⟩
    | cons frame' outer =>
      obtain ⟨v, hv, hresumes⟩ := h k hahead
      dsimp only
      rw [bind_of_eq_ok hv]
      exact ⟨_, rfl, hresumes⟩

/-- Past what separates two parts inside brackets, or behind the opening one. -/
theorem closes_separator (frame : Bracket) (hsep : Separator first sep)
    (hc : Input.isBlank c = false ∧ c ≠ ',' ∧ c ≠ ']' ∧ c ≠ '}')
    (h : ∀ w, Blank w → Resumes (frame :: outer) (w ++ c :: cs) rest) :
    Closes first (frame :: outer) (sep ++ c :: cs) rest := by
  intro i hi
  obtain ⟨hblank, hcomma, hbracket, hbrace⟩ := hc
  have hclosing : c ≠ frame.closing := by cases frame <;> assumption
  rw [skipClosing]
  dsimp only
  cases first with
  | true =>
    have hahead := Input.ahead_skipBlanks hi hsep hblank
    obtain ⟨k, hk, -⟩ := Input.next?_of_ahead hahead
    split
    · next hnone => rw [hk] at hnone; cases hnone
    · next heq =>
      obtain ⟨rfl, rfl⟩ := Input.next?_inj hk heq
      rw [if_neg (by simp), if_neg (by simpa using hclosing), if_pos rfl]
      refine ⟨_, rfl, ?_⟩
      dsimp only
      rw [hahead]
      exact h [] blank_nil
  | false =>
    obtain ⟨v, w, hv, hw, rfl⟩ := hsep
    rw [List.append_assoc] at hi
    obtain ⟨k, hk, hahead⟩ := Input.next?_of_ahead (Input.ahead_skipBlanks hi hv (by decide))
    split
    · next hnone => rw [hk] at hnone; cases hnone
    · next heq =>
      obtain ⟨rfl, rfl⟩ := Input.next?_inj hk heq
      rw [if_pos (by decide)]
      refine ⟨_, rfl, ?_⟩
      dsimp only
      rw [hahead]
      exact h w hw

-- By recursion on the text. The brackets around a value are closed by what follows it, which is a
-- hypothesis: inside a list it is discharged by the rest of the list.
mutual

theorem Writes.inside {j : Json} {cs w tail rest : List Char} {stack : List Bracket}
    (h : Writes j cs) (hw : Blank w) (htail : Follows tail)
    (hcloses : Closes false stack tail rest) : Inside stack (w ++ (cs ++ tail)) rest :=
  match h with
  | .null => inside_of_token (takes_skipToken_compact (.inl rfl) hw) hcloses
  | .bool b => inside_of_token (takes_skipToken_compact (.inr ⟨b, rfl⟩) hw) hcloses
  | .int h | .float h => inside_of_token (h.skip hw htail) hcloses
  | .str s => inside_of_token (takes_skipToken_quote s hw) hcloses
  | .arr h => inside_of_token (takes_skipToken_list hw) (h.closes hcloses)
  | .obj h => inside_of_token (takes_skipToken_object hw) (h.closes hcloses)

theorem WritesItems.closes {first : Bool} {js : List Json} {cs tail rest : List Char}
    {outer : List Bracket} (h : WritesItems first js cs)
    (hcloses : Closes false outer tail rest) :
    Closes first (.list :: outer) (cs ++ tail) rest :=
  match h with
  | .nil hw => by
    rw [List.append_assoc]
    exact closes_end .list hw hcloses
  | .cons hsep h hs => by
    obtain ⟨c, ds, rfl, hc⟩ := h.lead
    rw [List.append_assoc, List.append_assoc]
    exact closes_separator .list hsep hc.not_follows fun w hw =>
      h.inside hw hs.follows (hs.closes hcloses)

theorem WritesMembers.closes {first : Bool} {ms : List (String × Json)}
    {cs tail rest : List Char} {outer : List Bracket} (h : WritesMembers first ms cs)
    (hcloses : Closes false outer tail rest) :
    Closes first (.object :: outer) (cs ++ tail) rest :=
  match h with
  | .nil hw => by
    rw [List.append_assoc]
    exact closes_end .object hw hcloses
  | .cons hsep hv hw h hs => by
    simp only [List.append_assoc, List.cons_append]
    exact closes_separator .object hsep (by decide) fun w hw' =>
      ⟨_, takes_skipKey hw' hv, h.inside hw hs.follows (hs.closes hcloses)⟩

end

/-- A text of a value is passed over. -/
theorem takes_skipValue (h : Writes j cs) (hw : Blank w) (hrest : Follows rest) :
    Reader.Takes skipValue (w ++ (cs ++ rest)) () rest := by
  intro i hi
  have hinside : Inside [] (w ++ (cs ++ rest)) rest := h.inside hw hrest rfl
  obtain ⟨s, hs, hahead⟩ := hinside i i i.length_le_self hi
  exact ⟨s, hs, rfl, hahead⟩

end IssueGraph.Json
