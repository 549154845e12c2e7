import IssueGraph.Json.Reader

/-!
# What a reader takes

A reader takes some characters when, wherever they are ahead, it yields one value and leaves one
rest. The place it has reached plays no part in this. The lemmas follow the readers: each says what
is taken by a reader that is built from others.
-/
namespace IssueGraph.Json

variable {α β : Type} {i : Input} {c : Char} {cs rest : List Char}

/-- Blanks that may stand between the parts of a text. -/
def Blank (cs : List Char) : Prop := ∀ c ∈ cs, Input.isBlank c = true

/-- What may come after a value: the text ends, or a blank, a comma or a closing bracket follows. -/
def Follows (rest : List Char) : Prop :=
  ∀ c ∈ rest.head?, Input.isBlank c = true ∨ c = ',' ∨ c = ']' ∨ c = '}'

theorem blank_nil : Blank [] := by simp [Blank]

theorem follows_nil : Follows [] := by simp [Follows]

theorem follows_cons (h : Input.isBlank c = true ∨ c = ',' ∨ c = ']' ∨ c = '}') :
    Follows (c :: rest) := by
  intro d hd
  obtain rfl : c = d := by simpa using hd
  exact h

/-- Blanks may come before whatever may follow a value. -/
theorem Blank.follows {w : List Char} (hw : Blank w) (hrest : Follows rest) :
    Follows (w ++ rest) := by
  cases w with
  | nil => exact hrest
  | cons d w => exact follows_cons (.inl (hw d List.mem_cons_self))

theorem Input.isBlank_iff : isBlank c = true ↔ c = ' ' ∨ c = '\n' ∨ c = '\t' ∨ c = '\r' := by
  simp [isBlank, or_assoc]

/-- A successful first step is passed over. -/
theorem bind_of_eq_ok {ε : Type} {x : Except ε α} {a : α} {f : α → Except ε β} (h : x = .ok a) :
    x >>= f = f a := by
  rw [h]
  rfl

theorem bind_eq_ok {ε : Type} {x : Except ε α} {f : α → Except ε β} {b : β} :
    x >>= f = .ok b ↔ ∃ a, x = .ok a ∧ f a = .ok b := by
  cases x with
  | error e => exact ⟨nofun, nofun⟩
  | ok a => exact ⟨fun h => ⟨a, rfl, h⟩, fun ⟨_, rfl, h⟩ => h⟩

theorem map_eq_ok {ε : Type} {x : Except ε α} {f : α → β} {b : β} :
    x.map f = .ok b ↔ ∃ a, x = .ok a ∧ f a = b := by
  cases x with
  | error e => exact ⟨nofun, nofun⟩
  | ok a => exact ⟨fun h => ⟨a, rfl, Except.ok.inj h⟩, fun ⟨_, rfl, h⟩ => congrArg _ h⟩

/-! ## Inputs -/

namespace Input

theorem length_lt_cons {place place' : Place} :
    length ⟨cs, place'⟩ < length ⟨c :: cs, place⟩ :=
  Nat.lt_succ_self _

theorem next?_of_ahead (h : i.ahead = c :: cs) : ∃ j, i.next? = some (c, j) ∧ j.ahead = cs := by
  refine ⟨_, by simp only [next?, h]; rfl, rfl⟩

theorem ahead_of_next? {j : Input} (h : i.next? = some (c, j)) : i.ahead = c :: j.ahead := by
  unfold next? at h
  split at h
  · cases h
  · next heq => cases h; exact heq

/-- What is ahead is one character and one input. -/
theorem next?_inj {j k : Input} {d : Char} (hj : i.next? = some (c, j))
    (hk : i.next? = some (d, k)) : c = d ∧ j = k :=
  Prod.mk.inj (Option.some.inj (hj.symm.trans hk))

theorem ahead_skipBlanks {w : List Char} (hi : i.ahead = w ++ c :: cs) (hw : Blank w)
    (hc : isBlank c = false) : i.skipBlanks.ahead = c :: cs := by
  rw [skipBlanks, dropWhile, hi, List.dropWhile_append_of_pos hw,
    List.dropWhile_cons_of_neg (by simp [hc])]

end Input

/-! ## Readers -/

namespace Reader

/-- Wherever the characters are ahead, the reader yields `a` and leaves `rest`. -/
def Takes (r : Reader α) (cs : List Char) (a : α) (rest : List Char) : Prop :=
  ∀ i : Input, i.ahead = cs → ∃ s : Step i α, r i = .ok s ∧ s.value = a ∧ s.rest.ahead = rest

/-- What a reader takes determines the value and the rest. -/
theorem Takes.unique {r : Reader α} {a b : α} {rest' : List Char} (h : r.Takes cs a rest)
    (h' : r.Takes cs b rest') : a = b ∧ rest = rest' := by
  obtain ⟨s, hs, rfl, rfl⟩ := h ⟨cs, {}⟩ rfl
  obtain ⟨t, ht, rfl, rfl⟩ := h' ⟨cs, {}⟩ rfl
  obtain rfl : s = t := Except.ok.inj (hs.symm.trans ht)
  exact ⟨rfl, rfl⟩

theorem Takes.map {r : Reader α} {a : α} (f : α → β) (h : r.Takes cs a rest) :
    (Reader.map f r).Takes cs (f a) rest := by
  intro i hi
  obtain ⟨s, hs, rfl, hrest⟩ := h i hi
  exact ⟨s.map f, by rw [Reader.map, hs]; rfl, rfl, hrest⟩

/-- Blanks are passed over before a value. -/
theorem Takes.atValue {r : Char → Reader α} {a : α} {w : List Char}
    (h : (r c).Takes (c :: cs) a rest) (hw : Blank w) (hc : Input.isBlank c = false) :
    (Reader.atValue r).Takes (w ++ c :: cs) a rest := by
  intro i hi
  have hahead := Input.ahead_skipBlanks hi hw hc
  obtain ⟨j, hj, -⟩ := Input.next?_of_ahead hahead
  obtain ⟨s, hs, hvalue, hrest⟩ := h i.skipBlanks hahead
  unfold Reader.atValue
  split
  · next hnone => rw [hj] at hnone; cases hnone
  · next d k heq =>
    obtain ⟨rfl, -⟩ := Input.next?_inj hj heq
    exact ⟨_, by rw [hs]; rfl, hvalue, hrest⟩

theorem word_go_of_ahead {start : Input} {a : α} {w : List Char} (j : Input)
    (h : j.length < start.length) (hj : j.ahead = w ++ rest) :
    ∃ s : Step start α, word.go a start w j h = .ok s ∧ s.value = a ∧ s.rest.ahead = rest := by
  induction w generalizing j with
  | nil => exact ⟨⟨a, j, h⟩, rfl, rfl, hj⟩
  | cons c w ih =>
    obtain ⟨k, hk, hahead⟩ := Input.next?_of_ahead hj
    rw [word.go]
    split
    · next hnone => rw [hk] at hnone; cases hnone
    · next d k' heq =>
      obtain ⟨rfl, rfl⟩ := Input.next?_inj hk heq
      rw [if_pos (beq_self_eq_true c)]
      exact ih k _ hahead

theorem takes_word {w : String} {a : α} :
    (word w a).Takes (c :: (w.toList ++ rest)) a rest := by
  intro i hi
  obtain ⟨j, hj, hahead⟩ := Input.next?_of_ahead hi
  unfold word
  split
  · next hnone => rw [hj] at hnone; cases hnone
  · next d k heq =>
    obtain ⟨rfl, rfl⟩ := Input.next?_inj hj heq
    exact word_go_of_ahead j _ hahead

end Reader

theorem takes_readColon {w : List Char} (hw : Blank w) :
    Reader.Takes readColon (w ++ ':' :: rest) () rest := by
  intro i hi
  obtain ⟨j, hj, hahead⟩ := Input.next?_of_ahead (Input.ahead_skipBlanks hi hw (by decide))
  unfold readColon
  split
  · next hnone => rw [hj] at hnone; cases hnone
  · next k heq =>
    obtain ⟨-, rfl⟩ := Input.next?_inj hj heq
    exact ⟨_, rfl, rfl, hahead⟩
  · next hne heq => exact (hne j (Option.some.inj (heq.symm.trans hj))).elim

/-- A text is read if nothing but blanks is left behind it. -/
theorem readText_of_takes {r : Reader α} {a : α} {s : String} (h : r.Takes s.toList a rest)
    (hrest : Blank rest) : readText r s = .ok a := by
  obtain ⟨step, hstep, rfl, rfl⟩ := h (.ofString s) rfl
  have hblank : step.rest.skipBlanks.ahead = [] := by
    rw [Input.skipBlanks, Input.dropWhile, ← List.append_nil step.rest.ahead,
      List.dropWhile_append_of_pos hrest]
    rfl
  have hend : atEnd step.rest = .ok () := by
    rw [atEnd, hblank]
    rfl
  rw [readText, hstep]
  change (atEnd step.rest >>= fun _ => .ok step.value) = _
  rw [hend]
  rfl

end IssueGraph.Json
