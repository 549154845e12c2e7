import IssueGraph.Json.Skip
import IssueGraph.Json.Value
import IssueGraph.Proofs.Json.Reader

/-!
# Reading written literals

A string is read back from its quoted form, and passed over in it, since every character is escaped
so that the reader knows where it ends. The digits of a whole number of 64 bits are read up to the
first character that is no digit; what is read of the number depends on what follows them.
-/
namespace IssueGraph.Json

variable {i : Input} {c : Char} {cs rest : List Char}

/-! ## Characters -/

/-- A character stands for itself, or is written by a letter or four hexadecimal digits after a
backslash. -/
theorem escape_cases (c : Char) :
    (escape c = [c] ∧ c ≠ '"' ∧ c ≠ '\\' ∧ ¬ c.toNat < 32) ∨
      (∃ d, escape c = ['\\', d] ∧ simpleEscape? d = some c) ∨
      (c.toNat < 32 ∧ escape c = '\\' :: 'u' :: ['0', '0', Nat.digitChar (c.toNat / 16),
        Nat.digitChar (c.toNat % 16)]) := by
  unfold escape
  split
  case h_8 hquote hbackslash _ _ _ _ _ =>
    split
    · next h => exact .inr (.inr ⟨h, rfl⟩)
    · next h => exact .inl ⟨rfl, hquote, hbackslash, h⟩
  all_goals exact .inr (.inl ⟨_, rfl, rfl⟩)

theorem takes_readHex {four : List Char} {n : Nat} (hlength : four.length = 4)
    (hn : hexNumber? four = some n) : Reader.Takes readHex (four ++ rest) n rest := by
  intro i hi
  have htake : i.ahead.take 4 = four := by rw [hi, List.take_left' hlength]
  have hdrop : i.ahead.drop 4 = rest := by rw [hi, List.drop_left' hlength]
  unfold readHex
  simp only [htake]
  rw [dif_pos hlength]
  split
  · next m hm =>
    obtain rfl : n = m := Option.some.inj (hn.symm.trans hm)
    exact ⟨_, rfl, rfl, hdrop⟩
  · next hnone => rw [hn] at hnone; cases hnone

/-- The four digits of a control character. -/
theorem hexNumber?_control : ∀ n < 32,
    hexNumber? ['0', '0', Nat.digitChar (n / 16), Nat.digitChar (n % 16)] = some n := by
  decide

theorem takes_readUnicodeEscape (hc : c.toNat < 32) :
    Reader.Takes readUnicodeEscape (['0', '0', Nat.digitChar (c.toNat / 16),
      Nat.digitChar (c.toNat % 16)] ++ rest) c rest := by
  intro i hi
  obtain ⟨s, hs, hvalue, hrest⟩ := takes_readHex rfl (hexNumber?_control _ hc) i hi
  have hlow : isLowSurrogate c.toNat = false := by
    rw [isLowSurrogate, decide_eq_false (by omega), Bool.false_and]
  have hhigh : isHighSurrogate c.toNat = false := by
    rw [isHighSurrogate, decide_eq_false (by omega), Bool.false_and]
  refine ⟨⟨Char.ofNat s.value, s.rest, s.shorter⟩, ?_, ?_, hrest⟩
  · rw [readUnicodeEscape, hs]
    change (if isLowSurrogate s.value = true then _ else _) = _
    rw [hvalue, hlow, hhigh]
    rfl
  · rw [hvalue, Char.ofNat_toNat]

theorem takes_readEscape_letter {d : Char} (hd : simpleEscape? d = some c) :
    Reader.Takes readEscape (d :: rest) c rest := by
  rintro ⟨_, place⟩ rfl
  refine ⟨.next c rfl, ?_, rfl, rfl⟩
  simp only [readEscape, Input.next?, hd]

theorem takes_skipEscape_letter {d : Char} (hd : simpleEscape? d = some c) :
    Reader.Takes skipEscape (d :: rest) () rest := by
  rintro ⟨_, place⟩ rfl
  refine ⟨.next () rfl, ?_, rfl, rfl⟩
  simp only [skipEscape, Input.next?, hd]
  rfl

theorem takes_readEscape_code (hc : c.toNat < 32) :
    Reader.Takes readEscape ('u' :: (['0', '0', Nat.digitChar (c.toNat / 16),
      Nat.digitChar (c.toNat % 16)] ++ rest)) c rest := by
  rintro ⟨_, place⟩ rfl
  obtain ⟨s, hs, hvalue, hrest⟩ := takes_readUnicodeEscape hc ⟨_, place.next 'u'⟩ rfl
  refine ⟨s.afterNext rfl, ?_, hvalue, hrest⟩
  change (readUnicodeEscape _ >>= fun s => .ok (s.afterNext _)) = _
  rw [hs]
  rfl

theorem takes_skipEscape_code (hc : c.toNat < 32) :
    Reader.Takes skipEscape ('u' :: (['0', '0', Nat.digitChar (c.toNat / 16),
      Nat.digitChar (c.toNat % 16)] ++ rest)) () rest := by
  rintro ⟨_, place⟩ rfl
  obtain ⟨s, hs, -, hrest⟩ := takes_readHex rfl (hexNumber?_control _ hc) ⟨_, place.next 'u'⟩ rfl
  refine ⟨(s.afterNext rfl).map fun _ => (), ?_, rfl, hrest⟩
  change (readHex _ >>= fun s => .ok ((s.afterNext _).map fun _ => ())) = _
  rw [hs]
  rfl

/-- A written character is itself, neither a quote nor a backslash, or a backslash and what is read
as the character after one. -/
theorem escape_eq (c : Char) :
    (escape c = [c] ∧ c ≠ '"' ∧ c ≠ '\\' ∧ ¬ c.toNat < 32) ∨
      ∃ ds, escape c = '\\' :: ds ∧ ∀ rest, Reader.Takes readEscape (ds ++ rest) c rest ∧
        Reader.Takes skipEscape (ds ++ rest) () rest := by
  rcases escape_cases c with h | ⟨d, h, hd⟩ | ⟨hc, h⟩
  · exact .inl h
  · exact .inr ⟨_, h, fun _ => ⟨takes_readEscape_letter hd, takes_skipEscape_letter hd⟩⟩
  · exact .inr ⟨_, h, fun _ => ⟨takes_readEscape_code hc, takes_skipEscape_code hc⟩⟩

/-! ## Strings -/

/-- One written character is read. -/
theorem readChars_escape {start : Input} {before tail : List Char} {i : Input}
    (h : i.length < start.length) (hi : i.ahead = escape c ++ tail) :
    ∃ j hj, readChars start before i h = readChars start (c :: before) j hj ∧ j.ahead = tail := by
  obtain ⟨ahead, place⟩ := i
  change ahead = _ at hi
  rcases escape_eq c with ⟨hc, hquote, hbackslash, hcontrol⟩ | ⟨ds, hc, hescape⟩
  · rw [hc] at hi
    subst hi
    refine ⟨⟨tail, place.next c⟩, Input.length_lt_start_of_next? rfl h, ?_, rfl⟩
    rw [readChars]
    simp [Input.next?, hquote, hbackslash, hcontrol]
  · rw [hc] at hi
    subst hi
    obtain ⟨s, hs, rfl, hrest⟩ := (hescape tail).1 ⟨_, place.next '\\'⟩ rfl
    refine ⟨s.rest, Nat.lt_trans s.shorter (Nat.lt_trans Input.length_lt_cons h), ?_, hrest⟩
    rw [readChars]
    change (readEscape ⟨ds ++ tail, place.next '\\'⟩ >>= _) = _
    rw [hs]
    rfl

theorem readChars_of_ahead (start : Input) (l before : List Char) (i : Input)
    (h : i.length < start.length) (hi : i.ahead = l.flatMap escape ++ '"' :: rest) :
    ∃ s : Step start String, readChars start before i h = .ok s ∧
      s.value = String.ofList (before.reverse ++ l) ∧ s.rest.ahead = rest := by
  induction l generalizing before i with
  | nil =>
    obtain ⟨ahead, place⟩ := i
    obtain rfl : ahead = '"' :: rest := hi
    rw [readChars]
    exact ⟨_, rfl, by rw [List.append_nil], rfl⟩
  | cons c l ih =>
    rw [List.flatMap_cons, List.append_assoc] at hi
    obtain ⟨j, hj, hread, hahead⟩ := readChars_escape h hi
    obtain ⟨s, hs, hvalue, hrest⟩ := ih (c :: before) j hj hahead
    exact ⟨s, hread.trans hs, by simpa using hvalue, hrest⟩

/-- A string is read back from its quoted form. -/
theorem takes_readString (s : String) : Reader.Takes readString (quote s ++ rest) s rest := by
  rw [quote, List.cons_append, List.append_assoc]
  rintro ⟨_, place⟩ rfl
  obtain ⟨t, ht, hvalue, hrest⟩ := readChars_of_ahead ⟨_, place⟩ s.toList [] ⟨_, place.next '"'⟩
    Input.length_lt_cons rfl
  refine ⟨t, ht, ?_, hrest⟩
  rw [hvalue, List.reverse_nil, List.nil_append, String.ofList_toList]

/-- One written character is passed over. -/
theorem skipChars_escape {start : Input} {tail : List Char} {i : Input}
    (h : i.length < start.length) (hi : i.ahead = escape c ++ tail) :
    ∃ j hj, skipChars start i h = skipChars start j hj ∧ j.ahead = tail := by
  obtain ⟨ahead, place⟩ := i
  change ahead = _ at hi
  rcases escape_eq c with ⟨hc, hquote, hbackslash, hcontrol⟩ | ⟨ds, hc, hescape⟩
  · rw [hc] at hi
    subst hi
    refine ⟨⟨tail, place.next c⟩, Input.length_lt_start_of_next? rfl h, ?_, rfl⟩
    rw [skipChars]
    simp [Input.next?, hquote, hbackslash, hcontrol]
  · rw [hc] at hi
    subst hi
    obtain ⟨s, hs, -, hrest⟩ := (hescape tail).2 ⟨_, place.next '\\'⟩ rfl
    refine ⟨s.rest, Nat.lt_trans s.shorter (Nat.lt_trans Input.length_lt_cons h), ?_, hrest⟩
    rw [skipChars]
    change (skipEscape ⟨ds ++ tail, place.next '\\'⟩ >>= _) = _
    rw [hs]
    rfl

theorem skipChars_of_ahead (start : Input) (l : List Char) (i : Input)
    (h : i.length < start.length) (hi : i.ahead = l.flatMap escape ++ '"' :: rest) :
    ∃ s : Step start Unit, skipChars start i h = .ok s ∧ s.rest.ahead = rest := by
  induction l generalizing i with
  | nil =>
    obtain ⟨ahead, place⟩ := i
    obtain rfl : ahead = '"' :: rest := hi
    rw [skipChars]
    exact ⟨_, rfl, rfl⟩
  | cons c l ih =>
    rw [List.flatMap_cons, List.append_assoc] at hi
    obtain ⟨j, hj, hskip, hahead⟩ := skipChars_escape h hi
    obtain ⟨s, hs, hrest⟩ := ih j hj hahead
    exact ⟨s, hskip.trans hs, hrest⟩

theorem takes_skipString (s : String) : Reader.Takes skipString (quote s ++ rest) () rest := by
  rw [quote, List.cons_append, List.append_assoc]
  rintro ⟨_, place⟩ rfl
  obtain ⟨t, ht, hrest⟩ := skipChars_of_ahead ⟨_, place⟩ s.toList ⟨_, place.next '"'⟩
    Input.length_lt_cons rfl
  exact ⟨t, ht, rfl, hrest⟩

/-! ## Whole numbers -/

theorem ne_of_isDigit {d : Char} (hc : c.isDigit = true) (hd : d.isDigit = false) : c ≠ d := by
  rintro rfl
  rw [hc] at hd
  cases hd

theorem isBlank_of_isDigit (hc : c.isDigit = true) : Input.isBlank c = false := by
  rw [← Bool.not_eq_true, Input.isBlank_iff]
  rintro (rfl | rfl | rfl | rfl) <;> exact absurd hc (by decide)

/-- The text goes on with something that is no digit, or ends. -/
def NoDigit (rest : List Char) : Prop := ∀ c ∈ rest.head?, c.isDigit = false

theorem noDigit_cons (hc : c.isDigit = false) : NoDigit (c :: rest) := by
  intro d hd
  obtain rfl : c = d := by simpa using hd
  exact hc

/-- No digit, point or mark of an exponent may follow a value. -/
theorem Follows.not_numeral (hrest : Follows rest) :
    ∀ c ∈ rest.head?, c.isDigit = false ∧ c ≠ '.' ∧ c ≠ 'e' ∧ c ≠ 'E' := by
  intro c hc
  rcases hrest c hc with hblank | rfl | rfl | rfl
  · rcases Input.isBlank_iff.mp hblank with rfl | rfl | rfl | rfl <;> decide
  all_goals decide

theorem Follows.noDigit (hrest : Follows rest) : NoDigit rest :=
  fun c hc => (hrest.not_numeral c hc).1

theorem ahead_dropWhile_isDigit {ds : List Char} (hi : i.ahead = ds ++ rest)
    (hds : ∀ c ∈ ds, c.isDigit = true) (hrest : NoDigit rest) :
    (i.dropWhile Char.isDigit).ahead = rest ∧ i.ahead.takeWhile Char.isDigit = ds := by
  rw [Input.dropWhile, hi, List.dropWhile_append_of_pos hds, List.takeWhile_append_of_pos hds]
  cases rest with
  | nil => simp
  | cons c rest => simp [hrest c rfl]

theorem le_ofDigitChars (cs : List Char) (n : Nat) : n ≤ Nat.ofDigitChars 10 cs n := by
  rw [Nat.ofDigitChars_eq_ofDigitChars_zero]
  have : 0 < 10 ^ cs.length := Nat.pow_pos (by decide)
  have := Nat.le_mul_of_pos_left n this
  omega

theorem appendDigits_of_lt (cs : List Char) (n : Nat)
    (h : Nat.ofDigitChars 10 cs n < Nat.pow 2 64) :
    appendDigits n cs = (Nat.ofDigitChars 10 cs n, []) := by
  induction cs generalizing n with
  | nil => rfl
  | cons c cs ih =>
    rw [Nat.ofDigitChars_cons] at h ⊢
    have hle : 10 * n + digitValue c ≤ Nat.ofDigitChars 10 cs (10 * n + digitValue c) :=
      le_ofDigitChars cs _
    rw [appendDigits]
    simp only [Nat.lt_of_le_of_lt hle h, if_true]
    exact ih _ h

/-- The first digit of a number other than zero is not zero. -/
theorem toDigits_eq_cons (n : Nat) : ∃ c ds, Nat.toDigits 10 n = c :: ds ∧ (c = '0' → n = 0) := by
  induction n using Nat.base_induction 10 (by decide) with
  | single m hm => exact ⟨_, [], Nat.toDigits_of_lt_base hm, Nat.digitChar_eq_zero.mp⟩
  | digit m k hk hm ih =>
    obtain ⟨c, ds, hds, hc⟩ := ih
    refine ⟨c, ds ++ Nat.toDigits 10 k, ?_, fun h => ?_⟩
    · rw [← Nat.toDigits_append_toDigits (by decide) hm hk, hds, List.cons_append]
    · have := hc h
      omega

theorem toDigits_lead (n : Nat) :
    ∃ c ds, Nat.toDigits 10 n = c :: ds ∧ c.isDigit = true := by
  obtain ⟨c, ds, hds, -⟩ := toDigits_eq_cons n
  have hmem : c ∈ Nat.toDigits 10 n := hds ▸ List.mem_cons_self
  exact ⟨c, ds, hds, Nat.isDigit_of_mem_toDigits (by decide) (by decide) hmem⟩

/-- A number is written as a zero, or as digits of which the first is none. -/
theorem toDigits_cases (n : Nat) : (n = 0 ∧ Nat.toDigits 10 n = ['0']) ∨
    ∃ c ds, Nat.toDigits 10 n = c :: ds ∧ c ≠ '0' ∧ ∀ d ∈ c :: ds, d.isDigit = true := by
  by_cases hn : n = 0
  · exact .inl ⟨hn, hn ▸ Nat.toDigits_zero 10⟩
  · obtain ⟨c, ds, hds, hc⟩ := toDigits_eq_cons n
    exact .inr ⟨c, ds, hds, fun h => hn (hc h), fun d hd =>
      Nat.isDigit_of_mem_toDigits (by decide) (by decide) (hds ▸ hd)⟩

theorem NoDigit.head (hrest : NoDigit rest) : rest.head?.any Char.isDigit = false := by
  cases rest with
  | nil => rfl
  | cons d rest => exact hrest d rfl

/-- Wherever the characters are ahead, what may be nothing is read to `a`, and `rest` is left. -/
def Reaches {α : Type} (r : (i : Input) → Except Fault (Within i α)) (cs : List Char) (a : α)
    (rest : List Char) : Prop :=
  ∀ i : Input, i.ahead = cs → ∃ w, r i = .ok w ∧ w.value = a ∧ w.rest.ahead = rest

section Digits

variable {n : Nat} {a : Number} {tail : List Char}

theorem takes_readDigits (hn : n < Nat.pow 2 64) (htail : NoDigit tail)
    (hfraction : Reaches (readFraction false n 0) tail a rest) :
    Reader.Takes (readDigits false) (Nat.toDigits 10 n ++ tail) a rest := by
  have hvalue : Nat.ofDigitChars 10 (Nat.toDigits 10 n) 0 = n := Nat.ofDigitChars_ten_toDigits
  rcases toDigits_cases n with ⟨rfl, hds⟩ | ⟨c, ds, hds, hc, hdigit⟩
  · rw [hds, List.singleton_append]
    rintro ⟨_, place⟩ rfl
    obtain ⟨w, hread, rfl, rfl⟩ := hfraction ⟨tail, place.next '0'⟩ rfl
    simp only [readDigits, Input.next?, htail.head, beq_self_eq_true, if_true,
      Bool.false_eq_true, if_false]
    rw [hread]
    exact ⟨_, rfl, rfl, rfl⟩
  · rw [hds, List.cons_append]
    rintro ⟨_, place⟩ rfl
    obtain ⟨hahead, htake⟩ := ahead_dropWhile_isDigit (i := ⟨ds ++ tail, place.next c⟩) rfl
      (fun d hd => hdigit d (List.mem_cons_of_mem c hd)) htail
    obtain ⟨w, hread, rfl, rfl⟩ := hfraction _ hahead
    have happend : appendDigits 0 (c :: ds) = (n, []) := by
      rw [hds] at hvalue
      rw [appendDigits_of_lt _ _ (hvalue.symm ▸ hn), hvalue]
    simp only [readDigits, Input.next?, beq_eq_false_iff_ne.mpr hc, hdigit c List.mem_cons_self,
      htake, happend, Bool.false_eq_true, if_false, if_true, List.length_nil]
    rw [hread]
    exact ⟨_, rfl, rfl, rfl⟩

theorem takes_skipDigits (n : Nat) (htail : NoDigit tail)
    (hfraction : Reaches skipFraction tail () rest) :
    Reader.Takes skipDigits (Nat.toDigits 10 n ++ tail) () rest := by
  rcases toDigits_cases n with ⟨rfl, hds⟩ | ⟨c, ds, hds, hc, hdigit⟩
  · rw [hds, List.singleton_append]
    rintro ⟨_, place⟩ rfl
    obtain ⟨w, hskip, -, rfl⟩ := hfraction ⟨tail, place.next '0'⟩ rfl
    simp only [skipDigits, Input.next?, htail.head, beq_self_eq_true, if_true,
      Bool.false_eq_true, if_false]
    rw [hskip]
    exact ⟨_, rfl, trivial, rfl⟩
  · rw [hds, List.cons_append]
    rintro ⟨_, place⟩ rfl
    obtain ⟨hahead, -⟩ := ahead_dropWhile_isDigit (i := ⟨ds ++ tail, place.next c⟩) rfl
      (fun d hd => hdigit d (List.mem_cons_of_mem c hd)) htail
    obtain ⟨w, hskip, -, rfl⟩ := hfraction _ hahead
    simp only [skipDigits, Input.next?, beq_eq_false_iff_ne.mpr hc, hdigit c List.mem_cons_self,
      Bool.false_eq_true, if_false, if_true]
    rw [hskip]
    exact ⟨_, rfl, trivial, rfl⟩

/-- The digits of a number of 64 bits are read, and after them what follows. -/
theorem takes_readNumber (hn : n < Nat.pow 2 64) (htail : NoDigit tail)
    (hfraction : Reaches (readFraction false n 0) tail a rest) :
    Reader.Takes readNumber (Nat.toDigits 10 n ++ tail) a rest := by
  intro i hi
  unfold readNumber
  split
  · next j hj =>
    have hminus : i.ahead.head? = some '-' := by rw [Input.ahead_of_next? hj]; rfl
    obtain ⟨c, ds, hds, hdigit⟩ := toDigits_lead n
    rw [hi, hds] at hminus
    exact absurd (Option.some.inj hminus) (ne_of_isDigit hdigit (by decide))
  · exact takes_readDigits hn htail hfraction i hi

end Digits

/-! ## Numbers without a fraction -/

theorem reaches_readFraction_whole {n : Nat} (hrest : Follows rest) :
    Reaches (readFraction false n 0) rest (.int n) rest := by
  rintro i rfl
  refine ⟨.here (.int n), ?_, rfl, rfl⟩
  unfold readFraction
  split
  · next c j hj =>
    have hhead : c ∈ i.ahead.head? := by rw [Input.ahead_of_next? hj]; rfl
    obtain ⟨-, hpoint, he, hE⟩ := hrest.not_numeral c hhead
    simp only [beq_eq_false_iff_ne.mpr hpoint, beq_eq_false_iff_ne.mpr he,
      beq_eq_false_iff_ne.mpr hE]
    rfl
  · rfl

theorem readFloatEnd_of_follows {negative : Bool} {digits : Nat} {exponent : Int}
    (hi : Follows i.ahead) :
    readFloatEnd negative digits exponent i = floatAt negative digits exponent i := by
  unfold readFloatEnd
  split
  · next c j hj =>
    have hhead : c ∈ i.ahead.head? := by rw [Input.ahead_of_next? hj]; rfl
    obtain ⟨-, -, he, hE⟩ := hi.not_numeral c hhead
    simp only [beq_eq_false_iff_ne.mpr he, beq_eq_false_iff_ne.mpr hE]
    rfl
  · rfl

theorem reaches_skipFloatEnd_of_follows (hrest : Follows rest) :
    Reaches skipFloatEnd rest () rest := by
  rintro i rfl
  refine ⟨.here (), ?_, rfl, rfl⟩
  unfold skipFloatEnd
  split
  · next c j hj =>
    have hhead : c ∈ i.ahead.head? := by rw [Input.ahead_of_next? hj]; rfl
    obtain ⟨-, -, he, hE⟩ := hrest.not_numeral c hhead
    simp only [beq_eq_false_iff_ne.mpr he, beq_eq_false_iff_ne.mpr hE]
    rfl
  · rfl

theorem reaches_skipFraction_whole (hrest : Follows rest) :
    Reaches skipFraction rest () rest := by
  rintro i rfl
  unfold skipFraction
  split
  · next j hj =>
    have hhead : '.' ∈ i.ahead.head? := by rw [Input.ahead_of_next? hj]; rfl
    exact absurd rfl (hrest.not_numeral '.' hhead).2.1
  · exact reaches_skipFloatEnd_of_follows hrest i rfl

end IssueGraph.Json
