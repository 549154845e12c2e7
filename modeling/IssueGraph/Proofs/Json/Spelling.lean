import IssueGraph.Proofs.Json.Literal

/-!
# Spelled numbers

A JSON number without a sign is spelled by whole digits, places after a point and an exponent. Its
digits, without the point, and an exponent of ten say which number it is. A spelling with a point or
an exponent is read to the double that is scaled from them, if its digits fit 64 bits, and it is
passed over. Main statements: `Spelling.takes_readNumber`, `Spelling.reaches_skipFraction`.
-/
namespace IssueGraph.Json

variable {i : Input} {rest : List Char}

/-- The parts of a number without a sign. -/
structure Spelling where
  whole : Nat
  /-- The digits after the point; without any, there is no point. -/
  places : List Char := []
  power : Option Int := none
  isDigit : ∀ c ∈ places, c.isDigit = true := by simp

namespace Spelling

variable {s : Spelling}

/-- The mark, sign and digits of an exponent. -/
def powerText (e : Int) : List Char :=
  'e' :: (if e < 0 then '-' else '+') :: Nat.toDigits 10 e.natAbs

/-- The point and the places after it. -/
def fraction (s : Spelling) : List Char := if s.places = [] then [] else '.' :: s.places

/-- What follows the whole digits. -/
def tail (s : Spelling) : List Char := s.fraction ++ (s.power.map powerText).getD []

def text (s : Spelling) : List Char := Nat.toDigits 10 s.whole ++ s.tail

/-- The number is `digits · 10 ^ exponent`. -/
def digits (s : Spelling) : Nat := Nat.ofDigitChars 10 s.places s.whole

def exponent (s : Spelling) : Int := s.power.getD 0 - s.places.length

/-- The number is not spelled as a whole number. -/
def IsReal (s : Spelling) : Prop := s.places ≠ [] ∨ s.power.isSome

end Spelling

/-! ## Exponents -/

section Exponents

variable {digits : Nat} {exponent e : Int} {y : Float}

theorem reaches_floatAt (h : scaled? digits exponent = some y) :
    Reaches (floatAt false digits exponent) rest (.float y) rest := by
  rintro i rfl
  refine ⟨.here (.float y), ?_, rfl, rfl⟩
  rw [floatAt, h]
  rfl

theorem readExponentDigits_of_ahead {ds : List Char} (hds : ∀ c ∈ ds, c.isDigit = true)
    (hrest : NoDigit rest) {n : Nat} (hn : Nat.ofDigitChars 10 ds n < Nat.pow 2 31)
    (hi : i.ahead = ds ++ rest) :
    (readExponentDigits n i).value = some (Nat.ofDigitChars 10 ds n) ∧
      (readExponentDigits n i).rest.ahead = rest := by
  induction ds generalizing n i with
  | nil =>
    rw [readExponentDigits]
    split
    · exact ⟨rfl, hi⟩
    · next c j hj =>
      have hdigit := hrest c (by rw [← List.nil_append rest, ← hi, Input.ahead_of_next? hj]; rfl)
      rw [if_neg (by simp [hdigit])]
      exact ⟨rfl, hi⟩
  | cons c ds ih =>
    obtain ⟨hc, hds⟩ := List.forall_mem_cons.mp hds
    rw [Nat.ofDigitChars_cons] at hn
    obtain ⟨j, hj, hahead⟩ := Input.next?_of_ahead hi
    rw [readExponentDigits]
    split
    · next hnone => rw [hj] at hnone; cases hnone
    · next d k hk =>
      obtain ⟨rfl, rfl⟩ := Input.next?_inj hj hk
      have hlt : 10 * n + digitValue c < Nat.pow 2 31 :=
        Nat.lt_of_le_of_lt (le_ofDigitChars ds _) hn
      rw [if_pos hc]
      simp only [hlt, if_true]
      exact ih hds hn hahead

/-- The digits of an exponent are read, and the double is scaled. -/
theorem reaches_readExponentAt (down : Bool) {n : Nat} (hn : n < Nat.pow 2 31)
    (hrest : NoDigit rest)
    (h : scaled? digits (if down then exponent - n else exponent + n) = some y) :
    Reaches (readExponentAt false digits exponent down) (Nat.toDigits 10 n ++ rest) (.float y)
      rest := by
  intro i hi
  have hvalue : Nat.ofDigitChars 10 (Nat.toDigits 10 n) 0 = n := Nat.ofDigitChars_ten_toDigits
  obtain ⟨hread, hahead⟩ := readExponentDigits_of_ahead
    (fun c hc => Nat.isDigit_of_mem_toDigits (by decide) (by decide) hc) hrest
    (hvalue.symm ▸ hn) hi
  rw [hvalue] at hread
  obtain ⟨w, hw, hfloat, hend⟩ := reaches_floatAt h _ hahead
  obtain ⟨c, ds, hds, hc⟩ := toDigits_lead n
  rw [hds] at hi
  obtain ⟨j, hj, -⟩ := Input.next?_of_ahead hi
  unfold readExponentAt
  rw [hj]
  simp only [hc, if_true, hread]
  rw [hw]
  exact ⟨_, rfl, hfloat, hend⟩

theorem reaches_readFloatEnd_power (he : e.natAbs < Nat.pow 2 31) (hrest : NoDigit rest)
    (h : scaled? digits (exponent + e) = some y) :
    Reaches (readFloatEnd false digits exponent) (Spelling.powerText e ++ rest) (.float y)
      rest := by
  rintro ⟨_, place⟩ rfl
  unfold Spelling.powerText
  rcases Int.lt_or_le e 0 with hneg | hpos
  · rw [if_pos hneg]
    obtain ⟨w, hw, hvalue, hahead⟩ := reaches_readExponentAt true he hrest
      (by rw [if_pos rfl, show exponent - (e.natAbs : Nat) = exponent + e by omega]; exact h)
      ⟨_, (place.next 'e').next '-'⟩ rfl
    have hsign : readExponent false digits exponent
        ⟨'-' :: (Nat.toDigits 10 e.natAbs ++ rest), place.next 'e'⟩ = .ok (w.afterNext rfl) :=
      bind_of_eq_ok hw
    exact ⟨_, bind_of_eq_ok hsign, hvalue, hahead⟩
  · rw [if_neg (Int.not_lt.mpr hpos)]
    obtain ⟨w, hw, hvalue, hahead⟩ := reaches_readExponentAt false he hrest
      (by rw [if_neg Bool.false_ne_true, show exponent + (e.natAbs : Nat) = exponent + e by omega]
          exact h)
      ⟨_, (place.next 'e').next '+'⟩ rfl
    have hsign : readExponent false digits exponent
        ⟨'+' :: (Nat.toDigits 10 e.natAbs ++ rest), place.next 'e'⟩ = .ok (w.afterNext rfl) :=
      bind_of_eq_ok hw
    exact ⟨_, bind_of_eq_ok hsign, hvalue, hahead⟩

end Exponents

/-! ## Numbers -/

namespace Spelling

variable {s : Spelling} {digits : Nat} {exponent : Int} {y : Float}

/-- The exponent, if there is one. -/
abbrev scale (s : Spelling) : List Char := (s.power.map powerText).getD []

theorem noDigit_scale (s : Spelling) (hrest : Follows rest) : NoDigit (s.scale ++ rest) := by
  unfold scale
  cases s.power with
  | none => exact hrest.noDigit
  | some e => exact noDigit_cons rfl

theorem reaches_readFloatEnd (hpower : ∀ e ∈ s.power, e.natAbs < Nat.pow 2 31)
    (hrest : Follows rest) (h : scaled? digits (exponent + s.power.getD 0) = some y) :
    Reaches (readFloatEnd false digits exponent) (s.scale ++ rest) (.float y) rest := by
  unfold scale
  cases hs : s.power with
  | none =>
    rw [hs, Option.getD_none, Int.add_zero] at h
    intro i hi
    rw [readFloatEnd_of_follows (hi ▸ hrest)]
    exact reaches_floatAt h i hi
  | some e =>
    rw [hs] at h
    exact reaches_readFloatEnd_power (hpower e hs) hrest.noDigit h

theorem reaches_readPlaces (hplaces : s.places ≠ []) (hdigits : s.digits < Nat.pow 2 64)
    (hpower : ∀ e ∈ s.power, e.natAbs < Nat.pow 2 31) (hrest : Follows rest)
    (h : scaled? s.digits s.exponent = some y) :
    Reaches (readPlaces false s.whole 0) (s.places ++ (s.scale ++ rest)) (.float y) rest := by
  intro i hi
  obtain ⟨hahead, htake⟩ := ahead_dropWhile_isDigit hi s.isDigit (s.noDigit_scale hrest)
  have happend : appendDigits s.whole s.places = (s.digits, []) := appendDigits_of_lt _ _ hdigits
  have hscale : scaled? s.digits (0 - (s.places.length - 0 : Nat) + s.power.getD 0) = some y := by
    rw [← h, exponent]
    congr 1
    omega
  obtain ⟨w, hw, hvalue, hend⟩ := reaches_readFloatEnd hpower hrest hscale _ hahead
  unfold readPlaces
  simp only [htake, happend, List.isEmpty_iff, if_neg hplaces, List.length_nil]
  exact ⟨_, bind_of_eq_ok hw, hvalue, hend⟩

/-- What follows the whole digits of a number that is spelled with a point or an exponent. -/
theorem reaches_readFraction (hreal : s.IsReal) (hdigits : s.digits < Nat.pow 2 64)
    (hpower : ∀ e ∈ s.power, e.natAbs < Nat.pow 2 31) (hrest : Follows rest)
    (h : scaled? s.digits s.exponent = some y) :
    Reaches (readFraction false s.whole 0) (s.tail ++ rest) (.float y) rest := by
  unfold tail fraction
  by_cases hplaces : s.places = []
  · obtain ⟨e, he⟩ := Option.isSome_iff_exists.mp (hreal.resolve_left (not_not_intro hplaces))
    have hwhole : s.digits = s.whole := by rw [Spelling.digits, hplaces, Nat.ofDigitChars_nil]
    have hexponent : s.exponent = 0 + s.power.getD 0 := by
      rw [Spelling.exponent, hplaces, List.length_nil]
      omega
    rw [hwhole, hexponent] at h
    have hend := reaches_readFloatEnd hpower hrest h
    rw [if_pos hplaces, List.nil_append]
    unfold scale at hend
    rw [he] at hend ⊢
    rintro ⟨_, place⟩ rfl
    exact hend _ rfl
  · rw [if_neg hplaces]
    rintro ⟨_, place⟩ rfl
    obtain ⟨w, hw, hvalue, hahead⟩ := reaches_readPlaces hplaces hdigits hpower hrest h
      ⟨_, place.next '.'⟩ (List.append_assoc ..)
    exact ⟨_, bind_of_eq_ok hw, hvalue, hahead⟩

theorem noDigit_tail (s : Spelling) (hrest : Follows rest) : NoDigit (s.tail ++ rest) := by
  unfold tail fraction
  split
  · exact s.noDigit_scale hrest
  · exact noDigit_cons rfl

/-- A number that is spelled with a point or an exponent is read to the double that is scaled from
its digits. -/
theorem takes_readNumber (hreal : s.IsReal) (hdigits : s.digits < Nat.pow 2 64)
    (hpower : ∀ e ∈ s.power, e.natAbs < Nat.pow 2 31)
    (h : scaled? s.digits s.exponent = some y) (hrest : Follows rest) :
    Reader.Takes readNumber (s.text ++ rest) (.float y) rest := by
  rw [text, List.append_assoc]
  exact Json.takes_readNumber (Nat.lt_of_le_of_lt (le_ofDigitChars s.places s.whole) hdigits)
    (s.noDigit_tail hrest) (reaches_readFraction hreal hdigits hpower hrest h)

/-! ## Passing over numbers -/

theorem reaches_skipExponentDigits {n : Nat} (hrest : NoDigit rest) :
    Reaches skipExponentDigits (Nat.toDigits 10 n ++ rest) () rest := by
  intro i hi
  obtain ⟨hahead, -⟩ := ahead_dropWhile_isDigit hi
    (fun c hc => Nat.isDigit_of_mem_toDigits (by decide) (by decide) hc) hrest
  obtain ⟨c, ds, hds, hc⟩ := toDigits_lead n
  rw [hds] at hi
  obtain ⟨j, hj, -⟩ := Input.next?_of_ahead hi
  unfold skipExponentDigits
  rw [hj]
  simp only [hc, if_true]
  exact ⟨_, rfl, trivial, hahead⟩

theorem reaches_skipFloatEnd_power {e : Int} (hrest : NoDigit rest) :
    Reaches skipFloatEnd (powerText e ++ rest) () rest := by
  rintro ⟨_, place⟩ rfl
  unfold powerText
  obtain ⟨sign, hsign, heq⟩ : ∃ sign, (sign = '+' ∨ sign = '-') ∧
      (if e < 0 then '-' else '+') = sign := by
    split
    · exact ⟨_, .inr rfl, rfl⟩
    · exact ⟨_, .inl rfl, rfl⟩
  rw [heq]
  obtain ⟨w, hw, hvalue, hahead⟩ := reaches_skipExponentDigits (n := e.natAbs) hrest
    ⟨_, (place.next 'e').next sign⟩ rfl
  have hskip : skipExponent ⟨sign :: (Nat.toDigits 10 e.natAbs ++ rest), place.next 'e'⟩ =
      .ok (w.afterNext rfl) := by
    rcases hsign with rfl | rfl <;> exact bind_of_eq_ok hw
  exact ⟨_, bind_of_eq_ok hskip, hvalue, hahead⟩

theorem reaches_skipFloatEnd (s : Spelling) (hrest : Follows rest) :
    Reaches skipFloatEnd (s.scale ++ rest) () rest := by
  unfold scale
  cases s.power with
  | none => exact reaches_skipFloatEnd_of_follows hrest
  | some e => exact reaches_skipFloatEnd_power hrest.noDigit

theorem reaches_skipFraction (s : Spelling) (hrest : Follows rest) :
    Reaches skipFraction (s.tail ++ rest) () rest := by
  have hend := s.reaches_skipFloatEnd hrest
  unfold tail fraction
  split
  · rw [List.nil_append]
    unfold scale at hend
    cases hs : s.power with
    | none => exact reaches_skipFraction_whole hrest
    | some e =>
      rw [hs] at hend
      rintro ⟨_, place⟩ rfl
      exact hend _ rfl
  · next hplaces =>
    rintro ⟨_, place⟩ rfl
    obtain ⟨hahead, -⟩ := ahead_dropWhile_isDigit
      (i := ⟨s.places ++ s.scale ++ rest, place.next '.'⟩) (List.append_assoc ..) s.isDigit
      (s.noDigit_scale hrest)
    obtain ⟨w, hw, -, hfloat⟩ := hend _ hahead
    obtain ⟨c, cs, hcs⟩ := List.exists_cons_of_ne_nil hplaces
    have hdigit : (s.places ++ s.scale ++ rest).head?.any Char.isDigit = true := by
      rw [hcs]
      exact s.isDigit c (hcs ▸ List.mem_cons_self)
    unfold skipFraction
    simp only [Input.next?, List.cons_append, hdigit, if_true]
    rw [hw]
    exact ⟨_, rfl, trivial, hfloat⟩

end Spelling

end IssueGraph.Json
