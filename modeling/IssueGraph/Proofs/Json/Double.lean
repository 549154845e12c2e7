import IssueGraph.Json.Value
import IssueGraph.Proofs.Decimal.Shortest
import IssueGraph.Proofs.Json.Written
import Mathlib.Data.List.Induction

/-!
# Positive doubles in JSON text

A positive finite double is written as a spelling of its shortest decimal: with an exponent, with
places after a point, or as a whole number with a zero after the point. The text is read as some
double, not always the same one. The reader rounds the digits, the power of ten and their product,
which keeps away from infinity unless the double is one of the greatest; those are read one by one.
Main statements: `exists_spelling_number`, `exists_numeral`.
-/
namespace IssueGraph.Json

open Decimal

/-! ## Digits -/

theorem exists_digitChar {c : Char} (hc : c.isDigit = true) : ∃ n < 10, Nat.digitChar n = c := by
  obtain ⟨hlow, hhigh⟩ := Char.isDigit_iff_toNat.mp hc
  have hdigit : ∀ n < 10, Nat.digitChar n = Char.ofNat (48 + n) := by decide
  have hlow : 48 ≤ c.toNat := hlow
  have hhigh : c.toNat ≤ 57 := hhigh
  refine ⟨c.toNat - 48, by omega, ?_⟩
  rw [hdigit _ (by omega), Nat.add_sub_cancel' hlow, Char.ofNat_toNat]

/-- Digits of which the first is not zero are those of their number. -/
theorem toDigits_ofDigitChars {c : Char} {ds : List Char} (hc : c ≠ '0')
    (hds : ∀ d ∈ c :: ds, d.isDigit = true) :
    Nat.toDigits 10 (Nat.ofDigitChars 10 (c :: ds) 0) = c :: ds := by
  induction ds using List.reverseRecOn with
  | nil =>
    obtain ⟨n, hn, rfl⟩ := exists_digitChar (hds c List.mem_cons_self)
    rw [Nat.ofDigitChars_cons_digitChar_of_lt_ten hn, Nat.ofDigitChars_nil, Nat.mul_zero,
      Nat.zero_add, Nat.toDigits_of_lt_base hn]
  | append_singleton ds d ih =>
    obtain ⟨n, hn, rfl⟩ := exists_digitChar (hds d (by simp))
    have ih := ih fun d hd => hds d (by simp at hd ⊢; tauto)
    have hpos : 0 < Nat.ofDigitChars 10 (c :: ds) 0 := by
      refine Nat.pos_of_ne_zero fun hzero => hc ?_
      rw [hzero, Nat.toDigits_zero] at ih
      exact (List.cons.inj ih).1.symm
    rw [← List.cons_append, Nat.ofDigitChars_append,
      Nat.ofDigitChars_cons_digitChar_of_lt_ten hn, Nat.ofDigitChars_nil,
      ← Nat.toDigits_append_toDigits (by decide) hpos hn, ih, Nat.toDigits_of_lt_base hn]

/-- Whole digits: a single zero, or digits of which the first is not zero. -/
def Whole (ds : List Char) : Prop := ds = ['0'] ∨ ∃ c cs, ds = c :: cs ∧ c ≠ '0'

theorem Whole.toDigits {ds : List Char} (h : Whole ds) (hds : ∀ d ∈ ds, d.isDigit = true) :
    Nat.toDigits 10 (Nat.ofDigitChars 10 ds 0) = ds := by
  rcases h with rfl | ⟨c, cs, rfl, hc⟩
  · rfl
  · exact toDigits_ofDigitChars hc hds

namespace Spelling

/-- The number as a decimal. -/
def decimal (s : Spelling) : Decimal := ⟨s.digits, s.exponent⟩

/-- The spelling of a decimal, other than as a whole number, whose parts are within what is read. -/
structure Of (d : Decimal) (s : Spelling) : Prop where
  real : s.IsReal
  fits : s.digits < Nat.pow 2 64
  power : ∀ e ∈ s.power, e.natAbs < Nat.pow 2 31
  value : s.decimal.value = d.value
  exact : 0 ≤ s.exponent → s.decimal = d

/-- A number is spelled by whole digits, places and an exponent. -/
theorem exists_ofChars (ds places : List Char) (power : Option Int) (hds : Whole ds)
    (hdigit : ∀ c ∈ ds ++ places, c.isDigit = true) :
    ∃ s : Spelling, s.places = places ∧ s.power = power ∧
      s.digits = Nat.ofDigitChars 10 (ds ++ places) 0 ∧
      s.text = ds ++ ((if places = [] then [] else '.' :: places) ++
        (power.map powerText).getD []) := by
  refine ⟨⟨Nat.ofDigitChars 10 ds 0, places, power,
    fun c hc => hdigit c (List.mem_append_right ds hc)⟩, rfl, rfl, ?_, ?_⟩
  · rw [Nat.ofDigitChars_append]
    rfl
  · rw [text, hds.toDigits fun c hc => hdigit c (List.mem_append_left places hc)]
    rfl

end Spelling

/-! ## Texts -/

variable {d : Decimal}

theorem isDigit_digitChars {n : Nat} : ∀ c ∈ digitChars n, c.isDigit = true :=
  fun _ hc => Nat.isDigit_of_mem_toDigits (by decide) (by decide) hc

theorem digitChars_cons {n : Nat} (hn : 0 < n) : ∃ c ds, digitChars n = c :: ds ∧ c ≠ '0' := by
  obtain ⟨c, ds, hds, hc⟩ := toDigits_eq_cons n
  exact ⟨c, ds, hds, fun h => Nat.ne_of_gt hn (hc h)⟩

/-- A decimal is spelled with an exponent. -/
theorem exists_spelling_exponentText (hpos : 0 < d.digits) (hdigits : d.digits ≤ 10 ^ 17)
    (hlow : -417 ≤ d.exponent) (hhigh : d.exponent < 309) :
    ∃ s, (exponentText "e+" d).toList = s.text ∧ Spelling.Of d s := by
  obtain ⟨c, ds, hds, hc⟩ := digitChars_cons hpos
  have hlength : (digitChars d.digits).length ≤ 18 :=
    (Nat.length_toDigits_le_iff (by decide) (by decide)).mpr (by omega)
  rw [hds, List.length_cons] at hlength
  obtain ⟨s, hplaces, hpower, hvalue, htext⟩ := Spelling.exists_ofChars [c] ds
    (some (d.exponent + ds.length)) (.inr ⟨c, [], rfl, hc⟩)
    (by rw [List.singleton_append, ← hds]; exact isDigit_digitChars)
  have hn : s.digits = d.digits := by
    rw [hvalue, List.singleton_append, ← hds]
    exact Nat.ofDigitChars_ten_toDigits
  have hdecimal : s.decimal = d := by
    have he : s.exponent = d.exponent := by
      rw [Spelling.exponent, hpower, hplaces, Option.getD_some]
      omega
    rw [Spelling.decimal, hn, he]
  refine ⟨s, ?_, ?_, ?_, ?_, congrArg value hdecimal, fun _ => hdecimal⟩
  · rw [htext]
    unfold exponentText Spelling.powerText
    simp only [hds, List.take_succ_cons, List.take_zero, List.drop_succ_cons, List.drop_zero,
      List.isEmpty_iff]
    generalize d.exponent + (ds.length : Int) = e
    by_cases hfraction : ds = [] <;> by_cases hsign : e < 0 <;>
      simp [hfraction, hsign]
  · exact .inr (hpower ▸ rfl)
  · rw [hn]
    exact Nat.lt_of_le_of_lt hdigits (by decide)
  · rw [hpower]
    intro e he
    obtain rfl := Option.some.inj he
    have : Nat.pow 2 31 = 2147483648 := rfl
    omega

/-- Digits that are padded with zeros to one more than the places have a whole number before them.
-/
theorem whole_take_padded {n places : Nat} (hn : 0 < n) {padded : List Char}
    (hpadded : List.replicate (places + 1 - (digitChars n).length) '0' ++ digitChars n = padded) :
    Whole (padded.take (padded.length - places)) := by
  rcases Nat.lt_or_ge places (digitChars n).length with hlong | hshort
  · obtain ⟨c, ds, hds, hc⟩ := digitChars_cons hn
    rw [show places + 1 - (digitChars n).length = 0 by omega, List.replicate_zero,
      List.nil_append] at hpadded
    rw [hpadded] at hlong hds
    obtain ⟨k, hk⟩ := Nat.exists_eq_add_of_lt hlong
    rw [show padded.length - places = k + 1 by omega, hds, List.take_succ_cons]
    exact .inr ⟨c, _, rfl, hc⟩
  · rw [Nat.succ_sub hshort, List.replicate_succ, List.cons_append] at hpadded
    have hsucc : padded.length = places + 1 := by
      rw [← hpadded, List.length_cons, List.length_append, List.length_replicate]
      omega
    rw [hsucc, Nat.add_sub_cancel_left, ← hpadded]
    exact .inl rfl

/-- A decimal that is not whole is spelled with a point. -/
theorem exists_spelling_places (hpos : 0 < d.digits) (hdigits : d.digits ≤ 10 ^ 17) {places : Nat}
    (hplaces : 0 < places) (hexponent : d.exponent = -places) :
    ∃ s, (positionalText true d).toList = s.text ∧ Spelling.Of d s := by
  obtain ⟨padded, hpadded⟩ : ∃ padded, List.replicate (places + 1 - (digitChars d.digits).length)
      '0' ++ digitChars d.digits = padded := ⟨_, rfl⟩
  have hlength : places < padded.length := by
    rw [← hpadded, List.length_append, List.length_replicate]
    omega
  have hdigit : ∀ c ∈ padded, c.isDigit = true := by
    rw [← hpadded]
    simp only [List.mem_append, List.mem_replicate]
    rintro e (⟨-, rfl⟩ | he)
    · rfl
    · exact isDigit_digitChars e he
  have hvalue : Nat.ofDigitChars 10 padded 0 = d.digits := by
    rw [← hpadded, Nat.ofDigitChars_append, Nat.ofDigitChars_replicate_zero, Nat.mul_zero]
    exact Nat.ofDigitChars_ten_toDigits
  obtain ⟨s, hsplaces, hpower, hn, htext⟩ := Spelling.exists_ofChars
    (padded.take (padded.length - places)) (padded.drop (padded.length - places)) none
    (whole_take_padded hpos hpadded) (by rwa [List.take_append_drop])
  rw [List.take_append_drop, hvalue] at hn
  have hdrop : s.places.length = places := by
    rw [hsplaces, List.length_drop]
    omega
  have hne : padded.drop (padded.length - places) ≠ [] := fun h => by
    rw [hsplaces, h] at hdrop
    exact Nat.ne_of_gt hplaces hdrop.symm
  have hdecimal : s.decimal = d := by
    rw [Spelling.decimal, hn, Spelling.exponent, hpower, hdrop, Option.getD_none, Int.zero_sub,
      ← hexponent]
  refine ⟨s, ?_, ?_, ?_, ?_, congrArg value hdecimal, fun _ => hdecimal⟩
  · rw [htext, if_neg hne]
    unfold positionalText
    rw [if_neg (by omega)]
    simp [hexponent, hpadded]
  · exact .inl (hsplaces ▸ hne)
  · rw [hn]
    exact Nat.lt_of_le_of_lt hdigits (by decide)
  · rw [hpower]
    intro e he
    cases he

/-- A whole decimal is spelled with a point and a zero after it, if that does not take too many
digits. -/
theorem exists_spelling_whole (hpos : 0 < d.digits) {zeros : Nat} (hexponent : d.exponent = zeros)
    (hhigh : zeros + (digitChars d.digits).length ≤ 16) :
    ∃ s, (positionalText true d).toList = s.text ∧ Spelling.Of d s := by
  obtain ⟨c, ds, hds, hc⟩ := digitChars_cons hpos
  obtain ⟨s, hplaces, hpower, hn, htext⟩ := Spelling.exists_ofChars
    (digitChars d.digits ++ List.replicate zeros '0') ['0'] none
    (.inr ⟨c, ds ++ List.replicate zeros '0', by rw [hds, List.cons_append], hc⟩)
    (by
      simp only [List.mem_append, List.mem_replicate, List.mem_singleton]
      rintro e ((he | ⟨-, rfl⟩) | rfl)
      · exact isDigit_digitChars e he
      · rfl
      · rfl)
  have hn : s.digits = 10 ^ (zeros + 1) * d.digits := by
    have hvalue : Nat.ofDigitChars 10 (digitChars d.digits) 0 = d.digits :=
      Nat.ofDigitChars_ten_toDigits
    rw [hn, List.append_assoc, ← List.replicate_succ', Nat.ofDigitChars_append, hvalue,
      Nat.ofDigitChars_replicate_zero]
  have he : s.exponent = -1 := by
    rw [Spelling.exponent, hpower, hplaces]
    rfl
  refine ⟨s, ?_, ?_, ?_, ?_, ?_, ?_⟩
  · rw [htext]
    unfold positionalText
    rw [if_pos (by omega)]
    simp [hexponent]
  · exact .inl (hplaces ▸ List.cons_ne_nil _ _)
  · rw [hn]
    have hlength := Nat.length_toDigits_pos (b := 10) (n := d.digits)
    rw [digitChars] at hhigh
    have hlt : d.digits < 10 ^ (16 - zeros) :=
      (Nat.length_toDigits_le_iff (by decide) (by omega)).mp (by omega)
    calc 10 ^ (zeros + 1) * d.digits ≤ 10 ^ (zeros + 1) * 10 ^ (16 - zeros) :=
          Nat.mul_le_mul_left _ (Nat.le_of_lt hlt)
      _ = 10 ^ 17 := by rw [← Nat.pow_add, show zeros + 1 + (16 - zeros) = 17 by omega]
      _ < 2 ^ 64 := by decide
  · rw [hpower]
    intro e he
    cases he
  · rw [Spelling.decimal, hn, he, value, value, hexponent]
    push_cast
    rw [pow_succ, zpow_neg_one, zpow_natCast]
    ring
  · intro hnonneg
    omega

/-! ## Positive doubles -/

section Positive

variable {x : Float}

/-- A positive finite double is written with its shortest digits, positionally or with an
exponent. -/
theorem text_number (hpos : 0.0 < x) (hx : x.isFinite = true) :
    number.text x =
      if number.positional ((shortest .toEven x).exponent +
        (digitChars (shortest .toEven x).digits).length - 1) then
        positionalText true (shortest .toEven x)
      else exponentText "e+" (shortest .toEven x) := by
  have hmantissa := Nat.ne_of_gt (Binary64.bounded_parts hpos hx).pos
  unfold Format.text
  simp only [Binary64.isNaN_eq_false hpos hx, Binary64.isInf_eq_false hpos hx,
    Binary64.isNegative_eq_false hpos hx, Bool.false_eq_true, if_false, if_neg hmantissa]
  exact String.empty_append

/-- The text of a positive finite double spells its shortest decimal. -/
theorem exists_spelling_number (hpos : 0.0 < x) (hx : x.isFinite = true) :
    ∃ s, (number.text x).toList = s.text ∧ Spelling.Of (shortest .toEven x) s := by
  have hbounded := Binary64.bounded_parts hpos hx
  have hdigits := (shortest_bounds hbounded .toEven).1
  have hzero := shortest_pos hbounded .toEven
  obtain ⟨hlow, hhigh⟩ := shortest_exponent hbounded .toEven
  rw [text_number hpos hx]
  generalize shortest .toEven x = d at *
  split
  · next hpositional =>
    have hleading : d.exponent + (digitChars d.digits).length ≤ 16 := by
      simp [number] at hpositional
      omega
    rcases lt_or_ge d.exponent 0 with hneg | hnonneg
    · obtain ⟨places, hplaces⟩ := Int.exists_eq_neg_ofNat hneg.le
      exact exists_spelling_places hzero hdigits (by omega) hplaces
    · obtain ⟨zeros, hzeros⟩ := Int.eq_ofNat_of_zero_le hnonneg
      exact exists_spelling_whole hzero hzeros (by omega)
  · exact exists_spelling_exponentText hzero hdigits hlow hhigh

/-- The eight greatest doubles are read back without overflow. -/
theorem scaled?_greatest : ∀ k < 8,
    Binary64.parts (Float.ofBits (0x7feffffffffffff8 + k).toUInt64) = ⟨2 ^ 53 - 8 + k, 971⟩ ∧
      ∃ y, scaled? (shortest .toEven (Float.ofBits (0x7feffffffffffff8 + k).toUInt64)).digits
        (shortest .toEven (Float.ofBits (0x7feffffffffffff8 + k).toUInt64)).exponent = some y := by
  simp only [← Option.isSome_iff_exists]
  decide +kernel

theorem shortest_congr {y : Float} (h : Binary64.parts x = Binary64.parts y) (tie : Tie) :
    shortest tie x = shortest tie y := by
  unfold shortest
  rw [h]

theorem powerOfTen_eq {n : Nat} (hn : n < 309) : powerOfTen n = Binary64.ofRatio (10 ^ n) 1 := by
  unfold powerOfTen Binary64.ofDecimal
  rw [if_neg Nat.one_ne_zero, show (Nat.toDigits 10 1).length = 1 from rfl]
  dsimp only
  rw [if_neg (by omega), if_neg (by omega), if_neg (by omega), Int.toNat_natCast, Nat.one_mul]
  rfl

/-- A decimal that stays below the greatest doubles is read without overflow. -/
theorem scaled?_of_le {d : Decimal} {n : Nat} (hpos : 0 < d.digits) (hexponent : d.exponent = n)
    (hn : n < 309) (h : d.value ≤ (2 ^ 53 - 8) * 2 ^ (971 : Int)) :
    ∃ y, scaled? d.digits d.exponent = some y := by
  have hvalue : d.value = d.digits * 10 ^ n := by rw [value, hexponent, zpow_natCast]
  have hd : (1 : ℚ) ≤ d.digits := by exact_mod_cast hpos
  have hten : (1 : ℚ) ≤ 10 ^ n := one_le_pow₀ (by norm_num)
  have hunit : (0 : ℚ) < 2 ^ (971 : Int) := zpow_pos two_pos _
  -- Neither factor is above the product, and rounding adds little to each.
  have hlimit {r : ℚ} (hr : r ≤ d.value) : r * (1 + 1 / 2 ^ 52) < 2 ^ (1024 : Int) := by
    rw [← Binary64.greatest_add, Binary64.greatest]
    generalize (2 : ℚ) ^ (971 : Int) = t at *
    linarith
  have hdigits : (d.digits : ℚ) ≤ d.value := by
    rw [hvalue]
    exact le_mul_of_one_le_right (by linarith) hten
  have hpower : ((10 ^ n : Nat) : ℚ) ≤ d.value := by
    rw [hvalue]
    push_cast
    exact le_mul_of_one_le_left (by linarith) hd
  obtain ⟨v, hv, hvle⟩ := Binary64.proper_ofRatio (Nat.ne_of_gt hpos) (hlimit hdigits)
  obtain ⟨w, hw, hwle⟩ := Binary64.proper_ofRatio (Nat.pow_pos (by decide)).ne' (hlimit hpower)
  have hfinite : (Binary64.ofRatio d.digits 1 * powerOfTen n).isInf = false := by
    rw [powerOfTen_eq hn]
    refine Binary64.isInf_mul hv hw ?_
    calc v * w ≤ (d.digits * (1 + 1 / 2 ^ 52)) * ((10 ^ n : Nat) * (1 + 1 / 2 ^ 52)) :=
          mul_le_mul hvle hwle hw.nonneg (by positivity)
      _ = d.value * (1 + 1 / 2 ^ 52) ^ 2 := by
          rw [hvalue]
          push_cast
          ring
      _ < Binary64.greatest := by
          rw [Binary64.greatest]
          generalize (2 : ℚ) ^ (971 : Int) = t at *
          linarith
  refine ⟨Binary64.ofRatio d.digits 1 * powerOfTen n, ?_⟩
  unfold scaled?
  rw [hexponent, if_neg (by omega), if_pos (by omega), Int.toNat_natCast]
  simp only [hfinite, Bool.false_eq_true, if_false]

/-- The shortest decimal of a positive finite double is read without overflow. -/
theorem scaled?_shortest (hx : (Binary64.parts x).Bounded)
    (hexponent : 0 ≤ (shortest .toEven x).exponent) :
    ∃ y, scaled? (shortest .toEven x).digits (shortest .toEven x).exponent = some y := by
  by_cases hgreat : 2 ^ 53 - 8 ≤ (Binary64.parts x).mantissa ∧ (Binary64.parts x).exponent = 971
  · obtain ⟨k, hk⟩ := Nat.exists_eq_add_of_le hgreat.1
    obtain ⟨hparts, hread⟩ := scaled?_greatest k (by have := hx.lt; omega)
    have hsame : Binary64.parts x =
        Binary64.parts (Float.ofBits (0x7feffffffffffff8 + k).toUInt64) := by
      rw [hparts, ← hk, ← hgreat.2]
    rwa [shortest_congr hsame]
  · obtain ⟨-, -, hvalue⟩ := shortest_bounds hx .toEven
    obtain ⟨n, hn⟩ := Int.eq_ofNat_of_zero_le hexponent
    have hlt := (shortest_exponent hx .toEven).2
    refine scaled?_of_le (shortest_pos hx .toEven) hn (by omega) (hvalue.trans ?_)
    have hm : ((Binary64.parts x).mantissa : ℚ) + 1 ≤ 2 ^ 53 := by exact_mod_cast hx.lt
    rcases eq_or_ne (Binary64.parts x).exponent 971 with hlast | hlower
    · have hm : ((Binary64.parts x).mantissa : ℚ) + 9 ≤ 2 ^ 53 := by
        exact_mod_cast (show (Binary64.parts x).mantissa + 9 ≤ 2 ^ 53 by omega)
      rw [hlast]
      exact mul_le_mul_of_nonneg_right (by linarith) (zpow_nonneg zero_le_two _)
    · have hexp := hx.exponent_le
      calc ((Binary64.parts x).mantissa + 1 / 2 : ℚ) * 2 ^ (Binary64.parts x).exponent
          ≤ 2 ^ 53 * 2 ^ (970 : Int) :=
            mul_le_mul (by linarith) (zpow_le_zpow_right₀ one_le_two (by omega))
              (zpow_nonneg zero_le_two _) (by norm_num)
        _ = 2 ^ 52 * 2 ^ (971 : Int) := by
            rw [show (971 : Int) = 1 + 970 by rfl, zpow_add₀ two_ne_zero, zpow_one, ← mul_assoc]
            norm_num
        _ ≤ (2 ^ 53 - 8) * 2 ^ (971 : Int) :=
            mul_le_mul_of_nonneg_right (by norm_num) (zpow_nonneg zero_le_two _)

/-- The text of a positive finite double is read as some double. -/
theorem exists_numeral (hpos : 0.0 < x) (hx : x.isFinite = true) :
    ∃ y, Numeral (compact (.float x)) (.float y) := by
  obtain ⟨s, htext, hs⟩ := exists_spelling_number hpos hx
  have hbounded := Binary64.bounded_parts hpos hx
  have hscaled : ∃ y, scaled? s.digits s.exponent = some y := by
    rcases lt_or_ge s.exponent 0 with hneg | hnonneg
    · refine ⟨scaleDown (Binary64.ofRatio s.digits 1) (-s.exponent).toNat, ?_⟩
      unfold scaled?
      rw [if_pos hneg]
    · have hdecimal := hs.exact hnonneg
      have hread := scaled?_shortest (x := x) hbounded
      rw [← hdecimal] at hread
      exact hread hnonneg
  obtain ⟨y, hy⟩ := hscaled
  refine ⟨y, ?_⟩
  have hcompact : compact (.float x) = s.text := by
    rw [compact, floatText, if_pos hx, htext]
  rw [hcompact]
  exact Spelling.numeral hs.real hs.fits hs.power hy

end Positive

end IssueGraph.Json
