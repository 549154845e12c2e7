import IssueGraph.Decimal.Shortest
import IssueGraph.Proofs.Decimal.Binary64

/-!
# Bounds of shortest decimals

The search for the shortest decimal of a double always finds one: on the grid of seventeen digits
the interval of numbers that round to the double is longer than one, so it has a neighbour of the
double in it. What is found lies in the interval, and has no more digits than the grid. Intervals
are compared as rationals, with the size of their unit. Main statements: `shortest_bounds`,
`shortest_exponent`.
-/
namespace IssueGraph.Decimal

/-! ## Values -/

/-- The number that a decimal stands for. -/
def value (d : Decimal) : ℚ := d.digits * 10 ^ d.exponent

theorem value_pos_iff {d : Decimal} : 0 < d.value ↔ 0 < d.digits := by
  rw [value, mul_pos_iff_of_pos_right (by positivity), Nat.cast_pos]

theorem value_trimZeros (n : Nat) (d : Decimal) : (trimZeros n d).value = d.value := by
  induction n generalizing d with
  | zero => rfl
  | succ n ih =>
    rw [trimZeros]
    split
    · next h =>
      have hdigits : d.digits = d.digits / 10 * 10 := by
        have := eq_of_beq h
        omega
      rw [ih, value, value, zpow_add_one₀ (by norm_num)]
      conv_rhs => rw [hdigits]
      push_cast
      ring
    · rfl

theorem digits_trimZeros_le (n : Nat) (d : Decimal) : (trimZeros n d).digits ≤ d.digits := by
  induction n generalizing d with
  | zero => exact Nat.le_refl _
  | succ n ih =>
    rw [trimZeros]
    split
    · exact (ih _).trans (Nat.div_le_self _ _)
    · exact Nat.le_refl _

/-! ## Powers of two and ten -/

/-- A power of ten is no more than a power of two if the exponents are in a ratio below the
logarithm, which lies between 59/196 and 28/93. -/
theorem ten_zpow_le_two_zpow {g b : Int} (hneg : 93 * g ≤ 28 * b) (hpos : 196 * g ≤ 59 * b) :
    (10 : ℚ) ^ g ≤ 2 ^ b := by
  -- With the same exponent on both sides, the bases are compared.
  have hbase {p q : Nat} (hq : q ≠ 0) (hle : q * g ≤ p * b)
      (h : ((10 : ℚ) ^ p) ^ b ≤ (2 ^ q) ^ b) : (10 : ℚ) ^ g ≤ 2 ^ b := by
    refine le_of_pow_le_pow_left₀ hq (zpow_nonneg zero_le_two b) ?_
    calc ((10 : ℚ) ^ g) ^ q = 10 ^ (q * g) := by rw [← zpow_natCast, ← zpow_mul, mul_comm]
      _ ≤ 10 ^ (p * b) := zpow_le_zpow_right₀ (by norm_num) hle
      _ = (10 ^ p) ^ b := by rw [zpow_mul, zpow_natCast]
      _ ≤ (2 ^ q) ^ b := h
      _ = (2 ^ b) ^ q := by rw [← zpow_natCast, ← zpow_natCast, ← zpow_mul, ← zpow_mul, mul_comm]
  rcases le_total 0 b with hb | hb
  · exact hbase (p := 59) (q := 196) (by decide) hpos
      (zpow_le_zpow_left₀ hb (by norm_num) (by norm_num))
  · obtain ⟨n, rfl⟩ := Int.exists_eq_neg_ofNat hb
    refine hbase (p := 28) (q := 93) (by decide) hneg ?_
    rw [zpow_neg, zpow_neg, zpow_natCast, zpow_natCast]
    exact inv_anti₀ (by positivity) (pow_le_pow_left₀ (by norm_num) (by norm_num) n)

theorem two_zpow_le_ten_zpow {g b : Int} (hpos : 28 * b ≤ 93 * g) (hneg : 59 * b ≤ 196 * g) :
    (2 : ℚ) ^ b ≤ 10 ^ g := by
  have hinv : (10 : ℚ) ^ (-g) ≤ 2 ^ (-b) := ten_zpow_le_two_zpow (by omega) (by omega)
  rw [zpow_neg, zpow_neg] at hinv
  exact (inv_le_inv₀ (by positivity) (by positivity)).mp hinv

/-! ## Intervals -/

namespace Interval

variable {i : Interval} {d : Nat} {tie : Tie}

/-- The size of a unit. -/
def unit (i : Interval) : ℚ := i.num / i.den

theorem unit_scale (i : Interval) (k : Int) : (i.scale k).unit = i.unit / 10 ^ k := by
  unfold scale unit
  rcases lt_or_ge k 0 with hk | hk
  · obtain ⟨n, rfl⟩ := Int.exists_eq_neg_ofNat hk.le
    simp only [if_pos hk, neg_neg, Int.toNat_natCast, Nat.pow_eq, Nat.cast_mul, Nat.cast_pow,
      zpow_neg, zpow_natCast, div_inv_eq_mul]
    exact mul_div_right_comm _ _ _
  · obtain ⟨n, rfl⟩ := Int.eq_ofNat_of_zero_le hk
    simp only [if_neg (not_lt.mpr hk), Int.toNat_natCast, Nat.pow_eq, Nat.cast_mul, Nat.cast_pow,
      zpow_natCast]
    exact div_mul_eq_div_div _ _ _

@[simp]
theorem low_scale (i : Interval) (k : Int) : (i.scale k).low = i.low := rfl

@[simp]
theorem value_scale (i : Interval) (k : Int) : (i.scale k).value = i.value := rfl

@[simp]
theorem high_scale (i : Interval) (k : Int) : (i.scale k).high = i.high := rfl

theorem den_scale_pos (hden : 0 < i.den) (k : Int) : 0 < (i.scale k).den := by
  unfold scale
  dsimp only
  split
  · exact hden
  · exact Nat.mul_pos hden (Nat.pow_pos (by decide))

theorem le_of_contains (hden : 0 < i.den) (h : i.contains d = true) :
    i.low * i.unit ≤ d ∧ (d : ℚ) ≤ i.high * i.unit := by
  have hd : (0 : ℚ) < i.den := by exact_mod_cast hden
  have hle : i.low * i.num ≤ d * i.den ∧ d * i.den ≤ i.high * i.num := by
    unfold contains at h
    split at h
    · simpa using h
    · simp at h
      omega
  unfold unit
  rw [← mul_div_assoc, ← mul_div_assoc, div_le_iff₀ hd, le_div_iff₀ hd]
  exact_mod_cast hle

theorem contains_of_lt (hden : 0 < i.den) (hlow : i.low * i.unit < d)
    (hhigh : (d : ℚ) < i.high * i.unit) : i.contains d = true := by
  have hd : (0 : ℚ) < i.den := by exact_mod_cast hden
  unfold unit at hlow hhigh
  rw [← mul_div_assoc, div_lt_iff₀ hd] at hlow
  rw [← mul_div_assoc, lt_div_iff₀ hd] at hhigh
  have hlow : i.low * i.num < d * i.den := by exact_mod_cast hlow
  have hhigh : d * i.den < i.high * i.num := by exact_mod_cast hhigh
  unfold contains
  split <;> simp <;> omega

theorem nearest?_eq_some (h : i.nearest? tie = some d) :
    i.contains d = true ∧ d ≤ i.value * i.num / i.den + 1 := by
  unfold nearest? at h
  dsimp only at h
  split at h
  · cases h
  · next hd _ => cases h; exact ⟨hd, Nat.le_succ _⟩
  · next _ hd => cases h; exact ⟨hd, Nat.le_refl _⟩
  · next hd hd' =>
    have hmem : d = i.value * i.num / i.den ∨ d = i.value * i.num / i.den + 1 := by
      split at h
      · cases h; exact .inl rfl
      · split at h
        · cases h; exact .inr rfl
        · cases tie with
          | up => cases h; exact .inr rfl
          | toEven =>
            dsimp only at h
            split at h <;> cases h
            · exact .inl rfl
            · exact .inr rfl
    rcases hmem with rfl | rfl
    · exact ⟨hd, Nat.le_succ _⟩
    · exact ⟨hd', Nat.le_refl _⟩

theorem floor_le (hden : 0 < i.den) :
    ((i.value * i.num / i.den : Nat) : ℚ) ≤ i.value * i.unit ∧
      (i.value * i.unit : ℚ) < (i.value * i.num / i.den : Nat) + 1 := by
  have hd : (0 : ℚ) < i.den := by exact_mod_cast hden
  unfold unit
  rw [← mul_div_assoc, le_div_iff₀ hd, div_lt_iff₀ hd]
  refine ⟨by exact_mod_cast Nat.div_mul_le_self _ _, ?_⟩
  rw [add_one_mul]
  exact_mod_cast Nat.lt_div_mul_add hden

/-- One of the neighbours of the value lies in the interval if that is longer than one. -/
theorem nearest?_ne_none (hden : 0 < i.den) (hlow : i.low * i.unit < i.value * i.unit)
    (hhigh : i.value * i.unit < i.high * i.unit) (hlong : 1 < (i.high - i.low) * i.unit) :
    i.nearest? tie ≠ none := by
  obtain ⟨hfloor, hceil⟩ := floor_le hden
  have hcontains : i.contains (i.value * i.num / i.den) = true ∨
      i.contains (i.value * i.num / i.den + 1) = true := by
    by_contra h
    rw [not_or] at h
    have hbelow : ((i.value * i.num / i.den : Nat) : ℚ) ≤ i.low * i.unit := by
      by_contra hlt
      exact h.1 (contains_of_lt hden (not_le.mp hlt) (lt_of_le_of_lt hfloor hhigh))
    have habove : i.high * i.unit ≤ ((i.value * i.num / i.den + 1 : Nat) : ℚ) := by
      by_contra hlt
      refine h.2 (contains_of_lt hden ?_ (not_le.mp hlt))
      push_cast
      exact lt_trans hlow hceil
    push_cast at habove
    linarith
  unfold nearest?
  dsimp only
  split
  · next h h' => rw [h, h'] at hcontains; simp at hcontains
  · nofun
  · nofun
  · split
    · nofun
    · split
      · nofun
      · cases tie <;> nofun

theorem unit_of (p : Binary64.Parts) : (of p).unit = 2 ^ (p.exponent - 2) := by
  unfold of unit
  dsimp only
  rcases lt_or_ge (p.exponent - 2) 0 with hk | hk
  · obtain ⟨n, hn⟩ := Int.exists_eq_neg_ofNat hk.le
    rw [if_pos hk, if_pos hk, hn, neg_neg, Int.toNat_natCast, Nat.pow_eq, zpow_neg, zpow_natCast,
      Nat.cast_one, one_div, Nat.cast_pow]
    rfl
  · obtain ⟨n, hn⟩ := Int.eq_ofNat_of_zero_le hk
    rw [if_neg (not_lt.mpr hk), if_neg (not_lt.mpr hk), hn, Int.toNat_natCast, Nat.pow_eq,
      zpow_natCast, Nat.cast_one, div_one, Nat.cast_pow]
    rfl

theorem den_of (p : Binary64.Parts) : ∃ n, (of p).den = 2 ^ n := by
  unfold of
  dsimp only
  split
  · exact ⟨_, rfl⟩
  · exact ⟨0, rfl⟩

/-- The binary logarithm of the value. -/
theorem log2_bounds {n : Nat} (hden : i.den = 2 ^ n) (hvalue : i.value * i.num ≠ 0) :
    (2 : ℚ) ^ ((i.value * i.num).log2 - n : Int) ≤ i.value * i.unit ∧
      i.value * i.unit < (2 : ℚ) ^ ((i.value * i.num).log2 - n + 1 : Int) := by
  have hlow := Nat.log2_self_le hvalue
  have hhigh := Nat.lt_log2_self (n := i.value * i.num)
  have hpow : (0 : ℚ) < 2 ^ n := by positivity
  unfold unit
  rw [← mul_div_assoc, hden, Nat.cast_pow, Nat.cast_two, le_div_iff₀ hpow, div_lt_iff₀ hpow,
    ← zpow_natCast, ← zpow_add₀ two_ne_zero, ← zpow_add₀ two_ne_zero, sub_add_cancel,
    add_right_comm, sub_add_cancel]
  exact ⟨by exact_mod_cast hlow, by exact_mod_cast hhigh⟩

theorem reaches_iff (hden : 0 < i.den) (e : Int) :
    (i.scale e).den ≤ (i.scale e).value * (i.scale e).num ↔
      (10 : ℚ) ^ e ≤ i.value * i.unit := by
  have hd : (0 : ℚ) < (i.scale e).den := by exact_mod_cast den_scale_pos hden e
  have hten : (0 : ℚ) < 10 ^ e := by positivity
  have hscale : (1 : ℚ) ≤ i.value * (i.scale e).unit ↔ (10 : ℚ) ^ e ≤ i.value * i.unit := by
    rw [unit_scale, ← mul_div_assoc, le_div_iff₀ hten, one_mul]
  rw [← hscale, unit, ← mul_div_assoc, le_div_iff₀ hd, one_mul]
  exact_mod_cast Iff.rfl

/-- The value has its leading digit at the magnitude. -/
theorem magnitude_bounds {n : Nat} (hden : i.den = 2 ^ n) (hvalue : i.value * i.num ≠ 0)
    (hlow : (2 : ℚ) ^ (-1074 : Int) ≤ i.value * i.unit)
    (hhigh : (i.value * i.unit : ℚ) < 2 ^ (1024 : Int)) :
    (10 : ℚ) ^ i.magnitude ≤ i.value * i.unit ∧
      (i.value * i.unit : ℚ) < 10 ^ (i.magnitude + 1) := by
  obtain ⟨hfloor, hceil⟩ := log2_bounds hden hvalue
  have hpos : 0 < i.den := hden ▸ Nat.two_pow_pos n
  have hlog : i.den.log2 = n := by rw [hden, Nat.log2_two_pow]
  unfold magnitude
  dsimp only
  rw [hlog]
  generalize ((i.value * i.num).log2 : Int) - n = bits at *
  have hbits : -1075 < bits ∧ bits < 1024 := by
    constructor
    · have := lt_of_le_of_lt hlow hceil
      rw [zpow_lt_zpow_iff_right₀ one_lt_two] at this
      omega
    · have := lt_of_le_of_lt hfloor hhigh
      rwa [zpow_lt_zpow_iff_right₀ one_lt_two] at this
  obtain ⟨g, hg⟩ : ∃ g, bits * 30103 / 100000 - 1 = g := ⟨_, rfl⟩
  simp only [hg, decide_eq_true_eq, reaches_iff hpos]
  have hguess : (10 : ℚ) ^ g ≤ 2 ^ bits := ten_zpow_le_two_zpow (by omega) (by omega)
  have habove : (2 : ℚ) ^ (bits + 1) ≤ 10 ^ (g + 2 + 1) :=
    two_zpow_le_ten_zpow (by omega) (by omega)
  split
  · next h => exact ⟨h, hceil.trans_le habove⟩
  · next h =>
    split
    · next h' =>
      rw [show g + 1 + 1 = g + 2 by ring]
      exact ⟨h', lt_of_not_ge h⟩
    · next h' => exact ⟨hguess.trans hfloor, lt_of_not_ge h'⟩

end Interval

/-! ## The interval of a double -/

namespace Interval

variable {p : Binary64.Parts}

theorem value_mul_unit_of (p : Binary64.Parts) :
    ((of p).value : ℚ) * (of p).unit = p.mantissa * 2 ^ p.exponent := by
  rw [unit_of, of, Nat.cast_mul, zpow_sub₀ two_ne_zero]
  ring

theorem high_mul_unit_of (p : Binary64.Parts) :
    ((of p).high : ℚ) * (of p).unit = (p.mantissa + 1 / 2) * 2 ^ p.exponent := by
  rw [unit_of, of, Nat.cast_add, Nat.cast_mul, zpow_sub₀ two_ne_zero]
  ring

theorem le_low_mul_unit_of (hp : p.Bounded) :
    (p.mantissa - 1 / 2 : ℚ) * 2 ^ p.exponent ≤ (of p).low * (of p).unit := by
  have hlow : 4 * p.mantissa ≤ (of p).low + 2 := by
    have := hp.pos
    unfold of
    dsimp only
    split <;> omega
  have hlow : (4 * p.mantissa : ℚ) ≤ (of p).low + 2 := by exact_mod_cast hlow
  have hpow : (0 : ℚ) ≤ 2 ^ p.exponent / 2 ^ (2 : Int) :=
    div_nonneg (zpow_nonneg zero_le_two _) (zpow_nonneg zero_le_two _)
  rw [unit_of, zpow_sub₀ two_ne_zero]
  calc (p.mantissa - 1 / 2 : ℚ) * 2 ^ p.exponent
      = (4 * p.mantissa - 2) * (2 ^ p.exponent / 2 ^ (2 : Int)) := by ring
    _ ≤ (of p).low * (2 ^ p.exponent / 2 ^ (2 : Int)) :=
        mul_le_mul_of_nonneg_right (by linarith) hpow

theorem low_lt_value_of (hp : p.Bounded) : (of p).low < (of p).value := by
  have := hp.pos
  unfold of
  dsimp only
  split <;> omega

theorem value_lt_high_of (p : Binary64.Parts) : (of p).value < (of p).high :=
  Nat.lt_add_of_pos_right (by decide)

/-- The interval reaches further than the sixteenth digit of its value. -/
theorem low_add_lt_high (hp : p.Bounded) :
    (of p).low * 10 ^ 16 + (of p).value < (of p).high * 10 ^ 16 := by
  have := hp.pos
  have := hp.lt
  unfold of
  dsimp only
  split
  · next h =>
    have hm : p.mantissa = Binary64.hiddenBit := by simp at h; exact h.1
    rw [hm, Binary64.hiddenBit]
    norm_num
  · omega

theorem magnitude_of (hp : p.Bounded) :
    (10 : ℚ) ^ (of p).magnitude ≤ p.mantissa * 2 ^ p.exponent ∧
      (p.mantissa * 2 ^ p.exponent : ℚ) < 10 ^ ((of p).magnitude + 1) := by
  obtain ⟨n, hden⟩ := den_of p
  have hm : (1 : ℚ) ≤ p.mantissa := by exact_mod_cast hp.pos
  have hm' : (p.mantissa : ℚ) < 2 ^ (53 : Int) := by exact_mod_cast hp.lt
  have hpow : (0 : ℚ) < 2 ^ p.exponent := by positivity
  have hnum : (of p).value * (of p).num ≠ 0 := by
    intro h
    have hzero : ((of p).value : ℚ) * (of p).unit = 0 := by
      rw [unit, ← mul_div_assoc, ← Nat.cast_mul, h, Nat.cast_zero, zero_div]
    rw [value_mul_unit_of] at hzero
    exact absurd hzero (by positivity)
  rw [← value_mul_unit_of]
  refine magnitude_bounds hden hnum ?_ ?_
  · rw [value_mul_unit_of]
    calc (2 : ℚ) ^ (-1074 : Int) ≤ 2 ^ p.exponent :=
          zpow_le_zpow_right₀ one_le_two hp.le_exponent
      _ ≤ p.mantissa * 2 ^ p.exponent := le_mul_of_one_le_left hpow.le hm
  · rw [value_mul_unit_of]
    calc (p.mantissa * 2 ^ p.exponent : ℚ) < 2 ^ (53 : Int) * 2 ^ p.exponent :=
          mul_lt_mul_of_pos_right hm' hpow
      _ = 2 ^ (53 + p.exponent) := (zpow_add₀ two_ne_zero _ _).symm
      _ ≤ 2 ^ (1024 : Int) :=
          zpow_le_zpow_right₀ one_le_two (by have := hp.exponent_le; omega)

/-- On the grid of its seventeenth digit the interval of a double is longer than one. -/
theorem one_lt_length (hp : p.Bounded) {e : Int}
    (he : (10 : ℚ) ^ e ≤ p.mantissa * 2 ^ p.exponent) :
    1 < (((of p).high : ℚ) - (of p).low) * ((of p).scale (e - 16)).unit := by
  have hlong : ((of p).value : ℚ) < ((of p).high - (of p).low) * 10 ^ 16 := by
    have : ((of p).low * 10 ^ 16 + (of p).value : ℚ) < (of p).high * 10 ^ 16 := by
      exact_mod_cast low_add_lt_high hp
    linarith
  have hunit : (0 : ℚ) < (of p).unit := by rw [unit_of]; positivity
  rw [← value_mul_unit_of] at he
  rw [unit_scale, ← mul_div_assoc, lt_div_iff₀ (by positivity), one_mul,
    zpow_sub₀ (by norm_num), div_lt_iff₀ (by positivity)]
  calc (10 : ℚ) ^ e ≤ (of p).value * (of p).unit := he
    _ < ((of p).high - (of p).low) * 10 ^ 16 * (of p).unit := mul_lt_mul_of_pos_right hlong hunit
    _ = ((of p).high - (of p).low) * (of p).unit * 10 ^ (16 : Int) := by
        rw [mul_right_comm]; rfl

end Interval

/-! ## The search -/

/-- The decimal tried with `n` digits after the first. -/
def candidate (p : Binary64.Parts) (tie : Tie) (n : Nat) : Option Decimal :=
  (((Interval.of p).scale ((Interval.of p).magnitude - n)).nearest? tie).map fun d =>
    ⟨d, (Interval.of p).magnitude - n⟩

theorem candidate_bounds {p : Binary64.Parts} (hp : p.Bounded) {tie : Tie} {n : Nat} {d : Decimal}
    (h : candidate p tie n = some d) :
    d.digits ≤ 10 ^ (n + 1) ∧ (p.mantissa - 1 / 2) * 2 ^ p.exponent ≤ d.value ∧
      d.value ≤ (p.mantissa + 1 / 2) * 2 ^ p.exponent := by
  obtain ⟨m, hm, rfl⟩ := Option.map_eq_some_iff.mp h
  obtain ⟨a, hden⟩ := Interval.den_of p
  have hden := Interval.den_scale_pos (hden ▸ Nat.two_pow_pos a) ((Interval.of p).magnitude - n)
  obtain ⟨hcontains, hfloor⟩ := Interval.nearest?_eq_some hm
  obtain ⟨hlow, hhigh⟩ := Interval.le_of_contains hden hcontains
  obtain ⟨hvalue, -⟩ := Interval.floor_le hden
  have hten : (0 : ℚ) < 10 ^ ((Interval.of p).magnitude - n : Int) := by positivity
  rw [Interval.unit_scale, ← mul_div_assoc] at hlow hhigh hvalue
  rw [Interval.low_scale, div_le_iff₀ hten] at hlow
  rw [Interval.high_scale, Interval.high_mul_unit_of, le_div_iff₀ hten] at hhigh
  rw [Interval.value_scale, Interval.value_mul_unit_of] at hvalue
  refine ⟨?_, (Interval.le_low_mul_unit_of hp).trans hlow, hhigh⟩
  -- The value has its leading digit at the magnitude, so its whole part has no more digits.
  refine hfloor.trans (Nat.succ_le_of_lt ?_)
  have hlt : (p.mantissa * 2 ^ p.exponent : ℚ) <
      10 ^ (n + 1) * 10 ^ ((Interval.of p).magnitude - n : Int) :=
    calc (p.mantissa * 2 ^ p.exponent : ℚ) < 10 ^ ((Interval.of p).magnitude + 1) :=
          (Interval.magnitude_of hp).2
      _ = 10 ^ (n + 1) * 10 ^ ((Interval.of p).magnitude - n : Int) := by
          rw [← zpow_natCast, ← zpow_add₀ (by norm_num)]
          congr 1
          push_cast
          ring
  exact_mod_cast lt_of_le_of_lt hvalue ((div_lt_iff₀ hten).mpr hlt)

theorem candidate_ne_none {p : Binary64.Parts} (hp : p.Bounded) (tie : Tie) :
    candidate p tie 16 ≠ none := by
  intro h
  obtain ⟨a, hden⟩ := Interval.den_of p
  have hden := Interval.den_scale_pos (hden ▸ Nat.two_pow_pos a) ((Interval.of p).magnitude - 16)
  have hunit : (0 : ℚ) < ((Interval.of p).scale ((Interval.of p).magnitude - 16)).unit := by
    rw [Interval.unit_scale, Interval.unit_of]
    exact div_pos (zpow_pos two_pos _) (zpow_pos (by norm_num) _)
  refine Interval.nearest?_ne_none hden ?_ ?_
    (Interval.one_lt_length hp (Interval.magnitude_of hp).1) (Option.map_eq_none_iff.mp h)
  · exact mul_lt_mul_of_pos_right (by exact_mod_cast Interval.low_lt_value_of hp) hunit
  · exact mul_lt_mul_of_pos_right (by exact_mod_cast Interval.value_lt_high_of p) hunit

/-- The shortest decimal of a double has 17 digits or is a power of ten, and is no further from the
double than half a unit of its last place. -/
theorem shortest_bounds {x : Float} (h : (Binary64.parts x).Bounded) (tie : Tie) :
    (shortest tie x).digits ≤ 10 ^ 17 ∧
      ((Binary64.parts x).mantissa - 1 / 2) * 2 ^ (Binary64.parts x).exponent ≤
        (shortest tie x).value ∧
      (shortest tie x).value ≤
        ((Binary64.parts x).mantissa + 1 / 2) * 2 ^ (Binary64.parts x).exponent := by
  have hne : (List.range 17).findSome? (candidate (Binary64.parts x) tie) ≠ none := by
    intro hnone
    exact candidate_ne_none h tie (List.findSome?_eq_none_iff.mp hnone 16 (by decide))
  obtain ⟨d, hd⟩ := Option.ne_none_iff_exists'.mp hne
  obtain ⟨n, hn, hcandidate⟩ := List.exists_of_findSome?_eq_some hd
  obtain ⟨hle, hvalue⟩ := candidate_bounds h hcandidate
  have hshortest : shortest tie x = trimZeros 20 d := by
    change trimZeros 20 (((List.range 17).findSome? (candidate (Binary64.parts x) tie)).getD _) = _
    rw [hd]
    rfl
  rw [hshortest, value_trimZeros]
  refine ⟨?_, hvalue⟩
  calc (trimZeros 20 d).digits ≤ d.digits := digits_trimZeros_le 20 d
    _ ≤ 10 ^ (n + 1) := hle
    _ ≤ 10 ^ 17 := Nat.pow_le_pow_right (by decide) (List.mem_range.mp hn)

theorem shortest_pos {x : Float} (h : (Binary64.parts x).Bounded) (tie : Tie) :
    0 < (shortest tie x).digits := by
  have hm : (1 : ℚ) ≤ (Binary64.parts x).mantissa := by exact_mod_cast h.pos
  rw [← value_pos_iff]
  exact lt_of_lt_of_le (mul_pos (by linarith) (by positivity)) (shortest_bounds h tie).2.1

/-- The exponents of shortest decimals lie in a small range. -/
theorem shortest_exponent {x : Float} (h : (Binary64.parts x).Bounded) (tie : Tie) :
    -417 ≤ (shortest tie x).exponent ∧ (shortest tie x).exponent < 309 := by
  obtain ⟨hdigits, hlow, hhigh⟩ := shortest_bounds h tie
  have hpos := shortest_pos h tie
  generalize shortest tie x = d at *
  generalize Binary64.parts x = p at *
  have hd : (1 : ℚ) ≤ d.digits := by exact_mod_cast hpos
  have hd' : (d.digits : ℚ) ≤ 10 ^ (17 : Int) := by exact_mod_cast hdigits
  have hm : (1 : ℚ) ≤ p.mantissa := by exact_mod_cast h.pos
  have hm' : (p.mantissa : ℚ) + 1 ≤ 2 ^ (53 : Int) := by exact_mod_cast h.lt
  have hten : (0 : ℚ) < 10 ^ d.exponent := by positivity
  constructor
  · have hle : (10 : ℚ) ^ (-400 : Int) ≤ 10 ^ (17 + d.exponent) :=
      calc (10 : ℚ) ^ (-400 : Int) ≤ 2 ^ (-1075 : Int) :=
            ten_zpow_le_two_zpow (by decide) (by decide)
        _ = 2 ^ (-1 : Int) * 2 ^ (-1074 : Int) := zpow_add₀ two_ne_zero (-1) (-1074)
        _ ≤ (p.mantissa - 1 / 2) * 2 ^ p.exponent :=
            mul_le_mul (by norm_num; linarith)
              (zpow_le_zpow_right₀ one_le_two h.le_exponent) (zpow_nonneg zero_le_two _)
              (by linarith)
        _ ≤ d.value := hlow
        _ ≤ 10 ^ (17 : Int) * 10 ^ d.exponent := mul_le_mul_of_nonneg_right hd' hten.le
        _ = 10 ^ (17 + d.exponent) := (zpow_add₀ (by norm_num) _ _).symm
    rw [zpow_le_zpow_iff_right₀ (by norm_num)] at hle
    omega
  · have hlt : (10 : ℚ) ^ d.exponent < 10 ^ (309 : Int) :=
      calc (10 : ℚ) ^ d.exponent ≤ d.value := le_mul_of_one_le_left hten.le hd
        _ ≤ (p.mantissa + 1 / 2) * 2 ^ p.exponent := hhigh
        _ < 2 ^ (53 : Int) * 2 ^ (971 : Int) :=
            mul_lt_mul (by linarith) (zpow_le_zpow_right₀ one_le_two h.exponent_le)
              (zpow_pos two_pos _) (zpow_nonneg zero_le_two _)
        _ = 2 ^ (1024 : Int) := (zpow_add₀ two_ne_zero 53 971).symm
        _ ≤ 10 ^ (309 : Int) := two_zpow_le_ten_zpow (by decide) (by decide)
    rwa [zpow_lt_zpow_iff_right₀ (by norm_num)] at hlt

end IssueGraph.Decimal
