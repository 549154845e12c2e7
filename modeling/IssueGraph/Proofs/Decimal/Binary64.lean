import IssueGraph.Decimal.Binary64
import Mathlib.Algebra.Order.Field.Power
import Mathlib.Algebra.Order.Field.Rat
import Mathlib.Tactic.Linarith
import Mathlib.Tactic.NormNum
import Mathlib.Tactic.Ring

/-!
# Bounds of doubles

A positive finite double is taken apart into a mantissa of at most 53 bits and an exponent in range.
A natural is rounded to a double that is not much more than it, and the product of two doubles is
not infinite if the exact product stays below the greatest double: every rounding adds at most one
to the last place, which is all that is used of it. Main statements: `bounded_parts`,
`proper_ofRatio`, `isInf_mul`.
-/
namespace IssueGraph.Binary64

open Float.Model (UnpackedFloat Format)
open Float.Model.UnpackedFloat

/-! ## The fields of a double -/

section Fields

variable (w : BitVec Format.binary64.numBits)

theorem toNat_unpackExponent : (unpackExponent w).toNat = w.toNat / hiddenBit % 2048 := by
  change (w.extractLsb 62 52).toNat = _
  rw [BitVec.extractLsb_toNat, Nat.shiftRight_eq_div_pow]
  rfl

theorem toNat_unpackMantissa : (unpackMantissa w).toNat = w.toNat % hiddenBit := by
  change (w.extractLsb 51 0).toNat = _
  rw [BitVec.extractLsb_toNat, Nat.shiftRight_zero]
  rfl

theorem toNat_unpackSign : (unpackSign w).toNat = w.toNat / Nat.pow 2 63 := by
  change (w.extractLsb 63 63).toNat = _
  rw [BitVec.extractLsb_toNat, Nat.shiftRight_eq_div_pow]
  exact Nat.mod_eq_of_lt (Nat.div_lt_of_lt_mul w.isLt)

variable {w} in
/-- A double with a proper exponent has the hidden bit. -/
theorem unpack_of_fields {b f : Nat} (hb : w.toNat / hiddenBit % 2048 = b)
    (hf : w.toNat % hiddenBit = f) (hlow : 0 < b) (hhigh : b < 2047) :
    ∃ s hm, unpack Format.binary64 w = .finite s (hiddenBit + f) (b - 1075) hm := by
  have hexp : (unpackExponent w).toNat = b := (toNat_unpackExponent w).trans hb
  have hnotLast : unpackExponent w ≠ -1#_ := fun hw => by
    rw [hw] at hexp
    exact absurd hexp (Nat.ne_of_gt hhigh)
  have hnotZero : unpackExponent w ≠ 0#_ := fun hw => by
    rw [hw] at hexp
    exact absurd hexp (Nat.ne_of_lt hlow)
  have hmantissa : (1#1 ++ unpackMantissa w).toNat = hiddenBit + f := by
    rw [BitVec.toNat_append, ← Nat.shiftLeft_add_eq_or_of_lt (unpackMantissa w).isLt,
      toNat_unpackMantissa, hf]
    rfl
  refine ⟨Sign.ofBitVec (unpackSign w), Nat.add_pos_left (by decide) f, ?_⟩
  unfold unpack
  dsimp only
  rw [if_neg hnotLast, if_neg hnotZero, UnpackedFloat.finite.injEq]
  exact ⟨rfl, hmantissa, congrArg (fun n : Nat => (n : Int) - 1075) hexp⟩

end Fields

/-! ## Packing -/

variable {s : Sign} {m : Nat} {e : Int}

theorem pack_finite (hm : 0 < m) (he : e ≤ 971) :
    UnpackedFloat.pack Format.binary64 (.finite s m e hm) =
      if m.log2 = 52 then
        packComponents Format.binary64 s (BitVec.ofNat 11 (e + 1075).toNat) (BitVec.ofNat 52 m)
      else packComponents Format.binary64 s 0#11 (BitVec.ofNat 52 m) := by
  have hbiased : e + Format.binary64.exponentBias + Format.binary64.mantissaBitsWithoutImplicit =
      e + 1075 := by
    rw [show Format.binary64.exponentBias = 1023 from rfl]
    norm_num
    ring
  have hbits : m.log2 + 1 = Format.binary64.mantissaBits ↔ m.log2 = 52 := by
    rw [show Format.binary64.mantissaBits = 53 from rfl]
    omega
  unfold UnpackedFloat.pack
  simp only [hbiased, hbits]
  rw [if_neg (by norm_num; omega)]

theorem isInf_unpack {w : BitVec Format.binary64.numBits} (h : unpackExponent w ≠ -1#_) :
    (UnpackedFloat.unpack Format.binary64 w).isInf = false := by
  unfold UnpackedFloat.unpack
  dsimp only
  rw [if_neg h]
  by_cases hexp : unpackExponent w = 0#_
  · rw [if_pos hexp]
    by_cases hmantissa : unpackMantissa w = 0#_
    · rw [dif_pos hmantissa]
      rfl
    · rw [dif_neg hmantissa]
      rfl
  · rw [if_neg hexp]
    rfl

/-- A finite value is packed to a double that is not infinite if its exponent is in range. -/
theorem isInf_pack_finite (hm : 0 < m) (he : e ≤ 971) :
    (Float.Model.pack (.finite s m e hm)).isInf = false := by
  refine isInf_unpack (w := UnpackedFloat.pack Format.binary64 (.finite s m e hm)) ?_
  rw [pack_finite hm he]
  split
  · rw [unpackExponent_packComponents]
    intro h
    have := congrArg BitVec.toNat h
    rw [BitVec.toNat_ofNat] at this
    norm_num at this
    omega
  · rw [unpackExponent_packComponents]
    decide

/-- A mantissa with all its bits is packed and unpacked. -/
theorem unpack_pack {f : Nat} (hm : 0 < hiddenBit + f) (hf : f < hiddenBit) (hle : -1074 ≤ e)
    (he : e ≤ 971) : ∃ s' hm',
      (Float.Model.pack (.finite s (hiddenBit + f) e hm)).unpack =
        .finite s' (hiddenBit + f) e hm' := by
  have hlog : (hiddenBit + f).log2 = 52 :=
    (Nat.log2_eq_iff (Nat.ne_of_gt hm)).mpr ⟨Nat.le_add_right _ f, Nat.add_lt_add_left hf _⟩
  have hpack := pack_finite (s := s) hm he
  rw [if_pos hlog] at hpack
  have hexp : (UnpackedFloat.pack Format.binary64 (.finite s (hiddenBit + f) e hm)).toNat /
      hiddenBit % 2048 = (e + 1075).toNat := by
    rw [← toNat_unpackExponent, hpack, unpackExponent_packComponents, BitVec.toNat_ofNat]
    exact Nat.mod_eq_of_lt (by norm_num; omega)
  have hmantissa : (UnpackedFloat.pack Format.binary64 (.finite s (hiddenBit + f) e hm)).toNat %
      hiddenBit = f := by
    rw [← toNat_unpackMantissa, hpack, unpackMantissa_packComponents, BitVec.toNat_ofNat]
    exact (Nat.add_mod_left hiddenBit f).trans (Nat.mod_eq_of_lt hf)
  obtain ⟨s', hm', h⟩ := unpack_of_fields hexp hmantissa (by omega) (by omega)
  rw [show ((e + 1075).toNat : Int) - 1075 = e by omega] at h
  exact ⟨s', hm', h⟩

/-! ## Rounding -/

theorem mantissa_shiftRight (em : ExtendedMantissa) (n : Nat) :
    (em >>> n).mantissa = em.mantissa / 2 ^ n := by
  induction n with
  | zero => rw [Nat.pow_zero, Nat.div_one]; rfl
  | succ n ih =>
    change (em >>> n).mantissa / 2 = _
    rw [ih, Nat.div_div_eq_div_mul, Nat.pow_succ]

theorem roundedMantissa_le (em : ExtendedMantissa) : em.roundedMantissa ≤ em.mantissa + 1 := by
  obtain ⟨m, r, s⟩ := em
  cases r <;> cases s
  · exact Nat.le_succ m
  · exact Nat.le_succ m
  · exact Nat.add_le_add_left (Nat.le_of_lt_succ (Nat.mod_lt m (by decide))) m
  · exact Nat.le_refl _

/-- A number below a power of two has its leading bit below the exponent. -/
theorem log2_add_lt {k : Int} (he : e < k) (h : (m : ℚ) * 2 ^ e < 2 ^ k) : m.log2 + e < k := by
  by_cases hm : m = 0
  · subst hm
    rw [Nat.log2_zero]
    omega
  · have hlog : (2 : ℚ) ^ (m.log2 : Int) ≤ m := by
      rw [zpow_natCast]
      exact_mod_cast Nat.log2_self_le hm
    refine (zpow_lt_zpow_iff_right₀ (one_lt_two : (1 : ℚ) < 2)).mp (lt_of_le_of_lt ?_ h)
    rw [zpow_add₀ two_ne_zero]
    exact mul_le_mul_of_nonneg_right hlog (zpow_nonneg zero_le_two e)

theorem shiftToTargetExponent_snd {a : Accuracy} :
    (shiftToTargetExponent Format.binary64 m e a).2 = max e (max (m.log2 + e - 52) (-1074)) := by
  simp only [shiftToTargetExponent, shiftToExponent, Format.targetExponent,
    Float.Model.totalExponent, Format.minExponent,
    show Format.binary64.mantissaBits = 53 from rfl]
  norm_num
  omega

/-- What is left of a shifted number is no more than the number. -/
theorem shiftToTargetExponent_fst_le :
    ((shiftToTargetExponent Format.binary64 m e .exact).1.mantissa : ℚ) *
      2 ^ (shiftToTargetExponent Format.binary64 m e .exact).2 ≤ m * 2 ^ e := by
  simp only [shiftToTargetExponent, shiftToExponent, mantissa_shiftRight]
  generalize (Format.targetExponent _ _ - e).toNat = n
  rw [zpow_add₀ two_ne_zero, zpow_natCast, ← mul_assoc, mul_right_comm]
  refine mul_le_mul_of_nonneg_right ?_ (zpow_nonneg zero_le_two e)
  exact_mod_cast Nat.div_mul_le_self m (2 ^ n)

/-- The greatest double. -/
def greatest : ℚ := (2 ^ 53 - 1) * 2 ^ (971 : Int)

theorem greatest_add : greatest + 2 ^ (971 : Int) = 2 ^ (1024 : Int) := by
  rw [greatest, ← add_one_mul, sub_add_cancel]
  exact (zpow_add₀ two_ne_zero 53 971).symm

theorem greatest_lt : greatest < 2 ^ (1024 : Int) := by
  rw [← greatest_add]
  exact lt_add_of_pos_right _ (zpow_pos two_pos _)

/-- A number below the greatest double is not rounded to infinity. -/
theorem isInf_pack_round (he : e ≤ 971) (h : (m : ℚ) * 2 ^ e < greatest) :
    (Float.Model.pack (roundWithAccuracy Format.binary64 s m e .exact)).isInf = false := by
  have hfirst := shiftToTargetExponent_snd (m := m) (e := e) (a := .exact)
  have hle := shiftToTargetExponent_fst_le (m := m) (e := e)
  have hround := roundedMantissa_le (shiftToTargetExponent Format.binary64 m e .exact).1
  unfold roundWithAccuracy
  dsimp only
  generalize shiftToTargetExponent Format.binary64 m e .exact = first at *
  obtain ⟨em, e₁⟩ := first
  dsimp only at *
  have hlog : m.log2 + e < 1024 := log2_add_lt (by omega) (h.trans greatest_lt)
  have he₁ : e₁ ≤ 971 := by omega
  -- The last place of the rounded number is no more than that of the greatest double.
  have hlog₁ : em.roundedMantissa.log2 + e₁ < 1024 := by
    refine log2_add_lt (by omega) ?_
    have hpow : (2 : ℚ) ^ e₁ ≤ 2 ^ (971 : Int) := zpow_le_zpow_right₀ one_le_two he₁
    have hround : (em.roundedMantissa : ℚ) ≤ em.mantissa + 1 := by exact_mod_cast hround
    calc (em.roundedMantissa : ℚ) * 2 ^ e₁
        ≤ (em.mantissa + 1) * 2 ^ e₁ :=
          mul_le_mul_of_nonneg_right hround (zpow_nonneg zero_le_two e₁)
      _ = em.mantissa * 2 ^ e₁ + 2 ^ e₁ := add_one_mul _ _
      _ ≤ m * 2 ^ e + 2 ^ (971 : Int) := add_le_add hle hpow
      _ < greatest + 2 ^ (971 : Int) := add_lt_add_left h _
      _ = 2 ^ (1024 : Int) := greatest_add
  have hsecond := shiftToTargetExponent_snd (m := em.roundedMantissa) (e := e₁) (a := .exact)
  by_cases hzero :
      (shiftToTargetExponent Format.binary64 em.roundedMantissa e₁ .exact).1.mantissa = 0
  · rw [dif_pos hzero]
    cases s <;> decide
  · rw [dif_neg hzero]
    exact isInf_pack_finite _ (by omega)

/-- The double has all bits of its mantissa and is the number up to its sign. -/
def Proper (x : Float) (v : ℚ) : Prop :=
  ∃ s m e hm, x.toModel.unpack = .finite s m e hm ∧ hiddenBit ≤ m ∧ v = m * 2 ^ e

theorem Proper.nonneg {x : Float} {v : ℚ} (h : Proper x v) : 0 ≤ v := by
  obtain ⟨-, m, e, -, -, -, rfl⟩ := h
  exact mul_nonneg (Nat.cast_nonneg m) (zpow_nonneg zero_le_two e)

theorem two_zpow_le_of_hiddenBit_le (hm : hiddenBit ≤ m) : (2 : ℚ) ^ (52 + e) ≤ m * 2 ^ e := by
  rw [zpow_add₀ two_ne_zero]
  exact mul_le_mul_of_nonneg_right (by exact_mod_cast hm) (zpow_nonneg zero_le_two e)

/-- The product of two doubles is not infinite if it stays below the greatest double. -/
theorem isInf_mul {x y : Float} {v w : ℚ} (hx : Proper x v) (hy : Proper y w)
    (h : v * w < greatest) : (x * y).isInf = false := by
  obtain ⟨s₁, m₁, e₁, h₁, hx, hm₁, rfl⟩ := hx
  obtain ⟨s₂, m₂, e₂, h₂, hy, hm₂, rfl⟩ := hy
  have hlow : (2 : ℚ) ^ (52 + e₁) * 2 ^ (52 + e₂) < 2 ^ (1024 : Int) :=
    calc (2 : ℚ) ^ (52 + e₁) * 2 ^ (52 + e₂)
        ≤ (m₁ * 2 ^ e₁) * (m₂ * 2 ^ e₂) :=
          mul_le_mul (two_zpow_le_of_hiddenBit_le hm₁) (two_zpow_le_of_hiddenBit_le hm₂)
            (zpow_nonneg zero_le_two _)
            (mul_nonneg (Nat.cast_nonneg _) (zpow_nonneg zero_le_two _))
      _ < 2 ^ (1024 : Int) := h.trans greatest_lt
  rw [← zpow_add₀ two_ne_zero, zpow_lt_zpow_iff_right₀ one_lt_two] at hlow
  change (Float.Model.pack (UnpackedFloat.mul _ x.toModel.unpack y.toModel.unpack)).isInf = false
  rw [hx, hy]
  refine isInf_pack_round (by omega) ?_
  rw [zpow_add₀ two_ne_zero, Nat.cast_mul, mul_mul_mul_comm]
  exact h

/-! ## Rounded quotients -/

theorem proper_ofBits {b f : Nat} (hlow : 0 < b) (hhigh : b < 2047) (hf : f < hiddenBit) :
    Proper (Float.ofBits (b * hiddenBit + f).toUInt64)
      ((hiddenBit + f : Nat) * 2 ^ (b - 1075 : Int)) := by
  have hbits : (b * hiddenBit + f).toUInt64.toBitVec.toNat = b * hiddenBit + f := by
    refine (UInt64.toNat_ofNat' ..).trans (Nat.mod_eq_of_lt ?_)
    norm_num [hiddenBit] at *
    omega
  have hexp : (b * hiddenBit + f).toUInt64.toBitVec.toNat / hiddenBit % 2048 = b := by
    rw [hbits]
    norm_num [hiddenBit] at *
    omega
  have hmantissa : (b * hiddenBit + f).toUInt64.toBitVec.toNat % hiddenBit = f := by
    rw [hbits, Nat.mul_add_mod', Nat.mod_eq_of_lt hf]
  obtain ⟨s, hm, hunpack⟩ := unpack_of_fields hexp hmantissa hlow hhigh
  obtain ⟨s', hm', hpack⟩ := unpack_pack (s := s) (e := b - 1075) hm hf (by omega) (by omega)
  exact ⟨s', _, _, hm', (congrArg (fun u => (Float.Model.pack u).unpack) hunpack).trans hpack,
    Nat.le_add_right _ f, rfl⟩

/-- The bits of a mantissa at an exponent; one that has grown by a bit carries into the exponent.
-/
theorem proper_ofBits_min {m : Nat} {e : Int} (hlow : hiddenBit ≤ m) (hhigh : m ≤ 2 * hiddenBit)
    (he : -1074 ≤ e) (h : (m : ℚ) * 2 ^ e < 2 ^ (1024 : Int)) :
    Proper (Float.ofBits (min ((e + 1074).toNat * hiddenBit + m) (2047 * hiddenBit)).toUInt64)
      (m * 2 ^ e) := by
  have hexp {k : Int} (hk : (2 : ℚ) ^ k ≤ m * 2 ^ e) : k < 1024 :=
    (zpow_lt_zpow_iff_right₀ (one_lt_two : (1 : ℚ) < 2)).mp (lt_of_le_of_lt hk h)
  have hproper (b f : Nat) (hb : 0 < b) (hb' : b < 2047) (hf : f < hiddenBit)
      (hbits : (e + 1074).toNat * hiddenBit + m = b * hiddenBit + f)
      (hvalue : ((hiddenBit + f : Nat) : ℚ) * 2 ^ (b - 1075 : Int) = m * 2 ^ e) :
      Proper (Float.ofBits (min ((e + 1074).toNat * hiddenBit + m) (2047 * hiddenBit)).toUInt64)
        (m * 2 ^ e) := by
    rw [hbits, Nat.min_eq_left (by norm_num [hiddenBit] at *; omega), ← hvalue]
    exact proper_ofBits hb hb' hf
  rcases Nat.lt_or_eq_of_le hhigh with hlt | rfl
  · have hexp := hexp (two_zpow_le_of_hiddenBit_le hlow)
    obtain ⟨f, rfl⟩ := Nat.exists_eq_add_of_le hlow
    refine hproper (e + 1075).toNat f (by omega) (by omega) (by omega) ?_ ?_
    · norm_num [hiddenBit] at *
      omega
    · rw [show ((e + 1075).toNat : Int) - 1075 = e by omega]
  · have htwo : ((2 * hiddenBit : Nat) : ℚ) * 2 ^ e = 2 ^ (53 + e) := by
      rw [zpow_add₀ two_ne_zero]
      norm_num [hiddenBit]
    have hexp := hexp htwo.ge
    refine hproper (e + 1076).toNat 0 (by omega) (by omega) (by decide) ?_ ?_
    · norm_num [hiddenBit] at *
      omega
    · rw [htwo, show ((e + 1076).toNat : Int) - 1075 = e + 1 by omega,
        show 53 + e = 52 + (e + 1) by ring, zpow_add₀ two_ne_zero 52]
      norm_num [hiddenBit]

theorem exponentFor_one {n : Nat} (hn : n ≠ 0) : exponentFor n 1 = n.log2 - 52 := by
  have hlow := Nat.log2_self_le hn
  have hone : (1 : Nat).log2 = 0 := by decide
  have hwide : Nat.pow 2 53 ≤ if (n.log2 : Int) - (1 : Nat).log2 - 53 < 0 then
      n * Nat.pow 2 (-((n.log2 : Int) - (1 : Nat).log2 - 53)).toNat / 1
      else n / (1 * Nat.pow 2 ((n.log2 : Int) - (1 : Nat).log2 - 53).toNat) := by
    rw [hone]
    split
    · obtain ⟨k, hk⟩ := Nat.exists_eq_add_of_le (show n.log2 ≤ 53 by omega)
      rw [show (-((n.log2 : Int) - (0 : Nat) - 53)).toNat = k by omega, Nat.div_one]
      calc 2 ^ 53 = 2 ^ n.log2 * 2 ^ k := by rw [← Nat.pow_add, ← hk]
        _ ≤ n * 2 ^ k := Nat.mul_le_mul_right _ hlow
    · obtain ⟨k, hk⟩ := Nat.exists_eq_add_of_le (show 53 ≤ n.log2 by omega)
      rw [show ((n.log2 : Int) - (0 : Nat) - 53).toNat = k by omega, Nat.one_mul]
      refine (Nat.le_div_iff_mul_le (Nat.two_pow_pos k)).mpr ?_
      rwa [hk, Nat.pow_add] at hlow
  unfold exponentFor
  simp only [if_pos hwide]
  omega

theorem roundQuotient_one (n : Nat) : roundQuotient n 1 = n := by
  simp [roundQuotient, Nat.mod_one]

theorem roundQuotient_mem (num den : Nat) :
    num / den ≤ roundQuotient num den ∧ roundQuotient num den ≤ num / den + 1 := by
  unfold roundQuotient
  dsimp only
  split <;> omega

/-- The places of a natural below the mantissa are cut off, and one may be added to the last place.
-/
theorem roundQuotient_two_pow {n k : Nat} (hn : n ≠ 0) (hk : n.log2 = 52 + k) :
    hiddenBit ≤ roundQuotient n (Nat.pow 2 k) ∧ roundQuotient n (Nat.pow 2 k) ≤ 2 * hiddenBit ∧
      roundQuotient n (Nat.pow 2 k) * 2 ^ k ≤ n + 2 ^ k := by
  have hlow := Nat.log2_self_le hn
  have hhigh := Nat.lt_log2_self (n := n)
  rw [hk, Nat.pow_add] at hlow
  rw [hk, Nat.add_right_comm, Nat.pow_add] at hhigh
  obtain ⟨hfloor, hceil⟩ := roundQuotient_mem n (Nat.pow 2 k)
  have hq : hiddenBit ≤ n / Nat.pow 2 k := (Nat.le_div_iff_mul_le (Nat.two_pow_pos k)).mpr hlow
  have hq' : n / Nat.pow 2 k < 2 * hiddenBit :=
    Nat.div_lt_of_lt_mul (by rw [Nat.mul_comm]; exact hhigh)
  refine ⟨by omega, by omega, ?_⟩
  calc roundQuotient n (Nat.pow 2 k) * 2 ^ k
      ≤ (n / 2 ^ k + 1) * 2 ^ k := Nat.mul_le_mul_right _ hceil
    _ = n / 2 ^ k * 2 ^ k + 2 ^ k := Nat.succ_mul _ _
    _ ≤ n + 2 ^ k := Nat.add_le_add_right (Nat.div_mul_le_self n _) _

/-- A natural with fewer bits than a mantissa is shifted up to one. -/
theorem mul_two_pow_bounds {n k : Nat} (hn : n ≠ 0) (hk : 52 = n.log2 + k) :
    hiddenBit ≤ n * 2 ^ k ∧ n * 2 ^ k ≤ 2 * hiddenBit := by
  constructor
  · calc hiddenBit = 2 ^ n.log2 * 2 ^ k := by rw [← Nat.pow_add, ← hk]; rfl
      _ ≤ n * 2 ^ k := Nat.mul_le_mul_right _ (Nat.log2_self_le hn)
  · calc n * 2 ^ k ≤ 2 ^ (n.log2 + 1) * 2 ^ k :=
          Nat.mul_le_mul_right _ (Nat.le_of_lt Nat.lt_log2_self)
      _ = 2 * hiddenBit := by rw [← Nat.pow_add, Nat.add_right_comm, ← hk]; rfl

/-- The mantissa of a natural has all its bits, and stands for not much more than the natural. -/
theorem roundQuotient_exponentFor {n m : Nat} (hn : n ≠ 0)
    (hm : m = if exponentFor n 1 < 0 then
      roundQuotient (n * Nat.pow 2 (-exponentFor n 1).toNat) 1
      else roundQuotient n (1 * Nat.pow 2 (exponentFor n 1).toNat)) :
    hiddenBit ≤ m ∧ m ≤ 2 * hiddenBit ∧
      (m : ℚ) * 2 ^ (exponentFor n 1) ≤ n * (1 + 1 / 2 ^ 52) := by
  rw [exponentFor_one hn] at hm ⊢
  rcases Nat.le_total 52 n.log2 with hlog | hlog
  · obtain ⟨k, hk⟩ := Nat.exists_eq_add_of_le hlog
    rw [if_neg (by omega), show ((n.log2 : Int) - 52).toNat = k by omega, Nat.one_mul] at hm
    obtain ⟨hlow, hhigh, hle⟩ := roundQuotient_two_pow hn hk
    rw [← hm] at hlow hhigh hle
    refine ⟨hlow, hhigh, ?_⟩
    have hplace : (2 : ℚ) ^ 52 * 2 ^ k ≤ n := by
      rw [← pow_add, ← hk]
      exact_mod_cast Nat.log2_self_le hn
    have hle : (m : ℚ) * 2 ^ k ≤ n + 2 ^ k := by exact_mod_cast hle
    rw [show (n.log2 : Int) - 52 = k by omega, zpow_natCast]
    linarith
  · obtain ⟨k, hk⟩ := Nat.exists_eq_add_of_le hlog
    obtain rfl : m = n * 2 ^ k := by
      rw [hm]
      split
      · rw [show (-((n.log2 : Int) - 52)).toNat = k by omega, roundQuotient_one]
        rfl
      · obtain rfl : k = 0 := by omega
        rw [show ((n.log2 : Int) - 52).toNat = 0 by omega, roundQuotient_one, Nat.pow_zero]
        exact (Nat.mul_one n).symm
    obtain ⟨hlow, hhigh⟩ := mul_two_pow_bounds hn hk
    refine ⟨hlow, hhigh, ?_⟩
    have hcancel : ((n * 2 ^ k : Nat) : ℚ) * 2 ^ (-k : Int) = n := by
      rw [zpow_neg, zpow_natCast, Nat.cast_mul, Nat.cast_pow]
      exact mul_inv_cancel_right₀ (pow_ne_zero k two_ne_zero) _
    rw [show (n.log2 : Int) - 52 = -k by omega, hcancel]
    exact le_mul_of_one_le_right (Nat.cast_nonneg n) (by norm_num)

/-- A natural is rounded to a proper double that is not much more. -/
theorem proper_ofRatio {n : Nat} (hn : n ≠ 0)
    (h : (n : ℚ) * (1 + 1 / 2 ^ 52) < 2 ^ (1024 : Int)) :
    ∃ v, Proper (ofRatio n 1) v ∧ v ≤ n * (1 + 1 / 2 ^ 52) := by
  obtain ⟨hlow, hhigh, hle⟩ := roundQuotient_exponentFor hn rfl
  refine ⟨_, ?_, hle⟩
  unfold ofRatio
  rw [if_neg hn]
  exact proper_ofBits_min hlow hhigh (by rw [exponentFor_one hn]; omega) (lt_of_le_of_lt hle h)

/-! ## The parts of a double -/

/-- What holds of the parts of a finite double other than zero. -/
structure Parts.Bounded (p : Parts) : Prop where
  pos : 0 < p.mantissa
  lt : p.mantissa < 2 ^ 53
  le_exponent : -1074 ≤ p.exponent
  exponent_le : p.exponent ≤ 971

section Parts

variable {x : Float}

theorem unpack_zero : (0.0 : Float).toModel.unpack = .zero .positive := by
  have h : (0.0 : Float).toModel.toBits = 0 := by decide +kernel
  rw [Float.Model.unpack, h]
  rfl

theorem unpack_of_pos (h : (0.0 : Float) < x) (hx : x.isFinite = true) :
    ∃ m e hm, x.toModel.unpack = .finite .positive m e hm := by
  have hlt : (UnpackedFloat.zero .positive).lt x.toModel.unpack = true := by
    rw [← unpack_zero]
    exact of_decide_eq_true h
  change x.toModel.unpack.isFinite = true at hx
  generalize x.toModel.unpack = u at *
  match u, hx, hlt with
  | .finite .positive m e hm, _, _ => exact ⟨m, e, hm, rfl⟩

theorem isNaN_eq_false (h : (0.0 : Float) < x) (hx : x.isFinite = true) : x.isNaN = false := by
  obtain ⟨m, e, hm, hunpack⟩ := unpack_of_pos h hx
  exact congrArg UnpackedFloat.isNaN hunpack

theorem isInf_eq_false (h : (0.0 : Float) < x) (hx : x.isFinite = true) : x.isInf = false := by
  obtain ⟨m, e, hm, hunpack⟩ := unpack_of_pos h hx
  exact congrArg UnpackedFloat.isInf hunpack

theorem fields_of_unpack {w : BitVec Format.binary64.numBits} {s : Sign} {m : Nat} {e : Int}
    {hm : 0 < m} (h : unpack Format.binary64 w = .finite s m e hm) :
    unpackExponent w ≠ -1#_ ∧ ¬ (unpackExponent w = 0#_ ∧ unpackMantissa w = 0#_) ∧
      Sign.ofBitVec (unpackSign w) = s := by
  unfold unpack at h
  dsimp only at h
  by_cases hlast : unpackExponent w = -1#_
  · rw [if_pos hlast] at h
    by_cases hmantissa : unpackMantissa w = 0#_
    · rw [if_pos hmantissa] at h
      cases h
    · rw [if_neg hmantissa] at h
      cases h
  rw [if_neg hlast] at h
  by_cases hexp : unpackExponent w = 0#_
  · rw [if_pos hexp] at h
    by_cases hmantissa : unpackMantissa w = 0#_
    · rw [dif_pos hmantissa] at h
      cases h
    · rw [dif_neg hmantissa] at h
      cases h
      exact ⟨hlast, fun h => hmantissa h.2, rfl⟩
  · rw [if_neg hexp] at h
    cases h
    exact ⟨hlast, fun h => hexp h.1, rfl⟩

theorem isNegative_eq_false (h : (0.0 : Float) < x) (hx : x.isFinite = true) :
    isNegative x = false := by
  obtain ⟨m, e, hm, hunpack⟩ := unpack_of_pos h hx
  obtain ⟨-, -, hsign⟩ := fields_of_unpack hunpack
  unfold Sign.ofBitVec at hsign
  split at hsign
  · next hzero =>
    have hbit := (toNat_unpackSign _).symm.trans (congrArg BitVec.toNat hzero)
    have hlt : x.toBits.toNat < Nat.pow 2 63 :=
      Nat.lt_of_div_eq_zero (Nat.pow_pos (by decide)) hbit
    exact decide_eq_false (Nat.not_le_of_lt hlt)
  · cases hsign

/-- A positive finite double is taken apart into a mantissa of up to 53 bits and an exponent in
range. -/
theorem bounded_parts (h : (0.0 : Float) < x) (hx : x.isFinite = true) : (parts x).Bounded := by
  obtain ⟨m, e, hm, hunpack⟩ := unpack_of_pos h hx
  obtain ⟨hexp, hzero, -⟩ := fields_of_unpack hunpack
  have hfraction := Nat.mod_lt x.toBits.toNat (show 0 < hiddenBit by decide)
  have hbiased : x.toBits.toNat / hiddenBit % 2048 ≠ 2047 := fun hw =>
    hexp (BitVec.eq_of_toNat_eq ((toNat_unpackExponent _).trans hw))
  have hpos : x.toBits.toNat / hiddenBit % 2048 = 0 → x.toBits.toNat % hiddenBit ≠ 0 := fun he hm =>
    hzero ⟨BitVec.eq_of_toNat_eq ((toNat_unpackExponent _).trans he),
      BitVec.eq_of_toNat_eq ((toNat_unpackMantissa _).trans hm)⟩
  have hbit : hiddenBit = 2 ^ 52 := rfl
  unfold parts
  dsimp only
  split
  · next he => constructor <;> dsimp only <;> omega
  · constructor <;> dsimp only <;> omega

end Parts

end IssueGraph.Binary64
