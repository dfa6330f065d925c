import Mathlib

/-!
# Products of doubles that stay finite

Rounding makes a normal number larger by a factor of at most `1 + 2 ^ (-52)`.  This is not the
best bound, but it follows from the bits without looking at the digits that are lost.  It tells
when a product of doubles is not an infinity.

Main results:

- Theorem `round_le`: how much a number can grow when it is rounded to a double.
- Theorem `AtMost.mul`: a product of doubles is finite if the bounds of its factors leave room.
-/

namespace Provenance.Decimal

open Float.Model
open Float.Model.UnpackedFloat

/-- The factor by which rounding makes a number larger at most. -/
def slack : ℚ := 1 + 2 ^ (-52 : ℤ)

theorem slack_pos : 0 < slack := by
  norm_num [slack]

theorem one_le_slack : 1 ≤ slack := by
  norm_num [slack]

/-! ## Shifting -/

/-- To shift a mantissa is to divide it by a power of two. -/
theorem mantissa_shiftRight (em : ExtendedMantissa) (k : Nat) :
    (em >>> k).mantissa = em.mantissa / 2 ^ k := by
  induction k with
  | zero => simp [HShiftRight.hShiftRight, Nat.repeat]
  | succ k ih =>
      have hstep : em >>> (k + 1) = (em >>> k).shiftRightOne := rfl
      rw [hstep, ExtendedMantissa.shiftRightOne, ih, Nat.pow_succ, Nat.div_div_eq_div_mul]

/-- From one upwards a double has 53 significant bits. -/
theorem targetExponent_binary64 {total : ℤ} (h : 1 ≤ total) :
    Format.binary64.targetExponent total = total - 53 := by
  have hbits : (Format.binary64.mantissaBits : ℤ) = 53 := rfl
  have hmin : Format.binary64.minExponent = -1074 := rfl
  rw [Format.targetExponent, hbits, hmin]
  omega

/-- A mantissa of at least 53 bits is cut to its first 53. -/
theorem shiftToTargetExponent_exact {m : Nat} {e : ℤ} (hm : 52 ≤ m.log2)
    (h : 1 ≤ totalExponent m e) :
    (shiftToTargetExponent .binary64 m e .exact).1.mantissa = m / 2 ^ (m.log2 - 52) ∧
      (shiftToTargetExponent .binary64 m e .exact).2 = e + (m.log2 - 52 : Nat) := by
  have hshift : ((Format.binary64.targetExponent (totalExponent m e)) - e).toNat =
      m.log2 - 52 := by
    rw [targetExponent_binary64 h, totalExponent]
    omega
  constructor
  · simp only [shiftToTargetExponent, shiftToExponent, hshift, mantissa_shiftRight]
    rfl
  · simp only [shiftToTargetExponent, shiftToExponent, hshift]

/-- Rounding adds at most one to a mantissa. -/
theorem roundedMantissa_le (em : ExtendedMantissa) :
    em.mantissa ≤ em.roundedMantissa ∧ em.roundedMantissa ≤ em.mantissa + 1 := by
  obtain ⟨m, r, s⟩ := em
  have hbit : m % 2 < 2 := Nat.mod_lt m (by decide)
  cases r <;> cases s <;>
    simp only [ExtendedMantissa.roundedMantissa, ExtendedMantissa.accuracy,
      Accuracy.roundToNearestEven] <;> omega

/-- The first 53 bits of a number. -/
theorem div_pow_log2 {m : Nat} (hm : 52 ≤ m.log2) :
    2 ^ 52 ≤ m / 2 ^ (m.log2 - 52) ∧ m / 2 ^ (m.log2 - 52) < 2 ^ 53 := by
  have hne : m ≠ 0 := by
    rintro rfl
    simp at hm
  obtain ⟨hlow, hhigh⟩ := (Nat.log2_eq_iff hne).1 rfl
  have hpos : 0 < 2 ^ (m.log2 - 52) := Nat.two_pow_pos _
  rw [Nat.le_div_iff_mul_le hpos, Nat.div_lt_iff_lt_mul hpos, ← Nat.pow_add, ← Nat.pow_add]
  have hsum : 52 + (m.log2 - 52) = m.log2 := by omega
  have hsucc : 53 + (m.log2 - 52) = m.log2 + 1 := by omega
  rw [hsum, hsucc]
  exact ⟨hlow, hhigh⟩

theorem log2_of_bits {m : Nat} (hlow : 2 ^ 52 ≤ m) (hhigh : m < 2 ^ 53) : m.log2 = 52 :=
  (Nat.log2_eq_iff (by omega)).2 ⟨hlow, hhigh⟩

/-- What rounding to a double gives: 53 bits, and a number that is larger by at most one unit of
the last bit that is kept. -/
theorem exists_round {m : Nat} {e : ℤ} (hm : 52 ≤ m.log2) (h : 1 ≤ totalExponent m e) :
    ∃ m' shift hpos, roundWithAccuracy .binary64 .positive m e .exact =
        .finite .positive m' (e + (shift : Nat)) hpos ∧
      (2 ^ 52 ≤ m' ∧ m' < 2 ^ 53) ∧ m.log2 - 52 ≤ shift ∧
        m' * 2 ^ shift ≤ m + 2 ^ (m.log2 - 52) := by
  obtain ⟨hmantissa, hexponent⟩ := shiftToTargetExponent_exact hm h
  obtain ⟨hlow, hhigh⟩ := div_pow_log2 hm
  have hrounded := roundedMantissa_le (shiftToTargetExponent .binary64 m e .exact).1
  rw [hmantissa] at hrounded
  generalize hk : m.log2 - 52 = k at *
  generalize hr : (shiftToTargetExponent .binary64 m e .exact).1.roundedMantissa = r at *
  -- the rounded mantissa may have one bit more than 53, so it is shifted again
  have hlog : 52 ≤ r.log2 := (Nat.le_log2 (by omega)).2 (by omega)
  have htotal : 1 ≤ totalExponent r (e + k) := by
    simp only [totalExponent] at h ⊢
    omega
  obtain ⟨hmantissa', hexponent'⟩ := shiftToTargetExponent_exact hlog htotal
  obtain ⟨hlow', hhigh'⟩ := div_pow_log2 hlog
  refine ⟨r / 2 ^ (r.log2 - 52), k + (r.log2 - 52), by omega, ?_, ⟨hlow', hhigh'⟩, by omega, ?_⟩
  · have hne : r / 2 ^ (r.log2 - 52) ≠ 0 := by omega
    simp only [roundWithAccuracy, hr, hexponent, hmantissa', hexponent', dif_neg hne]
    congr 1
    omega
  · have hfirst : m / 2 ^ k * 2 ^ k ≤ m := Nat.div_mul_le_self m _
    have hsecond : r / 2 ^ (r.log2 - 52) * 2 ^ (r.log2 - 52) ≤ r := Nat.div_mul_le_self r _
    calc r / 2 ^ (r.log2 - 52) * 2 ^ (k + (r.log2 - 52))
        = r / 2 ^ (r.log2 - 52) * 2 ^ (r.log2 - 52) * 2 ^ k := by rw [Nat.pow_add]; ring
      _ ≤ r * 2 ^ k := Nat.mul_le_mul_right _ hsecond
      _ ≤ (m / 2 ^ k + 1) * 2 ^ k := Nat.mul_le_mul_right _ hrounded.2
      _ = m / 2 ^ k * 2 ^ k + 2 ^ k := by ring
      _ ≤ m + 2 ^ k := Nat.add_le_add_right hfirst _

/-- How much a number can grow when it is rounded to a double. -/
theorem round_le {m : Nat} {e : ℤ} (hm : 52 ≤ m.log2) (h : 1 ≤ totalExponent m e) :
    ∃ m' e' hpos, roundWithAccuracy .binary64 .positive m e .exact =
        .finite .positive m' e' hpos ∧
      (2 ^ 52 ≤ m' ∧ m' < 2 ^ 53) ∧ -52 ≤ e' ∧
        (m' : ℚ) * 2 ^ e' ≤ m * 2 ^ e * slack := by
  obtain ⟨m', shift, hpos, hround, hbits, hshift, hle⟩ := exists_round hm h
  refine ⟨m', e + shift, hpos, hround, hbits, ?_, ?_⟩
  · simp only [totalExponent] at h
    omega
  · have hne : m ≠ 0 := by
      rintro rfl
      simp at hm
    have hunit : 2 ^ (m.log2 - 52) * 2 ^ 52 ≤ m := by
      rw [← Nat.pow_add, Nat.sub_add_cancel hm]
      exact Nat.log2_self_le hne
    have hgrowth : (m' : ℚ) * 2 ^ shift * 2 ^ 52 ≤ m * (2 ^ 52 + 1) := by
      have hnat : m' * 2 ^ shift * 2 ^ 52 ≤ m * (2 ^ 52 + 1) := by
        calc m' * 2 ^ shift * 2 ^ 52 ≤ (m + 2 ^ (m.log2 - 52)) * 2 ^ 52 :=
              Nat.mul_le_mul_right _ hle
          _ = m * 2 ^ 52 + 2 ^ (m.log2 - 52) * 2 ^ 52 := by ring
          _ ≤ m * 2 ^ 52 + m := Nat.add_le_add_left hunit _
          _ = m * (2 ^ 52 + 1) := by ring
      exact_mod_cast hnat
    have hscale : (0 : ℚ) < 2 ^ e := zpow_pos (by norm_num) e
    have hsplit : (2 : ℚ) ^ (e + (shift : ℤ)) = 2 ^ e * 2 ^ shift := by
      rw [zpow_add₀ (by norm_num), zpow_natCast]
    have hslack : slack = (2 ^ 52 + 1) / 2 ^ 52 := by norm_num [slack]
    rw [hsplit, hslack, ← mul_div_assoc, le_div_iff₀ (by norm_num)]
    calc (m' : ℚ) * (2 ^ e * 2 ^ shift) * 2 ^ 52
        = (m' : ℚ) * 2 ^ shift * 2 ^ 52 * 2 ^ e := by ring
      _ ≤ (m : ℚ) * (2 ^ 52 + 1) * 2 ^ e := mul_le_mul_of_nonneg_right hgrowth hscale.le
      _ = (m : ℚ) * 2 ^ e * (2 ^ 52 + 1) := by ring

/-- Numbers that are not huge are far below the limit. -/
theorem lt_limit_of_le {q : ℚ} (h : q ≤ 2 ^ (100 : ℤ)) : q < 2 ^ (1024 : ℤ) :=
  lt_of_le_of_lt h (zpow_lt_zpow_right₀ (by norm_num) (by norm_num))

/-! ## Packing -/

/-- A number with 53 bits and an exponent within range is kept as it is. -/
theorem unpack_pack {m : Nat} {e : ℤ} (hpos : 0 < m) (hlow : 2 ^ 52 ≤ m) (hhigh : m < 2 ^ 53)
    (hmin : -52 ≤ e) (hmax : e ≤ 971) :
    UnpackedFloat.unpack .binary64 (UnpackedFloat.pack .binary64 (.finite .positive m e hpos)) =
      .finite .positive m e hpos := by
  have hbias : (e + Format.binary64.exponentBias +
      Format.binary64.mantissaBitsWithoutImplicit).toNat = (e + 1075).toNat := by
    change (e + 1023 + 52).toNat = _
    omega
  have hfits : ¬ 2 ^ Format.binary64.exponentBits ≤ (e + 1075).toNat + 1 := by
    change ¬ 2048 ≤ _
    omega
  have hnormal : m.log2 + 1 = Format.binary64.mantissaBits := by
    rw [log2_of_bits hlow hhigh]
    rfl
  have hexponent : (BitVec.ofNat 11 (e + 1075).toNat).toNat = (e + 1075).toNat := by
    rw [BitVec.toNat_ofNat, Nat.mod_eq_of_lt (by omega)]
  have hones : BitVec.ofNat 11 (e + 1075).toNat ≠ -1#11 := by
    intro h
    have hnat := congrArg BitVec.toNat h
    rw [hexponent] at hnat
    change _ = 2047 at hnat
    omega
  have hzero : BitVec.ofNat 11 (e + 1075).toNat ≠ 0#11 := by
    intro h
    have hnat := congrArg BitVec.toNat h
    rw [hexponent] at hnat
    change _ = 0 at hnat
    omega
  have hmantissa : (1#1 ++ BitVec.ofNat 52 m).toNat = m := by
    have hlast : m % 2 ^ 52 < 2 ^ 52 := Nat.mod_lt m (by decide)
    simp only [BitVec.toNat_append, BitVec.toNat_ofNat]
    rw [← Nat.shiftLeft_add_eq_or_of_lt hlast, Nat.shiftLeft_eq]
    omega
  simp only [UnpackedFloat.pack, hbias, if_neg hfits, if_pos hnormal, UnpackedFloat.unpack,
    unpackMantissa_packComponents, unpackExponent_packComponents, unpackSign_packComponents,
    hones, hzero, if_false, hmantissa, hexponent]
  congr 1
  change ((e + 1075).toNat : ℤ) - (1023 + 52) = e
  omega

/-! ## Bounds of doubles -/

/-- A double that is at least one and at most `q`. -/
def AtMost (f : Float) (q : ℚ) : Prop :=
  ∃ m e hpos, f.toModel.unpack = .finite .positive m e hpos ∧ (2 ^ 52 ≤ m ∧ m < 2 ^ 53) ∧
    -52 ≤ e ∧ (m : ℚ) * 2 ^ e ≤ q

/-- Numbers below `2 ^ 1024` have an exponent that a double has room for. -/
theorem exponent_le_of_lt {m : Nat} {e : ℤ} (hm : 2 ^ 52 ≤ m)
    (h : (m : ℚ) * 2 ^ e < 2 ^ (1024 : ℤ)) : e ≤ 971 := by
  by_contra hlarge
  have hscale : (0 : ℚ) < 2 ^ e := zpow_pos (by norm_num) e
  have hbits : (2 : ℚ) ^ (52 : ℤ) ≤ m := by exact_mod_cast hm
  have hexponent : (2 : ℚ) ^ (972 : ℤ) ≤ 2 ^ e := zpow_le_zpow_right₀ (by norm_num) (by omega)
  have hsum : (2 : ℚ) ^ (1024 : ℤ) = 2 ^ (52 : ℤ) * 2 ^ (972 : ℤ) := by
    rw [← zpow_add₀ (by norm_num)]
    norm_num
  have hprod : (2 : ℚ) ^ (52 : ℤ) * 2 ^ (972 : ℤ) ≤ m * 2 ^ e :=
    mul_le_mul hbits hexponent (by positivity) (by positivity)
  rw [← hsum] at hprod
  exact absurd h (not_lt.2 hprod)

/-- A rounded number is a double, if there is room for it. -/
theorem atMost_round {m : Nat} {e : ℤ} (hm : 52 ≤ m.log2) (h : 1 ≤ totalExponent m e)
    (hroom : (m : ℚ) * 2 ^ e * slack < 2 ^ (1024 : ℤ)) :
    AtMost (.ofModel (.pack (roundWithAccuracy .binary64 .positive m e .exact)))
      (m * 2 ^ e * slack) := by
  obtain ⟨m', e', hpos, hround, ⟨hlow, hhigh⟩, hmin, hle⟩ := round_le hm h
  have hmax := exponent_le_of_lt hlow (lt_of_le_of_lt hle hroom)
  refine ⟨m', e', hpos, ?_, ⟨hlow, hhigh⟩, hmin, hle⟩
  rw [hround]
  exact unpack_pack hpos hlow hhigh hmin hmax

namespace AtMost

variable {f g : Float} {p q : ℚ}

/-- A double that is at most some number is finite. -/
theorem isInf_eq_false (h : AtMost f q) : f.isInf = false := by
  obtain ⟨m, e, hpos, hunpack, -⟩ := h
  have hmodel : f.isInf = f.toModel.unpack.isInf := rfl
  rw [hmodel, hunpack]
  rfl

/-- What is at most a number is at most every larger one. -/
theorem mono (h : AtMost f p) (hle : p ≤ q) : AtMost f q := by
  obtain ⟨m, e, hpos, hunpack, hbits, hmin, hvalue⟩ := h
  exact ⟨m, e, hpos, hunpack, hbits, hmin, hvalue.trans hle⟩

/-- A product of doubles is finite if the bounds of its factors leave room. -/
theorem mul (hf : AtMost f p) (hg : AtMost g q) (hroom : p * q * slack < 2 ^ (1024 : ℤ)) :
    AtMost (f * g) (p * q * slack) := by
  obtain ⟨m, e, hpos, hunpack, ⟨hlow, -⟩, hmin, hvalue⟩ := hf
  obtain ⟨m', e', hpos', hunpack', ⟨hlow', -⟩, hmin', hvalue'⟩ := hg
  have hproduct : f * g = .ofModel (.pack
      (roundWithAccuracy .binary64 .positive (m * m') (e + e') .exact)) := by
    have hmodel : f * g = .ofModel (.pack
      (UnpackedFloat.mul .binary64 f.toModel.unpack g.toModel.unpack)) := rfl
    rw [hmodel, hunpack, hunpack']
    rfl
  have hlog : 104 ≤ (m * m').log2 := by
    refine (Nat.le_log2 (Nat.mul_ne_zero hpos.ne' hpos'.ne')).2 ?_
    calc 2 ^ 104 = 2 ^ 52 * 2 ^ 52 := by norm_num
      _ ≤ m * m' := Nat.mul_le_mul hlow hlow'
  have hvalues : ((m * m' : Nat) : ℚ) * 2 ^ (e + e') * slack ≤ p * q * slack := by
    refine mul_le_mul_of_nonneg_right ?_ slack_pos.le
    calc ((m * m' : Nat) : ℚ) * 2 ^ (e + e') = (m * 2 ^ e) * (m' * 2 ^ e') := by
          rw [zpow_add₀ (by norm_num)]
          push_cast
          ring
      _ ≤ p * q := mul_le_mul hvalue hvalue' (by positivity) (le_trans (by positivity) hvalue)
  rw [hproduct]
  refine (atMost_round (by omega) ?_ (lt_of_le_of_lt hvalues hroom)).mono hvalues
  rw [totalExponent]
  omega

end AtMost

/-! ## Decimals -/

/-- A decimal with a power of ten that is not negative is rounded once. -/
theorem ofScientific_eq_round {m n : Nat} (hm : 0 < m) (hn : n ≤ 2048) :
    Float.Model.ofScientific m n =
      .pack (roundWithAccuracy .binary64 .positive (m <<< 53 * 10 ^ n) (-53) .exact) := by
  have hlarge : ¬ (n : ℤ) > 2 ^ Format.binary64.exponentBits := by
    change ¬ (n : ℤ) > 2048
    omega
  have hsmall : ¬ (n : ℤ) < -((2 ^ Format.binary64.exponentBits : ℤ) + m.log2) := by
    change ¬ (n : ℤ) < -(2048 + (m.log2 : ℤ))
    omega
  have hnonneg : (0 : ℤ) ≤ n := Int.natCast_nonneg n
  rw [Float.Model.ofScientific, UnpackedFloat.ofScientific, dif_neg hm.ne', if_neg hlarge,
    if_neg hsmall, if_pos hnonneg]
  rfl

/-- A decimal that is converted grows by rounding once. -/
theorem atMost_ofScientific {m n : Nat} (hm : 0 < m) (hn : n ≤ 2048)
    (hroom : (m : ℚ) * 10 ^ n * slack < 2 ^ (1024 : ℤ)) :
    AtMost (.ofModel (.ofScientific m n)) (m * 10 ^ n * slack) := by
  have hpow : 0 < 10 ^ n := Nat.pow_pos (by decide)
  have hle : 2 ^ 53 ≤ m <<< 53 * 10 ^ n := by
    rw [Nat.shiftLeft_eq]
    calc 2 ^ 53 = 1 * 2 ^ 53 * 1 := by norm_num
      _ ≤ m * 2 ^ 53 * 10 ^ n := Nat.mul_le_mul (Nat.mul_le_mul_right _ hm) hpow
  have hlog : 53 ≤ (m <<< 53 * 10 ^ n).log2 := (Nat.le_log2 (by omega)).2 hle
  have hvalue : ((m <<< 53 * 10 ^ n : Nat) : ℚ) * 2 ^ (-53 : ℤ) = m * 10 ^ n := by
    rw [Nat.shiftLeft_eq, zpow_neg]
    push_cast
    field_simp
  have hround := atMost_round (m := m <<< 53 * 10 ^ n) (e := -53) (by omega)
    (by rw [totalExponent]; omega) (by rwa [hvalue])
  rw [hvalue] at hround
  rwa [ofScientific_eq_round hm hn]

/-- A number of at most 53 bits is rounded once. -/
theorem toFloat_eq_round {m : Nat} (hm : 0 < m) (hbits : m < 2 ^ 53) :
    m.toUInt64.toFloat = .ofModel (.pack (roundWithAccuracy .binary64 .positive
      (m <<< (52 - m.log2)) (0 - (52 - m.log2 : Nat)) .exact)) := by
  have hword : m.toUInt64.toNat = m := Nat.mod_eq_of_lt (Nat.lt_trans hbits (by decide))
  have hlog : m.log2 < 53 := (Nat.log2_lt hm.ne').2 hbits
  have hcompare : compare ((m.toUInt64.toNat : Nat) : ℤ) 0 = .gt := by
    rw [hword]
    exact Int.compare_eq_gt.2 (by omega)
  have htarget : (0 - Format.binary64.targetExponent (totalExponent m 0)).toNat =
      52 - m.log2 := by
    rw [targetExponent_binary64 (by rw [totalExponent]; omega), totalExponent]
    omega
  rw [UInt64.toFloat, Float.Model.ofUInt64, UnpackedFloat.ofUInt64, UnpackedFloat.ofNat,
    UnpackedFloat.ofInt, UnpackedFloat.normalize, hcompare]
  simp only [hword, Int.toNat_natCast, UnpackedFloat.round, decreaseExponent, htarget]

/-- A natural number that is converted grows by rounding once. -/
theorem atMost_toFloat {m : Nat} (hm : 0 < m) (hbits : m < 2 ^ 53) :
    AtMost m.toUInt64.toFloat (m * slack) := by
  have hlog : m.log2 < 53 := (Nat.log2_lt hm.ne').2 hbits
  have hle : 2 ^ 52 ≤ m <<< (52 - m.log2) := by
    rw [Nat.shiftLeft_eq]
    calc 2 ^ 52 = 2 ^ m.log2 * 2 ^ (52 - m.log2) := by rw [← Nat.pow_add]; congr 1; omega
      _ ≤ m * 2 ^ (52 - m.log2) := Nat.mul_le_mul_right _ (Nat.log2_self_le hm.ne')
  have hshift : 52 ≤ (m <<< (52 - m.log2)).log2 := (Nat.le_log2 (by omega)).2 hle
  have hvalue : ((m <<< (52 - m.log2) : Nat) : ℚ) * 2 ^ (0 - (52 - m.log2 : Nat) : ℤ) = m := by
    rw [Nat.shiftLeft_eq, zero_sub, zpow_neg, zpow_natCast]
    push_cast
    field_simp
  have hsmall : (m : ℚ) * slack < 2 ^ (1024 : ℤ) := by
    have hm' : (m : ℚ) < 2 ^ 53 := by exact_mod_cast hbits
    have hprod : (m : ℚ) * slack ≤ 2 ^ 53 * slack :=
      mul_le_mul_of_nonneg_right hm'.le slack_pos.le
    exact lt_limit_of_le (hprod.trans (by norm_num [slack]))
  rw [toFloat_eq_round hm hbits]
  have hround := atMost_round (m := m <<< (52 - m.log2)) (e := 0 - (52 - m.log2 : Nat))
    hshift (by rw [totalExponent]; omega) (by rwa [hvalue])
  rwa [hvalue] at hround

/-- Whether a double is at least one and at most a number. -/
def isAtMost (f : Float) (bound : Nat) : Bool :=
  match f.toModel.unpack with
  | .finite .positive m e _ =>
    decide ((2 ^ 52 ≤ m ∧ m < 2 ^ 53) ∧ -52 ≤ e ∧ m * 2 ^ (e + 52).toNat ≤ bound * 2 ^ 52)
  | _ => false

/-- Whether a double is at most a number can be computed. -/
theorem atMost_of_isAtMost {f : Float} {bound : Nat} (h : isAtMost f bound = true) :
    AtMost f bound := by
  unfold isAtMost at h
  split at h
  · rename_i m e hpos hunpack
    obtain ⟨hbits, hmin, hle⟩ := of_decide_eq_true h
    refine ⟨m, e, hpos, hunpack, hbits, hmin, ?_⟩
    have hcast : (m : ℚ) * 2 ^ (e + 52).toNat ≤ bound * 2 ^ 52 := by exact_mod_cast hle
    have hsplit : (2 : ℚ) ^ e * 2 ^ 52 = 2 ^ (e + 52).toNat := by
      rw [← zpow_natCast, ← zpow_natCast, ← zpow_add₀ (by norm_num)]
      congr 1
      omega
    rw [← hsplit, ← mul_assoc] at hcast
    exact le_of_mul_le_mul_right hcast (by norm_num)
  · contradiction

/-- A natural number of at most 64 bits is rounded at most twice. -/
theorem atMost_ofNat {m : Nat} (hm : 0 < m) (hbits : m < 2 ^ 64) :
    AtMost (Float.ofNat m) (m * slack * slack) := by
  have hroom : (m : ℚ) * slack * slack < 2 ^ (1024 : ℤ) := by
    have hm' : (m : ℚ) < 2 ^ 64 := by exact_mod_cast hbits
    have hprod : (m : ℚ) * (slack * slack) ≤ 2 ^ 64 * (slack * slack) :=
      mul_le_mul_of_nonneg_right hm'.le (mul_pos slack_pos slack_pos).le
    rw [mul_assoc]
    exact lt_limit_of_le (hprod.trans (by norm_num [slack]))
  have hdef : Float.ofNat m = Float.ofScientific m false 0 := rfl
  rw [hdef, Float.ofScientific]
  split
  · rename_i hfast
    have hone : AtMost Float.exactlyRepresentablePowersOfTen[0] 1 := by
      have hcheck : isAtMost Float.exactlyRepresentablePowersOfTen[0] 1 = true := by
        decide +kernel
      exact_mod_cast atMost_of_isAtMost hcheck
    have hfloat := (atMost_toFloat hm hfast.1).mul hone
    rw [mul_one] at hfloat
    exact hfloat hroom
  · have hle : (m : ℚ) * 10 ^ 0 * slack ≤ m * slack * slack := by
      rw [pow_zero, mul_one]
      exact le_mul_of_one_le_right (mul_nonneg (Nat.cast_nonneg m) slack_pos.le) one_le_slack
    exact (atMost_ofScientific hm (Nat.zero_le _) (lt_of_le_of_lt hle hroom)).mono hle

end Provenance.Decimal
