import Provenance.Proofs.Decimal.Overflow
import Provenance.Proofs.Json.Values

/-!
# Numbers that a double has room for

The reader keeps the leading digits of a numeral and multiplies them, as a double, with a power of
ten.  So it depends on rounding whether the largest numbers are read.  This module shows that
this matters only for the last digits: every numeral up to `1.79769313486231e308` is read, where
the largest double is a little below `1.7976931348623158e308`.

Main results:

- Definition `Numeral.magnitude`: the exact number that a numeral stands for.
- Theorem `Numeral.isSome_number?`: a numeral in range stands for a number.
- Theorem `Tree.sound_iff`: a tree has a value exactly if its numerals are in range and its
  strings are texts.
-/

namespace Provenance.Json

open Decimal

/-- A numeral up to here is read whatever its digits are. -/
def decimalRange : ℚ := 179769313486231 * 10 ^ 294

theorem decimalRange_room : decimalRange * slack ^ 4 < 2 ^ (1024 : ℤ) := by
  have hnat : 179769313486231 * 10 ^ 294 * (2 ^ 52 + 1) ^ 4 < 2 ^ 1024 * (2 ^ 52) ^ 4 := by
    decide +kernel
  have hslack : slack ^ 4 = (2 ^ 52 + 1) ^ 4 / (2 ^ 52) ^ 4 := by
    norm_num [slack]
  have hcast : (179769313486231 * 10 ^ 294 * (2 ^ 52 + 1) ^ 4 : ℚ) < 2 ^ 1024 * (2 ^ 52) ^ 4 := by
    exact_mod_cast hnat
  rw [hslack, decimalRange, ← mul_div_assoc, div_lt_iff₀ (by positivity)]
  exact_mod_cast hcast

theorem pow_le_decimalRange {n : Nat} (h : n ≤ 308) : (10 : ℚ) ^ n ≤ decimalRange := by
  calc (10 : ℚ) ^ n ≤ 10 ^ 308 := pow_le_pow_right₀ (by norm_num) h
    _ = 10 ^ 14 * 10 ^ 294 := by rw [← pow_add]
    _ ≤ decimalRange := mul_le_mul_of_nonneg_right (by norm_num) (by positivity)

theorem decimalRange_lt_pow : decimalRange < 10 ^ 309 := by
  calc decimalRange < 10 ^ 15 * 10 ^ 294 := mul_lt_mul_of_pos_right (by norm_num) (by positivity)
    _ = 10 ^ 309 := by rw [← pow_add]

/-! ## Powers of ten -/

/-- A power of ten is rounded at most once; small powers are exact. -/
theorem atMost_powerOfTen {n : Nat} (h : n ≤ 308) : AtMost (powerOfTen n) (10 ^ n * slack) := by
  have hpow := pow_le_decimalRange h
  by_cases hsmall : n ≤ 22
  · have hcheck : ∀ n ≤ 22, isAtMost (powerOfTen n) (10 ^ n) = true := by decide +kernel
    refine (atMost_of_isAtMost (hcheck n hsmall)).mono ?_
    rw [Nat.cast_pow, Nat.cast_ofNat]
    exact le_mul_of_one_le_right (by positivity) one_le_slack
  · have hslow : powerOfTen n = .ofModel (.ofScientific 1 n) := by
      rw [powerOfTen, Float.ofScientific, dif_neg (fun h => hsmall h.2)]
      rfl
    have hone : ((1 : Nat) : ℚ) * 10 ^ n * slack = 10 ^ n * slack := by
      rw [Nat.cast_one, one_mul]
    rw [hslow, ← hone]
    refine atMost_ofScientific Nat.one_pos (by omega) ?_
    rw [hone]
    refine lt_of_le_of_lt ?_ decimalRange_room
    calc (10 : ℚ) ^ n * slack ≤ decimalRange * slack :=
          mul_le_mul_of_nonneg_right hpow slack_pos.le
      _ ≤ decimalRange * slack ^ 4 :=
          mul_le_mul_of_nonneg_left (le_self_pow₀ one_le_slack (by decide))
            (le_trans (by positivity) hpow)

/-- The product that the reader computes is finite. -/
theorem isInf_ofNat_mul {m n : Nat} (hm : m ≤ significandLimit) (hn : n ≤ 308)
    (h : (m : ℚ) * 10 ^ n ≤ decimalRange) : (Float.ofNat m * powerOfTen n).isInf = false := by
  have hpower := atMost_powerOfTen hn
  rcases Nat.eq_zero_or_pos m with rfl | hpos
  · obtain ⟨p, e, hp, hunpack, -⟩ := hpower
    have hproduct : Float.ofNat 0 * powerOfTen n = .ofModel (.pack (.zero .positive)) := by
      have hmodel : Float.ofNat 0 * powerOfTen n = .ofModel (.pack (.mul .binary64
        (Float.ofNat 0).toModel.unpack (powerOfTen n).toModel.unpack)) := rfl
      rw [hmodel, hunpack]
      rfl
    rw [hproduct]
    rfl
  · have hbits : m < 2 ^ 64 := Nat.lt_of_le_of_lt hm (by decide)
    have hvalue : (m : ℚ) * slack * slack * (10 ^ n * slack) * slack =
        (m * 10 ^ n) * slack ^ 4 := by ring
    refine ((atMost_ofNat hpos hbits).mul hpower ?_).isInf_eq_false
    rw [hvalue]
    exact lt_of_le_of_lt (mul_le_mul_of_nonneg_right h (pow_pos slack_pos 4).le)
      decimalRange_room

/-! ## Significands -/

theorem zpow_eq_pow_mul (x : ℤ) (k : Nat) : (10 : ℚ) ^ x = 10 ^ k * 10 ^ (x - (k : ℤ)) := by
  rw [← zpow_natCast, ← zpow_add₀ (by norm_num)]
  congr 1
  omega

namespace Significand

/-- The number that a significand stands for. -/
def value (s : Significand) : ℚ := s.digits * 10 ^ s.exponent

/-- A significand within the range has a double. -/
theorem isSome_toFloat? {s : Significand} (hs : s.digits ≤ significandLimit)
    (h : s.value ≤ decimalRange) : s.toFloat?.isSome := by
  unfold toFloat?
  cases hexponent : s.exponent with
  | negSucc n => rfl
  | ofNat n =>
      have hvalue : (s.digits : ℚ) * 10 ^ n ≤ decimalRange := by
        simpa [value, hexponent] using h
      by_cases hn : n ≤ 308
      · simp [hn, isInf_ofNat_mul hs hn hvalue]
      · have hzero : s.digits = 0 := by
          by_contra hne
          have hone : (1 : ℚ) ≤ s.digits := by exact_mod_cast Nat.one_le_iff_ne_zero.2 hne
          have hpow : (10 : ℚ) ^ 309 ≤ 10 ^ n := pow_le_pow_right₀ (by norm_num) (by omega)
          have hlarge : (10 : ℚ) ^ 309 ≤ s.digits * 10 ^ n :=
            hpow.trans (le_mul_of_one_le_left (by positivity) hone)
          exact absurd (hlarge.trans hvalue) (not_le.2 decimalRange_lt_pow)
        have hfloat : (Float.ofNat 0 == 0.0) = true := by decide +kernel
        simp [hn, hzero, hfloat]

/-- Digits after the point are kept as long as they fit. -/
theorem fraction_bounds (s : Significand) (ds : List Digit) :
    (s.digits ≤ significandLimit →
        (s.fraction (digitChars ds)).digits ≤ significandLimit) ∧
      s.exponent - ds.length ≤ (s.fraction (digitChars ds)).exponent ∧
        (s.fraction (digitChars ds)).exponent ≤ s.exponent := by
  induction ds generalizing s with
  | nil => simp [digitChars, fraction]
  | cons d ds ih =>
      simp only [digitChars_cons, fraction, fits_digitChar, digitValue_digitChar,
        decide_eq_true_eq, List.length_cons]
      split
      · rename_i hfits
        obtain ⟨hdigits, hlow, hhigh⟩ := ih ⟨s.digits * 10 + d.val, s.exponent - 1⟩
        dsimp only at hdigits hlow hhigh
        exact ⟨fun _ => hdigits hfits, by omega, by omega⟩
      · exact ⟨id, by omega, by omega⟩

/-- What is kept of the digits after the point does not make the number larger. -/
theorem value_fraction_le (s : Significand) (ds : List Digit) :
    (s.fraction (digitChars ds)).value ≤
      digitsValue s.digits ds * 10 ^ (s.exponent - ds.length) := by
  induction ds generalizing s with
  | nil => simp [digitChars, fraction, digitsValue, value]
  | cons d ds ih =>
      simp only [digitChars_cons, fraction, fits_digitChar, digitValue_digitChar,
        decide_eq_true_eq, List.length_cons]
      split
      · have hnext := ih ⟨s.digits * 10 + d.val, s.exponent - 1⟩
        rw [digitsValue_cons]
        have hshift : s.exponent - ((ds.length + 1 : Nat) : ℤ) = s.exponent - 1 - ds.length := by
          omega
        rw [hshift]
        exact hnext
      · have hle : (s.digits : ℚ) * 10 ^ (ds.length + 1) ≤ digitsValue s.digits (d :: ds) := by
          exact_mod_cast mul_pow_le_digitsValue s.digits (d :: ds)
        rw [value, zpow_eq_pow_mul s.exponent (ds.length + 1), ← mul_assoc]
        exact mul_le_mul_of_nonneg_right hle (by positivity)

/-- If the power stays, then no digit after the point was kept. -/
theorem fraction_eq_self {s : Significand} {ds : List Digit}
    (h : (s.fraction (digitChars ds)).exponent = s.exponent) :
    s.fraction (digitChars ds) = s := by
  cases ds with
  | nil => rfl
  | cons d ds =>
      simp only [digitChars_cons, fraction, digitValue_digitChar] at h ⊢
      split
      · rename_i hfits
        have hhigh := (fraction_bounds ⟨s.digits * 10 + d.val, s.exponent - 1⟩ ds).2.2
        rw [if_pos hfits] at h
        dsimp only at hhigh
        omega
      · rfl

/-- If not all digits before the point fit, digits after the point do not make the number larger
than those that were dropped. -/
theorem value_fraction_le_of_dropped {digits dropped bound : Nat}
    (hdigits : digits ≤ significandLimit) (hbound : digits * 10 ^ (dropped + 1) ≤ bound)
    (hlimit : significandLimit * 10 ^ dropped ≤ bound) (ds : List Digit) :
    (fraction ⟨digits, dropped + 1⟩ (digitChars ds)).value ≤ bound := by
  obtain ⟨hkept, -, hhigh⟩ := fraction_bounds ⟨digits, dropped + 1⟩ ds
  by_cases hpower : (fraction ⟨digits, dropped + 1⟩ (digitChars ds)).exponent = dropped + 1
  · rw [fraction_eq_self hpower]
    have hcast : (digits : ℚ) * 10 ^ (dropped + 1 : ℤ) ≤ bound := by exact_mod_cast hbound
    exact hcast
  · generalize fraction ⟨digits, dropped + 1⟩ (digitChars ds) = t at *
    have hexponent : t.exponent ≤ dropped := by
      dsimp only at hhigh
      omega
    have hcast : (significandLimit : ℚ) * 10 ^ (dropped : ℤ) ≤ bound := by exact_mod_cast hlimit
    have ht : (t.digits : ℚ) ≤ significandLimit := by exact_mod_cast hkept hdigits
    calc t.value ≤ significandLimit * 10 ^ t.exponent :=
          mul_le_mul_of_nonneg_right ht (by positivity)
      _ ≤ significandLimit * 10 ^ (dropped : ℤ) :=
          mul_le_mul_of_nonneg_left (zpow_le_zpow_right₀ (by norm_num) hexponent) (by positivity)
      _ ≤ bound := hcast

end Significand

/-! ## Numerals -/

/-- The power of ten that an exponent stands for. -/
def exponentValue : Option Exponent → ℤ
  | none => 0
  | some e => if e.down then -e.magnitude else e.magnitude

/-- A significand and an exponent within the range have a double.  The exponent is not computed
beyond a limit, so the power of the significand must not be too small either. -/
theorem Significand.isSome_raised? {s : Significand} {exponent : Option Exponent}
    (hs : s.digits ≤ significandLimit) (hlow : -2 ^ 30 ≤ s.exponent)
    (h : s.value * 10 ^ exponentValue exponent ≤ decimalRange) :
    (s.raised? exponent).isSome := by
  cases exponent with
  | none =>
      refine isSome_toFloat? hs ?_
      simpa [exponentValue] using h
  | some e =>
      have hvalue : (s.digits : ℚ) * 10 ^ (s.exponent + exponentValue (some e)) ≤
          decimalRange := by
        rw [zpow_add₀ (by norm_num), ← mul_assoc]
        exact h
      unfold raised?
      dsimp only
      split
      · refine isSome_toFloat? hs ?_
        have hpower : (if e.down then s.exponent - e.magnitude else s.exponent + e.magnitude) =
            s.exponent + exponentValue (some e) := by
          cases hdown : e.down <;> simp [exponentValue, hdown, sub_eq_add_neg]
        rw [value, hpower]
        exact hvalue
      · rename_i hlarge
        split
        · rename_i hup
          have hpower : 309 ≤ s.exponent + exponentValue (some e) := by
            have hexponent : exponentValue (some e) = e.magnitude := by simp [exponentValue, hup.2]
            have hlimit : exponentLimit = 2 ^ 31 - 1 := rfl
            omega
          have hone : (1 : ℚ) ≤ s.digits := by exact_mod_cast Nat.one_le_iff_ne_zero.2 hup.1
          have hpow : (10 : ℚ) ^ (309 : ℤ) ≤ 10 ^ (s.exponent + exponentValue (some e)) :=
            zpow_le_zpow_right₀ (by norm_num) hpower
          have hhuge := hpow.trans (le_mul_of_one_le_left (by positivity) hone)
          exact absurd (hhuge.trans hvalue) (not_le.2 decimalRange_lt_pow)
        · rfl

namespace Numeral

/-- The exact number that a numeral stands for, without its sign. -/
def magnitude (n : Numeral) : ℚ :=
  digitsValue n.whole (fractionDigits n.fraction) *
    10 ^ (exponentValue n.exponent - (fractionDigits n.fraction).length)

/-- What is kept of a numeral does not make it larger. -/
theorem significand_value_le (n : Numeral) :
    n.significand.value ≤ digitsValue n.whole (fractionDigits n.fraction) *
      10 ^ (0 - (fractionDigits n.fraction).length : ℤ) := by
  by_cases hfits : n.whole ≤ significandLimit
  · rw [significand, Significand.whole_of_le hfits]
    exact Significand.value_fraction_le ⟨n.whole, 0⟩ (fractionDigits n.fraction)
  · obtain ⟨digits, dropped, hwhole, hdigits, hbound, hlimit⟩ := Significand.exists_whole_of_lt
      (digit_le_significandLimit n.first) (Nat.lt_of_not_le hfits)
    rw [significand, hwhole]
    refine (Significand.value_fraction_le_of_dropped hdigits hbound hlimit _).trans ?_
    have hle : (n.whole : ℚ) * 10 ^ (fractionDigits n.fraction).length ≤
        digitsValue n.whole (fractionDigits n.fraction) := by
      exact_mod_cast mul_pow_le_digitsValue n.whole (fractionDigits n.fraction)
    have hone := zpow_eq_pow_mul 0 (fractionDigits n.fraction).length
    rw [zpow_zero] at hone
    calc (n.whole : ℚ) = n.whole * (10 ^ (fractionDigits n.fraction).length *
            10 ^ (0 - (fractionDigits n.fraction).length : ℤ)) := by rw [← hone, mul_one]
      _ ≤ _ := by
          rw [← mul_assoc]
          exact mul_le_mul_of_nonneg_right hle (by positivity)

/-- What is kept of a numeral fits, and its power is not below the last digit. -/
theorem significand_bounds (n : Numeral) :
    n.significand.digits ≤ significandLimit ∧
      -((fractionDigits n.fraction).length : ℤ) ≤ n.significand.exponent := by
  by_cases hfits : n.whole ≤ significandLimit
  · have hbounds := Significand.fraction_bounds ⟨n.whole, 0⟩ (fractionDigits n.fraction)
    rw [zero_sub] at hbounds
    rw [significand, Significand.whole_of_le hfits]
    exact ⟨hbounds.1 hfits, hbounds.2.1⟩
  · obtain ⟨digits, dropped, hwhole, hdigits, -⟩ := Significand.exists_whole_of_lt
      (digit_le_significandLimit n.first) (Nat.lt_of_not_le hfits)
    have hbounds := Significand.fraction_bounds ⟨digits, dropped + 1⟩ (fractionDigits n.fraction)
    rw [significand, hwhole]
    refine ⟨hbounds.1 hdigits, le_trans ?_ hbounds.2.1⟩
    dsimp only
    omega

/-- A numeral in range stands for a number. -/
theorem isSome_number? {n : Numeral} (hlength : (fractionDigits n.fraction).length ≤ 2 ^ 30)
    (h : n.magnitude ≤ decimalRange) : n.number?.isSome := by
  obtain ⟨hdigits, hlow⟩ := n.significand_bounds
  have hvalue : n.significand.value * 10 ^ exponentValue n.exponent ≤ n.magnitude := by
    have hle := mul_le_mul_of_nonneg_right n.significand_value_le
      (zpow_pos (by norm_num : (0 : ℚ) < 10) (exponentValue n.exponent)).le
    rw [mul_assoc, ← zpow_add₀ (by norm_num)] at hle
    refine hle.trans (le_of_eq ?_)
    rw [magnitude]
    congr 2
    ring
  unfold number?
  split
  · rfl
  · rw [Option.isSome_map]
    exact Significand.isSome_raised? hdigits (by omega) (hvalue.trans h)

end Numeral

/-! ## Trees with a value -/

/-- A numeral that stands for a number: its magnitude is in range, or its digits happen to be
computed as a finite double. -/
def Numeral.InRange (n : Numeral) : Prop :=
  ((fractionDigits n.fraction).length ≤ 2 ^ 30 ∧ n.magnitude ≤ decimalRange) ∨ n.number?.isSome

/-- A tree whose numerals are in range and whose strings are texts. -/
inductive Tree.Sound : Tree → Prop where
  | null : Sound .null
  | bool (b : Bool) : Sound (.bool b)
  | number {n : Numeral} (h : n.InRange) : Sound (.number n)
  | string {pieces : List Piece} (h : (Piece.text? pieces).isSome) : Sound (.string pieces)
  | array {inner : Gap} {items : List (Padded Tree)} (h : ∀ p ∈ items, Sound p.content) :
      Sound (.array inner items)
  | object {inner : Gap} {members : List (Member Tree)}
      (hnames : ∀ m ∈ members, (Piece.text? m.name).isSome)
      (h : ∀ m ∈ members, Sound m.value) : Sound (.object inner members)

namespace Tree

theorem isSome_itemValues?_iff {items : List (Padded Tree)} :
    (itemValues? items).isSome ↔ ∀ p ∈ items, p.content.value?.isSome := by
  induction items with
  | nil => simp [itemValues?]
  | cons p items ih =>
      rw [itemValues?, List.forall_mem_cons, ← ih]
      cases p.content.value? <;> cases itemValues? items <;> simp

theorem isSome_memberValues?_iff {members : List (Member Tree)} :
    (memberValues? members).isSome ↔
      (∀ m ∈ members, (Piece.text? m.name).isSome) ∧ ∀ m ∈ members, m.value.value?.isSome := by
  induction members with
  | nil => simp [memberValues?]
  | cons m members ih =>
      rw [memberValues?, List.forall_mem_cons, List.forall_mem_cons, and_and_and_comm, ← ih]
      cases Piece.text? m.name <;> cases m.value.value? <;> cases memberValues? members <;> simp

/-- A tree has a value if its numerals are in range and its strings are texts, and only then. -/
theorem sound_iff {t : Tree} : t.Sound ↔ t.value?.isSome := by
  constructor
  · intro h
    induction h with
    | null => rfl
    | bool b => rfl
    | number h =>
        rw [value?, Option.isSome_map]
        rcases h with ⟨hlength, hrange⟩ | hnumber
        · exact Numeral.isSome_number? hlength hrange
        · exact hnumber
    | string h => rwa [value?, Option.isSome_map]
    | array h ih =>
        rw [value?, Option.isSome_map]
        exact isSome_itemValues?_iff.2 ih
    | object hnames h ih =>
        rw [value?, Option.isSome_map]
        exact isSome_memberValues?_iff.2 ⟨hnames, ih⟩
  · intro h
    induction t with
    | null => exact .null
    | bool b => exact .bool b
    | number n =>
        rw [value?, Option.isSome_map] at h
        exact .number (.inr h)
    | string pieces =>
        rw [value?, Option.isSome_map] at h
        exact .string h
    | array inner items ih =>
        rw [value?, Option.isSome_map, isSome_itemValues?_iff] at h
        exact .array fun p hp => ih p hp (h p hp)
    | object inner members ih =>
        rw [value?, Option.isSome_map, isSome_memberValues?_iff] at h
        exact .object h.1 fun m hm => ih m hm (h.2 m hm)

instance (t : Tree) : Decidable t.Sound := decidable_of_iff _ sound_iff.symm

end Tree

end Provenance.Json
