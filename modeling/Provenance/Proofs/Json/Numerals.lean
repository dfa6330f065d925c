import Mathlib.Algebra.Group.Nat.Defs
import Provenance.Proofs.Json.Strings

/-!
# Reading numbers

A numeral that stands for a number is read as this number.  It has no closing mark, so that it
matters what follows it: the digits of the numeral have to be all the digits that are there.  The
reader that passes over values gets to the same place, whether or not there is a number.

Main results:

- Theorem `readNumber_chars`: a numeral is read as the number that it stands for.
- Theorem `skipMagnitude_chars`: every numeral is passed over.
-/

namespace Provenance.Json

/-! ## Digits -/

/-- The character of a digit is a digit. -/
theorem isDigit_digitChar (d : Digit) : isDigit (Nat.digitChar d.val) = true := by
  revert d
  decide

/-- The character of a digit stands for it. -/
theorem digitValue_digitChar (d : Digit) : digitValue (Nat.digitChar d.val) = d.val := by
  revert d
  decide

/-- Only the digit zero is written as a zero. -/
theorem digitChar_ne_zero {d : Digit} (h : d ≠ 0) : Nat.digitChar d.val ≠ '0' := by
  revert d
  decide

/-- The character of a digit differs from all that are no digits. -/
theorem digitChar_ne_of_not_isDigit {d : Digit} {c : Char} (h : isDigit c = false) :
    Nat.digitChar d.val ≠ c := by
  rintro rfl
  rw [isDigit_digitChar] at h
  contradiction

theorem digit_le_exponentLimit (d : Digit) : d.val ≤ exponentLimit :=
  Nat.le_trans (Nat.le_of_lt_succ d.isLt) (by decide)

theorem digit_le_significandLimit (d : Digit) : d.val ≤ significandLimit :=
  Nat.le_trans (Nat.le_of_lt_succ d.isLt) (by decide)

theorem digitChars_cons (d : Digit) (ds : List Digit) :
    digitChars (d :: ds) = Nat.digitChar d.val :: digitChars ds := rfl

section Runs

variable {rest : List Char} (hrest : endsDigits rest = true)

include hrest

/-- The digits of a text are those up to its first other character. -/
theorem takeWhile_digitChars (ds : List Digit) :
    (digitChars ds ++ rest).takeWhile isDigit = digitChars ds := by
  induction ds with
  | nil =>
      cases rest with
      | nil => rfl
      | cons c rest =>
          have hc : isDigit c = false := by simpa [endsDigits] using hrest
          simp [digitChars, hc]
  | cons d ds ih => simp [digitChars_cons, isDigit_digitChar, ih]

/-- What follows the digits of a text is left over. -/
theorem dropWhile_digitChars (ds : List Digit) :
    (digitChars ds ++ rest).dropWhile isDigit = rest := by
  induction ds with
  | nil =>
      cases rest with
      | nil => rfl
      | cons c rest =>
          have hc : isDigit c = false := by simpa [endsDigits] using hrest
          simp [digitChars, hc]
  | cons d ds ih => simp [digitChars_cons, isDigit_digitChar, ih]

end Runs

theorem digitsValue_cons (start : Nat) (d : Digit) (ds : List Digit) :
    digitsValue start (d :: ds) = digitsValue (start * 10 + d.val) ds := rfl

/-- Every digit makes a number at least ten times as large. -/
theorem mul_pow_le_digitsValue (start : Nat) (ds : List Digit) :
    start * 10 ^ ds.length ≤ digitsValue start ds := by
  induction ds generalizing start with
  | nil => exact Nat.le_of_eq (Nat.mul_one start)
  | cons d ds ih =>
      calc start * 10 ^ (ds.length + 1) = start * 10 * 10 ^ ds.length := by
            rw [Nat.pow_succ, Nat.mul_assoc, Nat.mul_comm 10]
        _ ≤ (start * 10 + d.val) * 10 ^ ds.length :=
            Nat.mul_le_mul_right _ (Nat.le_add_right _ _)
        _ ≤ digitsValue start (d :: ds) := ih (start * 10 + d.val)

/-- More digits do not make a number smaller. -/
theorem le_digitsValue (start : Nat) (ds : List Digit) : start ≤ digitsValue start ds :=
  Nat.le_trans (Nat.le_mul_of_pos_right start (Nat.pow_pos (by decide)))
    (mul_pow_le_digitsValue start ds)

/-! ## Significands -/

namespace Significand

/-- There is room for a digit as long as the digits stay below the limit. -/
theorem fits_digitChar (s : Significand) (d : Digit) :
    s.fits (Nat.digitChar d.val) = decide (s.digits * 10 + d.val ≤ significandLimit) := by
  simp [fits, digitValue_digitChar]

/-- Once a digit does not fit, digits only raise the power. -/
theorem whole_full (s : Significand) (cs : List Char) :
    s.whole true cs = ⟨s.digits, s.exponent + cs.length⟩ := by
  induction cs generalizing s with
  | nil => simp [whole]
  | cons c cs ih =>
      simp only [whole, Bool.true_or, if_true, ih, List.length_cons]
      congr 1
      omega

/-- Digits that fit are all kept. -/
theorem whole_of_le {start : Nat} {ds : List Digit}
    (h : digitsValue start ds ≤ significandLimit) :
    whole ⟨start, 0⟩ false (digitChars ds) = ⟨digitsValue start ds, 0⟩ := by
  induction ds generalizing start with
  | nil => rfl
  | cons d ds ih =>
      have hnext : start * 10 + d.val ≤ significandLimit := Nat.le_trans (le_digitsValue _ ds) h
      simp only [digitChars_cons, whole, fits_digitChar, hnext, digitValue_digitChar]
      exact ih h

/-- If not all digits fit, the power is raised, and the number is larger than what is kept. -/
theorem exists_whole_of_lt {start : Nat} {ds : List Digit} (hstart : start ≤ significandLimit)
    (h : significandLimit < digitsValue start ds) :
    ∃ digits dropped : Nat,
      whole ⟨start, 0⟩ false (digitChars ds) = ⟨digits, dropped + 1⟩ ∧
        digits ≤ significandLimit ∧ digits * 10 ^ (dropped + 1) ≤ digitsValue start ds ∧
          significandLimit * 10 ^ dropped ≤ digitsValue start ds := by
  induction ds generalizing start with
  | nil => exact absurd h (Nat.not_lt.2 hstart)
  | cons d ds ih =>
      simp only [digitChars_cons, whole, fits_digitChar, digitValue_digitChar, Bool.false_or]
      by_cases hnext : start * 10 + d.val ≤ significandLimit
      · simp only [hnext]
        exact ih hnext h
      · refine ⟨start, ds.length, ?_, hstart, ?_, ?_⟩
        · simp only [hnext, decide_false, Bool.not_false, if_true, whole_full, digitChars,
            List.length_map]
          congr 1
          omega
        · exact mul_pow_le_digitsValue start (d :: ds)
        · exact Nat.le_trans (Nat.mul_le_mul_right _ (Nat.le_of_not_le hnext))
            (mul_pow_le_digitsValue _ ds)

/-- A number that is within the range is read with its sign. -/
theorem finish_of_toFloat? {s : Significand} {f : Float} (h : s.toFloat? = some f)
    (negative : Bool) (rest : List Char) :
    s.finish negative rest = .ok (.real (signed negative f), rest) := by
  simp only [finish, h]

end Significand

/-! ## Exponents -/

/-- The sign of an exponent is read, and its digits are left over. -/
theorem exponentSign_chars (e : Exponent) (rest : List Char) :
    exponentSign (e.sign.chars ++ (digitChars (e.first :: e.others) ++ rest)) =
      (e.down, digitChars (e.first :: e.others) ++ rest) := by
  have hplus : Nat.digitChar e.first.val ≠ '+' := digitChar_ne_of_not_isDigit rfl
  have hminus : Nat.digitChar e.first.val ≠ '-' := digitChar_ne_of_not_isDigit rfl
  cases hsign : e.sign with
  | unwritten =>
      simp [ExponentSign.chars, digitChars_cons, exponentSign, hplus, hminus, Exponent.down, hsign]
  | plus => simp [ExponentSign.chars, exponentSign, Exponent.down, hsign]
  | minus => simp [ExponentSign.chars, exponentSign, Exponent.down, hsign]

section Exponents

variable {rest : List Char} (hrest : endsDigits rest = true)

include hrest

/-- The digits of an exponent below the limit are read as a number. -/
theorem readExponentDigits_of_le {start : Nat} {ds : List Digit}
    (h : digitsValue start ds ≤ exponentLimit) :
    readExponentDigits start (digitChars ds ++ rest) = (some (digitsValue start ds), rest) := by
  induction ds generalizing start with
  | nil =>
      cases rest with
      | nil => rfl
      | cons c rest =>
          have hc : isDigit c = false := by simpa [endsDigits] using hrest
          simp [digitChars, readExponentDigits, hc, digitsValue]
  | cons d ds ih =>
      have hnext : start * 10 + d.val ≤ exponentLimit := Nat.le_trans (le_digitsValue _ ds) h
      simp only [digitChars_cons, List.cons_append, readExponentDigits, isDigit_digitChar,
        digitValue_digitChar, hnext, if_true]
      exact ih h

/-- Beyond the limit reading stops early, but only digits are left of the numeral. -/
theorem readExponentDigits_of_lt {start : Nat} {ds : List Digit} (hstart : start ≤ exponentLimit)
    (h : exponentLimit < digitsValue start ds) :
    ∃ left, readExponentDigits start (digitChars ds ++ rest) = (none, left) ∧
      left.dropWhile isDigit = rest := by
  induction ds generalizing start with
  | nil => exact absurd h (Nat.not_lt.2 hstart)
  | cons d ds ih =>
      simp only [digitChars_cons, List.cons_append, readExponentDigits, isDigit_digitChar,
        digitValue_digitChar, if_true]
      by_cases hnext : start * 10 + d.val ≤ exponentLimit
      · simp only [hnext, if_true]
        exact ih hnext h
      · simp only [hnext, if_false]
        exact ⟨_, rfl, dropWhile_digitChars hrest ds⟩

/-- An exponent is read with its sign. -/
theorem readExponent_chars {s : Significand} {e : Exponent} {f : Float}
    (h : s.raised? (some e) = some f) (negative : Bool) :
    readExponent negative s (e.sign.chars ++ (digitChars (e.first :: e.others) ++ rest)) =
      .ok (.real (signed negative f), rest) := by
  rw [readExponent, exponentSign_chars]
  simp only [digitChars_cons, List.cons_append, readUnsignedExponent, isDigit_digitChar,
    digitValue_digitChar, if_true]
  by_cases hlimit : e.magnitude ≤ exponentLimit
  · simp only [Significand.raised?, if_pos hlimit] at h
    rw [readExponentDigits_of_le hrest hlimit]
    exact Significand.finish_of_toFloat? h negative rest
  · obtain ⟨left, hleft, hdrop⟩ := readExponentDigits_of_lt hrest
      (digit_le_exponentLimit e.first) (Nat.lt_of_not_le hlimit)
    simp only [Significand.raised?, if_neg hlimit] at h
    split at h
    · contradiction
    · rename_i hsmall
      obtain rfl := Option.some.inj h
      simp only [hleft, if_neg hsmall, hdrop]

/-- An exponent is skipped. -/
theorem skipExponent_chars (e : Exponent) :
    skipExponent (e.sign.chars ++ (digitChars (e.first :: e.others) ++ rest)) =
      .ok ((), rest) := by
  rw [skipExponent, exponentSign_chars]
  simp only [digitChars_cons, List.cons_append, isDigit_digitChar, if_true,
    dropWhile_digitChars hrest]

end Exponents

/-! ## Fractions -/

section Parts

variable {rest : List Char} (hrest : endsValue rest = true)

include hrest

/-- What follows a numeral is not taken for a part of it. -/
theorem ne_of_endsValue {c : Char} {cs : List Char} (h : rest = c :: cs) :
    c ≠ '.' ∧ c ≠ 'e' ∧ c ≠ 'E' := by
  subst h
  refine ⟨?_, ?_, ?_⟩ <;> rintro rfl <;> simp [endsValue, isSpace] at hrest

/-- After the digits of a number an exponent is read, if there is one. -/
theorem readAfterFraction_chars {s : Significand} {exponent : Option Exponent} {f : Float}
    (h : s.raised? exponent = some f) (negative : Bool) :
    readAfterFraction negative s (exponentChars exponent ++ rest) =
      .ok (.real (signed negative f), rest) := by
  cases exponent with
  | none =>
      have hfinish := Significand.finish_of_toFloat? h negative rest
      cases rest with
      | nil => exact hfinish
      | cons c cs =>
          obtain ⟨-, hsmall, hcapital⟩ := ne_of_endsValue hrest rfl
          simpa [exponentChars, readAfterFraction, hsmall, hcapital] using hfinish
  | some e =>
      have hread := readExponent_chars (endsDigits_of_endsValue hrest) h negative
      cases hcapital : e.capital <;>
        simpa [exponentChars, Exponent.chars, hcapital, readAfterFraction] using hread

/-- After the digits of a number an exponent is skipped, if there is one. -/
theorem skipAfterFraction_chars (exponent : Option Exponent) :
    skipAfterFraction (exponentChars exponent ++ rest) = .ok ((), rest) := by
  cases exponent with
  | none =>
      cases rest with
      | nil => rfl
      | cons c cs =>
          obtain ⟨-, hsmall, hcapital⟩ := ne_of_endsValue hrest rfl
          simp [exponentChars, skipAfterFraction, hsmall, hcapital]
  | some e =>
      have hskip := skipExponent_chars (endsDigits_of_endsValue hrest) e
      cases hcapital : e.capital <;>
        simpa [exponentChars, Exponent.chars, hcapital, skipAfterFraction] using hskip

omit hrest in
/-- Digits end where an exponent begins. -/
theorem endsDigits_exponentChars (hrest : endsDigits rest = true) (exponent : Option Exponent) :
    endsDigits (exponentChars exponent ++ rest) = true := by
  cases exponent with
  | none => exact hrest
  | some e =>
      cases hcapital : e.capital <;>
        simp [exponentChars, Exponent.chars, hcapital, endsDigits, isDigit]

/-- The decimals of a number are read, and with them its exponent. -/
theorem readFraction_chars {s : Significand} {d : Digit} {ds : List Digit}
    {exponent : Option Exponent} {f : Float}
    (h : (s.fraction (digitChars (d :: ds))).raised? exponent = some f) (negative : Bool) :
    readFraction negative s (digitChars (d :: ds) ++ (exponentChars exponent ++ rest)) =
      .ok (.real (signed negative f), rest) := by
  have hdigits := endsDigits_exponentChars (endsDigits_of_endsValue hrest) exponent
  rw [readFraction, takeWhile_digitChars hdigits, dropWhile_digitChars hdigits]
  exact readAfterFraction_chars hrest h negative

/-- What follows the digits before the point does not go on with a digit. -/
theorem endsDigits_parts (fraction : Option (Digit × List Digit)) (exponent : Option Exponent) :
    endsDigits (fractionChars fraction ++ (exponentChars exponent ++ rest)) = true := by
  cases fraction with
  | none => exact endsDigits_exponentChars (endsDigits_of_endsValue hrest) exponent
  | some digits => rfl

/-- A number with a fraction or an exponent, or with too many digits, is a double. -/
theorem readAfterWhole_real {s : Significand} {fraction : Option (Digit × List Digit)}
    {exponent : Option Exponent} {f : Float}
    (h : (s.fraction (digitChars (fractionDigits fraction))).raised? exponent = some f)
    (hreal : fraction = none → exponent = none → s.exponent ≠ 0) (negative : Bool) :
    readAfterWhole negative s (fractionChars fraction ++ (exponentChars exponent ++ rest)) =
      .ok (.real (signed negative f), rest) := by
  cases fraction with
  | some digits => exact readFraction_chars hrest h negative
  | none =>
      change s.raised? exponent = some f at h
      cases exponent with
      | some e =>
          have hread := readExponent_chars (endsDigits_of_endsValue hrest) h negative
          cases hcapital : e.capital <;>
            simpa [fractionChars, exponentChars, Exponent.chars, hcapital, readAfterWhole]
              using hread
      | none =>
          have hfinish := Significand.finish_of_toFloat? h negative rest
          have hne := hreal rfl rfl
          cases rest with
          | nil => simpa [fractionChars, exponentChars, readAfterWhole, hne] using hfinish
          | cons c cs =>
              obtain ⟨hpoint, hsmall, hcapital⟩ := ne_of_endsValue hrest rfl
              simpa [fractionChars, exponentChars, readAfterWhole, hpoint, hsmall, hcapital, hne]
                using hfinish

/-- Digits that all fit are an integer if nothing more is written. -/
theorem readAfterWhole_int (negative : Bool) (n : Nat) :
    readAfterWhole negative ⟨n, 0⟩ rest = .ok (wholeNumber negative n, rest) := by
  cases rest with
  | nil => rfl
  | cons c cs =>
      obtain ⟨hpoint, hsmall, hcapital⟩ := ne_of_endsValue hrest rfl
      simp [readAfterWhole, hpoint, hsmall, hcapital]

/-- After the whole part of a number its decimals and its exponent are skipped. -/
theorem skipAfterWhole_chars (fraction : Option (Digit × List Digit))
    (exponent : Option Exponent) :
    skipAfterWhole (fractionChars fraction ++ (exponentChars exponent ++ rest)) =
      .ok ((), rest) := by
  have hskip := skipAfterFraction_chars hrest exponent
  cases fraction with
  | some digits =>
      have hdigits := endsDigits_exponentChars (endsDigits_of_endsValue hrest) exponent
      have htake := takeWhile_digitChars hdigits (digits.1 :: digits.2)
      have hdrop := dropWhile_digitChars hdigits (digits.1 :: digits.2)
      simp only [fractionChars, List.cons_append, skipAfterWhole, htake, hdrop]
      exact hskip
  | none =>
      have hpoint : ∀ cs, exponentChars exponent ++ rest ≠ '.' :: cs := by
        intro cs h
        cases exponent with
        | none => exact (ne_of_endsValue hrest h).1 rfl
        | some e =>
            have hletter := List.head_eq_of_cons_eq h
            split at hletter <;> contradiction
      simp only [fractionChars, List.nil_append]
      rw [skipAfterWhole]
      · exact hskip
      · exact hpoint

end Parts

/-! ## Numbers -/

section Numbers

variable {tail : List Char} (htail : endsDigits tail = true)

include htail

/-- Digits are taken up to the first character that is none.  A zero in front stands alone. -/
theorem readMagnitude_digits {d : Digit} {ds : List Digit} (proper : d = 0 → ds = [])
    (negative : Bool) :
    readMagnitude negative (digitChars (d :: ds) ++ tail) =
      readAfterWhole negative (Significand.whole ⟨d.val, 0⟩ false (digitChars ds)) tail := by
  by_cases hzero : d = 0
  · obtain rfl := proper hzero
    subst hzero
    cases tail with
    | nil => rfl
    | cons c cs =>
        have hc : isDigit c = false := by simpa [endsDigits] using htail
        simp [digitChars, Nat.digitChar, readMagnitude, hc, Significand.whole]
  · have hchar := digitChar_ne_zero hzero
    simp [digitChars_cons, readMagnitude, isDigit_digitChar, digitValue_digitChar,
      takeWhile_digitChars htail, dropWhile_digitChars htail]

/-- The whole part of a number is skipped, where a leading zero stands alone. -/
theorem skipMagnitude_digits {d : Digit} {ds : List Digit} (proper : d = 0 → ds = []) :
    skipMagnitude (digitChars (d :: ds) ++ tail) = skipAfterWhole tail := by
  by_cases hzero : d = 0
  · obtain rfl := proper hzero
    subst hzero
    cases tail with
    | nil => rfl
    | cons c cs =>
        have hc : isDigit c = false := by simpa [endsDigits] using htail
        simp [digitChars, Nat.digitChar, skipMagnitude, hc]
  · have hchar := digitChar_ne_zero hzero
    simp [digitChars_cons, skipMagnitude, isDigit_digitChar, dropWhile_digitChars htail]

end Numbers

namespace Numeral

variable {rest : List Char}

/-- A numeral without its sign is read as the number that it stands for. -/
theorem readMagnitude_chars {n : Numeral} {x : Number} (h : n.number? = some x)
    (hrest : endsValue rest = true) :
    readMagnitude n.negative (n.unsignedChars ++ rest) = .ok (x, rest) := by
  have htail := endsDigits_parts hrest n.fraction n.exponent
  simp only [unsignedChars, List.append_assoc]
  rw [readMagnitude_digits htail n.proper]
  unfold number? at h
  split at h
  · rename_i hint
    obtain ⟨hfraction, hexponent, hfits⟩ := hint
    obtain rfl := Option.some.inj h
    rw [Option.isNone_iff_eq_none] at hfraction hexponent
    rw [Significand.whole_of_le hfits, hfraction, hexponent]
    exact readAfterWhole_int hrest n.negative n.whole
  · rename_i hreal
    obtain ⟨f, hf, rfl⟩ := Option.map_eq_some_iff.1 h
    refine readAfterWhole_real hrest hf ?_ n.negative
    intro hfraction hexponent
    have hlarge : ¬ n.whole ≤ significandLimit := by simpa [hfraction, hexponent] using hreal
    obtain ⟨digits, dropped, hwhole, -⟩ := Significand.exists_whole_of_lt
      (digit_le_significandLimit n.first) (Nat.lt_of_not_le hlarge)
    rw [hwhole]
    change (dropped : Int) + 1 ≠ 0
    omega

/-- A numeral is read as the number that it stands for. -/
theorem readNumber_chars {n : Numeral} {x : Number} (h : n.number? = some x)
    (hrest : endsValue rest = true) : readNumber (n.chars ++ rest) = .ok (x, rest) := by
  have hread := readMagnitude_chars h hrest
  unfold chars
  split
  · rename_i hnegative
    simpa [readNumber, hnegative] using hread
  · rename_i hpositive
    have hminus : Nat.digitChar n.first.val ≠ '-' := digitChar_ne_of_not_isDigit rfl
    simp only [hpositive, unsignedChars, digitChars_cons, List.cons_append] at hread ⊢
    rw [readNumber]
    · exact hread
    · intro cs hcs
      exact hminus (List.head_eq_of_cons_eq hcs)

/-- Every numeral is passed over, whether or not it stands for a number. -/
theorem skipMagnitude_chars (n : Numeral) (hrest : endsValue rest = true) :
    skipMagnitude (n.unsignedChars ++ rest) = .ok ((), rest) := by
  have htail := endsDigits_parts hrest n.fraction n.exponent
  simp only [unsignedChars, List.append_assoc]
  rw [skipMagnitude_digits htail n.proper]
  exact skipAfterWhole_chars hrest n.fraction n.exponent

end Numeral

end Provenance.Json
