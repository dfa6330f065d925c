import Provenance.Text.Blank
import Provenance.Text.Lowercase

/-!
# Trimmed text in small letters

Names are compared after their blanks at both ends have been removed and their letters have
been made small.  The lower case of a letter may be two characters, and that of a sigma
depends on the letters around it.  This module shows that doing all this a second time
changes nothing: small letters stay what they are wherever they stand, and no letter turns
into a blank.

Main results:

- Theorem `Text.lowercase_lowercase`: a text in lower case is its own lower case.
- Theorem `Text.trim_eq_iff`: to trim a text is to take away the blanks around it.
- Theorem `Text.trim_lowercase_trim`: the lower case of a text without blanks at its ends has
  no blanks at its ends either.
-/

namespace Provenance.Text

/-! ## Where runs lead to -/

namespace LowerRun

/-- Whether no letter that the run leads to lies in the range of code points. -/
def misses (r : LowerRun) (range : Nat × Nat) : Bool :=
  Nat.blt (r.image + (r.last - r.first)) range.1 || Nat.blt range.2 r.image

/-- Whether no letter that the run leads to belongs to the other run: the two lie apart, or
the letters of one stand between those of the other. -/
def avoids (r s : LowerRun) : Bool :=
  r.misses (s.first, s.last) ||
    ((r.first == r.last || r.step % s.step == 0) && r.image % s.step != s.first % s.step)

theorem contains_iff {r : LowerRun} {n : Nat} :
    r.contains n = true ↔ r.first ≤ n ∧ n ≤ r.last ∧ (n - r.first) % r.step = 0 := by
  simp [contains, and_assoc]

/-- A run leads from its letters to letters outside of the ranges that it misses. -/
theorem image_of_misses {r : LowerRun} {range : Nat × Nat} (h : r.misses range = true) {n : Nat}
    (hn : r.contains n = true) :
    n - r.first + r.image < range.1 ∨ range.2 < n - r.first + r.image := by
  obtain ⟨-, hlast, -⟩ := contains_iff.1 hn
  simp only [misses, Bool.or_eq_true, Nat.blt_eq] at h
  omega

/-- A run leads from its letters to letters outside of the runs that it avoids. -/
theorem contains_image_of_avoids {r s : LowerRun} (h : r.avoids s = true) {n : Nat}
    (hn : r.contains n = true) : s.contains (n - r.first + r.image) = false := by
  rw [Bool.eq_false_iff]
  intro hs
  obtain ⟨hsfirst, hslast, hsstep⟩ := contains_iff.1 hs
  simp only [avoids, Bool.or_eq_true, Bool.and_eq_true, beq_iff_eq, bne_iff_ne] at h
  rcases h with hmisses | ⟨hstep, hdistinct⟩
  · have hapart := image_of_misses hmisses hn
    omega
  · -- The letters that `r` leads to are all congruent modulo the step of `s`.
    obtain ⟨hfirst, hlast, hrstep⟩ := contains_iff.1 hn
    have hdvd : s.step ∣ n - r.first := by
      rcases hstep with hsingle | hstep
      · rw [Nat.le_antisymm (hsingle ▸ hlast) hfirst, Nat.sub_self]
        exact Nat.dvd_zero _
      · exact Nat.dvd_trans (Nat.dvd_of_mod_eq_zero hstep) (Nat.dvd_of_mod_eq_zero hrstep)
    apply hdistinct
    calc
      r.image % s.step = (n - r.first + r.image) % s.step := by
        rw [Nat.add_mod, Nat.mod_eq_zero_of_dvd hdvd, Nat.zero_add, Nat.mod_mod]
      _ = (n - r.first + r.image - s.first + s.first) % s.step := by
        rw [Nat.sub_add_cancel hsfirst]
      _ = s.first % s.step := by rw [Nat.add_mod, hsstep, Nat.zero_add, Nat.mod_mod]

end LowerRun

/-- Where no run leads to: the capital I with a dot, what is no character, and the blanks. -/
def barredRanges : CodeRanges := (0x130, 0x130) :: (0xd800, 0xdfff) :: blankRanges

/-- No letter has a lower case that itself has another lower case. -/
theorem lowerRuns_avoid : (lowerRuns.all fun r => lowerRuns.all r.avoids) = true := by
  decide +kernel

/-- No run leads to one of the barred code points or beyond the last code point. -/
theorem lowerRuns_miss :
    (lowerRuns.all fun r =>
      barredRanges.all r.misses && Nat.blt (r.image + (r.last - r.first)) 0x110000) = true := by
  decide +kernel

section Image

variable {r : LowerRun} {n : Nat} (hr : r ∈ lowerRuns) (hn : r.contains n = true)

include hr hn

theorem contains_image {s : LowerRun} (hs : s ∈ lowerRuns) :
    s.contains (n - r.first + r.image) = false := by
  have havoid := List.all_eq_true.1 (List.all_eq_true.1 lowerRuns_avoid r hr) s hs
  exact LowerRun.contains_image_of_avoids havoid hn

theorem image_lt_or_lt (range : Nat × Nat) (hrange : range ∈ barredRanges) :
    n - r.first + r.image < range.1 ∨ range.2 < n - r.first + r.image := by
  have hmiss := List.all_eq_true.1 lowerRuns_miss r hr
  rw [Bool.and_eq_true, List.all_eq_true] at hmiss
  exact LowerRun.image_of_misses (hmiss.1 range hrange) hn

/-- A run leads to characters. -/
theorem toNat_image : (Char.ofNat (n - r.first + r.image)).toNat = n - r.first + r.image := by
  have hlimit := List.all_eq_true.1 lowerRuns_miss r hr
  rw [Bool.and_eq_true, Nat.blt_eq] at hlimit
  obtain ⟨-, hlast, -⟩ := LowerRun.contains_iff.1 hn
  have hsurrogate := image_lt_or_lt hr hn (0xd800, 0xdfff) (by simp [barredRanges])
  have hvalid : (n - r.first + r.image).isValidChar := by
    simp only [Nat.isValidChar]
    omega
  rw [Char.ofNat, dif_pos hvalid]
  rfl

end Image

/-! ## Single characters -/

/-- What the lower case of a character can be: a small letter of the basic alphabet, an i and
a dot, the letter that a run leads to, or the character itself. -/
theorem lowerChar_cases (c : Char) :
    (c.toNat < 0x80 ∧ lowerChar c = [c.toLower]) ∨
    (c = 'İ' ∧ lowerChar c = ['i', '\u0307']) ∨
    (∃ r ∈ lowerRuns, r.contains c.toNat = true ∧
      lowerChar c = [Char.ofNat (c.toNat - r.first + r.image)]) ∨
    lowerChar c = [c] := by
  unfold lowerChar
  split
  · rename_i hbasic
    exact Or.inl ⟨hbasic, rfl⟩
  · split
    · rename_i hdotted
      exact Or.inr (Or.inl ⟨hdotted, rfl⟩)
    · split
      · rename_i r hfind
        have hcontains : r.contains c.toNat = true := by
          simpa using List.find?_some hfind
        exact Or.inr (Or.inr (Or.inl ⟨r, List.mem_of_find?_eq_some hfind, hcontains, rfl⟩))
      · exact Or.inr (Or.inr (Or.inr rfl))

/-- Small letters of the basic alphabet stay in it and have no other lower case. -/
theorem toLower_basic : ∀ n < 0x80,
    (Char.ofNat n).toLower.toNat < 0x80 ∧
      (Char.ofNat n).toLower.toLower = (Char.ofNat n).toLower ∧
      (isBlank (Char.ofNat n).toLower = true → isBlank (Char.ofNat n) = true) := by
  decide

/-- A character in no run is its own lower case. -/
theorem lowerChar_of_not_contains {c : Char} (hdotted : c ≠ 'İ')
    (hruns : ∀ r ∈ lowerRuns, r.contains c.toNat = false) : lowerChar c = [c] := by
  rcases lowerChar_cases c with ⟨hbasic, hlower⟩ | ⟨hc, -⟩ | ⟨r, hr, hcontains, -⟩ | hlower
  · -- The capital letters of the basic alphabet are the first run.
    have hcapital := hruns ⟨0x0041, 0x005a, 1, 0x0061⟩ List.mem_cons_self
    have hbound : ¬ (c.val ≥ 'A'.val ∧ c.val ≤ 'Z'.val) := by
      rw [Bool.eq_false_iff, ne_eq, LowerRun.contains_iff] at hcapital
      intro hc
      exact hcapital ⟨hc.1, hc.2, Nat.mod_one _⟩
    have hsmall : c.toLower = c := dif_neg hbound
    rw [hlower, hsmall]
  · exact absurd hc hdotted
  · rw [hruns r hr] at hcontains
    contradiction
  · exact hlower

/-- What has become a small letter is its own lower case. -/
theorem lowerChar_of_mem_lowerChar {c d : Char} (h : d ∈ lowerChar c) : lowerChar d = [d] := by
  rcases lowerChar_cases c with
    ⟨hbasic, hlower⟩ | ⟨-, hlower⟩ | ⟨r, hr, hcontains, hlower⟩ | hlower
  · rw [hlower, List.mem_singleton] at h
    subst h
    have hsmall := toLower_basic c.toNat hbasic
    rw [Char.ofNat_toNat] at hsmall
    rw [lowerChar, if_pos hsmall.1, hsmall.2.1]
  · rw [hlower, List.mem_cons, List.mem_singleton] at h
    rcases h with rfl | rfl
    · decide
    · decide +kernel
  · rw [hlower, List.mem_singleton] at h
    subst h
    apply lowerChar_of_not_contains
    · intro hdotted
      have hapart := image_lt_or_lt hr hcontains (0x130, 0x130) List.mem_cons_self
      rw [← toNat_image hr hcontains, hdotted] at hapart
      exact absurd hapart (by decide)
    · intro s hs
      rw [toNat_image hr hcontains]
      exact contains_image hr hcontains hs
  · rw [hlower, List.mem_singleton] at h
    subst h
    exact hlower

/-- A character that is not blank has no blank in its lower case. -/
theorem isBlank_of_mem_lowerChar {c d : Char} (hc : isBlank c = false) (h : d ∈ lowerChar c) :
    isBlank d = false := by
  rcases lowerChar_cases c with
    ⟨hbasic, hlower⟩ | ⟨-, hlower⟩ | ⟨r, hr, hcontains, hlower⟩ | hlower
  · rw [hlower, List.mem_singleton] at h
    subst h
    have hsmall := (toLower_basic c.toNat hbasic).2.2
    rw [Char.ofNat_toNat, hc] at hsmall
    exact Bool.eq_false_iff.2 fun hblank => Bool.false_ne_true (hsmall hblank)
  · rw [hlower, List.mem_cons, List.mem_singleton] at h
    rcases h with rfl | rfl
    · decide
    · decide
  · rw [hlower, List.mem_singleton] at h
    subst h
    rw [isBlank, CodeRanges.contains, List.any_eq_false]
    intro range hrange
    have hapart := image_lt_or_lt hr hcontains range (by simp [barredRanges, hrange])
    rw [toNat_image hr hcontains]
    simp only [Bool.and_eq_true, decide_eq_true_eq]
    omega
  · rw [hlower, List.mem_singleton] at h
    subst h
    exact hc

/-! ## Places in a word -/

/-- The lower case of a character does not depend on its place, except for a sigma, which has
two small forms. -/
theorem lowerAt_cases (before : List Char) (c : Char) (after : List Char) :
    (c = 'Σ' ∧ (lowerAt before c after = ['ς'] ∨ lowerAt before c after = ['σ'])) ∨
      lowerAt before c after = lowerChar c := by
  unfold lowerAt
  split
  · rename_i hsigma
    left
    refine ⟨hsigma, ?_⟩
    split
    · exact Or.inl rfl
    · exact Or.inr rfl
  · exact Or.inr rfl

theorem lowerAt_ne_nil (before : List Char) (c : Char) (after : List Char) :
    lowerAt before c after ≠ [] := by
  rcases lowerAt_cases before c after with ⟨-, h | h⟩ | h
  · simp [h]
  · simp [h]
  · rcases lowerChar_cases c with ⟨-, hlower⟩ | ⟨-, hlower⟩ | ⟨_, -, -, hlower⟩ | hlower <;>
      simp [h, hlower]

theorem lowerChar_of_mem_lowerAt {before after : List Char} {c d : Char}
    (h : d ∈ lowerAt before c after) : lowerChar d = [d] := by
  rcases lowerAt_cases before c after with ⟨-, hsigma | hsigma⟩ | hplain
  · rw [hsigma, List.mem_singleton] at h
    subst h
    decide +kernel
  · rw [hsigma, List.mem_singleton] at h
    subst h
    decide +kernel
  · rw [hplain] at h
    exact lowerChar_of_mem_lowerChar h

theorem isBlank_of_mem_lowerAt {before after : List Char} {c d : Char} (hc : isBlank c = false)
    (h : d ∈ lowerAt before c after) : isBlank d = false := by
  rcases lowerAt_cases before c after with ⟨-, hsigma | hsigma⟩ | hplain
  · rw [hsigma, List.mem_singleton] at h
    subst h
    decide
  · rw [hsigma, List.mem_singleton] at h
    subst h
    decide
  · rw [hplain] at h
    exact isBlank_of_mem_lowerChar hc h

/-- A character that is its own lower case stays wherever it stands. -/
theorem lowerAt_of_lowerChar {c : Char} (h : lowerChar c = [c]) (before after : List Char) :
    lowerAt before c after = [c] := by
  have hsigma : c ≠ 'Σ' := by
    rintro rfl
    exact absurd h (by decide +kernel)
  rw [lowerAt, if_neg hsigma, h]

/-! ## Texts -/

theorem lowerChar_of_mem_lowerFrom {before cs : List Char} {d : Char}
    (h : d ∈ lowerFrom before cs) : lowerChar d = [d] := by
  induction cs generalizing before with
  | nil => simp [lowerFrom] at h
  | cons c cs ih =>
      rcases List.mem_append.1 h with h | h
      · exact lowerChar_of_mem_lowerAt h
      · exact ih h

/-- Characters that are their own lower case make a text that is its own lower case. -/
theorem lowerFrom_of_lowerChar {cs : List Char} (h : ∀ c ∈ cs, lowerChar c = [c])
    (before : List Char) : lowerFrom before cs = cs := by
  induction cs generalizing before with
  | nil => rfl
  | cons c cs ih =>
      have hc := lowerAt_of_lowerChar (h c List.mem_cons_self) before cs
      have hcs := ih (fun d hd => h d (List.mem_cons_of_mem c hd)) (c :: before)
      rw [lowerFrom, hc, hcs]
      rfl

/-- Letters of the basic alphabet are made small one by one. -/
theorem lowerFrom_of_basic {cs : List Char} (h : ∀ c ∈ cs, c.toNat < 0x80)
    (before : List Char) : lowerFrom before cs = cs.map Char.toLower := by
  induction cs generalizing before with
  | nil => rfl
  | cons c cs ih =>
      have hbasic : c.toNat < 0x80 := h c List.mem_cons_self
      have hsigma : c ≠ 'Σ' := by
        rintro rfl
        exact absurd hbasic (by decide)
      have hcs := ih (fun d hd => h d (List.mem_cons_of_mem c hd)) (c :: before)
      rw [lowerFrom, lowerAt, if_neg hsigma, lowerChar, if_pos hbasic, hcs]
      rfl

/-- A text in lower case is its own lower case. -/
theorem lowercase_lowercase (s : String) : lowercase (lowercase s) = lowercase s := by
  rw [lowercase, lowercase, String.toList_ofList]
  rw [lowerFrom_of_lowerChar fun _ => lowerChar_of_mem_lowerFrom]

/-! ## Blanks at the ends -/

/-- Neither the first nor the last character is blank. -/
structure Trimmed (cs : List Char) : Prop where
  head : ∀ c, cs.head? = some c → isBlank c = false
  last : ∀ c, cs.getLast? = some c → isBlank c = false

theorem dropWhile_isBlank_of_head {cs : List Char}
    (h : ∀ c, cs.head? = some c → isBlank c = false) : cs.dropWhile isBlank = cs := by
  cases cs with
  | nil => rfl
  | cons c cs => rw [List.dropWhile_cons, h c rfl, if_neg Bool.false_ne_true]

/-- Nothing is removed from characters without blanks at their ends. -/
theorem Trimmed.trimList {cs : List Char} (h : Trimmed cs) : trimList cs = cs := by
  have hlast : ∀ c, cs.reverse.head? = some c → isBlank c = false := by
    intro c hc
    rw [List.head?_reverse] at hc
    exact h.last c hc
  rw [Text.trimList, dropWhile_isBlank_of_head h.head, dropWhile_isBlank_of_head hlast,
    List.reverse_reverse]

theorem head_dropWhile_isBlank {cs : List Char} {c : Char}
    (h : (cs.dropWhile isBlank).head? = some c) : isBlank c = false := by
  have hnot := List.head?_dropWhile_not isBlank cs
  rw [h] at hnot
  exact hnot

/-- No blanks are left at the ends. -/
theorem trimmed_trimList (cs : List Char) : Trimmed (trimList cs) where
  head := by
    intro c hc
    -- The first character is still the one that was left after the blanks at the front.
    obtain ⟨dropped, hdropped⟩ :=
      List.dropWhile_suffix isBlank (l := (cs.dropWhile isBlank).reverse)
    have hfront : cs.dropWhile isBlank = trimList cs ++ dropped.reverse := by
      rw [trimList, ← List.reverse_append, hdropped, List.reverse_reverse]
    have hhead : (cs.dropWhile isBlank).head? = some c := by
      rw [hfront, List.head?_append, hc]
      rfl
    exact head_dropWhile_isBlank hhead
  last := by
    intro c hc
    rw [trimList, List.getLast?_reverse] at hc
    exact head_dropWhile_isBlank hc

/-- Blanks at the front are removed. -/
theorem trimList_append_left {left : List Char} (h : ∀ c ∈ left, isBlank c = true)
    (cs : List Char) : trimList (left ++ cs) = trimList cs := by
  rw [trimList, List.dropWhile_append_of_pos h, trimList]

/-- Blanks at the end are removed. -/
theorem trimList_append_right {right : List Char} (h : ∀ c ∈ right, isBlank c = true)
    (cs : List Char) : trimList (cs ++ right) = trimList cs := by
  have hreverse : ∀ c ∈ right.reverse, isBlank c = true := by
    intro c hc
    exact h c (List.mem_reverse.1 hc)
  have hright : right.dropWhile isBlank = [] := by
    rw [← right.append_nil, List.dropWhile_append_of_pos h, List.dropWhile_nil]
  rw [trimList, trimList, List.dropWhile_append]
  split
  · -- there are blanks only, on either side
    rename_i hempty
    rw [hright, List.isEmpty_iff.1 hempty]
  · rw [List.reverse_append, List.dropWhile_append_of_pos hreverse]

/-- What is removed are blanks at both ends. -/
theorem exists_append_trimList (cs : List Char) :
    ∃ left right, cs = left ++ trimList cs ++ right ∧ ∀ c ∈ left ++ right, isBlank c = true := by
  let rest := (cs.dropWhile isBlank).reverse
  refine ⟨cs.takeWhile isBlank, (rest.takeWhile isBlank).reverse, ?_, ?_⟩
  · rw [trimList, List.append_assoc, ← List.reverse_append, List.takeWhile_append_dropWhile,
      List.reverse_reverse, List.takeWhile_append_dropWhile]
  · intro c hc
    rcases List.mem_append.1 hc with hc | hc
    · exact List.all_eq_true.1 List.all_takeWhile c hc
    · exact List.all_eq_true.1 List.all_takeWhile c (List.mem_reverse.1 hc)

/-- A text consists of another one and of blanks around it, where the other one neither begins nor
ends with a blank. -/
structure Trims (s t : String) : Prop where
  around : ∃ left right, s.toList = left ++ t.toList ++ right ∧
    ∀ c ∈ left ++ right, isBlank c = true
  trimmed : Trimmed t.toList

/-- To trim a text is to take away the blanks around it. -/
theorem trim_eq_iff {s t : String} : trim s = t ↔ Trims s t := by
  constructor
  · rintro rfl
    rw [trim]
    constructor
    · rw [String.toList_ofList]
      exact exists_append_trimList s.toList
    · rw [String.toList_ofList]
      exact trimmed_trimList s.toList
  · rintro ⟨⟨left, right, hs, hblank⟩, htrimmed⟩
    have hleft : ∀ c ∈ left, isBlank c = true :=
      fun c hc => hblank c (List.mem_append_left right hc)
    have hright : ∀ c ∈ right, isBlank c = true :=
      fun c hc => hblank c (List.mem_append_right left hc)
    rw [trim, hs, trimList_append_right hright, trimList_append_left hleft, htrimmed.trimList,
      String.ofList_toList]

/-- The lower case of a text ends with that of its last character. -/
theorem lowerFrom_concat (before cs : List Char) (c : Char) :
    ∃ front, lowerFrom before (cs ++ [c]) = front ++ lowerAt (cs.reverse ++ before) c [] := by
  induction cs generalizing before with
  | nil => exact ⟨[], by simp [lowerFrom]⟩
  | cons d cs ih =>
      obtain ⟨front, hfront⟩ := ih (d :: before)
      refine ⟨lowerAt before d (cs ++ [c]) ++ front, ?_⟩
      simp [lowerFrom, hfront]

/-- Lower case keeps the ends free of blanks. -/
theorem Trimmed.lowerFrom {cs : List Char} (h : Trimmed cs) (before : List Char) :
    Trimmed (lowerFrom before cs) where
  head := by
    intro d hd
    cases cs with
    | nil => simp [Text.lowerFrom] at hd
    | cons c cs =>
        have hmem : d ∈ lowerAt before c cs := by
          have hne := lowerAt_ne_nil before c cs
          rw [Text.lowerFrom, List.head?_append, List.head?_eq_some_head hne, Option.some_or,
            Option.some.injEq] at hd
          exact hd ▸ List.head_mem hne
        exact isBlank_of_mem_lowerAt (h.head c rfl) hmem
  last := by
    intro d hd
    rcases List.eq_nil_or_concat cs with rfl | ⟨cs, c, rfl⟩
    · simp [Text.lowerFrom] at hd
    · rw [List.concat_eq_append] at h hd
      obtain ⟨front, hfront⟩ := lowerFrom_concat before cs c
      have hmem : d ∈ lowerAt (cs.reverse ++ before) c [] := by
        have hne := lowerAt_ne_nil (cs.reverse ++ before) c []
        rw [hfront, List.getLast?_append, List.getLast?_eq_some_getLast hne, Option.some_or,
          Option.some.injEq] at hd
        exact hd ▸ List.getLast_mem hne
      exact isBlank_of_mem_lowerAt (h.last c List.getLast?_concat) hmem

/-- The lower case of a text without blanks at its ends has no blanks at its ends. -/
theorem trim_lowercase_trim (s : String) :
    trim (lowercase (trim s)) = lowercase (trim s) := by
  have h := (trimmed_trimList s.toList).lowerFrom []
  rw [trim, lowercase, trim, String.toList_ofList, String.toList_ofList, h.trimList]

/-- Removing blanks and making letters small a second time changes nothing. -/
theorem lowercase_trim_lowercase_trim (s : String) :
    lowercase (trim (lowercase (trim s))) = lowercase (trim s) := by
  rw [trim_lowercase_trim, lowercase_lowercase]

end Provenance.Text
