import Mathlib.Data.List.TakeWhile
import Provenance.Proofs.Relation.Kept

/-!
# The grammar of field names

Whether a text names a field is decided by a row of tests, which look for an empty text, a whole
table, a reserved word, a number in the digits of any script and a star before they come to the
runs joined by underscores.  What the tests refuse overlaps.  This module shows what is left over
when all of them have been passed: joined runs that are neither reserved nor made of basic digits
alone.

Main results:

- Theorem `FieldName.isSnake_iff`: the last test takes the runs joined by single underscores.
- Theorem `FieldName.isNumeral_iff_of_isSnake`: joined runs are a number exactly if they are made
  of basic digits alone.
- Theorem `FieldName.isValid_iff_tests`: the tests that matter.
- Theorem `FieldName.isValid_iff_grammar`: which texts name a field.
-/

namespace Provenance

namespace FieldName

/-! ## Runs joined by underscores -/

/-- A run: small letters and digits of the basic alphabet, at least one of them. -/
def IsRun (run : String) : Prop :=
  run ≠ "" ∧ ∀ c ∈ run.toList, c.isLower = true ∨ c.isDigit = true

theorem isRunChar_iff {c : Char} :
    isRunChar c = true ↔ c.isLower = true ∨ c.isDigit = true := by
  have hrun : isRunChar c = (c.isLower || c.isDigit) := rfl
  rw [hrun, Bool.or_eq_true]

theorem isRun_iff {run : String} :
    IsRun run ↔ run.toList ≠ [] ∧ ∀ c ∈ run.toList, isRunChar c = true := by
  simp [IsRun, isRunChar_iff]

/-- After a run the scan goes on within it. -/
theorem isSnake_append {run : List Char} (hne : run ≠ [])
    (hrun : ∀ c ∈ run, isRunChar c = true) (inRun : Bool) (cs : List Char) :
    isSnake inRun (run ++ cs) = isSnake true cs := by
  induction run generalizing inRun with
  | nil => contradiction
  | cons c run ih =>
      obtain ⟨hc, hrun⟩ := List.forall_mem_cons.1 hrun
      rw [List.cons_append, isSnake, if_pos hc]
      cases run with
      | nil => rfl
      | cons d run => exact ih (List.cons_ne_nil d run) hrun true

/-- Within a run, more runs may follow, each of them behind an underscore. -/
theorem isSnake_flatMap {runs : List (List Char)}
    (hruns : ∀ run ∈ runs, run ≠ [] ∧ ∀ c ∈ run, isRunChar c = true) :
    isSnake true (runs.flatMap fun run => '_' :: run) = true := by
  induction runs with
  | nil => rfl
  | cons run runs ih =>
      obtain ⟨⟨hne, hrun⟩, hruns⟩ := List.forall_mem_cons.1 hruns
      have hunderscore : ¬ isRunChar '_' = true := by decide
      rw [List.flatMap_cons, List.cons_append, isSnake, if_neg hunderscore,
        isSnake_append hne hrun, ih hruns]
      rfl

/-- What the scan takes is the rest of the run that has begun and more runs behind underscores;
if no run has begun, this rest is a run itself. -/
theorem exists_runs_of_isSnake {inRun : Bool} {cs : List Char} (h : isSnake inRun cs = true) :
    ∃ (first : List Char) (runs : List (List Char)),
      (inRun = false → first ≠ []) ∧ (∀ c ∈ first, isRunChar c = true) ∧
        (∀ run ∈ runs, run ≠ [] ∧ ∀ c ∈ run, isRunChar c = true) ∧
        cs = first ++ runs.flatMap fun run => '_' :: run := by
  induction cs generalizing inRun with
  | nil =>
      refine ⟨[], [], ?_, by simp, by simp, rfl⟩
      rintro rfl
      contradiction
  | cons c cs ih =>
      by_cases hc : isRunChar c = true
      · rw [isSnake, if_pos hc] at h
        obtain ⟨first, runs, -, hfirst, hruns, rfl⟩ := ih h
        exact ⟨c :: first, runs, by simp, List.forall_mem_cons.2 ⟨hc, hfirst⟩, hruns, rfl⟩
      · rw [isSnake, if_neg hc] at h
        simp only [Bool.and_eq_true, beq_iff_eq] at h
        obtain ⟨⟨rfl, hrun⟩, hrest⟩ := h
        obtain ⟨first, runs, hstart, hfirst, hruns, rfl⟩ := ih hrest
        exact ⟨[], first :: runs, by simp [hrun], by simp,
          List.forall_mem_cons.2 ⟨⟨hstart rfl, hfirst⟩, hruns⟩, rfl⟩

theorem toList_intercalate_underscore (first : String) (runs : List String) :
    ("_".intercalate (first :: runs)).toList =
      first.toList ++ (runs.map String.toList).flatMap fun run => '_' :: run := by
  induction runs generalizing first with
  | nil => simp
  | cons run runs ih =>
      rw [String.intercalate_cons_cons, String.toList_append, ih]
      simp

/-- The scan takes a text exactly if it is made of one or more runs joined by single
underscores. -/
theorem isSnake_iff {field : String} :
    isSnake false field.toList = true ↔
      ∃ runs : List String, runs ≠ [] ∧ (∀ run ∈ runs, IsRun run) ∧
        field = "_".intercalate runs := by
  constructor
  · intro h
    obtain ⟨first, runs, hstart, hfirst, hruns, hfield⟩ := exists_runs_of_isSnake h
    refine ⟨String.ofList first :: runs.map String.ofList, by simp, ?_, ?_⟩
    · refine List.forall_mem_cons.2 ⟨?_, List.forall_mem_map.2 ?_⟩
      · rw [isRun_iff, String.toList_ofList]
        exact ⟨hstart rfl, hfirst⟩
      · intro run hmem
        rw [isRun_iff, String.toList_ofList]
        exact hruns run hmem
    · rw [← String.toList_inj, toList_intercalate_underscore, hfield, List.map_map]
      simp
  · rintro ⟨runs, hne, hruns, rfl⟩
    obtain ⟨first, runs, rfl⟩ := List.exists_cons_of_ne_nil hne
    obtain ⟨hfirst, hruns⟩ := List.forall_mem_cons.1 hruns
    rw [isRun_iff] at hfirst
    rw [toList_intercalate_underscore, isSnake_append hfirst.1 hfirst.2]
    apply isSnake_flatMap
    rw [List.forall_mem_map]
    intro run hmem
    exact isRun_iff.1 (hruns run hmem)

/-- No other characters stand in joined runs. -/
theorem not_mem_of_isSnake {cs : List Char} (h : isSnake false cs = true) {c : Char}
    (hc : isRunChar c = false) (hunderscore : c ≠ '_') : c ∉ cs := by
  intro hmem
  rcases mem_of_isSnake h hmem with hrun | heq
  · exact Bool.false_ne_true (hc.symm.trans hrun)
  · exact hunderscore heq

/-! ## Numbers -/

/-- Without a minus and a point, a number is one or more digits of any script. -/
theorem isNumeral_iff_of_not_mem {cs : List Char} (hminus : '-' ∉ cs) (hpoint : '.' ∉ cs) :
    isNumeral cs = true ↔ cs ≠ [] ∧ ∀ c ∈ cs, Text.isDecimalDigit c = true := by
  have hunsigned : ∀ rest, cs = '-' :: rest → False := by
    rintro rest rfl
    exact hminus List.mem_cons_self
  -- `hunsigned` lets the sign be passed over
  simp only [isNumeral]
  split
  · rename_i hdrop
    have hwhole : cs.takeWhile Text.isDecimalDigit = cs := by
      have hsplit := List.takeWhile_append_dropWhile (p := Text.isDecimalDigit) (l := cs)
      rwa [hdrop, List.append_nil] at hsplit
    rw [hwhole]
    simp [isDigits]
  · rename_i fraction hdrop
    have hmem : '.' ∈ cs.dropWhile Text.isDecimalDigit := by simp [hdrop]
    exact absurd ((List.dropWhile_sublist _).subset hmem) hpoint
  · rename_i hdrop _
    simp only [Bool.false_eq_true, false_iff, not_and]
    intro _ hdigits
    exact hdrop (List.dropWhile_eq_nil_iff.2 hdigits)

/-- The digits of any script that may stand in joined runs are the basic ones. -/
theorem isDecimalDigit_iff_of_snakeChar {c : Char} (h : isRunChar c = true ∨ c = '_') :
    Text.isDecimalDigit c = true ↔ c.isDigit = true := by
  have hbasic : ∀ n < 0x80,
      Text.isDecimalDigit (Char.ofNat n) = true ↔ (Char.ofNat n).isDigit = true := by
    decide +kernel
  have hbound : c.toNat < 0x80 := by
    rcases h with hrun | rfl
    · have hz : c.toNat ≤ 'z'.toNat := by
        simp only [isRunChar, Bool.or_eq_true, Bool.and_eq_true, decide_eq_true_eq] at hrun
        rcases hrun with hletter | hdigit
        · exact hletter.2
        · exact Nat.le_trans hdigit.2 (by decide)
      exact Nat.lt_of_le_of_lt hz (by decide)
    · decide
  have hdigit := hbasic c.toNat hbound
  rwa [Char.ofNat_toNat] at hdigit

/-- Joined runs are a number exactly if they are made of basic digits alone. -/
theorem isNumeral_iff_of_isSnake {cs : List Char} (h : isSnake false cs = true) :
    isNumeral cs = true ↔ ∀ c ∈ cs, c.isDigit = true := by
  have hne : cs ≠ [] := by
    rintro rfl
    contradiction
  have hminus : '-' ∉ cs := not_mem_of_isSnake h (by decide) (by decide)
  have hpoint : '.' ∉ cs := not_mem_of_isSnake h (by decide) (by decide)
  rw [isNumeral_iff_of_not_mem hminus hpoint]
  constructor
  · rintro ⟨-, hdigits⟩ c hc
    exact (isDecimalDigit_iff_of_snakeChar (mem_of_isSnake h hc)).1 (hdigits c hc)
  · intro hdigits
    refine ⟨hne, ?_⟩
    intro c hc
    exact (isDecimalDigit_iff_of_snakeChar (mem_of_isSnake h hc)).2 (hdigits c hc)

/-! ## All tests together -/

/-- A text names a field if it stands for a whole table, or if it is made of joined runs and is
neither reserved nor a number.  The tests for an empty text and for stars refuse nothing more. -/
theorem isValid_iff_tests {field : String} :
    isValid field = true ↔
      field = wholeTable ∨
        (isSnake false field.toList = true ∧ isReserved field = false ∧
          isNumeral field.toList = false) := by
  unfold isValid
  split
  · rename_i hempty
    have hfield : field = "" := by simpa using hempty
    subst hfield
    decide
  · split
    · rename_i hwhole
      simp [hwhole]
    · rename_i hwhole
      split
      · rename_i hreserved
        simp [hwhole, hreserved]
      · rename_i hreserved
        split
        · rename_i hnumeral
          simp [hwhole, hnumeral]
        · rename_i hnumeral
          split
          · rename_i hstar
            have hsnake : isSnake false field.toList = false := by
              apply Bool.eq_false_iff.2
              intro hsnake
              exact not_mem_of_isSnake hsnake (by decide) (by decide)
                (List.contains_iff_mem.1 hstar)
            simp [hwhole, hsnake]
          · simp [hwhole, hreserved, hnumeral]

/-- Which texts name a field: the star that stands for a whole table, and one or more runs of small
letters and digits joined by single underscores, if they are no reserved word and not made of
digits alone. -/
theorem isValid_iff_grammar (field : String) :
    isValid field = true ↔
      field = "*" ∨
        ((∃ runs : List String, runs ≠ [] ∧ (∀ run ∈ runs, IsRun run) ∧
            field = "_".intercalate runs) ∧
          field ∉ reservedWords ∧ ∃ c ∈ field.toList, c.isDigit = false) := by
  have hreserved : isReserved field = false ↔ field ∉ reservedWords := by
    simp [isReserved]
  rw [isValid_iff_tests, ← isSnake_iff, hreserved]
  apply or_congr Iff.rfl
  apply and_congr_right
  intro hsnake
  apply and_congr Iff.rfl
  rw [Bool.eq_false_iff, ne_eq, isNumeral_iff_of_isSnake hsnake]
  simp

-- an underscore between digits makes the difference
example : isValid "2024_10" = true ∧ isValid "202410" = false := by decide +kernel

end FieldName

end Provenance
