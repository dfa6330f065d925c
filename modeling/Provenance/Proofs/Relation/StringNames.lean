import Provenance.Proofs.Relation.FieldNames
import Provenance.Proofs.Relation.Levels

/-!
# Names are strings

A row of a document may hold any value in place of a name.  A table can only be named by a string.
For a field any value is taken by its text, which then has to pass the rules for field names.
This module shows that the text of a value that is no string never passes them: a list or an
object shows its bracket, a number that is no integer a point or the sign of its exponent, a
negative integer its minus, and any other integer is a plain number; the words that are left over
are reserved.

Nothing else is used of the texts.  What they have to look like is said in `Json.Prints`, of any
printer of values, and the compact texts are then shown to look so.

Main results:

- Theorem `FieldName.improper_of_prints`: whatever the printer, the text of a value that is no
  string is no field name.
- Theorem `Json.prints_compact`: compact texts look as they have to.
- Theorem `RawRelation.namedByStrings_of_check`: a row that passes the check is named by strings.
-/

namespace Provenance

/-! ## What trimming and small letters leave alone -/

namespace Text

/-- A character that is not blank is still there when the blanks at the ends are removed. -/
theorem mem_trimList {cs : List Char} {c : Char} (hc : c ∈ cs) (hblank : isBlank c = false) :
    c ∈ trimList cs := by
  obtain ⟨left, right, hcs, hblanks⟩ := exists_append_trimList cs
  have hnot : c ∉ left ++ right := by
    intro hmem
    rw [hblanks c hmem] at hblank
    contradiction
  have hmem : c ∈ left ++ trimList cs ++ right := hcs ▸ hc
  simp only [List.mem_append] at hmem hnot
  grind

/-- A character that is its own lower case is still there in the lower case of the text. -/
theorem mem_lowerFrom {cs : List Char} {c : Char} (hc : c ∈ cs) (hlower : lowerChar c = [c])
    (before : List Char) : c ∈ lowerFrom before cs := by
  induction cs generalizing before with
  | nil => contradiction
  | cons d cs ih =>
      rw [lowerFrom, List.mem_append]
      rcases List.mem_cons.1 hc with rfl | hc
      · left
        rw [lowerAt_of_lowerChar hlower]
        exact List.mem_singleton_self c
      · exact Or.inr (ih hc (d :: before))

/-- Characters that are neither blank nor capital stay as they are. -/
theorem lowercase_trim_of_plain {s : String}
    (h : ∀ c ∈ s.toList, isBlank c = false ∧ lowerChar c = [c]) : lowercase (trim s) = s := by
  have htrimmed : Trimmed s.toList := by
    constructor
    · intro c hc
      exact (h c (List.mem_of_head? hc)).1
    · intro c hc
      exact (h c (List.mem_of_getLast? hc)).1
  rw [lowercase, trim, String.toList_ofList, htrimmed.trimList,
    lowerFrom_of_lowerChar fun c hc => (h c hc).2, String.ofList_toList]

/-- Basic digits are neither blank nor capital. -/
theorem plain_of_isDigit {c : Char} (h : c.isDigit = true) :
    isBlank c = false ∧ lowerChar c = [c] := by
  have hdigits : ∀ n ≤ '9'.toNat, '0'.toNat ≤ n →
      isBlank (Char.ofNat n) = false ∧ lowerChar (Char.ofNat n) = [Char.ofNat n] := by
    decide
  rw [Char.isDigit_iff_toNat] at h
  have hdigit := hdigits c.toNat h.2 h.1
  rwa [Char.ofNat_toNat] at hdigit

end Text

/-! ## Texts of values that are no strings -/

namespace Json

/-- What the texts of a printer have to look like to be told from names of fields.  The empty value
and the truth values are words, an integer is an optional minus and digits, any other number shows
a point or a sign unless it has no value, and lists and objects show their brackets. -/
structure Prints (print : Json → String) : Prop where
  null : print .null = "null"
  bool : ∀ b, print (.bool b) = if b then "true" else "false"
  int : ∀ z, ∃ digits : List Char, digits ≠ [] ∧ (∀ c ∈ digits, c.isDigit = true) ∧
    ((print (.num (.int z))).toList = digits ∨ (print (.num (.int z))).toList = '-' :: digits)
  real : ∀ x, print (.num (.real x)) = "null" ∨
    ∃ c ∈ ['.', '+', '-'], c ∈ (print (.num (.real x))).toList
  arr : ∀ items, '[' ∈ (print (.arr items)).toList
  obj : ∀ fields, '\x7b' ∈ (print (.obj fields)).toList

/-- A fraction in positional notation has a point. -/
theorem point_mem_positional {d : Decimal.Digits} (h : d.exponent < 0) :
    '.' ∈ d.positional := by
  unfold Decimal.Digits.positional
  split
  · rename_i e hexponent
    rw [hexponent] at h
    exact absurd h (Int.not_lt.2 (Int.natCast_nonneg e))
  · simp

/-- In scientific notation the exponent has a sign. -/
theorem exists_sign_mem_scientific (d : Decimal.Digits) :
    ∃ c ∈ ['.', '+', '-'], c ∈ d.scientific := by
  refine ⟨if d.power < 0 then '-' else '+', ?_, ?_⟩
  · split <;> decide
  · exact List.mem_append_right _ (List.mem_cons_of_mem _ List.mem_cons_self)

/-- A number that is no integer has a point or a sign in its text. -/
theorem exists_sign_mem_realDigits (d : Decimal.Digits) :
    ∃ c ∈ ['.', '+', '-'], c ∈ realDigits d := by
  unfold realDigits
  split
  · exact ⟨'.', by decide, by decide⟩
  · split
    · refine ⟨'.', by decide, ?_⟩
      split
      · rename_i hfraction
        exact point_mem_positional hfraction
      · simp
    · exact exists_sign_mem_scientific d

/-- Compact texts look as they have to. -/
theorem prints_compact : Prints compact where
  null := by decide +kernel
  bool := by decide +kernel
  int := by
    intro z
    have hdigits (n : Nat) : Nat.toDigits 10 n ≠ [] ∧ ∀ c ∈ Nat.toDigits 10 n, c.isDigit = true :=
      ⟨Nat.toDigits_ne_nil, fun c hc => Nat.isDigit_of_mem_toDigits (by decide) (by decide) hc⟩
    cases z with
    | ofNat n => exact ⟨_, (hdigits n).1, (hdigits n).2, Or.inl String.toList_ofList⟩
    | negSucc n => exact ⟨_, (hdigits (n + 1)).1, (hdigits (n + 1)).2, Or.inr String.toList_ofList⟩
  real := by
    intro x
    rw [compact, String.toList_ofList, chars, Number.text, realText]
    split
    · obtain ⟨c, hsign, hc⟩ := exists_sign_mem_realDigits _
      exact Or.inr ⟨c, hsign, List.mem_append_right _ hc⟩
    · exact Or.inl (by decide +kernel)
  arr := by simp [compact, chars]
  obj := by simp [compact, chars]

end Json

/-! ## Fields -/

namespace FieldName

/-- What the characters of a field name are. -/
theorem mem_of_isValid {field : String} (h : isValid field = true) {c : Char}
    (hc : c ∈ field.toList) : isRunChar c = true ∨ c = '_' ∨ c = '*' := by
  rcases isValid_iff_tests.1 h with rfl | ⟨hsnake, -⟩
  · exact Or.inr (Or.inr (List.mem_singleton.1 hc))
  · rcases mem_of_isSnake hsnake hc with hrun | hunderscore
    · exact Or.inl hrun
    · exact Or.inr (Or.inl hunderscore)

/-- A text that stands for something, but not for a proper field name. -/
structure Improper (text : String) : Prop where
  ne_empty : text ≠ ""
  not_valid : ¬ isValid text = true

/-- The characters that tell the text of a value from the name of a field: those that begin a list
or an object, and those that only numbers hold. -/
def marks : List Char := ['[', '\x7b', '.', '+', '-']

/-- Marks are neither blank nor capital, and no field name holds one. -/
theorem mark_spec : ∀ c ∈ marks,
    (Text.isBlank c = false ∧ Text.lowerChar c = [c]) ∧
      isRunChar c = false ∧ c ≠ '_' ∧ c ≠ '*' := by
  -- only the marks are tried out, not all characters
  intro c hc
  simp only [marks, List.mem_cons, List.not_mem_nil, or_false] at hc
  rcases hc with rfl | rfl | rfl | rfl | rfl <;> decide

/-- A text with a mark is improper, also without blanks at its ends and in small letters. -/
theorem improper_of_mark {text : String} {c : Char} (hmark : c ∈ marks)
    (hc : c ∈ text.toList) : Improper (Text.lowercase (Text.trim text)) := by
  obtain ⟨⟨hblank, hlower⟩, hrun, hunderscore, hstar⟩ := mark_spec c hmark
  have hmem : c ∈ (Text.lowercase (Text.trim text)).toList := by
    rw [Text.lowercase, Text.trim, String.toList_ofList, String.toList_ofList]
    exact Text.mem_lowerFrom (Text.mem_trimList hc hblank) hlower []
  constructor
  · intro hempty
    rw [hempty] at hmem
    exact List.not_mem_nil hmem
  · intro hvalid
    rcases mem_of_isValid hvalid hmem with hrun' | hunderscore' | hstar'
    · exact Bool.false_ne_true (hrun.symm.trans hrun')
    · exact hunderscore hunderscore'
    · exact hstar hstar'

/-- The words for values are reserved. -/
theorem improper_of_word {word : String} (h : word ∈ ["null", "true", "false"]) :
    Improper (Text.lowercase (Text.trim word)) := by
  simp only [List.mem_cons, List.not_mem_nil, or_false] at h
  rcases h with rfl | rfl | rfl <;> exact ⟨by decide +kernel, by decide +kernel⟩

/-- Basic digits alone are improper. -/
theorem improper_of_isDigit {text : String} (hne : text.toList ≠ [])
    (h : ∀ c ∈ text.toList, c.isDigit = true) :
    Improper (Text.lowercase (Text.trim text)) := by
  rw [Text.lowercase_trim_of_plain fun c hc => Text.plain_of_isDigit (h c hc)]
  refine ⟨by simpa using hne, ?_⟩
  intro hvalid
  rcases isValid_iff_tests.1 hvalid with rfl | ⟨hsnake, -, hnumeral⟩
  · exact absurd (h '*' (by decide)) (by decide)
  · rw [(isNumeral_iff_of_isSnake hsnake).2 h] at hnumeral
    contradiction

/-- Whatever the printer, the text of a value that is no string is improper. -/
theorem improper_of_prints {print : Json → String} (prints : Json.Prints print) {value : Json}
    (h : ∀ s, value ≠ .str s) : Improper (Text.lowercase (Text.trim (print value))) := by
  have hnull : Improper (Text.lowercase (Text.trim "null")) := improper_of_word (by decide)
  cases value with
  | null =>
      rw [prints.null]
      exact hnull
  | bool b =>
      rw [prints.bool]
      cases b with
      | true => exact improper_of_word (by decide)
      | false => exact improper_of_word (by decide)
  | num n =>
      cases n with
      | int z =>
          obtain ⟨digits, hne, hdigits, htext | htext⟩ := prints.int z
          · rw [← htext] at hne hdigits
            exact improper_of_isDigit hne hdigits
          · exact improper_of_mark (c := '-') (by decide) (by simp [htext])
      | real x =>
          rcases prints.real x with hword | ⟨c, hsign, hc⟩
          · rw [hword]
            exact hnull
          · have hmark : c ∈ marks := List.mem_cons_of_mem _ (List.mem_cons_of_mem _ hsign)
            exact improper_of_mark hmark hc
  | str s => exact absurd rfl (h s)
  | arr items => exact improper_of_mark (by decide) (prints.arr items)
  | obj fields => exact improper_of_mark (by decide) (prints.obj fields)

/-- Whatever stands in place of a field name is missing or a string, or it stands for an improper
name. -/
theorem ofValue_cases (value : Option Json) :
    (value = none ∨ value = some .null) ∨ (∃ s, value = some (.str s)) ∨
      ∃ field, ofValue value = some field ∧ Improper field := by
  cases value with
  | none => exact Or.inl (Or.inl rfl)
  | some value =>
      have hother (h : ∀ s, value ≠ .str s)
          (hvalue : ofValue (some value) =
            nonempty? (Text.lowercase (Text.trim value.compact))) :
          ∃ field, ofValue (some value) = some field ∧ Improper field := by
        have himproper := improper_of_prints Json.prints_compact h
        refine ⟨_, ?_, himproper⟩
        rw [hvalue]
        exact nonempty?_eq_some.2 ⟨rfl, by simpa using himproper.ne_empty⟩
      cases value with
      | null => exact Or.inl (Or.inr rfl)
      | str s => exact Or.inr (Or.inl ⟨s, rfl⟩)
      | _ => exact Or.inr (Or.inr (hother (by simp) rfl))

/-- Only a string stands for a proper field name. -/
theorem exists_str_of_isValid {value : Option Json} {field : String}
    (h : ofValue value = some field) (hvalid : isValid field = true) :
    ∃ s, value = some (.str s) := by
  rcases ofValue_cases value with (rfl | rfl) | hstring | ⟨name, hname, himproper⟩
  · simp [ofValue] at h
  · simp [ofValue] at h
  · exact hstring
  · rw [hname, Option.some.injEq] at h
    subst h
    exact absurd hvalid himproper.not_valid

end FieldName

/-- Only a string stands for a table name that is allowed. -/
theorem TableName.exists_str_of_isAllowed {value : Option Json}
    (h : isAllowed (ofValue value) = true) : ∃ s, value = some (.str s) := by
  unfold ofValue at h
  split at h
  · exact ⟨_, rfl⟩
  · exact absurd h (by decide)

/-! ## Rows -/

/-- The names in a row are strings.  At table level the source field may be missing. -/
structure RawRelation.NamedByStrings (level : Level) (raw : RawRelation) : Prop where
  sourceTable : ∃ s, raw.sourceTable = some (.str s)
  targetTable : ∃ s, raw.targetTable = some (.str s)
  targetField : ∃ s, raw.targetField = some (.str s)
  sourceField : (∃ s, raw.sourceField = some (.str s)) ∨
    (level = .tables ∧ (raw.sourceField = none ∨ raw.sourceField = some .null))

/-- A row that passes the check is named by strings. -/
theorem RawRelation.namedByStrings_of_check {level : Level} {raw : RawRelation} {r : Relation}
    (h : raw.check level = .ok r) : raw.NamedByStrings level := by
  obtain ⟨⟨htarget, hsource, hrule⟩, ⟨rt, rs, rf, rg⟩, -⟩ := check_eq_ok_iff.1 h
  have htables : brokenFieldRule? .tables r.targetField r.sourceField = none := by
    cases level with
    | tables => exact hrule
    | fields => exact (brokenFieldRule?_fields_eq_none_iff.1 hrule).1
  obtain ⟨htargetField, hsourceField⟩ := brokenFieldRule?_tables_eq_none_iff.1 htables
  refine ⟨?_, ?_, FieldName.exists_str_of_isValid rf htargetField, ?_⟩
  · rw [← rs] at hsource
    exact TableName.exists_str_of_isAllowed hsource
  · rw [← rt] at htarget
    exact TableName.exists_str_of_isAllowed htarget
  · rcases FieldName.ofValue_cases raw.sourceField with hmissing | hstring | hname
    · right
      refine ⟨?_, hmissing⟩
      cases level with
      | tables => rfl
      | fields =>
          -- at field level there is a source field, and a missing value stands for none
          obtain ⟨-, -, field, hfield, -⟩ := brokenFieldRule?_fields_eq_none_iff.1 hrule
          rw [← rg] at hfield
          rcases hmissing with hmissing | hmissing <;> simp [hmissing, FieldName.ofValue] at hfield
    · exact Or.inl hstring
    · obtain ⟨field, hfield, himproper⟩ := hname
      exact absurd (hsourceField field (rg.symm.trans hfield)) himproper.not_valid

/-- Only strings survive as names.  Whatever rows stand around it, a row that leaves a relation
behind is named by strings; and the text of a value that is no string is never taken for the name
of a field. -/
theorem only_strings_kept_as_names (level : Level) :
    (∀ (before : List RawRelation) (raw : RawRelation) (after : List RawRelation),
      (sanitize level (before ++ raw :: after)).relations ≠
        (sanitize level (before ++ after)).relations → raw.NamedByStrings level) ∧
    ∀ (value : Json) (field : String), FieldName.ofValue (some value) = some field →
      FieldName.isValid field = true → ∃ s, value = .str s := by
  constructor
  · intro before raw after kept
    cases hcheck : raw.check level with
    | ok r => exact RawRelation.namedByStrings_of_check hcheck
    | error reason =>
        refine absurd ?_ kept
        simp [relations_sanitize, hcheck, Except.toOption]
  · intro value field hfield hvalid
    obtain ⟨s, hs⟩ := FieldName.exists_str_of_isValid hfield hvalid
    exact ⟨s, Option.some.inj hs⟩

/-- The double `10 ^ 16`, whose text has an exponent. -/
def tenToSixteen : Json := .num (.real (.ofBits 0x4341c37937e08000))

/-- A row with a number in place of its target field. -/
def rowWithNumber : RawRelation :=
  { RawRelation.ofFields "s_bani.a" "id" "resultados.b" "" with targetField := some tenToSixteen }

/-- A row with a null in place of its source field. -/
def rowWithNull : RawRelation :=
  { RawRelation.ofFields "s_bani.a" "" "resultados.b" "id" with sourceField := some .null }

/-- The row with the null is kept at table level beside the one with the number, which leaves
nothing behind: the sign in the exponent keeps its text from being a name. -/
theorem only_strings_kept_beside_number :
    (sanitize .tables [rowWithNumber, rowWithNull]).relations ≠
      (sanitize .tables [rowWithNumber]).relations ∧
    rowWithNull.NamedByStrings .tables ∧
    FieldName.ofValue (some tenToSixteen) = some "1e+16" ∧
    FieldName.isValid "1e+16" = false := by
  have hkept : (sanitize .tables [rowWithNumber, rowWithNull]).relations ≠
      (sanitize .tables [rowWithNumber]).relations := by
    decide +kernel
  have htext : FieldName.ofValue (some tenToSixteen) = some "1e+16" := by
    decide +kernel
  obtain ⟨hrows, hvalues⟩ := only_strings_kept_as_names .tables
  refine ⟨hkept, hrows [rowWithNumber] rowWithNull [] hkept, htext, ?_⟩
  apply Bool.eq_false_iff.2
  intro hvalid
  obtain ⟨s, hs⟩ := hvalues tenToSixteen "1e+16" htext hvalid
  exact Json.noConfusion hs

end Provenance
