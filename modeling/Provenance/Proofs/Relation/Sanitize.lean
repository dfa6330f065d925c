import Provenance.Proofs.Text.Lowercase
import Provenance.Relation.Sanitize

/-!
# Proper relations stay proper

A row of a document becomes a relation if its names keep to the rules, and the relation has
the names in the form that they are compared in.  Written back into a document and read
again, such a relation has to come out as it went in.  This module shows that it does.

Main results:

- Theorem `RawRelation.check_eq_ok_iff`: which rows give which relations.
- Theorem `relations_sanitize`: the relations of all rows that give one are kept.
- Theorem `Relation.check_toRaw`: a relation that has passed the rules passes them again and
  keeps all its attributes.
-/

namespace Provenance

/-! ## Names -/

namespace TableName

/-- A table name that a value stands for is the trimmed lower case of some text. -/
theorem exists_eq_ofValue (value : Option Json) :
    ∃ s, Text.lowercase (Text.trim s) = ofValue value := by
  unfold ofValue
  split
  · exact ⟨_, rfl⟩
  · exact ⟨"", by simp [Text.trim, Text.trimList, Text.lowercase, Text.lowerFrom]⟩

/-- A table name that a value stands for stands for itself. -/
theorem ofValue_ofValue (value : Option Json) :
    ofValue (some (.str (ofValue value))) = ofValue value := by
  obtain ⟨s, hs⟩ := exists_eq_ofValue value
  rw [← hs]
  exact Text.lowercase_trim_lowercase_trim s

end TableName

namespace FieldName

theorem nonempty?_eq_some {s field : String} :
    nonempty? s = some field ↔ s = field ∧ field.isEmpty = false := by
  unfold nonempty?
  split
  · rename_i hempty
    simp only [reduceCtorEq, false_iff]
    rintro ⟨rfl, hne⟩
    rw [hempty] at hne
    contradiction
  · rename_i hne
    constructor
    · rintro ⟨⟩
      exact ⟨rfl, Bool.eq_false_iff.2 hne⟩
    · rintro ⟨rfl, -⟩
      rfl

/-- A field name that a value stands for is the trimmed lower case of some text, and it is
not empty. -/
theorem ofValue_eq_some {value : Option Json} {field : String}
    (h : ofValue value = some field) :
    (∃ s, Text.lowercase (Text.trim s) = field) ∧ field.isEmpty = false := by
  unfold ofValue at h
  split at h
  · contradiction
  · contradiction
  · obtain ⟨hfield, hne⟩ := nonempty?_eq_some.1 h
    exact ⟨⟨_, hfield⟩, hne⟩
  · obtain ⟨hfield, hne⟩ := nonempty?_eq_some.1 h
    exact ⟨⟨_, hfield⟩, hne⟩

/-- A field name that a value stands for stands for itself. -/
theorem ofValue_str {value : Option Json} {field : String} (h : ofValue value = some field) :
    ofValue (some (.str field)) = some field := by
  obtain ⟨⟨s, rfl⟩, hne⟩ := ofValue_eq_some h
  exact nonempty?_eq_some.2 ⟨Text.lowercase_trim_lowercase_trim s, hne⟩

/-- A value that stands for no field name may be left out. -/
theorem ofValue_map_str (value : Option Json) :
    ofValue ((ofValue value).map .str) = ofValue value := by
  cases h : ofValue value with
  | none => rfl
  | some field => exact ofValue_str h

end FieldName

theorem Json.bind_text?_map_str (text : Option String) :
    (text.map Json.str).bind Json.text? = text := by
  cases text <;> rfl

/-! ## Rows -/

/-- Which rows give which relations: the tables are allowed, there is a target field, the
fields break no rule of the level, and the relation has the names and the texts of the row. -/
theorem RawRelation.check_eq_ok_iff {level : Level} {raw : RawRelation} {r : Relation} :
    raw.check level = .ok r ↔
      (TableName.isAllowed r.targetTable = true ∧ TableName.isAllowed r.sourceTable = true ∧
        brokenFieldRule? level r.targetField r.sourceField = none) ∧
      (TableName.ofValue raw.targetTable = r.targetTable ∧
        TableName.ofValue raw.sourceTable = r.sourceTable ∧
        FieldName.ofValue raw.targetField = some r.targetField ∧
        FieldName.ofValue raw.sourceField = r.sourceField) ∧
      raw.transformation.bind Json.text? = r.transformation ∧
      raw.recommendation.bind Json.text? = r.recommendation ∧
      raw.query.bind Json.text? = r.query := by
  constructor
  · intro h
    unfold check at h
    dsimp only at h
    split at h
    · contradiction
    · rename_i hallowed
      split at h
      · contradiction
      · rename_i targetField hfield
        split at h
        · contradiction
        · rename_i hrule
          cases h
          simp only [Bool.or_eq_true, Bool.not_eq_true', not_or, Bool.not_eq_false] at hallowed
          exact ⟨⟨hallowed.1, hallowed.2, hrule⟩, ⟨rfl, rfl, hfield, rfl⟩, rfl, rfl, rfl⟩
  · rintro ⟨⟨htarget, hsource, hrule⟩, ⟨rt, rs, rf, rg⟩,
      rtransformation, rrecommendation, rquery⟩
    unfold check
    simp only [rt, rs, rf, rg, htarget, hsource, hrule, rtransformation, rrecommendation,
      rquery]
    rfl

theorem RawRelation.toOption_check_eq_some {level : Level} {raw : RawRelation} {r : Relation} :
    (raw.check level).toOption = some r ↔ raw.check level = .ok r := by
  cases raw.check level <;> simp [Except.toOption]

/-- A relation that has passed the rules passes them again and keeps all its attributes. -/
theorem Relation.check_toRaw {level : Level} {raw : RawRelation} {r : Relation}
    (h : raw.check level = .ok r) : r.toRaw.check level = .ok r := by
  rw [RawRelation.check_eq_ok_iff] at h ⊢
  obtain ⟨hrules, ⟨htarget, hsource, hfield, horigin⟩, -⟩ := h
  refine ⟨hrules, ⟨?_, ?_, ?_, ?_⟩, ?_, ?_, ?_⟩
  · rw [toRaw, ← htarget, TableName.ofValue_ofValue]
  · rw [toRaw, ← hsource, TableName.ofValue_ofValue]
  · exact FieldName.ofValue_str hfield
  · rw [toRaw, ← horigin, FieldName.ofValue_map_str]
  · exact Json.bind_text?_map_str r.transformation
  · exact Json.bind_text?_map_str r.recommendation
  · exact Json.bind_text?_map_str r.query

/-! ## Documents -/

/-- The rows that are kept, in their order, are those that pass the check. -/
theorem relations_sanitize (level : Level) (rows : List RawRelation) :
    (sanitize level rows).relations = rows.filterMap fun raw => (raw.check level).toOption := by
  induction rows with
  | nil => rfl
  | cons raw rows ih =>
      rw [sanitize]
      cases hcheck : raw.check level with
      | ok relation => simp [hcheck, ih, Except.toOption]
      | error reason => simp [hcheck, ih, Except.toOption]

/-- Every relation kept comes from a row of the document. -/
theorem exists_check_of_mem_sanitize {level : Level} {rows : List RawRelation} {r : Relation}
    (h : r ∈ (sanitize level rows).relations) : ∃ raw ∈ rows, raw.check level = .ok r := by
  rw [relations_sanitize, List.mem_filterMap] at h
  obtain ⟨raw, hraw, hkept⟩ := h
  exact ⟨raw, hraw, RawRelation.toOption_check_eq_some.1 hkept⟩

/-- Rows that all pass the rules are all kept, in order. -/
theorem sanitize_map_toRaw {level : Level} {relations : List Relation}
    (h : ∀ r ∈ relations, r.toRaw.check level = .ok r) :
    sanitize level (relations.map Relation.toRaw) = ⟨relations, []⟩ := by
  induction relations with
  | nil => rfl
  | cons r relations ih =>
      have hr := h r List.mem_cons_self
      have hrest := ih fun s hs => h s (List.mem_cons_of_mem r hs)
      simp only [List.map_cons, sanitize, hr, hrest]

/-- What has been kept of a document is kept again as it is: written back and read again at
the same level, all relations are there in the same order with all their attributes, and no
row is refused. -/
theorem sanitize_toRaw_sanitize (level : Level) (rows : List RawRelation) :
    sanitize level ((sanitize level rows).relations.map Relation.toRaw) =
      ⟨(sanitize level rows).relations, []⟩ := by
  apply sanitize_map_toRaw
  intro r hr
  obtain ⟨raw, -, hcheck⟩ := exists_check_of_mem_sanitize hr
  exact Relation.check_toRaw hcheck

end Provenance
