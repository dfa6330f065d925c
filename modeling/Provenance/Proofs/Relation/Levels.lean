import Provenance.Proofs.Relation.Kept

/-!
# Field level is the concrete part of table level

The rows of a document are checked by one set of rules for the table level and by another one for
the field level.  The two sets look at the fields in a different order, and they treat whole
tables and missing source fields differently.  This module shows that they agree nevertheless:
the relations kept at field level are those kept at table level that join two single fields.

Main results:

- Theorem `brokenFieldRule?_tables_eq_none_iff`: the field names that pass at table level.
- Theorem `brokenFieldRule?_fields_eq_none_iff`: those that pass at field level as well.
- Theorem `RawRelation.check_fields_eq_ok_iff`: a row is kept at field level exactly if it is
  kept at table level as a relation between single fields.
-/

namespace Provenance

/-- Whether a relation joins two single fields. -/
def Relation.isConcrete (r : Relation) : Bool := r.hasConcreteSource && r.hasConcreteTarget

/-- A relation starts at a single field if it names one that does not stand for the whole
table. -/
theorem Relation.hasConcreteSource_iff {r : Relation} :
    r.hasConcreteSource = true ↔ ∃ field, r.sourceField = some field ∧ field ≠ wholeTable := by
  unfold hasConcreteSource
  split
  · rename_i field hfield
    simp [hfield]
  · rename_i hfield
    simp [hfield]

theorem Relation.isConcrete_iff {r : Relation} :
    r.isConcrete = true ↔
      r.targetField ≠ wholeTable ∧
        ∃ field, r.sourceField = some field ∧ field ≠ wholeTable := by
  rw [isConcrete, Bool.and_eq_true, hasConcreteSource_iff, and_comm]
  simp [hasConcreteTarget]

/-! ## Fields -/

/-- There is no star in the name of a single field. -/
theorem FieldName.star_not_mem_of_isValid {field : String} (h : isValid field = true)
    (hsingle : field ≠ wholeTable) : '*' ∉ field.toList := by
  intro hstar
  unfold isValid at h
  simp [hsingle, hstar] at h

/-- At table level a relation may miss its source field, and all names that it has are
proper. -/
theorem brokenFieldRule?_tables_eq_none_iff {target : String} {source : Option String} :
    brokenFieldRule? .tables target source = none ↔
      FieldName.isValid target = true ∧
        ∀ field, source = some field → FieldName.isValid field = true := by
  by_cases htarget : FieldName.isValid target = true
  · cases source with
    | none => simp [brokenFieldRule?, htarget]
    | some field => by_cases hfield : FieldName.isValid field = true <;>
        simp [brokenFieldRule?, htarget, hfield]
  · simp [brokenFieldRule?, htarget]

/-- At field level a relation passes if it passes at table level, has both fields, and neither
of them stands for a whole table. -/
theorem brokenFieldRule?_fields_eq_none_iff {target : String} {source : Option String} :
    brokenFieldRule? .fields target source = none ↔
      brokenFieldRule? .tables target source = none ∧
        target ≠ wholeTable ∧ ∃ field, source = some field ∧ field ≠ wholeTable := by
  rw [brokenFieldRule?_tables_eq_none_iff]
  constructor
  · intro h
    obtain ⟨⟨hwhole, htarget⟩, field, rfl, hwhole', hsource⟩ := brokenFieldRule?_fields h
    refine ⟨⟨htarget, ?_⟩, hwhole, field, rfl, hwhole'⟩
    intro other hother
    cases hother
    exact hsource
  · rintro ⟨⟨htarget, hsource⟩, hwhole, field, rfl, hwhole'⟩
    have hfield := hsource field rfl
    simp [brokenFieldRule?, htarget, hfield, hwhole, hwhole']

/-! ## Rows and documents -/

/-- A row is kept at field level exactly if it is kept at table level as a relation between
single fields, and it is kept as the same relation. -/
theorem RawRelation.check_fields_eq_ok_iff {raw : RawRelation} {r : Relation} :
    raw.check .fields = .ok r ↔ raw.check .tables = .ok r ∧ r.isConcrete = true := by
  rw [check_eq_ok_iff, check_eq_ok_iff, brokenFieldRule?_fields_eq_none_iff,
    Relation.isConcrete_iff]
  constructor
  · rintro ⟨⟨htarget, hsource, hrule, hconcrete⟩, hattributes⟩
    exact ⟨⟨⟨htarget, hsource, hrule⟩, hattributes⟩, hconcrete⟩
  · rintro ⟨⟨⟨htarget, hsource, hrule⟩, hattributes⟩, hconcrete⟩
    exact ⟨⟨htarget, hsource, hrule, hconcrete⟩, hattributes⟩

/-- A row is kept at field level if it is kept at table level and joins two single fields. -/
theorem RawRelation.toOption_check_fields (raw : RawRelation) :
    (raw.check .fields).toOption = (raw.check .tables).toOption.filter Relation.isConcrete := by
  apply Option.ext
  intro r
  rw [Option.filter_eq_some_iff, toOption_check_eq_some, toOption_check_eq_some,
    check_fields_eq_ok_iff]

/-- The relations kept at field level are those kept at table level that join two single fields,
in the same order and with the same attributes.  Each of them has a source field, and no field
has a star in its name. -/
theorem sanitize_fields_eq_concrete (rows : List RawRelation) :
    (sanitize .fields rows).relations =
      (sanitize .tables rows).relations.filter Relation.isConcrete ∧
    ∀ r ∈ (sanitize .fields rows).relations,
      '*' ∉ r.targetField.toList ∧
        ∃ field, r.sourceField = some field ∧ '*' ∉ field.toList := by
  constructor
  · rw [relations_sanitize, relations_sanitize, List.filter_filterMap]
    simp only [RawRelation.toOption_check_fields]
  · intro r hr
    obtain ⟨raw, -, hcheck⟩ := exists_check_of_mem_sanitize hr
    obtain ⟨⟨-, -, hrule⟩, -⟩ := RawRelation.check_eq_ok_iff.1 hcheck
    obtain ⟨⟨hwhole, htarget⟩, field, hfield, hwhole', hsource⟩ := brokenFieldRule?_fields hrule
    exact ⟨FieldName.star_not_mem_of_isValid htarget hwhole, field, hfield,
      FieldName.star_not_mem_of_isValid hsource hwhole'⟩

/-- A row that is kept at both levels, and three that are kept at table level only. -/
def rowsOfBothLevels : List RawRelation :=
  [.ofFields "s_bani.a" "id" "resultados.b" "Id",
   .ofFields "s_bani.a" "*" "resultados.b" "id",
   .ofFields "s_bani.a" "id" "resultados.b" "*",
   { RawRelation.ofFields "s_bani.a" "" "resultados.b" "id" with sourceField := none }]

/-- Only the first row joins two single fields. -/
theorem sanitize_fields_rowsOfBothLevels :
    (sanitize .tables rowsOfBothLevels).relations.length = 4 ∧
    (sanitize .fields rowsOfBothLevels).relations =
      [.ofFields "s_bani.a" "id" "resultados.b" "id"] ∧
    ∃ field, (Relation.ofFields "s_bani.a" "id" "resultados.b" "id").sourceField = some field ∧
      '*' ∉ field.toList := by
  have hkept : (sanitize .tables rowsOfBothLevels).relations =
      [.ofFields "s_bani.a" "id" "resultados.b" "id",
       .ofFields "s_bani.a" "*" "resultados.b" "id",
       .ofFields "s_bani.a" "id" "resultados.b" "*",
       ⟨"s_bani.a", "resultados.b", none, "id", none, none, none⟩] := by
    decide +kernel
  have hlevels := sanitize_fields_eq_concrete rowsOfBothLevels
  have hfields : (sanitize .fields rowsOfBothLevels).relations =
      [.ofFields "s_bani.a" "id" "resultados.b" "id"] := by
    rw [hlevels.1, hkept]
    decide +kernel
  refine ⟨by rw [hkept]; rfl, hfields, (hlevels.2 _ ?_).2⟩
  rw [hfields]
  exact List.mem_singleton_self _

end Provenance
