import Provenance.Graph.Basic
import Provenance.Proofs.Relation.Sanitize

/-!
# Kept relations have a place in the graph

A graph passes over relations without proper tables, and at field level over those that do not
join two single fields.  The rules that the rows of a document have to keep are stated in other
words.  This module shows that they are strict enough: a relation kept at a level has a place
in the graph of this level.

Main results:

- Theorem `Relation.isUsable_of_mem_sanitize`: a relation kept at a level has a place in the
  graph of this level.
- Theorem `FieldName.colon_not_mem_of_isValid`: there is no colon in the name of a field.
-/

namespace Provenance

/-- A row that joins two fields and says nothing more. -/
def RawRelation.ofFields (source sourceField target targetField : String) : RawRelation :=
  { sourceTable := some (.str source), targetTable := some (.str target),
    sourceField := some (.str sourceField), targetField := some (.str targetField) }

/-- A relation that joins two fields and says nothing more. -/
def Relation.ofFields (source sourceField target targetField : String) : Relation :=
  ⟨source, target, some sourceField, targetField, none, none, none⟩

theorem TableName.isEmpty_of_isAllowed {name : String} (h : isAllowed name = true) :
    name.isEmpty = false := by
  unfold isAllowed at h
  split at h
  · contradiction
  · rename_i hne
    exact Bool.eq_false_iff.2 hne

namespace FieldName

/-- Runs joined by underscores hold nothing else. -/
theorem mem_of_isSnake {inRun : Bool} {cs : List Char} (h : isSnake inRun cs = true) {c : Char}
    (hc : c ∈ cs) : isRunChar c = true ∨ c = '_' := by
  induction cs generalizing inRun with
  | nil => contradiction
  | cons d cs ih =>
      unfold isSnake at h
      split at h
      · rename_i hrun
        rcases List.mem_cons.1 hc with rfl | hc
        · exact Or.inl hrun
        · exact ih h hc
      · simp only [Bool.and_eq_true, beq_iff_eq] at h
        obtain ⟨⟨rfl, -⟩, hrest⟩ := h
        rcases List.mem_cons.1 hc with rfl | hc
        · exact Or.inr rfl
        · exact ih hrest hc

/-- There is no colon in the name of a field. -/
theorem colon_not_mem_of_isValid {field : String} (h : isValid field = true) :
    ':' ∉ field.toList := by
  unfold isValid at h
  split at h
  · contradiction
  · split at h
    · rename_i hwhole
      subst hwhole
      decide
    · split at h
      · contradiction
      · split at h
        · contradiction
        · split at h
          · contradiction
          · intro hcolon
            rcases mem_of_isSnake h hcolon with hrun | hunderscore
            · exact absurd hrun (by decide)
            · exact absurd hunderscore (by decide)

end FieldName

/-- At field level both ends are single fields with proper names. -/
theorem brokenFieldRule?_fields {target : String} {source : Option String}
    (h : brokenFieldRule? .fields target source = none) :
    (target ≠ wholeTable ∧ FieldName.isValid target = true) ∧
      ∃ field, source = some field ∧ field ≠ wholeTable ∧ FieldName.isValid field = true := by
  unfold brokenFieldRule? at h
  dsimp only at h
  split at h
  · contradiction
  · rename_i hwhole
    rw [not_or] at hwhole
    split at h
    · contradiction
    · rename_i htarget
      split at h
      · contradiction
      · rename_i hsource
        simp only [Bool.not_eq_true', Bool.not_eq_false] at htarget hsource
        obtain ⟨field, hfield, hvalid⟩ := (Option.any_eq_true _ _).1 hsource
        refine ⟨⟨hwhole.1, htarget⟩, field, hfield, ?_, hvalid⟩
        rintro rfl
        exact hwhole.2 hfield

namespace Relation

/-- A relation has a place if its tables have names and, at field level, both ends are single
fields. -/
theorem isUsable_iff {level : Level} {r : Relation} :
    r.isUsable level = true ↔
      (r.sourceTable ≠ "" ∧ r.targetTable ≠ "") ∧
        (level = .fields → r.hasConcreteSource = true ∧ r.hasConcreteTarget = true) := by
  cases level <;> simp [isUsable]

/-- A relation kept at a level has a place in the graph of this level. -/
theorem isUsable_of_mem_sanitize {level : Level} {rows : List RawRelation} {r : Relation}
    (h : r ∈ (sanitize level rows).relations) : r.isUsable level = true := by
  obtain ⟨raw, -, hcheck⟩ := exists_check_of_mem_sanitize h
  obtain ⟨⟨htarget, hsource, hrule⟩, -⟩ := RawRelation.check_eq_ok_iff.1 hcheck
  have hnamed : r.sourceTable ≠ "" ∧ r.targetTable ≠ "" := by
    have hsource := TableName.isEmpty_of_isAllowed hsource
    have htarget := TableName.isEmpty_of_isAllowed htarget
    constructor
    · intro hempty
      simp [hempty] at hsource
    · intro hempty
      simp [hempty] at htarget
  refine isUsable_iff.2 ⟨hnamed, ?_⟩
  rintro rfl
  obtain ⟨⟨hwhole, -⟩, field, hfield, hwhole', -⟩ := brokenFieldRule?_fields hrule
  exact ⟨by simp [hasConcreteSource, hfield, hwhole'], by simp [hasConcreteTarget, hwhole]⟩

end Relation

end Provenance
