import Provenance.Level
import Provenance.Relation.FieldName
import Provenance.Relation.TableName

/-!
# Keeping proper relations

Documents may hold rows that break the naming rules.  Such rows are dropped; the reason of every
drop is kept.
-/

namespace Provenance

/-- Why a row is dropped. -/
inductive Refusal where
  | disallowedTable
  | missingTargetField
  | wholeTableAtFieldLevel
  | invalidTargetField
  | invalidSourceField
  deriving DecidableEq, Repr

namespace Refusal

/-- All reasons, in the order of reports. -/
def all : List Refusal :=
  [disallowedTable, missingTargetField, wholeTableAtFieldLevel, invalidTargetField,
   invalidSourceField]

/-- The name of a reason in reports. -/
def name : Refusal → String
  | disallowedTable => "DisallowedTable"
  | missingTargetField => "MissingTargetField"
  | wholeTableAtFieldLevel => "WholeTableAtFieldLevel"
  | invalidTargetField => "InvalidTargetField"
  | invalidSourceField => "InvalidSourceField"

end Refusal

/-- The first naming rule of a level that the fields of a relation break. -/
def brokenFieldRule? (level : Level) (target : String) (source : Option String) : Option Refusal :=
  match level with
  | .fields =>
    if target = wholeTable ∨ source = some wholeTable then some .wholeTableAtFieldLevel
    else if !FieldName.isValid target then some .invalidTargetField
    else if !source.any FieldName.isValid then some .invalidSourceField
    else none
  | .tables =>
    if !FieldName.isValid target then some .invalidTargetField
    else if source.any fun field => !FieldName.isValid field then some .invalidSourceField
    else none

/-- The proper relation of a row, or the reason to drop it. -/
def RawRelation.check (level : Level) (raw : RawRelation) : Except Refusal Relation :=
  let targetTable := TableName.ofValue raw.targetTable
  let sourceTable := TableName.ofValue raw.sourceTable
  let sourceField := FieldName.ofValue raw.sourceField
  if !TableName.isAllowed targetTable || !TableName.isAllowed sourceTable then
    .error .disallowedTable
  else
    match FieldName.ofValue raw.targetField with
    | none => .error .missingTargetField
    | some targetField =>
      match brokenFieldRule? level targetField sourceField with
      | some reason => .error reason
      | none =>
        .ok
          { sourceTable, targetTable, sourceField, targetField
            transformation := raw.transformation.bind Json.text?
            recommendation := raw.recommendation.bind Json.text?
            query := raw.query.bind Json.text? }

/-- The relations kept from a document, and why the other rows were dropped, both in row order. -/
structure Sanitized where
  relations : List Relation
  refusals : List Refusal
  deriving DecidableEq

namespace Sanitized

/-- Nothing kept and nothing dropped. -/
def empty : Sanitized := ⟨[], []⟩

/-- How many rows were dropped for a reason. -/
def count (s : Sanitized) (reason : Refusal) : Nat := s.refusals.count reason

/-- How many rows were dropped. -/
def refused (s : Sanitized) : Nat := s.refusals.length

end Sanitized

/-- Keep the proper relations of a document. -/
def sanitize (level : Level) : List RawRelation → Sanitized
  | [] => Sanitized.empty
  | raw :: rows =>
    let kept := sanitize level rows
    match raw.check level with
    | .ok relation => { kept with relations := relation :: kept.relations }
    | .error reason => { kept with refusals := reason :: kept.refusals }

end Provenance
