import Provenance.Json.Attributes

/-!
# Relations

A relation says that data of one table, or of one of its fields, flows into another one.  A
`RawRelation` is a relation as a document states it, where every attribute may hold any value.  A
`Relation` has passed the naming rules.
-/

namespace Provenance

/-- The field name that stands for a whole table. -/
def wholeTable : String := "*"

/-- A relation as a document states it.  Null counts as missing. -/
structure RawRelation where
  sourceTable : Option Json := none
  targetTable : Option Json := none
  sourceField : Option Json := none
  targetField : Option Json := none
  transformation : Option Json := none
  recommendation : Option Json := none
  query : Option Json := none

/-- A relation between tables or fields with proper names. -/
structure Relation where
  sourceTable : String
  targetTable : String
  sourceField : Option String
  targetField : String
  transformation : Option String
  recommendation : Option String
  query : Option String
  deriving DecidableEq, Repr

namespace Relation

/-- Whether the relation starts at one field rather than at a whole table. -/
def hasConcreteSource (r : Relation) : Bool :=
  match r.sourceField with
  | some field => field != wholeTable
  | none => false

/-- Whether the relation ends at one field rather than at a whole table. -/
def hasConcreteTarget (r : Relation) : Bool := r.targetField != wholeTable

/-- A relation in the form of a document. -/
def toRaw (r : Relation) : RawRelation where
  sourceTable := some (.str r.sourceTable)
  targetTable := some (.str r.targetTable)
  sourceField := r.sourceField.map .str
  targetField := some (.str r.targetField)
  transformation := r.transformation.map .str
  recommendation := r.recommendation.map .str
  query := r.query.map .str

end Relation

namespace RawRelation

/-! ## Documents -/

/-- The attributes of a relation in a document, in order. -/
def attributeNames : List String :=
  ["tabla_origen", "tabla_destino", "campo_origen", "campo_destino", "transformacion_aplicada",
   "recomendaciones", "consulta"]

/-- The values of the attributes, in order. -/
def attributes (r : RawRelation) : List (Option Json) :=
  [r.sourceTable, r.targetTable, r.sourceField, r.targetField, r.transformation,
   r.recommendation, r.query]

/-- The relation with the given attribute values. -/
def ofAttributes (values : List (Option Json)) : RawRelation where
  sourceTable := values.getD 0 none
  targetTable := values.getD 1 none
  sourceField := values.getD 2 none
  targetField := values.getD 3 none
  transformation := values.getD 4 none
  recommendation := values.getD 5 none
  query := values.getD 6 none

/-- A relation is made up of its attributes. -/
@[simp]
theorem ofAttributes_attributes (r : RawRelation) : ofAttributes r.attributes = r := rfl

/-- How a relation stands in a document. -/
def shape : Json.Shape (Option Json) where
  wanted := "struct RawRecord"
  names := attributeNames
  value := fun depth _ cs => Json.readOptional depth cs

/-- Read one relation. -/
def read (depth : Nat) (cs : List Char) : Except Json.Stop (RawRelation × List Char) := do
  let (slots, rest) ← shape.read depth cs
  return (ofAttributes (slots.map Option.join), rest)

/-- Read a list of relations. -/
def readList (depth : Nat) (cs : List Char) : Except Json.Stop (List RawRelation × List Char) :=
  match Json.skipSpace cs with
  | '[' :: rest =>
    if depth ≤ 1 then Json.stopNext .tooDeep ('[' :: rest)
    else Json.readArray (read (depth - 1)) rest
  | rest => Json.refuse "a sequence" rest

/-- Read a document: a list of relations and nothing else. -/
def parseList (text : String) : Except Json.Fault (List RawRelation) :=
  Json.readText (readList Json.depthLimit) text

/-- A relation as a document would state it, with all attributes. -/
def toJson (r : RawRelation) : Json :=
  .obj ((attributeNames.zip r.attributes).foldl (fun fields (name, value) =>
    Json.putField name (value.getD .null) fields) [])

end RawRelation

end Provenance
