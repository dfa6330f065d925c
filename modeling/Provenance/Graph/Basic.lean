import Provenance.Level
import Provenance.Names
import Provenance.Zone

/-!
# Graphs of relations

A graph has a node for every table, at field level also a node for every field, and one edge for
all relations between the same two nodes.  Nodes and edges are known by an id made of their names
and are listed in the order of the ids.  When odd names give two nodes the same id, the first one
stays.
-/

namespace Provenance

/-- The node of a table. -/
structure TableNode where
  id : String
  table : String
  zone : String
  kind : ZoneKind
  columns : List String
  deriving DecidableEq

/-- The node of a field. -/
structure FieldNode where
  id : String
  table : String
  field : String
  parent : String
  kind : ZoneKind
  deriving DecidableEq

/-- All relations between two nodes. -/
structure Edge where
  id : String
  source : String
  target : String
  sourceTable : String
  targetTable : String
  sourceField : Option String
  targetField : Option String
  level : Level
  landing : Bool
  transformations : Names
  recommendations : Names
  queries : List String
  deriving DecidableEq

/-- Nodes and edges of a level. -/
structure Graph where
  level : Level
  tables : List TableNode
  fields : List FieldNode
  edges : List Edge
  deriving DecidableEq

/-! ## Ids -/

/-- The id of a table. -/
def tableId (table : String) : String := "table:" ++ table

/-- The id of a field. -/
def fieldId (table field : String) : String := "column:" ++ table ++ ":" ++ field

/-- The id of an edge between two nodes. -/
def edgeId (source target : String) : String := source ++ "->" ++ target

/-! ## Nodes -/

namespace TableNode

/-- A table without columns. -/
def ofTable (table : String) : TableNode where
  id := tableId table
  table := table
  zone := zoneName table
  kind := zoneKind table
  columns := []

/-- List a column, unless it is listed already. -/
def addColumn (node : TableNode) (column : String) : TableNode :=
  if column ∈ node.columns then node else { node with columns := node.columns ++ [column] }

end TableNode

/-- The node of a field in its table. -/
def FieldNode.ofField (table field : String) : FieldNode where
  id := fieldId table field
  table := table
  field := field
  parent := tableId table
  kind := zoneKind table

/-! ## Ends of a relation -/

/-- The column that stands for a whole table. -/
def wholeTableColumn : String := "(*)"

/-- One end of a relation: its table, the column that it adds to the table, and at field level its
field. -/
structure Endpoint where
  table : String
  column : Option String
  field : Option String
  deriving DecidableEq

namespace Endpoint

/-- The node that the relation ends at. -/
def id (e : Endpoint) : String :=
  match e.field with
  | some field => fieldId e.table field
  | none => tableId e.table

/-- The end in running text. -/
def label (table : String) (field : Option String) : String :=
  match field with
  | some field => table ++ "." ++ field
  | none => table

end Endpoint

namespace Relation

/-- Where a relation starts in the graph of a level.  At table level a whole table adds no
column. -/
def sourceEnd (level : Level) (r : Relation) : Endpoint where
  table := r.sourceTable
  column := match level with
    | .tables => r.sourceField.filter fun field => field != wholeTable
    | .fields => r.sourceField
  field := match level with
    | .tables => none
    | .fields => r.sourceField

/-- Where a relation ends in the graph of a level.  At table level a whole table adds a column
that stands for it. -/
def targetEnd (level : Level) (r : Relation) : Endpoint where
  table := r.targetTable
  column := match level with
    | .tables => some (if r.targetField = wholeTable then wholeTableColumn else r.targetField)
    | .fields => some r.targetField
  field := match level with
    | .tables => none
    | .fields => some r.targetField

/-- Whether a relation has a place in the graph of a level: its tables have names, and at field
level both ends are single fields. -/
def isUsable (level : Level) (r : Relation) : Bool :=
  !r.sourceTable.isEmpty && !r.targetTable.isEmpty &&
    (match level with
      | .tables => true
      | .fields => r.hasConcreteSource && r.hasConcreteTarget)

/-- The edge that a relation belongs to. -/
def edgeId (level : Level) (r : Relation) : String :=
  Provenance.edgeId (r.sourceEnd level).id (r.targetEnd level).id

end Relation

/-! ## Edges -/

/-- How many queries an edge keeps. -/
def maxQueries : Nat := 3

/-- The transformation of relations that name none. -/
def identityTransformation : String := "copy"

/-- A text without blanks at its ends, unless nothing is left. -/
def meaningful? (text : Option String) : Option String :=
  (text.map Text.trim).filter fun t => !t.isEmpty

namespace Edge

/-- The edge of a relation, before any text is taken from it. -/
def ofRelation (level : Level) (r : Relation) : Edge where
  id := r.edgeId level
  source := (r.sourceEnd level).id
  target := (r.targetEnd level).id
  sourceTable := r.sourceTable
  targetTable := r.targetTable
  sourceField := (r.sourceEnd level).field
  targetField := (r.targetEnd level).field
  level := level
  landing := isLanding r.sourceTable
  transformations := Names.empty
  recommendations := Names.empty
  queries := []

/-- Put a text into a set of texts, if there is one. -/
def addText (texts : Names) (text : Option String) : Names :=
  match meaningful? text with
  | some t => texts.insert t
  | none => texts

/-- Put a query behind the others, if there is one and there is room. -/
def addQuery (queries : List String) (query : Option String) : List String :=
  match meaningful? query with
  | some q => if queries.length < maxQueries then queries ++ [q] else queries
  | none => queries

/-- Take over the texts of a relation. -/
def absorb (e : Edge) (r : Relation) : Edge :=
  { e with
    transformations := addText e.transformations r.transformation
    recommendations := addText e.recommendations r.recommendation
    queries := addQuery e.queries r.query }

/-- The first transformation by name. -/
def firstTransformation (e : Edge) : String := e.transformations.first?.getD identityTransformation

/-- The start of the edge in running text. -/
def sourceLabel (e : Edge) : String := Endpoint.label e.sourceTable e.sourceField

/-- The end of the edge in running text. -/
def targetLabel (e : Edge) : String := Endpoint.label e.targetTable e.targetField

/-- What is shown while the pointer rests on the edge. -/
def tooltip (e : Edge) : String :=
  e.sourceLabel ++ " ➞ " ++ e.targetLabel ++ " (" ++ e.firstTransformation ++ ")"

end Edge

/-! ## Building a graph -/

/-- A graph under construction. -/
structure Draft where
  tables : NameMap TableNode
  fields : NameMap FieldNode
  edges : NameMap Edge

namespace Draft

/-- No nodes and no edges. -/
def empty : Draft := ⟨NameMap.empty, NameMap.empty, NameMap.empty⟩

/-- Make sure that the table of an end is there, with the column of the end. -/
def addTable (tables : NameMap TableNode) (e : Endpoint) : NameMap TableNode :=
  tables.alter (tableId e.table) fun old =>
    let node := old.getD (TableNode.ofTable e.table)
    match e.column with
    | some column => node.addColumn column
    | none => node

/-- Make sure that the field of an end is there, if it has one. -/
def addField (fields : NameMap FieldNode) (e : Endpoint) : NameMap FieldNode :=
  match e.field with
  | some field => fields.setNew (fieldId e.table field) (FieldNode.ofField e.table field)
  | none => fields

/-- Make sure that the nodes of an end are there. -/
def addEnd (d : Draft) (e : Endpoint) : Draft :=
  { d with tables := addTable d.tables e, fields := addField d.fields e }

/-- Add a relation to its edge. -/
def addEdge (level : Level) (d : Draft) (r : Relation) : Draft :=
  { d with
    edges := d.edges.alter (r.edgeId level) fun old =>
      (old.getD (Edge.ofRelation level r)).absorb r }

/-- Add a relation that has a place in the graph: first its source, then its target, then its
edge. -/
def add (level : Level) (d : Draft) (r : Relation) : Draft :=
  ((d.addEnd (r.sourceEnd level)).addEnd (r.targetEnd level)).addEdge level r

end Draft

namespace Graph

/-- The graph of a list of relations. -/
def build (level : Level) (relations : List Relation) : Graph :=
  let draft := (relations.filter (Relation.isUsable level)).foldl (Draft.add level) Draft.empty
  { level := level
    tables := draft.tables.values
    fields := draft.fields.values
    edges := draft.edges.values }

/-- Whether there is nothing to draw. -/
def isEmpty (g : Graph) : Bool := g.tables.isEmpty

/-- The ids of all nodes and edges. -/
def ids (g : Graph) : List String :=
  g.tables.map TableNode.id ++ g.fields.map FieldNode.id ++ g.edges.map Edge.id

/-- The table with an id. -/
def table? (g : Graph) (id : String) : Option TableNode := g.tables.find? fun t => t.id == id

/-- The field with an id. -/
def field? (g : Graph) (id : String) : Option FieldNode := g.fields.find? fun f => f.id == id

/-- The edge with an id. -/
def edge? (g : Graph) (id : String) : Option Edge := g.edges.find? fun e => e.id == id

/-- The fields of a table. -/
def children (g : Graph) (tableId : String) : List FieldNode :=
  g.fields.filter fun f => f.parent == tableId

/-- The edges that end at a node. -/
def incoming (g : Graph) (node : String) : List Edge := g.edges.filter fun e => e.target == node

/-- The edges that start at a node. -/
def outgoing (g : Graph) (node : String) : List Edge := g.edges.filter fun e => e.source == node

end Graph

end Provenance
