import Provenance.Graph.Basic

/-!
# Details of what is selected

The details panel describes the selected table, field or edge, or the error that kept the
documents from being loaded.
-/

namespace Provenance

/-- What the details panel shows. -/
inductive Details where
  | table (table zone : String) (kind : ZoneKind) (incoming outgoing : Nat) (columns : List String)
  | field (table field : String) (origins targets : List String)
  | edge (source target : String) (transformations recommendations queries : List String)
  | error (message hint : String)
  deriving DecidableEq

/-- A labelled entry of the details panel, with a line for each value. -/
structure DetailsRow where
  label : String
  lines : List String
  deriving DecidableEq

namespace Details

/-- What the panel says while nothing is selected. -/
def emptyHint : String := "Select a table, field or relation to see more information."

/-- What stands for an empty list. -/
def noneMarker : String := "-"

/-- Advice for when the documents cannot be loaded. -/
def loadErrorHint : String :=
  "Check that the JSON files exist and that the folder is served over a local HTTP server."

/-- The details of a failed load. -/
def loadError (message : String) : Details := error message loadErrorHint

/-- The title of the panel. -/
def title : Details → String
  | table .. => "Table"
  | field .. => "Field"
  | edge .. => "Relation"
  | error .. => "Error"

/-- A list, or the marker if it is empty. -/
def listed (items : List String) : List String := if items.isEmpty then [noneMarker] else items

/-- The entries of the panel. -/
def rows : Details → List DetailsRow
  | table name zone kind incoming outgoing columns =>
    [⟨"Table", [name]⟩, ⟨"Zone", [zone]⟩, ⟨"Zone type", [kind.label]⟩,
     ⟨"Incoming relations", [toString incoming]⟩, ⟨"Outgoing relations", [toString outgoing]⟩,
     ⟨"Columns", listed columns⟩]
  | field owner name origins targets =>
    [⟨"Table", [owner]⟩, ⟨"Field", [name]⟩, ⟨"Origins", listed origins⟩,
     ⟨"Targets", listed targets⟩]
  | edge source target transformations recommendations queries =>
    [⟨"Source", [source]⟩, ⟨"Target", [target]⟩, ⟨"Transformations", listed transformations⟩,
     ⟨"Recommendations", listed recommendations⟩, ⟨"Queries", listed queries⟩]
  | error message hint => [⟨"Message", [message]⟩, ⟨"Hint", [hint]⟩]

/-- The details of a table. -/
def ofTable (g : Graph) (t : TableNode) : Details :=
  table t.table t.zone t.kind (g.incoming t.id).length (g.outgoing t.id).length
    (Names.ofList t.columns).toList

/-- The far end of an edge together with its first transformation. -/
def farEnd (label : String) (e : Edge) : String := label ++ " (" ++ e.firstTransformation ++ ")"

/-- The details of a field. -/
def ofField (g : Graph) (f : FieldNode) : Details :=
  field f.table f.field ((g.incoming f.id).map fun e => farEnd e.sourceLabel e)
    ((g.outgoing f.id).map fun e => farEnd e.targetLabel e)

/-- The details of an edge. -/
def ofEdge (e : Edge) : Details :=
  let transformations :=
    if e.transformations.isEmpty then [e.firstTransformation] else e.transformations.toList
  edge e.sourceLabel e.targetLabel transformations e.recommendations.toList e.queries

end Details

/-- The details of the table, field or edge with an id. -/
def Graph.describe (g : Graph) (id : String) : Option Details :=
  match g.table? id with
  | some t => some (Details.ofTable g t)
  | none =>
    match g.field? id with
    | some f => some (Details.ofField g f)
    | none => (g.edge? id).map Details.ofEdge

/-- Only what is in a graph is described. -/
theorem Graph.mem_ids_of_describe {g : Graph} {id : String} {details : Details}
    (h : g.describe id = some details) : id ∈ g.ids := by
  unfold describe at h
  split at h
  · rename_i t htable
    have hid : t.id = id := by simpa using List.find?_some htable
    simp only [ids, List.mem_append, List.mem_map]
    exact Or.inl (Or.inl ⟨t, List.mem_of_find?_eq_some htable, hid⟩)
  · split at h
    · rename_i f hfield
      have hid : f.id = id := by simpa using List.find?_some hfield
      simp only [ids, List.mem_append, List.mem_map]
      exact Or.inl (Or.inr ⟨f, List.mem_of_find?_eq_some hfield, hid⟩)
    · obtain ⟨e, hedge, -⟩ := Option.map_eq_some_iff.1 h
      have hid : e.id = id := by simpa using List.find?_some hedge
      simp only [ids, List.mem_append, List.mem_map]
      exact Or.inr ⟨e, List.mem_of_find?_eq_some hedge, hid⟩

end Provenance
