import Provenance.Proofs.Graph.Ids
import Provenance.Proofs.Names

/-!
# What a graph is built of

A graph is built by running through the relations and collecting tables, fields and edges by
their ids.  This module says which nodes and edges a finished graph has: which ends of
relations they stem from, and which of them are sure to be there.

Main results:

- Theorem `Graph.mem_map_table_build`: the tables of a graph are those at the ends of its
  relations.
- Theorem `Graph.eq_ofField_of_mem_build`: every field node stems from an end.
- Theorem `Graph.withoutTexts_of_mem_build`: every edge stems from a relation.
- Theorems `Graph.tableIds_increasing`, `Graph.fieldIds_increasing` and
  `Graph.edgeIds_increasing`: nodes and edges are listed in the order of their ids.
- Theorem `Graph.wellFormed_build`: ids tell the nodes apart, and every field has its table.
-/

namespace Provenance

/-- Both ends of a relation. -/
def Relation.bothEnds (level : Level) (r : Relation) : List Endpoint :=
  [r.sourceEnd level, r.targetEnd level]

/-- The table and the name of the field at an end, if there is one. -/
def Endpoint.field? (e : Endpoint) : Option (String × String) :=
  e.field.map fun field => (e.table, field)

/-- An edge as it is before any text is taken from a relation. -/
def Edge.withoutTexts (e : Edge) : Edge :=
  { e with transformations := Names.empty, recommendations := Names.empty, queries := [] }

/-- A table as it is before any column is listed. -/
def TableNode.withoutColumns (n : TableNode) : TableNode := { n with columns := [] }

/-- A column changes nothing else of a table. -/
@[simp]
theorem TableNode.withoutColumns_addColumn (n : TableNode) (column : String) :
    (n.addColumn column).withoutColumns = n.withoutColumns := by
  unfold addColumn
  split <;> rfl

/-! ## Drafts as collections -/

namespace Draft

/-- The node of a table after one more end. -/
def growTable (e : Endpoint) (old : Option TableNode) : TableNode :=
  match e.column with
  | some column => (old.getD (TableNode.ofTable e.table)).addColumn column
  | none => old.getD (TableNode.ofTable e.table)

/-- Another end gives a table more columns and changes nothing else. -/
@[simp]
theorem withoutColumns_growTable (e : Endpoint) (old : Option TableNode) :
    (growTable e old).withoutColumns =
      (old.getD (TableNode.ofTable e.table)).withoutColumns := by
  unfold growTable
  split
  · exact TableNode.withoutColumns_addColumn _ _
  · rfl

variable (level : Level) (d : Draft) (relations : List Relation)

/-- The tables grow by the ends of the relations, one after the other. -/
theorem tables_foldl_add :
    (relations.foldl (add level) d).tables =
      d.tables.alterAll (fun e => tableId e.table) growTable
        (relations.flatMap (Relation.bothEnds level)) := by
  induction relations generalizing d with
  | nil => rfl
  | cons r relations ih =>
      rw [List.foldl_cons, ih]
      rfl

/-- An end adds its field, unless there is one with this id. -/
theorem addField_eq (fields : NameMap FieldNode) (e : Endpoint) :
    addField fields e =
      fields.alterAll (fun p => fieldId p.1 p.2) (fun p old => old.getD (.ofField p.1 p.2))
        e.field?.toList := by
  unfold addField Endpoint.field?
  split <;> rename_i hfield <;> simp [hfield, NameMap.alterAll, NameMap.setNew]

/-- The fields grow by the ends of the relations that are fields. -/
theorem fields_foldl_add :
    (relations.foldl (add level) d).fields =
      d.fields.alterAll (fun p => fieldId p.1 p.2) (fun p old => old.getD (.ofField p.1 p.2))
        ((relations.flatMap (Relation.bothEnds level)).flatMap fun e => e.field?.toList) := by
  induction relations generalizing d with
  | nil => rfl
  | cons r relations ih =>
      rw [List.foldl_cons, ih]
      simp only [add, addEnd, addEdge, addField_eq, Relation.bothEnds, List.flatMap_cons,
        List.cons_append, List.nil_append, NameMap.alterAll, List.foldl_append]

/-- The edges grow by the relations, one after the other. -/
theorem edges_foldl_add :
    (relations.foldl (add level) d).edges =
      d.edges.alterAll (Relation.edgeId level)
        (fun r old => (old.getD (Edge.ofRelation level r)).absorb r) relations := by
  induction relations generalizing d with
  | nil => rfl
  | cons r relations ih =>
      rw [List.foldl_cons, ih]
      rfl

end Draft

namespace Graph

/-- The ends of all relations that have a place in the graph of a level. -/
def ends (level : Level) (relations : List Relation) : List Endpoint :=
  (relations.filter (Relation.isUsable level)).flatMap (Relation.bothEnds level)

/-- The nodes of the tables at all ends, by id. -/
def tableMap (level : Level) (relations : List Relation) : NameMap TableNode :=
  NameMap.empty.alterAll (fun e => tableId e.table) Draft.growTable (ends level relations)

/-- The nodes of the fields at all ends, by id. -/
def fieldMap (level : Level) (relations : List Relation) : NameMap FieldNode :=
  NameMap.empty.alterAll (fun p => fieldId p.1 p.2) (fun p old => old.getD (.ofField p.1 p.2))
    ((ends level relations).flatMap fun e => e.field?.toList)

/-- The edges of all relations that have a place in the graph of a level, by id. -/
def edgeMap (level : Level) (relations : List Relation) : NameMap Edge :=
  NameMap.empty.alterAll (Relation.edgeId level)
    (fun r old => (old.getD (Edge.ofRelation level r)).absorb r)
    (relations.filter (Relation.isUsable level))

variable {level : Level} {relations : List Relation}

theorem tables_build : (build level relations).tables = (tableMap level relations).values :=
  congrArg NameMap.values (Draft.tables_foldl_add level Draft.empty _)

theorem fields_build : (build level relations).fields = (fieldMap level relations).values :=
  congrArg NameMap.values (Draft.fields_foldl_add level Draft.empty _)

theorem edges_build : (build level relations).edges = (edgeMap level relations).values :=
  congrArg NameMap.values (Draft.edges_foldl_add level Draft.empty _)

/-- The ends are those of the relations that have a place in the graph. -/
theorem mem_ends {e : Endpoint} :
    e ∈ ends level relations ↔
      ∃ r ∈ relations, r.isUsable level = true ∧
        (e = r.sourceEnd level ∨ e = r.targetEnd level) := by
  simp [ends, Relation.bothEnds, and_assoc]

/-! ## Tables -/

/-- What is collected at the id of a table: its node, whatever columns it has. -/
theorem find?_tableMap {x : String} {n : TableNode}
    (h : (tableMap level relations).find? x = some n) :
    n.id = x ∧ n.withoutColumns = TableNode.ofTable n.table ∧
      ∃ e ∈ ends level relations, e.table = n.table := by
  refine NameMap.alterAll_induction
    (P := fun x n => n.withoutColumns.id = x ∧
      n.withoutColumns = TableNode.ofTable n.withoutColumns.table ∧
      ∃ e ∈ ends level relations, e.table = n.withoutColumns.table) ?_ ?_ (by simp) h
  · intro e he
    rw [Draft.withoutColumns_growTable]
    exact ⟨rfl, rfl, e, he, rfl⟩
  · intro e he old hold
    rw [Draft.withoutColumns_growTable]
    exact hold

/-- Every table node has the id, the zone and the kind of its name, which stands at an end of a
relation. -/
theorem eq_ofTable_of_mem_build {n : TableNode} (h : n ∈ (build level relations).tables) :
    n.withoutColumns = TableNode.ofTable n.table ∧
      ∃ e ∈ ends level relations, e.table = n.table := by
  rw [tables_build] at h
  obtain ⟨x, hfind⟩ := NameMap.mem_values.1 h
  exact (find?_tableMap hfind).2

/-- The id of a table follows from its name. -/
theorem id_of_mem_build {n : TableNode} (h : n ∈ (build level relations).tables) :
    n.id = tableId n.table :=
  congrArg TableNode.id (eq_ofTable_of_mem_build h).1

/-- Tables are listed in the order of their ids, each once. -/
theorem tableIds_increasing :
    ((build level relations).tables.map TableNode.id).Pairwise (· < ·) := by
  rw [tables_build]
  exact NameMap.increasing_map_values fun x n hfind => (find?_tableMap hfind).1

/-- The tables of a graph are those at the ends of its relations. -/
theorem mem_map_table_build {table : String} :
    table ∈ (build level relations).tables.map TableNode.table ↔
      ∃ e ∈ ends level relations, e.table = table := by
  rw [List.mem_map]
  constructor
  · rintro ⟨n, hn, rfl⟩
    exact (eq_ofTable_of_mem_build hn).2
  · rintro ⟨e, he, rfl⟩
    have hname : tableId e.table ∈ (tableMap level relations).names :=
      NameMap.mem_names_alterAll.2 (Or.inr ⟨e, he, rfl⟩)
    obtain ⟨n, hfind⟩ := NameMap.mem_names.1 hname
    have hn : n ∈ (build level relations).tables := by
      rw [tables_build]
      exact NameMap.mem_values.2 ⟨_, hfind⟩
    have hid : tableId n.table = tableId e.table := by
      rw [← id_of_mem_build hn]
      exact (find?_tableMap hfind).1
    exact ⟨n, hn, tableId_inj.1 hid⟩

/-! ## Fields -/

/-- The fields at ends are those that the ends name. -/
theorem mem_flatMap_field? {es : List Endpoint} {table field : String} :
    (table, field) ∈ es.flatMap (fun e => e.field?.toList) ↔
      ∃ e ∈ es, e.table = table ∧ e.field = some field := by
  simp only [List.mem_flatMap, Option.mem_toList, Endpoint.field?, Option.map_eq_some_iff,
    Prod.mk.injEq]
  grind

/-- What is collected at the id of a field: the node of the first end with this id. -/
theorem find?_fieldMap {x : String} {f : FieldNode}
    (h : (fieldMap level relations).find? x = some f) :
    f.id = x ∧ f = FieldNode.ofField f.table f.field ∧
      ∃ e ∈ ends level relations, e.table = f.table ∧ e.field = some f.field := by
  refine NameMap.alterAll_induction
    (P := fun x f => f.id = x ∧ f = FieldNode.ofField f.table f.field ∧
      ∃ e ∈ ends level relations, e.table = f.table ∧ e.field = some f.field) ?_ ?_ (by simp) h
  · rintro ⟨table, field⟩ hp
    exact ⟨rfl, rfl, mem_flatMap_field?.1 hp⟩
  · intro p hp old hold
    exact hold

/-- Every field node is that of a field at an end of a relation. -/
theorem eq_ofField_of_mem_build {f : FieldNode} (h : f ∈ (build level relations).fields) :
    f = FieldNode.ofField f.table f.field ∧
      ∃ e ∈ ends level relations, e.table = f.table ∧ e.field = some f.field := by
  rw [fields_build] at h
  obtain ⟨x, hfind⟩ := NameMap.mem_values.1 h
  exact (find?_fieldMap hfind).2

/-- Fields are listed in the order of their ids, each once. -/
theorem fieldIds_increasing :
    ((build level relations).fields.map FieldNode.id).Pairwise (· < ·) := by
  rw [fields_build]
  exact NameMap.increasing_map_values fun x f hfind => (find?_fieldMap hfind).1

/-- Every field at an end of a relation has a node with its id. -/
theorem exists_field_of_mem_ends {e : Endpoint} {field : String} (he : e ∈ ends level relations)
    (hfield : e.field = some field) :
    ∃ f ∈ (build level relations).fields, f.id = fieldId e.table field := by
  have hname : fieldId e.table field ∈ (fieldMap level relations).names :=
    NameMap.mem_names_alterAll.2
      (Or.inr ⟨(e.table, field), mem_flatMap_field?.2 ⟨e, he, rfl, hfield⟩, rfl⟩)
  obtain ⟨f, hfind⟩ := NameMap.mem_names.1 hname
  refine ⟨f, ?_, (find?_fieldMap hfind).1⟩
  rw [fields_build]
  exact NameMap.mem_values.2 ⟨_, hfind⟩

/-- If the ends are nodes of the level, every field at an end has a node of its own. -/
theorem exists_own_field_of_mem_ends (nodes : ∀ e ∈ ends level relations, e.IsNode level)
    {e : Endpoint} {field : String} (he : e ∈ ends level relations)
    (hfield : e.field = some field) :
    ∃ f ∈ (build level relations).fields, f.table = e.table ∧ f.field = field := by
  have hcolon {e : Endpoint} {field : String} (he : e ∈ ends level relations)
      (hfield : e.field = some field) : ':' ∉ field.toList := by
    have hnode := nodes e he
    cases level with
    | tables => simp [Endpoint.IsNode, hfield] at hnode
    | fields =>
        obtain ⟨name, hname, hcolon⟩ := hnode
        rw [hfield, Option.some.injEq] at hname
        rwa [hname]
  -- the node with the id of the field is its own, since no colon blurs where the name begins
  obtain ⟨f, hf, hid⟩ := exists_field_of_mem_ends he hfield
  obtain ⟨hshape, e', he', -, hfield'⟩ := eq_ofField_of_mem_build hf
  rw [hshape] at hid
  exact ⟨f, hf, (fieldId_inj (hcolon he' hfield') (hcolon he hfield)).1 hid⟩

/-- The table of a field node has a node. -/
theorem exists_parent_of_mem_build {f : FieldNode} (h : f ∈ (build level relations).fields) :
    ∃ n ∈ (build level relations).tables, n.id = f.parent := by
  obtain ⟨hf, e, he, htable, -⟩ := eq_ofField_of_mem_build h
  have hmem : f.table ∈ (build level relations).tables.map TableNode.table :=
    mem_map_table_build.2 ⟨e, he, htable⟩
  obtain ⟨n, hn, hname⟩ := List.mem_map.1 hmem
  refine ⟨n, hn, ?_⟩
  rw [id_of_mem_build hn, hf, hname]
  rfl

/-! ## Edges -/

/-- What is collected at the id of an edge: the edge of the first relation with this id, and the
texts of all of them. -/
theorem find?_edgeMap {x : String} {e : Edge} (h : (edgeMap level relations).find? x = some e) :
    e.id = x ∧ ∃ r ∈ relations, r.isUsable level = true ∧
      e.withoutTexts = Edge.ofRelation level r := by
  refine NameMap.alterAll_induction
    (P := fun x e => e.id = x ∧ ∃ r ∈ relations, r.isUsable level = true ∧
      e.withoutTexts = Edge.ofRelation level r) ?_ ?_ (by simp) h
  · intro r hr
    obtain ⟨hr, husable⟩ := List.mem_filter.1 hr
    exact ⟨rfl, r, hr, husable, rfl⟩
  · intro r hr old hold
    exact hold

/-- Every edge stems from a relation: up to its texts it is the edge of this relation alone. -/
theorem withoutTexts_of_mem_build {e : Edge} (h : e ∈ (build level relations).edges) :
    ∃ r ∈ relations, r.isUsable level = true ∧ e.withoutTexts = Edge.ofRelation level r := by
  rw [edges_build] at h
  obtain ⟨x, hfind⟩ := NameMap.mem_values.1 h
  exact (find?_edgeMap hfind).2

/-- Edges are listed in the order of their ids, each once. -/
theorem edgeIds_increasing : ((build level relations).edges.map Edge.id).Pairwise (· < ·) := by
  rw [edges_build]
  exact NameMap.increasing_map_values fun x e hfind => (find?_edgeMap hfind).1

/-- Every relation that has a place in the graph has an edge with its id. -/
theorem exists_edge_of_isUsable {r : Relation} (hr : r ∈ relations)
    (husable : r.isUsable level = true) :
    ∃ e ∈ (build level relations).edges, e.id = r.edgeId level := by
  have hname : r.edgeId level ∈ (edgeMap level relations).names :=
    NameMap.mem_names_alterAll.2 (Or.inr ⟨r, List.mem_filter.2 ⟨hr, husable⟩, rfl⟩)
  obtain ⟨e, hfind⟩ := NameMap.mem_names.1 hname
  refine ⟨e, ?_, (find?_edgeMap hfind).1⟩
  rw [edges_build]
  exact NameMap.mem_values.2 ⟨_, hfind⟩

/-- There are no more edges than relations. -/
theorem length_edges_build_le : (build level relations).edges.length ≤ relations.length := by
  rw [edges_build]
  calc
    (edgeMap level relations).values.length ≤
        0 + (relations.filter (Relation.isUsable level)).length :=
      NameMap.length_values_alterAll_le _
    _ ≤ relations.length := by
      rw [Nat.zero_add]
      exact List.length_filter_le _ _

/-! ## Well-formed graphs -/

/-- Ids tell the nodes apart, and every field has its table. -/
structure WellFormed (g : Graph) : Prop where
  tables_nodup : (g.tables.map TableNode.id).Nodup
  fields_nodup : (g.fields.map FieldNode.id).Nodup
  table_ne_field : ∀ t ∈ g.tables, ∀ f ∈ g.fields, t.id ≠ f.id
  parent : ∀ f ∈ g.fields, ∃ t ∈ g.tables, t.id = f.parent

/-- In every graph that is built, ids tell the nodes apart, and every field has its table. -/
theorem wellFormed_build (level : Level) (relations : List Relation) :
    (build level relations).WellFormed where
  tables_nodup := Names.nodup_of_increasing tableIds_increasing
  fields_nodup := Names.nodup_of_increasing fieldIds_increasing
  table_ne_field := by
    intro t ht f hf
    rw [id_of_mem_build ht, (eq_ofField_of_mem_build hf).1]
    exact tableId_ne_fieldId _ _ _
  parent := fun _ hf => exists_parent_of_mem_build hf

end Graph

end Provenance
