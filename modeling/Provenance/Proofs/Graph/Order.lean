import Provenance.Proofs.Graph.Contents
import Provenance.Proofs.Graph.Identity

/-!
# The order of relations

A node or an edge is made by the first relation that touches it, and later relations change it.
This module shows that it hardly matters in which order the relations come: the order decides
how the columns of a table are listed, which queries of an edge are kept, and, if different
nodes or edges have the same id, for which of them the id stands.

All that is used of two lists of relations is that they have the same members, so that it does
not matter either how often a relation is stated.

Main results:

- Theorem `Graph.table_congr`: a table has the same columns up to their order.
- Theorem `Graph.texts_congr`: an edge has the same transformations and recommendations.
- Theorems `Graph.field_congr` and `Graph.edge_congr`: if ids do not collide, a field is the
  same, and an edge is the same up to its queries.
-/

namespace Provenance

/-- An edge as it is before any query is taken from a relation. -/
def Edge.withoutQueries (e : Edge) : Edge := { e with queries := [] }

/-- Relations that join the same have the same edge, before any text is taken from them. -/
theorem Edge.ofRelation_eq_of_ends {level : Level} {r r' : Relation}
    (h : r.ends level = r'.ends level) : Edge.ofRelation level r = Edge.ofRelation level r' := by
  cases level with
  | tables =>
      simp only [Relation.ends, EdgeEnds.mk.injEq] at h
      simp [ofRelation, Relation.edgeId, Relation.sourceEnd, Relation.targetEnd, Endpoint.id, h]
  | fields =>
      simp only [Relation.ends, EdgeEnds.mk.injEq, Option.some.injEq] at h
      simp [ofRelation, Relation.edgeId, Relation.sourceEnd, Relation.targetEnd, Endpoint.id, h]

/-- Two lists with the same keys in the same order also agree on whatever their members with the
same key agree on. -/
theorem map_congr_of_keys {α β δ : Type} {key : α → String} {key' : β → String} {f : α → δ}
    {g : β → δ} {xs : List α} {ys : List β} (hkeys : xs.map key = ys.map key')
    (h : ∀ a ∈ xs, ∀ b ∈ ys, key a = key' b → f a = g b) : xs.map f = ys.map g := by
  induction xs generalizing ys with
  | nil =>
      have hys : ys = [] := by simpa using hkeys.symm
      rw [hys]
      rfl
  | cons a xs ih =>
      cases ys with
      | nil => simp at hkeys
      | cons b ys =>
          simp only [List.map_cons, List.cons.injEq] at hkeys ⊢
          refine ⟨h a List.mem_cons_self b List.mem_cons_self hkeys.1, ih hkeys.2 ?_⟩
          intro a' ha' b' hb'
          exact h a' (List.mem_cons_of_mem a ha') b' (List.mem_cons_of_mem b hb')

namespace Graph

/-- No two ends of relations that are different nodes have the same id. -/
def EndIdsApart (level : Level) (relations : List Relation) : Prop :=
  ∀ e ∈ ends level relations, ∀ e' ∈ ends level relations,
    e.id = e'.id → e.table = e'.table ∧ e.field = e'.field

/-- No two relations that join different nodes have the same edge id. -/
def EdgeIdsApart (level : Level) (relations : List Relation) : Prop :=
  ∀ r ∈ relations, ∀ r' ∈ relations, r.isUsable level = true → r'.isUsable level = true →
    r.edgeId level = r'.edgeId level → r.ends level = r'.ends level

section SameRelations

variable {level : Level} {relations relations' : List Relation}
  (same : ∀ r, r ∈ relations ↔ r ∈ relations')

include same

/-- The same relations have the same ends. -/
theorem mem_ends_congr (e : Endpoint) :
    e ∈ ends level relations ↔ e ∈ ends level relations' := by
  simp only [mem_ends, same]

/-! ## Tables -/

/-- The same relations have the same tables, by id. -/
theorem map_id_tables_congr :
    (build level relations).tables.map TableNode.id =
      (build level relations').tables.map TableNode.id := by
  have hnames : (tableMap level relations).names = (tableMap level relations').names :=
    NameMap.names_alterAll_congr (mem_ends_congr same)
  rw [tables_build, tables_build, NameMap.map_values fun _ _ hfind => (find?_tableMap hfind).1,
    NameMap.map_values fun _ _ hfind => (find?_tableMap hfind).1, hnames]

/-- Tables with the same id differ at most in the order of their columns. -/
theorem table_congr {n n' : TableNode} (hn : n ∈ (build level relations).tables)
    (hn' : n' ∈ (build level relations').tables) (hid : n.id = n'.id) :
    n.withoutColumns = n'.withoutColumns ∧ n.columns.Perm n'.columns := by
  have htable : n.table = n'.table := by
    rw [id_of_mem_build hn, id_of_mem_build hn'] at hid
    exact tableId_inj.1 hid
  have hcolumns : ∀ c, c ∈ n.columns ↔ c ∈ n'.columns := by
    intro c
    rw [mem_columns_iff hn, mem_columns_iff hn', htable]
    simp only [mem_ends_congr same]
  constructor
  · rw [(eq_ofTable_of_mem_build hn).1, (eq_ofTable_of_mem_build hn').1, htable]
  · rw [List.perm_ext_iff_of_nodup (nodup_columns hn) (nodup_columns hn')]
    exact hcolumns

/-- Whatever tables that differ at most in the order of their columns have in common is the same
for both lists of tables. -/
theorem map_tables_congr {δ : Type} {f : TableNode → δ}
    (hf : ∀ n n' : TableNode, n.withoutColumns = n'.withoutColumns →
      n.columns.Perm n'.columns → f n = f n') :
    (build level relations).tables.map f = (build level relations').tables.map f := by
  apply map_congr_of_keys (map_id_tables_congr same)
  intro n hn n' hn' hid
  have htables := table_congr same hn hn' hid
  exact hf n n' htables.1 htables.2

/-! ## Fields -/

/-- The same relations have the same fields, by id. -/
theorem map_id_fields_congr :
    (build level relations).fields.map FieldNode.id =
      (build level relations').fields.map FieldNode.id := by
  have hnames : (fieldMap level relations).names = (fieldMap level relations').names := by
    apply NameMap.names_alterAll_congr
    simp only [List.mem_flatMap, mem_ends_congr same, implies_true]
  rw [fields_build, fields_build, NameMap.map_values fun _ _ hfind => (find?_fieldMap hfind).1,
    NameMap.map_values fun _ _ hfind => (find?_fieldMap hfind).1, hnames]

/-- Without collisions, fields with the same id are the same. -/
theorem field_congr (apart : EndIdsApart level relations) {f f' : FieldNode}
    (hf : f ∈ (build level relations).fields) (hf' : f' ∈ (build level relations').fields)
    (hid : f.id = f'.id) : f = f' := by
  rcases eq_ofField_of_mem_build hf with ⟨hshape, e, he, htable, hfield⟩
  rcases eq_ofField_of_mem_build hf' with ⟨hshape', e', he', htable', hfield'⟩
  have heid : e.id = f.id := by
    rw [hshape]
    simp [Endpoint.id, hfield, htable, FieldNode.ofField]
  have heid' : e'.id = f'.id := by
    rw [hshape']
    simp [Endpoint.id, hfield', htable', FieldNode.ofField]
  have hends : e.table = e'.table ∧ e.field = e'.field :=
    apart e he e' ((mem_ends_congr same e').2 he') (by rw [heid, heid', hid])
  have htables : f.table = f'.table := by
    rw [← htable, ← htable', hends.1]
  have hfields : f.field = f'.field := by
    apply Option.some.inj
    rw [← hfield, ← hfield', hends.2]
  rw [hshape, hshape', htables, hfields]

/-- The same relations have the same fields, if ids tell them apart. -/
theorem fields_congr (apart : EndIdsApart level relations) :
    (build level relations).fields = (build level relations').fields := by
  have hmap : (build level relations).fields.map id = (build level relations').fields.map id := by
    apply map_congr_of_keys (map_id_fields_congr same)
    intro f hf f' hf' hid
    exact field_congr same apart hf hf' hid
  simpa using hmap

/-! ## Edges -/

/-- The same relations have the same edges, by id. -/
theorem map_id_edges_congr :
    (build level relations).edges.map Edge.id = (build level relations').edges.map Edge.id := by
  have hnames : (edgeMap level relations).names = (edgeMap level relations').names := by
    apply NameMap.names_alterAll_congr
    simp only [List.mem_filter, same, implies_true]
  rw [edges_build, edges_build, NameMap.map_values fun _ _ hfind => (find?_edgeMap hfind).1,
    NameMap.map_values fun _ _ hfind => (find?_edgeMap hfind).1, hnames]

/-- Edges with the same id have the same transformations and recommendations. -/
theorem texts_congr {e e' : Edge} (he : e ∈ (build level relations).edges)
    (he' : e' ∈ (build level relations').edges) (hid : e.id = e'.id) :
    e.transformations = e'.transformations ∧ e.recommendations = e'.recommendations := by
  constructor
  · apply Names.ext
    intro t
    rw [mem_transformations_iff he, mem_transformations_iff he', hid]
    simp only [same]
  · apply Names.ext
    intro t
    rw [mem_recommendations_iff he, mem_recommendations_iff he', hid]
    simp only [same]

/-- Without collisions, edges with the same id are the same up to their queries. -/
theorem edge_congr (apart : EdgeIdsApart level relations) {e e' : Edge}
    (he : e ∈ (build level relations).edges) (he' : e' ∈ (build level relations').edges)
    (hid : e.id = e'.id) : e.withoutQueries = e'.withoutQueries := by
  rcases withoutTexts_of_mem_build he with ⟨r, hr, husable, hshape⟩
  rcases withoutTexts_of_mem_build he' with ⟨r', hr', husable', hshape'⟩
  have hedgeId : r.edgeId level = r'.edgeId level :=
    calc
      r.edgeId level = e.id := (congrArg Edge.id hshape).symm
      _ = e'.id := hid
      _ = r'.edgeId level := congrArg Edge.id hshape'
  have hends : r.ends level = r'.ends level :=
    apart r hr r' ((same r').2 hr') husable husable' hedgeId
  have hbare : e.withoutTexts = e'.withoutTexts := by
    rw [hshape, hshape', Edge.ofRelation_eq_of_ends hends]
  have htexts := texts_congr same he he' hid
  -- the texts are put back in place of the empty ones
  calc
    e.withoutQueries =
        { e.withoutTexts with
          transformations := e.transformations, recommendations := e.recommendations } := rfl
    _ = { e'.withoutTexts with
          transformations := e'.transformations, recommendations := e'.recommendations } := by
      rw [hbare, htexts.1, htexts.2]
    _ = e'.withoutQueries := rfl

/-- The same relations have the same edges but for the queries, if ids tell them apart. -/
theorem map_withoutQueries_edges_congr (apart : EdgeIdsApart level relations) :
    (build level relations).edges.map Edge.withoutQueries =
      (build level relations').edges.map Edge.withoutQueries := by
  apply map_congr_of_keys (map_id_edges_congr same)
  intro e he e' he' hid
  exact edge_congr same apart he he' hid

end SameRelations

/-! ## Permuted relations -/

/-- Relations in another order give the same tables in the same order, each with the same
columns without repetition, the same ids of fields and of edges in the same order, and edges
with the same transformations and recommendations.  If ids do not collide, the fields are the
same, and the edges are the same up to their queries. -/
theorem build_of_perm (level : Level) {relations relations' : List Relation}
    (h : relations.Perm relations') :
    (build level relations).tables.map TableNode.withoutColumns =
      (build level relations').tables.map TableNode.withoutColumns ∧
    (∀ n ∈ (build level relations).tables, ∀ n' ∈ (build level relations').tables,
      n.id = n'.id → n.columns.Nodup ∧ n'.columns.Nodup ∧ ∀ c, c ∈ n.columns ↔ c ∈ n'.columns) ∧
    (build level relations).fields.map FieldNode.id =
      (build level relations').fields.map FieldNode.id ∧
    (build level relations).edges.map Edge.id = (build level relations').edges.map Edge.id ∧
    (∀ e ∈ (build level relations).edges, ∀ e' ∈ (build level relations').edges, e.id = e'.id →
      e.transformations = e'.transformations ∧ e.recommendations = e'.recommendations) ∧
    (EndIdsApart level relations →
      (build level relations).fields = (build level relations').fields) ∧
    (EdgeIdsApart level relations →
      (build level relations).edges.map Edge.withoutQueries =
        (build level relations').edges.map Edge.withoutQueries) := by
  have same : ∀ r, r ∈ relations ↔ r ∈ relations' := fun r => h.mem_iff
  refine ⟨map_tables_congr same fun n n' hbare _ => hbare, ?_, map_id_fields_congr same,
    map_id_edges_congr same, ?_, fields_congr same, map_withoutQueries_edges_congr same⟩
  · intro n hn n' hn' hid
    have hperm := (table_congr same hn hn' hid).2
    exact ⟨nodup_columns hn, nodup_columns hn', fun c => hperm.mem_iff⟩
  · intro e he e' he' hid
    exact texts_congr same he he' hid

/-- A table whose data flows within the table and also comes from another one. -/
def withinTable : List Relation :=
  [.ofFields "s_bani.a" "x" "s_bani.a" "y", .ofFields "s_bani.b" "z" "s_bani.a" "y"]

/-- The other way round the columns of the table are listed in another order, and nothing else
changes. -/
theorem build_withinTable_reverse :
    withinTable.Perm withinTable.reverse ∧
    EndIdsApart .fields withinTable ∧ EdgeIdsApart .fields withinTable ∧
    (build .fields withinTable).tables ≠ (build .fields withinTable.reverse).tables ∧
    (build .fields withinTable).tables.map TableNode.withoutColumns =
      (build .fields withinTable.reverse).tables.map TableNode.withoutColumns ∧
    (build .fields withinTable).fields = (build .fields withinTable.reverse).fields ∧
    (build .fields withinTable).edges.map Edge.withoutQueries =
      (build .fields withinTable.reverse).edges.map Edge.withoutQueries := by
  have hperm : withinTable.Perm withinTable.reverse := (List.reverse_perm _).symm
  have hends : EndIdsApart .fields withinTable := by
    unfold EndIdsApart
    decide +kernel
  have hedges : EdgeIdsApart .fields withinTable := by
    unfold EdgeIdsApart
    decide +kernel
  rcases build_of_perm .fields hperm with ⟨htables, -, -, -, -, hfields, hqueries⟩
  exact ⟨hperm, hends, hedges, by decide +kernel, htables, hfields hends, hqueries hedges⟩

end Graph

end Provenance
