import Mathlib.Data.List.Nodup
import Provenance.Graph.Details
import Provenance.Proofs.Graph.Build
import Provenance.Proofs.Relation.Kept

/-!
# Ids that identify

Nodes and edges are collected and looked up by their ids alone.  Two elements of a graph with
the same id become one, or one of them can never be looked up.  This module shows that this
does not happen as long as no table is named like an arrow to another node, and that it does
happen otherwise: the naming rules let such tables pass.

Main results:

- Theorem `Relation.edgeId_eq_iff_ends`: the id of an edge tells what the edge joins.
- Theorem `Graph.nodup_ids`: no two nodes or edges have the same id.
- Theorem `Graph.describe_edge`: looking up an edge finds this very edge.
-/

namespace Provenance

/-- What an edge joins: two tables, or two fields of tables. -/
structure EdgeEnds where
  sourceTable : String
  sourceField : Option String
  targetTable : String
  targetField : Option String
  deriving DecidableEq

/-- What an edge joins. -/
def Edge.ends (e : Edge) : EdgeEnds :=
  ⟨e.sourceTable, e.sourceField, e.targetTable, e.targetField⟩

/-- What a relation joins: two tables at table level, two fields at field level. -/
def Relation.ends (level : Level) (r : Relation) : EdgeEnds :=
  match level with
  | .tables => ⟨r.sourceTable, none, r.targetTable, none⟩
  | .fields => ⟨r.sourceTable, r.sourceField, r.targetTable, some r.targetField⟩

theorem Edge.ends_ofRelation (level : Level) (r : Relation) :
    (Edge.ofRelation level r).ends = r.ends level := by
  cases level <;> rfl

/-! ## Relations with legible ids -/

/-- A relation from whose ids its names can be read: its ends are nodes of the level, and no
arrow to a node stands in the names of its tables. -/
structure Relation.Legible (level : Level) (r : Relation) : Prop where
  source : (r.sourceEnd level).IsNode level
  target : (r.targetEnd level).IsNode level
  plainSource : level.Plain r.sourceTable
  plainTarget : level.Plain r.targetTable

namespace Relation

variable {level : Level} {r r' : Relation}

/-- The id of an edge tells what the edge joins. -/
theorem edgeId_eq_iff_ends (h : r.Legible level) (h' : r'.Legible level) :
    r.edgeId level = r'.edgeId level ↔ r.ends level = r'.ends level := by
  have hnodes : r.edgeId level = r'.edgeId level ↔
      (r.sourceEnd level).id = (r'.sourceEnd level).id ∧
        (r.targetEnd level).id = (r'.targetEnd level).id :=
    Endpoint.edgeId_eq_iff h.target h'.target h.plainTarget h'.plainTarget
  rw [hnodes, Endpoint.id_eq_iff h.source h'.source, Endpoint.id_eq_iff h.target h'.target]
  cases level with
  | tables => simp [ends, sourceEnd, targetEnd]
  | fields => simp [ends, sourceEnd, targetEnd, and_assoc]

/-- The ends of a relation that has been kept are nodes of the level. -/
theorem isNode_of_mem_sanitize {rows : List RawRelation}
    (h : r ∈ (sanitize level rows).relations) :
    (r.sourceEnd level).IsNode level ∧ (r.targetEnd level).IsNode level := by
  obtain ⟨raw, -, hcheck⟩ := exists_check_of_mem_sanitize h
  obtain ⟨⟨-, -, hrule⟩, -⟩ := RawRelation.check_eq_ok_iff.1 hcheck
  cases level with
  | tables => exact ⟨rfl, rfl⟩
  | fields =>
      obtain ⟨⟨-, htarget⟩, field, hfield, -, hsource⟩ := brokenFieldRule?_fields hrule
      exact ⟨⟨field, hfield, FieldName.colon_not_mem_of_isValid hsource⟩,
        ⟨r.targetField, rfl, FieldName.colon_not_mem_of_isValid htarget⟩⟩

end Relation

/-! ## Ids of a graph -/

namespace Graph

/-- Looking up the key of an element finds this element, if no two have the same key. -/
theorem find?_key_of_mem {α : Type} {key : α → String} {xs : List α}
    (hnodup : (xs.map key).Nodup) {a : α} (ha : a ∈ xs) :
    (xs.find? fun b => key b == key a) = some a := by
  induction xs with
  | nil => contradiction
  | cons b xs ih =>
      rw [List.map_cons, List.nodup_cons] at hnodup
      rcases List.mem_cons.1 ha with rfl | ha
      · simp
      · have hne : key b ≠ key a := by
          intro heq
          exact hnodup.1 (heq ▸ List.mem_map_of_mem ha)
        rw [List.find?_cons_of_neg (by simpa using hne)]
        exact ih hnodup.2 ha

variable {level : Level} {relations : List Relation}

/-- The ends of relations that have been kept are nodes of the level. -/
theorem isNode_of_mem_ends_sanitize {rows : List RawRelation}
    (kept : ∀ r ∈ relations, r ∈ (sanitize level rows).relations) {e : Endpoint}
    (he : e ∈ ends level relations) : e.IsNode level := by
  obtain ⟨r, hr, -, rfl | rfl⟩ := mem_ends.1 he
  · exact (Relation.isNode_of_mem_sanitize (kept r hr)).1
  · exact (Relation.isNode_of_mem_sanitize (kept r hr)).2

section Legible

variable (legible : ∀ r ∈ relations, r.Legible level)

include legible

theorem isNode_of_mem_ends {e : Endpoint} (he : e ∈ ends level relations) :
    e.IsNode level ∧ level.Plain e.table := by
  obtain ⟨r, hr, -, rfl | rfl⟩ := mem_ends.1 he
  · exact ⟨(legible r hr).source, (legible r hr).plainSource⟩
  · exact ⟨(legible r hr).target, (legible r hr).plainTarget⟩

/-- No node at an end of a relation has the id of an edge. -/
theorem id_ne_of_mem_edges {e : Endpoint} (he : e ∈ ends level relations) {edge : Edge}
    (hedge : edge ∈ (build level relations).edges) : e.id ≠ edge.id := by
  obtain ⟨r, hr, -, hshape⟩ := withoutTexts_of_mem_build hedge
  have hid : edge.id = r.edgeId level := congrArg Edge.id hshape
  obtain ⟨hnode, hplain⟩ := isNode_of_mem_ends legible he
  rw [hid]
  exact Endpoint.id_ne_edgeId hnode (legible r hr).target hplain _

theorem fieldId_ne_of_mem_edges {f : FieldNode} (hf : f ∈ (build level relations).fields)
    {edge : Edge} (hedge : edge ∈ (build level relations).edges) : f.id ≠ edge.id := by
  obtain ⟨hshape, e, he, htable, hfield⟩ := eq_ofField_of_mem_build hf
  have hid : f.id = e.id := by
    rw [hshape]
    simp [Endpoint.id, hfield, htable, FieldNode.ofField]
  rw [hid]
  exact id_ne_of_mem_edges legible he hedge

theorem tableId_ne_of_mem_edges {n : TableNode} (hn : n ∈ (build level relations).tables)
    {edge : Edge} (hedge : edge ∈ (build level relations).edges) : n.id ≠ edge.id := by
  obtain ⟨-, e, he, htable⟩ := eq_ofTable_of_mem_build hn
  have hid : n.id = tableId e.table := by
    rw [id_of_mem_build hn, htable]
  cases level with
  | tables =>
      -- At table level the tables are the nodes that edges join.
      have hfield : e.field = none := (isNode_of_mem_ends legible he).1
      have hsame : tableId e.table = e.id := by simp [Endpoint.id, hfield]
      rw [hid, hsame]
      exact id_ne_of_mem_edges legible he hedge
  | fields =>
      obtain ⟨r, hr, -, hshape⟩ := withoutTexts_of_mem_build hedge
      obtain ⟨field, hfield, -⟩ := (legible r hr).source
      have hsource : (r.sourceEnd .fields).id = fieldId r.sourceTable field := by
        simp only [Endpoint.id, hfield]
        rfl
      have hedgeId : edge.id =
          edgeId (fieldId r.sourceTable field) (r.targetEnd .fields).id := by
        rw [← hsource]
        exact congrArg Edge.id hshape
      rw [hid, hedgeId]
      exact tableId_ne_edgeId_fieldId _ _ _ _

/-- No two nodes or edges have the same id. -/
theorem nodup_ids : (build level relations).ids.Nodup := by
  have hg := wellFormed_build level relations
  unfold ids
  rw [List.nodup_append, List.nodup_append]
  refine ⟨⟨hg.tables_nodup, hg.fields_nodup, ?_⟩,
    Names.nodup_of_increasing edgeIds_increasing, ?_⟩
  · simpa only [List.forall_mem_map] using hg.table_ne_field
  · simp only [List.mem_append, List.forall_mem_map]
    rintro x (hx | hx) edge hedge
    · obtain ⟨n, hn, rfl⟩ := List.mem_map.1 hx
      exact tableId_ne_of_mem_edges legible hn hedge
    · obtain ⟨f, hf, rfl⟩ := List.mem_map.1 hx
      exact fieldId_ne_of_mem_edges legible hf hedge

/-- What an edge joins decides which edge it is. -/
theorem nodup_map_ends : ((build level relations).edges.map Edge.ends).Nodup := by
  have hnodup : ((build level relations).edges.map Edge.id).Nodup :=
    Names.nodup_of_increasing edgeIds_increasing
  rw [List.nodup_map_iff_inj_on hnodup.of_map]
  intro edge hedge edge' hedge' hends
  obtain ⟨r, hr, -, hshape⟩ := withoutTexts_of_mem_build hedge
  obtain ⟨r', hr', -, hshape'⟩ := withoutTexts_of_mem_build hedge'
  have hjoined : r.ends level = r'.ends level := by
    rw [← Edge.ends_ofRelation, ← Edge.ends_ofRelation, ← hshape, ← hshape']
    exact hends
  have hid : edge.id = edge'.id :=
    calc
      edge.id = r.edgeId level := congrArg Edge.id hshape
      _ = r'.edgeId level :=
        (Relation.edgeId_eq_iff_ends (legible r hr) (legible r' hr')).2 hjoined
      _ = edge'.id := (congrArg Edge.id hshape').symm
  exact List.inj_on_of_nodup_map hnodup hedge hedge' hid

/-- The edges join what the relations join that have a place in the graph. -/
theorem mem_map_ends_iff {joined : EdgeEnds} :
    joined ∈ (build level relations).edges.map Edge.ends ↔
      ∃ r ∈ relations, r.isUsable level = true ∧ r.ends level = joined := by
  rw [List.mem_map]
  constructor
  · rintro ⟨edge, hedge, rfl⟩
    obtain ⟨r, hr, husable, hshape⟩ := withoutTexts_of_mem_build hedge
    refine ⟨r, hr, husable, ?_⟩
    rw [← Edge.ends_ofRelation, ← hshape]
    rfl
  · rintro ⟨r, hr, husable, rfl⟩
    obtain ⟨edge, hedge, hid⟩ := exists_edge_of_isUsable hr husable
    obtain ⟨r', hr', -, hshape⟩ := withoutTexts_of_mem_build hedge
    refine ⟨edge, hedge, ?_⟩
    have hsame : r'.edgeId level = r.edgeId level := by
      rw [← hid]
      exact (congrArg Edge.id hshape).symm
    rw [← (Relation.edgeId_eq_iff_ends (legible r' hr') (legible r hr)).1 hsame,
      ← Edge.ends_ofRelation, ← hshape]
    rfl

/-- Looking up an edge finds this very edge. -/
theorem describe_edge {edge : Edge} (hedge : edge ∈ (build level relations).edges) :
    (build level relations).describe edge.id = some (Details.ofEdge edge) := by
  have htable : (build level relations).table? edge.id = none := by
    rw [table?, List.find?_eq_none]
    intro n hn
    simpa using tableId_ne_of_mem_edges legible hn hedge
  have hfield : (build level relations).field? edge.id = none := by
    rw [field?, List.find?_eq_none]
    intro f hf
    simpa using fieldId_ne_of_mem_edges legible hf hedge
  have hfound : (build level relations).edge? edge.id = some edge :=
    find?_key_of_mem (Names.nodup_of_increasing edgeIds_increasing) hedge
  simp only [describe, htable, hfield, hfound, Option.map_some]

end Legible

/-- Ids identify nodes and edges, if no arrow to a node stands in the name of a table: no two of
them have the same id; two relations have the same edge id exactly if they join the same; there
is one edge for everything that relations join; and looking up an edge finds this very edge. -/
theorem ids_identify_of_plain (level : Level) (rows : List RawRelation)
    (plain : ∀ r ∈ (sanitize level rows).relations,
      level.Plain r.sourceTable ∧ level.Plain r.targetTable) :
    (build level (sanitize level rows).relations).ids.Nodup ∧
    (∀ r ∈ (sanitize level rows).relations, ∀ r' ∈ (sanitize level rows).relations,
      r.edgeId level = r'.edgeId level ↔ r.ends level = r'.ends level) ∧
    ((build level (sanitize level rows).relations).edges.map Edge.ends).Nodup ∧
    (∀ joined, joined ∈ (build level (sanitize level rows).relations).edges.map Edge.ends ↔
      ∃ r ∈ (sanitize level rows).relations, r.ends level = joined) ∧
    ∀ edge ∈ (build level (sanitize level rows).relations).edges,
      (build level (sanitize level rows).relations).describe edge.id =
        some (Details.ofEdge edge) := by
  have legible : ∀ r ∈ (sanitize level rows).relations, r.Legible level := by
    intro r hr
    obtain ⟨hsource, htarget⟩ := Relation.isNode_of_mem_sanitize hr
    exact ⟨hsource, htarget, (plain r hr).1, (plain r hr).2⟩
  refine ⟨nodup_ids legible, ?_, nodup_map_ends legible, ?_, ?_⟩
  · intro r hr r' hr'
    exact Relation.edgeId_eq_iff_ends (legible r hr) (legible r' hr')
  · intro joined
    rw [mem_map_ends_iff legible]
    constructor
    · rintro ⟨r, hr, -, hends⟩
      exact ⟨r, hr, hends⟩
    · rintro ⟨r, hr, hends⟩
      exact ⟨r, hr, Relation.isUsable_of_mem_sanitize hr, hends⟩
  · intro edge hedge
    exact describe_edge legible hedge

/-- Colons, and an arrow that leads to no node, in the names of tables. -/
def rowsWithColons : List RawRelation :=
  [.ofFields "s_bani.a->b" "id" "resultados.c:d" "id",
   .ofFields "s_bani.a->b:id" "id" "resultados.c" "d_id"]

/-- Colons in the names of tables leave the ids of fields and edges distinct. -/
theorem ids_identify_rowsWithColons :
    (sanitize .fields rowsWithColons).relations.length = 2 ∧
    (∀ r ∈ (sanitize .fields rowsWithColons).relations,
      Level.fields.Plain r.sourceTable ∧ Level.fields.Plain r.targetTable) ∧
    (build .fields (sanitize .fields rowsWithColons).relations).ids.Nodup := by
  have hkept : (sanitize .fields rowsWithColons).relations =
      [.ofFields "s_bani.a->b" "id" "resultados.c:d" "id",
       .ofFields "s_bani.a->b:id" "id" "resultados.c" "d_id"] := by
    decide +kernel
  have plain : ∀ r ∈ (sanitize .fields rowsWithColons).relations,
      Level.fields.Plain r.sourceTable ∧ Level.fields.Plain r.targetTable := by
    rw [hkept]
    decide +kernel
  exact ⟨by rw [hkept]; rfl, plain, (ids_identify_of_plain .fields rowsWithColons plain).1⟩

/-- Tables whose names hold an arrow to another table.  All of these names keep to the rules. -/
def rowsWithArrows : List RawRelation :=
  [.ofFields "lz.estatico" "*" "resultados.b" "*",
   .ofFields "lz.estatico->table:resultados.b" "*" "resultados.b" "*",
   .ofFields "s_bani.x->table:s_bani" "*" "s_bani.y" "*",
   .ofFields "s_bani.x" "*" "s_bani->table:s_bani.y" "*"]

/-- Arrows in the names of tables make ids clash: four relations that join different tables have
three edges, because two of them have the same edge id, and one of the edges has the id of a
table, so that looking it up finds the table. -/
theorem ids_clash_rowsWithArrows :
    ((sanitize .tables rowsWithArrows).relations.map (Relation.ends .tables)).Nodup ∧
    (sanitize .tables rowsWithArrows).relations.length = 4 ∧
    (build .tables (sanitize .tables rowsWithArrows).relations).edges.length = 3 ∧
    ¬ (build .tables (sanitize .tables rowsWithArrows).relations).ids.Nodup ∧
    (∃ r ∈ (sanitize .tables rowsWithArrows).relations,
      ∃ r' ∈ (sanitize .tables rowsWithArrows).relations,
        r.edgeId .tables = r'.edgeId .tables ∧ r.ends .tables ≠ r'.ends .tables) ∧
    ∃ edge ∈ (build .tables (sanitize .tables rowsWithArrows).relations).edges,
      (build .tables (sanitize .tables rowsWithArrows).relations).describe edge.id ≠
        some (Details.ofEdge edge) := by
  have hkept : (sanitize .tables rowsWithArrows).relations =
      [.ofFields "lz.estatico" "*" "resultados.b" "*",
       .ofFields "lz.estatico->table:resultados.b" "*" "resultados.b" "*",
       .ofFields "s_bani.x->table:s_bani" "*" "s_bani.y" "*",
       .ofFields "s_bani.x" "*" "s_bani->table:s_bani.y" "*"] := by
    decide +kernel
  rw [hkept]
  decide +kernel

end Graph

end Provenance
