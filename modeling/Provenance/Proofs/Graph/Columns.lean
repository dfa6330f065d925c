import Mathlib.Data.List.Nodup
import Provenance.Proofs.Graph.Contents
import Provenance.Proofs.Graph.Identity
import Provenance.Proofs.Relation.Levels

/-!
# Columns and fields of a table

A table has its columns listed at its node.  At field level it also has field nodes, which name it
as their parent.  Columns and fields are collected independently of each other, and the columns
by different rules at the two levels, since at table level a star stands for a whole table.  This
module compares the levels, and at field level the columns with the fields.

Main results:

- Theorem `Graph.map_withoutField_ends`: at field level the ends are those that the relations
  between single fields have at table level.
- Theorem `Graph.tables_build_fields`: both levels give these relations the same tables.
- Theorem `Graph.nodup_map_field_children`: no two fields of a table have the same name.
- Theorem `Graph.columns_perm_children`: the columns of a table are the names of its fields.
-/

namespace Provenance

/-! ## Both levels -/

/-- The end of a relation at the table of a field. -/
def Endpoint.withoutField (e : Endpoint) : Endpoint := { e with field := none }

namespace Relation

variable {r : Relation}

theorem isUsable_fields : r.isUsable .fields = (r.isUsable .tables && r.isConcrete) := by
  simp [isUsable, isConcrete]

/-- A relation between single fields adds the same columns at both levels. -/
theorem map_withoutField_bothEnds (h : r.isConcrete = true) :
    (r.bothEnds .fields).map Endpoint.withoutField = r.bothEnds .tables := by
  obtain ⟨htarget, field, hfield, hsource⟩ := isConcrete_iff.1 h
  simp [bothEnds, Endpoint.withoutField, sourceEnd, targetEnd, htarget, hfield, hsource,
    Option.filter]

end Relation

namespace Graph

/-- At field level the ends of relations are those that the relations between single fields have
at table level, in the same order. -/
theorem map_withoutField_ends (relations : List Relation) :
    (ends .fields relations).map Endpoint.withoutField =
      ends .tables (relations.filter Relation.isConcrete) := by
  have husable : relations.filter (Relation.isUsable .fields) =
      (relations.filter Relation.isConcrete).filter (Relation.isUsable .tables) := by
    rw [List.filter_filter]
    exact List.filter_congr fun r _ => Relation.isUsable_fields
  have hconcrete : ∀ r ∈ (relations.filter Relation.isConcrete).filter
      (Relation.isUsable .tables),
      (r.bothEnds .fields).map Endpoint.withoutField = r.bothEnds .tables := by
    intro r hr
    exact Relation.map_withoutField_bothEnds (List.mem_filter.1 (List.mem_filter.1 hr).1).2
  unfold ends
  rw [husable, List.map_flatMap, List.flatMap_def, List.flatMap_def,
    List.map_congr_left hconcrete]

/-- What is collected for a table does not depend on the fields at the ends. -/
theorem tableMap_fields (relations : List Relation) :
    tableMap .fields relations = tableMap .tables (relations.filter Relation.isConcrete) := by
  unfold tableMap NameMap.alterAll
  rw [← map_withoutField_ends, List.foldl_map]
  rfl

/-- The tables at field level are those of the relations between single fields at table level,
with their columns in the same order. -/
theorem tables_build_fields (relations : List Relation) :
    (build .fields relations).tables =
      (build .tables (relations.filter Relation.isConcrete)).tables := by
  rw [tables_build, tables_build, tableMap_fields]

/-! ## The fields of a table -/

variable {level : Level} {relations : List Relation} {t : TableNode}

/-- The fields of a table are those of its name. -/
theorem mem_children_build (ht : t ∈ (build level relations).tables) {f : FieldNode} :
    f ∈ (build level relations).children t.id ↔
      f ∈ (build level relations).fields ∧ f.table = t.table := by
  unfold children
  rw [List.mem_filter, beq_iff_eq]
  refine and_congr_right fun hf => ?_
  rw [(eq_ofField_of_mem_build hf).1, id_of_mem_build ht]
  exact tableId_inj

/-- The id of a field of a table, in terms of its name. -/
theorem id_of_mem_children (ht : t ∈ (build level relations).tables) {f : FieldNode}
    (hf : f ∈ (build level relations).children t.id) : f.id = fieldId t.table f.field := by
  obtain ⟨hmem, htable⟩ := (mem_children_build ht).1 hf
  rw [← htable]
  exact congrArg FieldNode.id (eq_ofField_of_mem_build hmem).1

/-- No two fields of a table have the same name, since they would have the same id. -/
theorem nodup_map_field_children (ht : t ∈ (build level relations).tables) :
    (((build level relations).children t.id).map FieldNode.field).Nodup := by
  have hids : (((build level relations).children t.id).map FieldNode.id).Nodup :=
    (Names.nodup_of_increasing fieldIds_increasing).sublist
      (List.filter_sublist.map FieldNode.id)
  exact nodup_map_name (fun f hf => id_of_mem_children ht hf) hids

/-- At field level an end adds the name of its field to the columns of its table. -/
theorem column_of_mem_ends_fields {e : Endpoint} (he : e ∈ ends .fields relations) :
    e.column = e.field := by
  obtain ⟨r, -, -, rfl | rfl⟩ := mem_ends.1 he
  · rfl
  · rfl

/-- A table has a column exactly if it has a field of this name, provided that the names of fields
can be told from their ids. -/
theorem mem_columns_iff_mem_children (nodes : ∀ e ∈ ends .fields relations, e.IsNode .fields)
    (ht : t ∈ (build .fields relations).tables) {c : String} :
    c ∈ t.columns ↔ c ∈ ((build .fields relations).children t.id).map FieldNode.field := by
  rw [mem_columns_iff ht, List.mem_map]
  constructor
  · rintro ⟨e, he, htable, hcolumn⟩
    rw [column_of_mem_ends_fields he] at hcolumn
    obtain ⟨f, hf, hftable, hfield⟩ := exists_own_field_of_mem_ends nodes he hcolumn
    exact ⟨f, (mem_children_build ht).2 ⟨hf, hftable.trans htable⟩, hfield⟩
  · rintro ⟨f, hf, rfl⟩
    obtain ⟨hmem, htable⟩ := (mem_children_build ht).1 hf
    obtain ⟨-, e, he, hetable, hfield⟩ := eq_ofField_of_mem_build hmem
    exact ⟨e, he, hetable.trans htable, (column_of_mem_ends_fields he).trans hfield⟩

/-- The columns of a table are the names of its fields, listed in another order. -/
theorem columns_perm_children (nodes : ∀ e ∈ ends .fields relations, e.IsNode .fields)
    (ht : t ∈ (build .fields relations).tables) :
    t.columns.Perm (((build .fields relations).children t.id).map FieldNode.field) := by
  rw [List.perm_ext_iff_of_nodup (nodup_columns ht) (nodup_map_field_children ht)]
  exact fun c => mem_columns_iff_mem_children nodes ht

/-- Both levels agree on tables: at field level a graph has the tables, and each of them the
columns in the order, that the relations between single fields have at table level.  Of the
relations kept at field level, the columns of a table are the names of its fields, each listed
once, so that columns and fields are equally many. -/
theorem tables_and_columns_agree (relations : List Relation) (rows : List RawRelation) :
    (build .fields relations).tables =
      (build .tables (relations.filter Relation.isConcrete)).tables ∧
    ∀ t ∈ (build .fields (sanitize .fields rows).relations).tables,
      let fields := (build .fields (sanitize .fields rows).relations).children t.id
      t.columns.Perm (fields.map FieldNode.field) ∧ t.columns.Nodup ∧
        t.columns.length = fields.length := by
  refine ⟨tables_build_fields relations, ?_⟩
  intro t ht fields
  have hperm : t.columns.Perm (fields.map FieldNode.field) :=
    columns_perm_children (fun _ he => isNode_of_mem_ends_sanitize (fun _ hr => hr) he) ht
  refine ⟨hperm, nodup_columns ht, ?_⟩
  rw [hperm.length_eq, List.length_map]

/-- Data that flows between fields of two tables, back and forth, and between the whole tables. -/
def backAndForth : List RawRelation :=
  [.ofFields "s_bani.a" "y" "proceso.p" "id", .ofFields "s_bani.a" "*" "proceso.p" "*",
   .ofFields "proceso.p" "id" "s_bani.a" "x"]

/-- The whole tables make a difference at table level only, where they add a column.  The first
table lists its columns as they come and its fields by name. -/
theorem tables_and_columns_backAndForth :
    let kept := (sanitize .tables backAndForth).relations
    let fields := build .fields (sanitize .fields backAndForth).relations
    (build .fields kept).tables ≠ (build .tables kept).tables ∧
    (build .fields kept).tables = (build .tables (kept.filter Relation.isConcrete)).tables ∧
    ∃ t ∈ fields.tables, t.columns = ["y", "x"] ∧
      (fields.children t.id).map FieldNode.field = ["x", "y"] ∧
      t.columns.Perm ((fields.children t.id).map FieldNode.field) := by
  intro kept fields
  have hkept : kept = [.ofFields "s_bani.a" "y" "proceso.p" "id",
      .ofFields "s_bani.a" "*" "proceso.p" "*", .ofFields "proceso.p" "id" "s_bani.a" "x"] := by
    decide +kernel
  have hconcrete : (sanitize .fields backAndForth).relations =
      [.ofFields "s_bani.a" "y" "proceso.p" "id",
       .ofFields "proceso.p" "id" "s_bani.a" "x"] := by
    decide +kernel
  have hfields : fields = _ := congrArg (build .fields) hconcrete
  obtain ⟨htables, hcolumns⟩ := tables_and_columns_agree kept backAndForth
  refine ⟨?_, htables, ?_⟩
  · rw [hkept]
    decide +kernel
  · have ht : { TableNode.ofTable "s_bani.a" with columns := ["y", "x"] } ∈ fields.tables := by
      rw [hfields]
      decide +kernel
    refine ⟨_, ht, rfl, ?_, (hcolumns _ ht).1⟩
    rw [hfields]
    decide +kernel

end Graph

end Provenance
