import Provenance.Proofs.Graph.Order
import Provenance.Layout.Columns

/-!
# What the column layout sees of a graph

The layout in columns does not look at edges, and of the columns of a table it only counts how
many there are.  This module says exactly what it looks at, and concludes that relations may
come in any order: although the graph may list the columns of a table otherwise, every number
of the layout stays the same.  Nothing here depends on how numbers are computed.

Main results:

- Theorem `columnLayout_congr`: graphs that look alike have the same layout.
- Theorem `Graph.endIdsApart_of_sanitize`: no two fields of kept relations have the same id.
- Theorem `Graph.looksLike_build`: the same relations in any order give graphs that look alike.
-/

namespace Provenance

/-- What the layout sees of a table: all but its columns, and how many columns there are. -/
def TableNode.outline (t : TableNode) : TableNode × Nat := (t.withoutColumns, t.columns.length)

/-- Two graphs look alike: their tables have the same outlines in the same order, and their
fields are the same. -/
structure Graph.LooksLike (g g' : Graph) : Prop where
  tables : g.tables.map TableNode.outline = g'.tables.map TableNode.outline
  fields : g.fields = g'.fields

/-! ## Bands and rows -/

namespace Graph

/-- The outlines of a band are found among the outlines of all tables. -/
theorem map_outline_band (g : Graph) (column : Column) :
    (g.band column).map TableNode.outline =
      ((g.tables.map TableNode.outline).filter fun o => o.1.kind.column == column).mergeSort
        fun a b => decide (a.1.table ≤ b.1.table) := by
  rw [List.filter_map]
  exact List.map_mergeSort fun _ _ _ _ => rfl

variable {g g' : Graph} (alike : g.LooksLike g')

include alike

theorem map_outline_band_congr (column : Column) :
    (g.band column).map TableNode.outline = (g'.band column).map TableNode.outline := by
  rw [map_outline_band, map_outline_band, alike.tables]

theorem rows_congr (tableId : String) : g.rows tableId = g'.rows tableId := by
  unfold rows children
  rw [alike.fields]

/-- Tables with the same outline have the same number of rows. -/
theorem rowCount_congr {t t' : TableNode} (h : t.outline = t'.outline) :
    g.rowCount t = g'.rowCount t' := by
  have hid : t.id = t'.id := congrArg (fun o => o.1.id) h
  have hcolumns : t.columns.length = t'.columns.length := congrArg Prod.snd h
  unfold rowCount children
  rw [alike.fields, hid, hcolumns]

end Graph

/-! ## Boxes and places -/

section Alike

variable {α : Type} [Scalar α] {m : LayoutMetrics α} {g g' : Graph} (alike : g.LooksLike g')

include alike

/-- Tables with the same outlines are stacked in the same way. -/
theorem stack_congr {ts ts' : List TableNode}
    (h : ts.map TableNode.outline = ts'.map TableNode.outline) (x top : α) :
    stack m g x top ts = stack m g' x top ts' := by
  induction ts generalizing ts' top with
  | nil =>
      have hts' : ts' = [] := by simpa using h.symm
      rw [hts']
      rfl
  | cons t ts ih =>
      cases ts' with
      | nil => simp at h
      | cons t' ts' =>
          rw [List.map_cons, List.map_cons, List.cons.injEq] at h
          have hid : t.id = t'.id := congrArg (fun o => o.1.id) h.1
          -- the same height, so that the next table begins at the same place
          have hrows : g.rowCount t = g'.rowCount t' := Graph.rowCount_congr alike h.1
          simp only [stack]
          rw [hid, hrows, ih h.2]

theorem stackBands_congr (bands : Bands α) : stackBands m g bands = stackBands m g' bands := by
  unfold stackBands
  congr 1
  funext column
  exact stack_congr alike (Graph.map_outline_band_congr alike column) _ _

theorem placeTable_congr : placeTable m g = placeTable m g' := by
  funext box
  unfold placeTable
  rw [Graph.rows_congr alike]

/-- Graphs that look alike have the same layout. -/
theorem columnLayout_congr (containerWidth : α) (overlay : Bool) :
    columnLayout m g containerWidth overlay = columnLayout m g' containerWidth overlay := by
  unfold columnLayout
  simp only [stackBands_congr alike, placeTable_congr alike]

end Alike

/-! ## Kept relations in any order -/

namespace Graph

/-- No two fields of kept relations have the same id, since there is no colon in their names. -/
theorem endIdsApart_of_sanitize {level : Level} {rows : List RawRelation}
    {relations : List Relation} (h : ∀ r ∈ relations, r ∈ (sanitize level rows).relations) :
    EndIdsApart level relations := by
  intro e he e' he' hid
  exact (Endpoint.id_eq_iff (isNode_of_mem_ends_sanitize h he)
    (isNode_of_mem_ends_sanitize h he')).1 hid

/-- The same relations in any order give graphs that look alike, if ids of fields do not
collide. -/
theorem looksLike_build {level : Level} {relations relations' : List Relation}
    (same : ∀ r, r ∈ relations ↔ r ∈ relations') (apart : EndIdsApart level relations) :
    (build level relations).LooksLike (build level relations') where
  tables := by
    apply map_tables_congr same
    intro n n' hbare hcolumns
    exact Prod.ext hbare hcolumns.length_eq
  fields := fields_congr same apart

end Graph

/-- The relations kept of a document have the same layout in whatever order they are given to
the graph: the same bands, the same boxes in the same sequence, the same places and the same
height, whatever numbers the layout is computed with. -/
theorem columnLayout_build_of_perm {α : Type} [Scalar α] (m : LayoutMetrics α) (level : Level)
    (rows : List RawRelation) {relations : List Relation}
    (h : relations.Perm (sanitize level rows).relations) (containerWidth : α) (overlay : Bool) :
    columnLayout m (Graph.build level relations) containerWidth overlay =
      columnLayout m (Graph.build level (sanitize level rows).relations) containerWidth
        overlay := by
  have apart : Graph.EndIdsApart level relations :=
    Graph.endIdsApart_of_sanitize fun r hr => h.mem_iff.1 hr
  have alike := Graph.looksLike_build (fun r => h.mem_iff) apart
  exact columnLayout_congr alike containerWidth overlay

/-- Two rows that give one table two columns. -/
def rowsOfOneTable : List RawRelation :=
  [.ofFields "s_bani.a" "x" "resultados.b" "id", .ofFields "s_bani.a" "y" "resultados.b" "id"]

/-- The other way round the table lists its columns in another order, and all doubles of the
layout are the same. -/
theorem columnLayout_rowsOfOneTable_reverse :
    (sanitize .fields rowsOfOneTable).relations.length = 2 ∧
    (Graph.build .fields (sanitize .fields rowsOfOneTable).relations.reverse).tables ≠
      (Graph.build .fields (sanitize .fields rowsOfOneTable).relations).tables ∧
    columnLayout (LayoutMetrics.standard : LayoutMetrics Float)
        (Graph.build .fields (sanitize .fields rowsOfOneTable).relations.reverse) 0.1 true =
      columnLayout LayoutMetrics.standard
        (Graph.build .fields (sanitize .fields rowsOfOneTable).relations) 0.1 true := by
  have hlayout := columnLayout_build_of_perm (LayoutMetrics.standard : LayoutMetrics Float) .fields
    rowsOfOneTable (List.reverse_perm _) 0.1 true
  have hkept : (sanitize .fields rowsOfOneTable).relations =
      [.ofFields "s_bani.a" "x" "resultados.b" "id",
       .ofFields "s_bani.a" "y" "resultados.b" "id"] := by
    decide +kernel
  refine ⟨by rw [hkept]; rfl, ?_, hlayout⟩
  rw [hkept]
  decide +kernel

end Provenance
