import Mathlib.Algebra.Order.Field.Basic
import Mathlib.Data.List.Chain
import Mathlib.Data.List.Forall2
import Mathlib.Tactic.Linarith
import Mathlib.Tactic.Ring
import Provenance.Proofs.Graph.Columns
import Provenance.Proofs.Layout.Boxes
import Provenance.Proofs.Layout.Exact
import Provenance.Proofs.Zones

/-!
# The column layout stacks exactly

Tables are split into three bands, each band is sorted and stacked, the fields of every table are
sorted and placed in its rows, and the height of a table is computed by a formula of its own.
This module says where everything is in the end, exactly and for all metrics, also for those that
make no sense: nothing here needs a size or a gap to be positive.

Main results:

- Theorem `stacked_stack`: tables of a band stand below each other, a gap apart.
- Theorem `rowsStacked_rows`: rows of a table stand below each other, a gap apart, and if there
  are as many as the table has room for, the last one ends a gap above the bottom.
- Definition `ColumnLayout.StacksExactly`: all that can be said of a layout in columns.
-/

namespace Provenance

/-! ## Tables and fields in order -/

theorem Column.flatMap_all {β : Type} (f : Column → List β) :
    Column.all.flatMap f = f .left ++ f .center ++ f .right := by
  simp [Column.all]

namespace Graph

variable {level : Level} {relations : List Relation}

/-- No two tables of a graph have the same name. -/
theorem nodup_map_table_build : ((build level relations).tables.map TableNode.table).Nodup := by
  have hids : ((build level relations).tables.map TableNode.id).Nodup :=
    Names.nodup_of_increasing tableIds_increasing
  exact nodup_map_name (fun t ht => id_of_mem_build ht) hids

/-- The tables of a band stand in the order of their names. -/
theorem increasing_map_table_band (column : Column) :
    (((build level relations).band column).map TableNode.table).Pairwise (· < ·) :=
  increasing_map_mergeSort
    (nodup_map_table_build.sublist (List.filter_sublist.map TableNode.table))

/-- The rows of a table stand in the order of the names of their fields. -/
theorem increasing_map_field_rows {t : TableNode} (ht : t ∈ (build level relations).tables) :
    (((build level relations).rows t.id).map FieldNode.field).Pairwise (· < ·) :=
  increasing_map_mergeSort (nodup_map_field_children ht)

end Graph

variable {K : Type} [ExactScalar K] {m : LayoutMetrics K} {g : Graph}

/-! ## Bands -/

/-- The tables of a band in the order of their names: on the left those of staging areas, on the
right those of results, in the center all others. -/
structure IsBand (column : Column) (tables : List TableNode) : Prop where
  kind : ∀ t ∈ tables,
    (column = .left ↔ t.kind = .stagingArea) ∧ (column = .right ↔ t.kind = .results)
  sorted : (tables.map TableNode.table).Pairwise (· < ·)

/-- A box is drawn for a table around a vertical line, as high as the rows of the table need. -/
structure TableBox.Draws (m : LayoutMetrics K) (g : Graph) (x : K) (t : TableNode)
    (b : TableBox K) : Prop where
  id : b.id = t.id
  x : b.x = x
  height : b.height = m.tableHeight (g.rowCount t)

/-- The boxes are drawn for the tables one by one around a vertical line.  The first one begins at
the top of the layout, every other one a gap below the bottom of the one before. -/
structure Stacked (m : LayoutMetrics K) (g : Graph) (x : K) (tables : List TableNode)
    (boxes : List (TableBox K)) : Prop where
  drawn : List.Forall₂ (TableBox.Draws m g x) tables boxes
  first : ∀ b, boxes.head? = some b → b.top = m.startY
  next : boxes.IsChain fun a b => b.top = a.bottom + m.tableGap

/-- A stack draws its tables one by one. -/
theorem forall₂_draws_stack (x top : K) (tables : List TableNode) :
    List.Forall₂ (TableBox.Draws m g x) tables (stack m g x top tables) := by
  induction tables generalizing top with
  | nil => exact List.Forall₂.nil
  | cons t tables ih => exact List.Forall₂.cons ⟨rfl, rfl, rfl⟩ (ih _)

/-- The first box of a stack begins at its top. -/
theorem top_of_head?_stack {x top : K} {tables : List TableNode} {b : TableBox K}
    (h : (stack m g x top tables).head? = some b) : b.top = top := by
  cases tables with
  | nil => simp [stack] at h
  | cons t tables =>
      simp only [stack, List.head?_cons, Option.some.injEq] at h
      rw [← h]

/-- Every next table of a band begins a gap below the one before. -/
theorem isChain_stack (x top : K) (tables : List TableNode) :
    (stack m g x top tables).IsChain fun a b => b.top = a.bottom + m.tableGap := by
  induction tables generalizing top with
  | nil => exact List.IsChain.nil
  | cons t tables ih =>
      refine List.isChain_cons.2 ⟨?_, ih _⟩
      intro b hb
      rw [top_of_head?_stack hb]
      exact (add_assoc _ _ _).symm

/-- The boxes of the left band come first, then those of the center, then those of the right
band. -/
theorem stackBands_eq (m : LayoutMetrics K) (g : Graph) (bands : Bands K) :
    stackBands m g bands =
      stack m g (bands.centers .left) m.startY (g.band .left) ++
        stack m g (bands.centers .center) m.startY (g.band .center) ++
        stack m g (bands.centers .right) m.startY (g.band .right) := by
  unfold stackBands
  rw [Column.flatMap_all]

/-- The tables of a band stand below each other, a gap apart. -/
theorem stacked_stack (x : K) (tables : List TableNode) :
    Stacked m g x tables (stack m g x m.startY tables) where
  drawn := forall₂_draws_stack x m.startY tables
  first := fun _ h => top_of_head?_stack h
  next := isChain_stack x m.startY tables

/-! ## Rows -/

/-- The rows of a table that is drawn in a box: its fields in the order of their names.  The
middle of each is where the metrics put its row, two neighbours are a gap apart, and if there are
as many rows as the box is made for, the last one ends a gap above the bottom of the box. -/
structure RowsStacked (m : LayoutMetrics K) (g : Graph) (positions : NameMap (Point K))
    (t : TableNode) (b : TableBox K) (rows : List FieldNode) : Prop where
  fields : rows.Perm (g.children t.id)
  sorted : (rows.map FieldNode.field).Pairwise (· < ·)
  placed : ∀ (i : Nat) (f : FieldNode), rows[i]? = some f →
    positions.find? f.id = some ⟨b.x, b.top + m.rowOffset i⟩
  gap : rows.IsChain fun f f' => ∃ p p', positions.find? f.id = some p ∧
    positions.find? f'.id = some p' ∧
    (p.fieldArea m).bottom + m.fieldGap = (p'.fieldArea m).top
  last : rows.length = g.rowCount t → ∀ f, rows.getLast? = some f →
    ∃ p, positions.find? f.id = some p ∧ (p.fieldArea m).bottom + m.fieldGap = b.bottom

/-- The next row begins a gap below the end of a row. -/
theorem fieldArea_row_succ (b : TableBox K) (i : Nat) :
    ((b.row m i).fieldArea m).bottom + m.fieldGap = ((b.row m (i + 1)).fieldArea m).top := by
  simp only [Point.fieldArea, TableBox.row, LayoutMetrics.rowOffset_add]
  push_cast
  ring

/-- The last row that a box is made for ends a gap above the bottom of the box. -/
theorem fieldArea_last_row {b : TableBox K} {rows : Nat} (hrows : 0 < rows)
    (hheight : b.height = m.tableHeight rows) :
    ((b.row m (rows - 1)).fieldArea m).bottom + m.fieldGap = b.bottom := by
  have hmax : max rows 1 = rows := max_eq_left hrows
  simp only [Point.fieldArea, TableBox.row, TableBox.bottom, hheight,
    LayoutMetrics.tableHeight_eq, hmax]
  ring

variable {containerWidth : K} {overlay : Bool} {level : Level} {relations : List Relation}

/-- The fields of a table are placed in its rows. -/
theorem rowsStacked_rows {t : TableNode} (ht : t ∈ (Graph.build level relations).tables)
    {b : TableBox K}
    (hb : b ∈ (columnLayout m (Graph.build level relations) containerWidth overlay).tables)
    (hid : b.id = t.id) :
    RowsStacked m (Graph.build level relations)
      (columnLayout m (Graph.build level relations) containerWidth overlay).positions t b
      ((Graph.build level relations).rows t.id) := by
  have hg := Graph.wellFormed_build level relations
  have hplaced (i : Nat) (f : FieldNode)
      (hrow : ((Graph.build level relations).rows t.id)[i]? = some f) :
      (columnLayout m (Graph.build level relations) containerWidth overlay).positions.find? f.id =
        some (b.row m i) := by
    rw [← hid] at hrow
    exact find?_positions_row hg hb hrow
  refine ⟨List.mergeSort_perm _ _, Graph.increasing_map_field_rows ht, hplaced, ?_, ?_⟩
  · rw [List.isChain_iff_getElem]
    intro i hi
    refine ⟨b.row m i, b.row m (i + 1), hplaced i _ ?_, hplaced (i + 1) _ ?_,
      fieldArea_row_succ b i⟩
    · exact List.getElem?_eq_getElem _
    · exact List.getElem?_eq_getElem _
  · intro hrows f hlast
    rw [List.getLast?_eq_getElem?] at hlast
    refine ⟨_, hplaced _ f hlast, fieldArea_last_row ?_ ?_⟩
    · obtain ⟨hlt, -⟩ := List.getElem?_eq_some_iff.1 hlast
      omega
    · rw [height_of_mem_stackBands hg hb ht hid, hrows]

/-! ## The whole layout -/

/-- A layout stacks the tables and fields of a graph exactly: the boxes of the left, the center and
the right band follow each other, each band is stacked around its middle, tables are placed in
the middle of their boxes and fields in their rows, nothing else is placed, and the layout is as
high as the lowest box and the padding need, unless the metrics ask for more. -/
structure ColumnLayout.StacksExactly (m : LayoutMetrics K) (g : Graph)
    (layout : ColumnLayout K) : Prop where
  bands : ∃ (tables : Column → List TableNode) (boxes : Column → List (TableBox K)),
    (tables .left ++ tables .center ++ tables .right).Perm g.tables ∧
    layout.tables = boxes .left ++ boxes .center ++ boxes .right ∧
    ∀ column, IsBand column (tables column) ∧
      Stacked m g (layout.bands.centers column) (tables column) (boxes column)
  names : ∀ id, id ∈ layout.positions.names ↔
    id ∈ g.tables.map TableNode.id ∨ id ∈ g.fields.map FieldNode.id
  centers : ∀ b ∈ layout.tables, layout.positions.find? b.id = some b.center
  rows : ∀ t ∈ g.tables, ∀ b ∈ layout.tables, b.id = t.id →
    ∃ rows, RowsStacked m g layout.positions t b rows
  height : ∃ lowest,
    IsGreatest (insert m.startY {y | ∃ b ∈ layout.tables, b.bottom = y}) lowest ∧
    layout.height = max m.minHeight (lowest + m.bottomPadding)

/-- The layout of any relations in columns stacks their graph exactly, whatever the metrics and
the width of the container are. -/
theorem columnLayout_stacksExactly (m : LayoutMetrics K) (level : Level)
    (relations : List Relation) (containerWidth : K) (overlay : Bool) :
    (columnLayout m (Graph.build level relations) containerWidth overlay).StacksExactly m
      (Graph.build level relations) where
  bands := by
    refine ⟨(Graph.build level relations).band, fun column => stack m _ _ m.startY _, ?_,
      stackBands_eq m _ _, fun column => ⟨⟨?_, ?_⟩, stacked_stack _ _⟩⟩
    · rw [← Column.flatMap_all]
      exact Graph.flatMap_band_perm
    · exact fun t ht => ZoneKind.column_eq_iff.1 (Graph.mem_band.1 ht).2
    · exact Graph.increasing_map_table_band column
  names := fun _ => mem_names_positions (Graph.wellFormed_build level relations)
  centers := fun _ hb => find?_positions_table (Graph.wellFormed_build level relations) hb
  rows := fun _ ht _ hb hid => ⟨_, rowsStacked_rows ht hb hid⟩
  height := ⟨_, isGreatest_lowest _ _, rfl⟩

end Provenance
