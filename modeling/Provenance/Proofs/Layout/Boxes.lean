import Mathlib.Data.List.Nodup
import Mathlib.Data.List.Perm.Basic
import Provenance.Layout.Columns
import Provenance.Proofs.Graph.Build

/-!
# Boxes and rows of the column layout

The layout in columns sorts tables into bands and fields into rows, and collects the places of
all of them by id.  This module says which boxes, rows and places there are.  Nothing here
depends on how numbers are computed.

Main results:

- Theorem `map_id_stackBands`: there is one box for every table.
- Theorem `mem_stackBands`: a box stands in the band of its table and is as high as the rows of
  the table need.
- Theorem `find?_positions_table`: every table is placed in the middle of its box.
- Theorem `find?_positions_row`: every field is placed in its row.
- Theorem `mem_names_positions`: nothing else is placed.
-/

namespace Provenance

/-! ## Bands -/

namespace Graph

variable {g : Graph}

/-- The tables of a band are those whose kind belongs to its column. -/
theorem mem_band {column : Column} {t : TableNode} :
    t ∈ g.band column ↔ t ∈ g.tables ∧ t.kind.column = column := by
  simp [band]

/-- Sorting tables into bands loses none and doubles none. -/
theorem flatMap_band_perm : (Column.all.flatMap g.band).Perm g.tables := by
  have hcolumns : ∀ t ∈ g.tables, t.kind.column ∈ Column.all := by
    intro t _
    cases t.kind.column <;> decide
  refine List.Perm.trans ?_ (flatMap_filter_key_perm (fun t => t.kind.column) (by decide) hcolumns)
  exact List.Perm.flatMap_left _ fun column _ => List.mergeSort_perm _ _

/-! ## Rows -/

/-- The rows of a table are the fields that have it as their parent. -/
theorem mem_rows {tableId : String} {f : FieldNode} :
    f ∈ g.rows tableId ↔ f ∈ g.fields ∧ f.parent = tableId := by
  simp [rows, children]

/-- A table has no more rows than are counted for it. -/
theorem length_rows_le (t : TableNode) : (g.rows t.id).length ≤ g.rowCount t := by
  rw [rows, List.length_mergeSort]
  exact Nat.le_max_right _ _

/-- No field has two rows. -/
theorem nodup_map_id_rows (hg : g.WellFormed) (tableId : String) :
    ((g.rows tableId).map FieldNode.id).Nodup := by
  have hperm : (g.rows tableId).Perm (g.children tableId) := List.mergeSort_perm _ _
  rw [(hperm.map FieldNode.id).nodup_iff]
  exact hg.fields_nodup.sublist (List.filter_sublist.map FieldNode.id)

/-- Fields of different tables have different ids. -/
theorem id_ne_of_mem_rows (hg : g.WellFormed) {tableId tableId' : String}
    (hne : tableId ≠ tableId') {f f' : FieldNode} (hf : f ∈ g.rows tableId)
    (hf' : f' ∈ g.rows tableId') : f.id ≠ f'.id := by
  intro hid
  obtain ⟨hfield, hparent⟩ := mem_rows.1 hf
  obtain ⟨hfield', hparent'⟩ := mem_rows.1 hf'
  obtain rfl := List.inj_on_of_nodup_map hg.fields_nodup hfield hfield' hid
  exact hne (hparent.symm.trans hparent')

end Graph

/-! ## Boxes -/

variable {α : Type} [Scalar α] {m : LayoutMetrics α} {g : Graph}

/-- A stack has a box for each of its tables, in their order. -/
theorem map_id_stack (x top : α) (ts : List TableNode) :
    (stack m g x top ts).map TableBox.id = ts.map TableNode.id := by
  induction ts generalizing top with
  | nil => rfl
  | cons t ts ih => simp [stack, ih]

/-- Each box of a stack belongs to a table and is as high as its rows need. -/
theorem mem_stack {x top : α} {ts : List TableNode} {b : TableBox α}
    (h : b ∈ stack m g x top ts) :
    ∃ t ∈ ts, b.id = t.id ∧ b.x = x ∧ b.height = m.tableHeight (g.rowCount t) := by
  induction ts generalizing top with
  | nil => contradiction
  | cons t ts ih =>
      rcases List.mem_cons.1 h with rfl | h
      · exact ⟨t, List.mem_cons_self, rfl, rfl, rfl⟩
      · obtain ⟨t', ht', hbox⟩ := ih h
        exact ⟨t', List.mem_cons_of_mem _ ht', hbox⟩

/-- There is one box for every table. -/
theorem map_id_stackBands (bands : Bands α) :
    ((stackBands m g bands).map TableBox.id).Perm (g.tables.map TableNode.id) := by
  unfold stackBands
  simp only [List.map_flatMap, map_id_stack]
  rw [← List.map_flatMap]
  exact g.flatMap_band_perm.map TableNode.id

/-- Each box belongs to a table, stands in the column of its kind and is as high as its rows
need. -/
theorem mem_stackBands {bands : Bands α} {b : TableBox α} (h : b ∈ stackBands m g bands) :
    ∃ t ∈ g.tables, b.id = t.id ∧ b.x = bands.centers t.kind.column ∧
      b.height = m.tableHeight (g.rowCount t) := by
  obtain ⟨column, -, hb⟩ := List.mem_flatMap.1 h
  obtain ⟨t, ht, hid, hx, hheight⟩ := mem_stack hb
  obtain ⟨hmem, rfl⟩ := Graph.mem_band.1 ht
  exact ⟨t, hmem, hid, hx, hheight⟩

/-- The box with the id of a table is as high as the rows of this table need. -/
theorem height_of_mem_stackBands (hg : g.WellFormed) {bands : Bands α} {b : TableBox α}
    (hb : b ∈ stackBands m g bands) {t : TableNode} (ht : t ∈ g.tables) (hid : b.id = t.id) :
    b.height = m.tableHeight (g.rowCount t) := by
  obtain ⟨t', ht', hid', -, hheight⟩ := mem_stackBands hb
  obtain rfl := List.inj_on_of_nodup_map hg.tables_nodup ht' ht (hid'.symm.trans hid)
  exact hheight

/-- No table has two boxes. -/
theorem nodup_map_id_stackBands (hg : g.WellFormed) (bands : Bands α) :
    ((stackBands m g bands).map TableBox.id).Nodup :=
  (map_id_stackBands bands).nodup_iff.2 hg.tables_nodup

/-! ## Places -/

/-- Each row gets a place, in the order of the rows. -/
theorem map_fst_placeRows (x top : α) (rows : List FieldNode) :
    (placeRows m x top rows).map Prod.fst = rows.map FieldNode.id := by
  have hrows : (placeRows m x top rows).map Prod.fst =
      (rows.zipIdx.map Prod.fst).map FieldNode.id := by
    rw [placeRows, List.map_map, List.map_map]
    rfl
  rw [hrows, List.zipIdx_map_fst]

/-- A table gets a place, and then each of its rows. -/
theorem map_fst_placeTable (b : TableBox α) :
    (placeTable m g b).map Prod.fst = b.id :: (g.rows b.id).map FieldNode.id := by
  rw [placeTable, List.map_cons, map_fst_placeRows]

/-- No two of the tables and fields that are placed have the same id. -/
theorem nodup_map_fst_placeTable (hg : g.WellFormed) (bands : Bands α) :
    (((stackBands m g bands).flatMap (placeTable m g)).map Prod.fst).Nodup := by
  have htable {b : TableBox α} (hb : b ∈ stackBands m g bands) {f : FieldNode}
      (hf : f ∈ g.fields) : b.id ≠ f.id := by
    obtain ⟨t, ht, hid, -⟩ := mem_stackBands hb
    exact hid ▸ hg.table_ne_field t ht f hf
  rw [List.map_flatMap, List.nodup_flatMap]
  constructor
  · intro b hb
    rw [map_fst_placeTable, List.nodup_cons]
    refine ⟨?_, g.nodup_map_id_rows hg b.id⟩
    rw [List.mem_map]
    rintro ⟨f, hf, hid⟩
    exact htable hb (Graph.mem_rows.1 hf).1 hid.symm
  · refine (List.pairwise_map.1 (nodup_map_id_stackBands hg bands)).imp_of_mem ?_
    intro a b ha hb hne id hida hidb
    -- a common id would be that of both tables, of a table and a field, or of a field of both
    simp only [map_fst_placeTable, List.mem_cons, List.mem_map] at hida hidb
    rcases hida with rfl | ⟨f, hf, rfl⟩ <;> rcases hidb with hid | ⟨f', hf', hid⟩
    · exact hne hid
    · exact htable ha (Graph.mem_rows.1 hf').1 hid.symm
    · exact htable hb (Graph.mem_rows.1 hf).1 hid.symm
    · exact g.id_ne_of_mem_rows hg hne hf hf' hid.symm

/-- The middle of a row of a table. -/
def TableBox.row (m : LayoutMetrics α) (b : TableBox α) (i : Nat) : Point α :=
  ⟨b.x, b.top + m.rowOffset i⟩

theorem mem_placeRows {x top : α} {rows : List FieldNode} {i : Nat} {f : FieldNode}
    (hrow : rows[i]? = some f) : (f.id, ⟨x, top + m.rowOffset i⟩) ∈ placeRows m x top rows :=
  List.mem_map.2 ⟨(f, i), List.mk_mem_zipIdx_iff_getElem?.2 hrow, rfl⟩

variable {containerWidth : α} {overlay : Bool}

/-- A table is placed in the middle of its box. -/
theorem find?_positions_table (hg : g.WellFormed) {b : TableBox α}
    (hb : b ∈ (columnLayout m g containerWidth overlay).tables) :
    (columnLayout m g containerWidth overlay).positions.find? b.id = some b.center := by
  refine NameMap.find?_ofList_of_mem (nodup_map_fst_placeTable hg _) ?_
  exact List.mem_flatMap.2 ⟨b, hb, List.mem_cons_self⟩

/-- The field in a row of a box is placed in this row. -/
theorem find?_positions_row (hg : g.WellFormed) {b : TableBox α}
    (hb : b ∈ (columnLayout m g containerWidth overlay).tables) {i : Nat} {f : FieldNode}
    (hrow : (g.rows b.id)[i]? = some f) :
    (columnLayout m g containerWidth overlay).positions.find? f.id =
      some (b.row m i) := by
  refine NameMap.find?_ofList_of_mem (nodup_map_fst_placeTable hg _) ?_
  exact List.mem_flatMap.2 ⟨b, hb, List.mem_cons_of_mem _ (mem_placeRows hrow)⟩

/-- Every table has a box. -/
theorem exists_box (m : LayoutMetrics α) (containerWidth : α) (overlay : Bool) {t : TableNode}
    (ht : t ∈ g.tables) :
    ∃ b ∈ (columnLayout m g containerWidth overlay).tables, b.id = t.id :=
  List.mem_map.1 ((map_id_stackBands _).mem_iff.2 (List.mem_map_of_mem ht))

/-- Every field has a row in the box of its table. -/
theorem exists_row (m : LayoutMetrics α) (containerWidth : α) (overlay : Bool)
    (hg : g.WellFormed) {f : FieldNode} (hf : f ∈ g.fields) :
    ∃ b ∈ (columnLayout m g containerWidth overlay).tables, b.id = f.parent ∧
      ∃ i : Nat, (g.rows b.id)[i]? = some f := by
  obtain ⟨t, ht, hparent⟩ := hg.parent f hf
  obtain ⟨b, hb, hbox⟩ := exists_box m containerWidth overlay ht
  refine ⟨b, hb, hbox.trans hparent, ?_⟩
  rw [hbox, hparent]
  exact List.mem_iff_getElem?.1 (Graph.mem_rows.2 ⟨hf, rfl⟩)

/-- The tables and the fields are placed, and nothing else. -/
theorem mem_names_positions (hg : g.WellFormed) {id : String} :
    id ∈ (columnLayout m g containerWidth overlay).positions.names ↔
      id ∈ g.tables.map TableNode.id ∨ id ∈ g.fields.map FieldNode.id := by
  have hnames : id ∈ (columnLayout m g containerWidth overlay).positions.names ↔
      ∃ b ∈ (columnLayout m g containerWidth overlay).tables,
        id = b.id ∨ id ∈ (g.rows b.id).map FieldNode.id := by
    simp only [columnLayout, NameMap.mem_names_ofList, List.map_flatMap, List.mem_flatMap,
      map_fst_placeTable, List.mem_cons]
  rw [hnames]
  constructor
  · rintro ⟨b, hb, rfl | hrow⟩
    · exact Or.inl ((map_id_stackBands _).mem_iff.1 (List.mem_map_of_mem hb))
    · obtain ⟨f, hf, rfl⟩ := List.mem_map.1 hrow
      exact Or.inr (List.mem_map_of_mem (Graph.mem_rows.1 hf).1)
  · rintro (htable | hfield)
    · obtain ⟨t, ht, rfl⟩ := List.mem_map.1 htable
      obtain ⟨b, hb, hid⟩ := exists_box m containerWidth overlay ht
      exact ⟨b, hb, Or.inl hid.symm⟩
    · obtain ⟨f, hf, rfl⟩ := List.mem_map.1 hfield
      obtain ⟨b, hb, -, i, hrow⟩ := exists_row m containerWidth overlay hg hf
      exact ⟨b, hb, Or.inr (List.mem_map_of_mem (List.mem_of_getElem? hrow))⟩

end Provenance
