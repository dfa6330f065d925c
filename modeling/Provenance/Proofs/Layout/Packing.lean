import Mathlib.Algebra.Order.Field.Basic
import Mathlib.Data.List.Basic
import Mathlib.Data.List.Nodup
import Mathlib.Tactic.Ring
import Provenance.Proofs.Layout.Boxes
import Provenance.Proofs.Layout.Exact
import Provenance.Proofs.Relation.Kept

/-!
# Packing tables around given centres

A table may also be drawn around a centre that is found in some other way.  Packing goes from the
centre of a table to its top and places the fields below it, where the layout in columns goes from
the top to the centre.  This module shows that the two agree: the layout in columns is what packing
makes of its centres.

Main results:

- Theorem `map_id_packTables`: tables that have a centre have a box.
- Theorem `find?_packFields_row`: every field of a packed table is placed in its row.
- Theorem `center_boxAround`: a packed table is centred where it should be.
- Theorem `packTables_perm`: packing around the centres of a layout gives back its boxes.
- Theorem `find?_packFields_eq`: it also gives back the places of all fields.
-/

namespace Provenance

/-! ## Packed boxes and rows -/

section Scalars

variable {α : Type} [Scalar α] {m : LayoutMetrics α} {g : Graph} {centers : NameMap (Point α)}

theorem mem_packTables {b : TableBox α} :
    b ∈ packTables m g centers ↔
      ∃ t ∈ g.tables, ∃ c, centers.find? t.id = some c ∧ boxAround m g t c = b := by
  simp [packTables]

/-- If all tables have a centre, then there is one box for every table, in the same order. -/
theorem map_id_packTables (covered : ∀ t ∈ g.tables, centers.contains t.id = true) :
    (packTables m g centers).map TableBox.id = g.tables.map TableNode.id := by
  unfold packTables
  rw [List.map_filterMap, ← List.filterMap_eq_map]
  apply List.filterMap_congr
  intro t ht
  obtain ⟨c, hc⟩ := Option.isSome_iff_exists.1 (covered t ht)
  rw [hc]
  rfl

/-- No two fields in the rows of different tables have the same id. -/
theorem nodup_map_fst_flatMap_placeRows (hg : g.WellFormed) {boxes : List (TableBox α)}
    (hids : (boxes.map TableBox.id).Nodup) :
    ((boxes.flatMap fun b => placeRows m b.x b.top (g.rows b.id)).map Prod.fst).Nodup := by
  rw [List.map_flatMap, List.nodup_flatMap]
  constructor
  · intro b _
    rw [map_fst_placeRows]
    exact g.nodup_map_id_rows hg b.id
  · refine (List.pairwise_map.1 hids).imp ?_
    intro a b hne id hida hidb
    simp only [map_fst_placeRows, List.mem_map] at hida hidb
    obtain ⟨f, hf, rfl⟩ := hida
    obtain ⟨f', hf', hid⟩ := hidb
    exact g.id_ne_of_mem_rows hg hne hf hf' hid.symm

/-- The field in a row of a packed table is placed in this row. -/
theorem find?_packFields_row (hg : g.WellFormed) {boxes : List (TableBox α)}
    (hids : (boxes.map TableBox.id).Nodup) {b : TableBox α} (hb : b ∈ boxes) {i : Nat}
    {f : FieldNode} (hrow : (g.rows b.id)[i]? = some f) :
    (packFields m g boxes).find? f.id = some (b.row m i) := by
  refine NameMap.find?_ofList_of_mem (nodup_map_fst_flatMap_placeRows hg hids) ?_
  exact List.mem_flatMap.2 ⟨b, hb, mem_placeRows hrow⟩

end Scalars

/-! ## Tops and centres -/

variable {K : Type} [ExactScalar K] {m : LayoutMetrics K} {g : Graph} {centers : NameMap (Point K)}

/-- A packed table is centred where it should be. -/
theorem center_boxAround (t : TableNode) (c : Point K) : (boxAround m g t c).center = c := by
  have hy : c.y - m.tableHeight (g.rowCount t) / 2.0 + m.tableHeight (g.rowCount t) / 2.0 = c.y :=
    sub_add_cancel _ _
  simp only [boxAround, TableBox.center, hy]

/-- A box as high as its table needs is found again from its centre. -/
theorem boxAround_center {t : TableNode} {b : TableBox K} (hid : b.id = t.id)
    (hheight : b.height = m.tableHeight (g.rowCount t)) : boxAround m g t b.center = b := by
  have htop : b.top + b.height / 2.0 - b.height / 2.0 = b.top := add_sub_cancel_right _ _
  simp only [boxAround, TableBox.center, ← hid, ← hheight, htop]

/-- Every packed table is centred where it should be. -/
theorem find?_center_of_mem_packTables {b : TableBox K} (hb : b ∈ packTables m g centers) :
    centers.find? b.id = some b.center := by
  obtain ⟨t, -, c, hc, rfl⟩ := mem_packTables.1 hb
  rw [center_boxAround]
  exact hc

/-! ## Packing around the centres of a layout -/

section Centers

variable {containerWidth : K} {overlay : Bool} (hg : g.WellFormed)
  (found : ∀ t ∈ g.tables, centers.find? t.id =
    (columnLayout m g containerWidth overlay).positions.find? t.id)

include hg found

/-- The centre of a table is that of its box in the layout. -/
theorem find?_center_of_mem_tables {t : TableNode} (ht : t ∈ g.tables) {b : TableBox K}
    (hb : b ∈ (columnLayout m g containerWidth overlay).tables) (hid : b.id = t.id) :
    centers.find? t.id = some b.center := by
  rw [found t ht, ← hid]
  exact find?_positions_table hg hb

theorem contains_of_mem_tables {t : TableNode} (ht : t ∈ g.tables) :
    centers.contains t.id = true := by
  obtain ⟨b, hb, hid⟩ := exists_box m containerWidth overlay ht
  rw [NameMap.contains, find?_center_of_mem_tables hg found ht hb hid]
  rfl

/-- Packing around the centres of a layout gives exactly the boxes of the layout. -/
theorem mem_packTables_iff {b : TableBox K} :
    b ∈ packTables m g centers ↔ b ∈ (columnLayout m g containerWidth overlay).tables := by
  rw [mem_packTables]
  constructor
  · rintro ⟨t, ht, c, hc, rfl⟩
    obtain ⟨b, hb, hid⟩ := exists_box m containerWidth overlay ht
    have hheight := height_of_mem_stackBands hg hb ht hid
    -- the centre that is found is that of the box, and the box is found from its centre
    rw [find?_center_of_mem_tables hg found ht hb hid, Option.some.injEq] at hc
    rwa [← hc, boxAround_center hid hheight]
  · intro hb
    obtain ⟨t, ht, hid, -, hheight⟩ := mem_stackBands hb
    exact ⟨t, ht, b.center, find?_center_of_mem_tables hg found ht hb hid,
      boxAround_center hid hheight⟩

theorem nodup_map_id_packTables : ((packTables m g centers).map TableBox.id).Nodup := by
  rw [map_id_packTables fun t ht => contains_of_mem_tables hg found ht]
  exact hg.tables_nodup

/-- Packing around the centres of a layout gives back its boxes, listed by id. -/
theorem packTables_perm :
    (packTables m g centers).Perm (columnLayout m g containerWidth overlay).tables := by
  have hnodup : (columnLayout m g containerWidth overlay).tables.Nodup :=
    (nodup_map_id_stackBands hg _).of_map
  rw [List.perm_ext_iff_of_nodup (nodup_map_id_packTables hg found).of_map hnodup]
  exact fun b => mem_packTables_iff hg found

/-- Packing around the centres of a layout places the fields where the layout does. -/
theorem find?_packFields_eq {f : FieldNode} (hf : f ∈ g.fields) :
    ∃ p, (packFields m g (packTables m g centers)).find? f.id = some p ∧
      (columnLayout m g containerWidth overlay).positions.find? f.id = some p := by
  obtain ⟨b, hb, -, i, hrow⟩ := exists_row m containerWidth overlay hg hf
  refine ⟨b.row m i, ?_, find?_positions_row hg hb hrow⟩
  exact find?_packFields_row hg (nodup_map_id_packTables hg found)
    ((mem_packTables_iff hg found).2 hb) hrow

end Centers

/-- Packing the tables of any relations around the centres that the layout in columns gives them
reproduces the layout: the same boxes, one for every table, and the same place for every field.
Around any other centres, every table has a box, and it is centred where it should be. -/
theorem pack_reproduces_columnLayout (m : LayoutMetrics K) (level : Level)
    (relations : List Relation) (containerWidth : K) (overlay : Bool)
    (centers : NameMap (Point K)) :
    let g := Graph.build level relations
    let layout := columnLayout m g containerWidth overlay
    let boxes := packTables m g centers
    ((∀ t ∈ g.tables, centers.find? t.id = layout.positions.find? t.id) →
      boxes.Perm layout.tables ∧ boxes.map TableBox.id = g.tables.map TableNode.id ∧
      ∀ f ∈ g.fields, ∃ p, (packFields m g boxes).find? f.id = some p ∧
        layout.positions.find? f.id = some p) ∧
    ((∀ t ∈ g.tables, centers.contains t.id = true) →
      boxes.map TableBox.id = g.tables.map TableNode.id ∧
      ∀ b ∈ boxes, centers.find? b.id = some b.center) := by
  intro g layout boxes
  have hg : g.WellFormed := Graph.wellFormed_build level relations
  constructor
  · intro found
    refine ⟨packTables_perm hg found, ?_, fun f hf => find?_packFields_eq hg found hf⟩
    exact map_id_packTables fun t ht => contains_of_mem_tables hg found ht
  · intro covered
    exact ⟨map_id_packTables covered, fun b hb => find?_center_of_mem_packTables hb⟩

/-- Two fields of a table that flow into one field of another one. -/
def twoIntoOne : List Relation :=
  [.ofFields "s_bani.a" "y" "proceso.p" "id", .ofFields "s_bani.a" "x" "proceso.p" "id"]

/-- The tables are packed around the centres that a layout in a narrow container gives them, and
both around one point. -/
theorem pack_twoIntoOne :
    letI := ExactScalar.rational fun _ _ => 0
    let m : LayoutMetrics ℚ := LayoutMetrics.standard
    let g := Graph.build .fields twoIntoOne
    let layout := columnLayout m g 1 true
    let point : NameMap (Point ℚ) := .ofList [("table:proceso.p", ⟨10, 500⟩),
      ("table:s_bani.a", ⟨10, 500⟩)]
    g.tables.map TableNode.id = ["table:proceso.p", "table:s_bani.a"] ∧ g.fields.length = 3 ∧
    (packTables m g layout.positions).Perm layout.tables ∧
    ∀ b ∈ packTables m g point, point.find? b.id = some b.center := by
  let := ExactScalar.rational fun _ _ => 0
  intro m g layout point
  have covered : ∀ t ∈ g.tables, point.contains t.id = true := by decide +kernel
  refine ⟨by decide +kernel, by decide +kernel, ?_, ?_⟩
  · exact ((pack_reproduces_columnLayout m .fields twoIntoOne 1 true layout.positions).1
      fun _ _ => rfl).1
  · exact ((pack_reproduces_columnLayout m .fields twoIntoOne 1 true point).2 covered).2

end Provenance
