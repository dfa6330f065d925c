import Mathlib.Algebra.Order.Field.Basic
import Mathlib.Data.List.Pairwise
import Mathlib.Tactic.Linarith
import Mathlib.Tactic.Ring
import Provenance.Proofs.Layout.Boxes
import Provenance.Proofs.Layout.Exact
import Provenance.Proofs.Relation.Kept

/-!
# Nothing overlaps in the column layout

Boxes in a band stand below each other with a gap, bands stand side by side and are wide enough
for a table, and rows stand below each other within their table.  This module puts these facts
together: in exact arithmetic no two tables and no two fields of a layout in columns share a
point, and every field lies within its table.

Main results:

- Theorem `stack_pairwise`: a box of a band begins a gap below all boxes before it.
- Theorem `Bands.centers_apart`: the middles of two bands are the width of a band apart.
- Theorem `stackBands_apart`: between any two tables there is the clearance of the metrics.
- Theorem `fieldArea_within_area`: a field lies within its table.
- Theorem `fieldAreas_apart`: between any two fields there is the clearance of the metrics.
-/

namespace Provenance

variable {K : Type} [ExactScalar K] {m : LayoutMetrics K} {g : Graph}

/-! ## Tables of a band -/

theorem top_le_of_mem_stack (hm : m.Spacious) {x top : K} {ts : List TableNode} {b : TableBox K}
    (h : b ∈ stack m g x top ts) : top ≤ b.top := by
  induction ts generalizing top with
  | nil => contradiction
  | cons t ts ih =>
      rcases List.mem_cons.1 h with rfl | h
      · exact le_rfl
      · have hheight := LayoutMetrics.tableHeight_nonneg hm (g.rowCount t)
        have hgap := hm.tableGap
        have hnext := ih h
        linarith

/-- The tables of a stack are at least a gap apart. -/
theorem stack_pairwise (hm : m.Spacious) (x top : K) (ts : List TableNode) :
    (stack m g x top ts).Pairwise fun a b => a.bottom + m.tableGap ≤ b.top := by
  induction ts generalizing top with
  | nil => exact List.Pairwise.nil
  | cons t ts ih =>
      refine List.pairwise_cons.2 ⟨?_, ih _⟩
      intro b hb
      have hnext := top_le_of_mem_stack hm hb
      simp only [TableBox.bottom]
      linarith

/-! ## Bands -/

namespace Bands

/-- A column further to the right lies at least the width of a band further to the right. -/
theorem centers_apart (hm : m.Spacious) (containerWidth : K) (overlay : Bool)
    {column column' : Column} (h : column.index < column'.index) :
    (compute m containerWidth overlay).centers column + (m.minBandWidth + m.separator) ≤
      (compute m containerWidth overlay).centers column' := by
  have hband : m.minBandWidth ≤ (compute m containerWidth overlay).bandWidth := le_max_left _ _
  have hroom := hm.band
  have htable := hm.table
  -- from the leftmost centre on, only the number of steps to the right matters
  have hcenters (column : Column) : (compute m containerWidth overlay).centers column =
      (compute m containerWidth overlay).centers .left +
        column.index * ((compute m containerWidth overlay).bandWidth + m.separator) := by
    cases column <;>
      simp only [compute, centerAt, Column.index, ExactScalar.zero_eq, ExactScalar.one_eq,
        ExactScalar.two_eq] <;>
      push_cast <;> ring
  rw [hcenters column, hcenters column']
  generalize (compute m containerWidth overlay).bandWidth = width at hband
  have hstep : ((column.index + 1 : Nat) : K) * (width + m.separator) ≤
      column'.index * (width + m.separator) :=
    mul_le_mul_of_nonneg_right (Nat.cast_le.2 h) (by linarith)
  push_cast at hstep
  linarith

end Bands

/-- Any two tables are apart, in the same band or in different bands. -/
theorem stackBands_apart (hm : m.Spacious) (containerWidth : K) (overlay : Bool) :
    (stackBands m g (Bands.compute m containerWidth overlay)).Pairwise
      fun a b => (a.area m).ApartBy m.clearance (b.area m) := by
  refine List.pairwise_flatMap.2 ⟨?_, ?_⟩
  · intro column _
    refine (stack_pairwise hm _ _ _).imp ?_
    intro a b hbelow
    have hgap := m.clearance_le_tableGap
    refine .above ?_
    simp only [TableBox.area]
    linarith
  · have hordered : Column.all.Pairwise fun c c' => c.index < c'.index := by decide
    refine hordered.imp ?_
    intro column column' hlt a ha b hb
    obtain ⟨-, -, -, hxa, -⟩ := mem_stack ha
    obtain ⟨-, -, -, hxb, -⟩ := mem_stack hb
    have hcenters := Bands.centers_apart hm containerWidth overlay hlt
    have hgap := m.tableWidth_add_clearance_le
    refine .leftOf ?_
    simp only [TableBox.area, hxa, hxb]
    linarith

/-- No two tables overlap. -/
theorem stackBands_disjoint (hm : m.Spacious) (containerWidth : K) (overlay : Bool) :
    (stackBands m g (Bands.compute m containerWidth overlay)).Pairwise
      fun a b => (a.area m).Disjoint (b.area m) :=
  (stackBands_apart hm containerWidth overlay).imp fun h => h.disjoint hm.clearance_pos

variable {containerWidth : K} {overlay : Bool}

/-! ## Fields -/

/-- A row lies within its table, below the header and above the gap at the bottom. -/
theorem fieldArea_row (hm : m.Spacious) {b : TableBox K}
    (hb : b ∈ (columnLayout m g containerWidth overlay).tables) {i : Nat} {f : FieldNode}
    (hrow : (g.rows b.id)[i]? = some f) :
    b.top + (m.headerHeight + m.fieldGap) ≤ ((b.row m i).fieldArea m).top ∧
    ((b.row m i).fieldArea m).bottom + m.fieldGap ≤ b.bottom := by
  obtain ⟨t, -, hid, -, hheight⟩ := mem_stackBands hb
  have hi : i < g.rowCount t := by
    obtain ⟨hlt, -⟩ := List.getElem?_eq_some_iff.1 hrow
    exact Nat.lt_of_lt_of_le (hid ▸ hlt) (g.length_rows_le t)
  have hbelow := LayoutMetrics.le_rowOffset hm i
  have habove := LayoutMetrics.rowOffset_add_le_tableHeight hm hi
  rw [← hheight] at habove
  simp only [Point.fieldArea, TableBox.row, TableBox.bottom]
  constructor <;> linarith

/-- A row lies within the box of its table. -/
theorem fieldArea_within_area (hm : m.Spacious) {b : TableBox K}
    (hb : b ∈ (columnLayout m g containerWidth overlay).tables) {i : Nat} {f : FieldNode}
    (hrow : (g.rows b.id)[i]? = some f) :
    ((b.row m i).fieldArea m).Within (b.area m) := by
  obtain ⟨hbelow, habove⟩ := fieldArea_row hm hb hrow
  have hwidth := hm.field
  have hheader := hm.header
  have hgap := hm.fieldGap
  simp only [Point.fieldArea, TableBox.row] at hbelow habove ⊢
  constructor <;> simp only [TableBox.area] <;> linarith

/-- Two rows of one table are apart. -/
theorem fieldArea_apart_of_lt (hm : m.Spacious) (b : TableBox K) {i j : Nat} (h : i < j) :
    ((b.row m i).fieldArea m).ApartBy m.clearance ((b.row m j).fieldArea m) := by
  have hrows := LayoutMetrics.rowOffset_add_le hm h
  have hgap := m.clearance_le_fieldGap
  refine .above ?_
  simp only [Point.fieldArea, TableBox.row]
  linarith

/-- Two rows of a table are at least the clearance apart. -/
theorem fieldArea_apart_of_ne (hm : m.Spacious) (b : TableBox K) {i j : Nat} (h : i ≠ j) :
    ((b.row m i).fieldArea m).ApartBy m.clearance ((b.row m j).fieldArea m) := by
  rcases Nat.lt_or_gt_of_ne h with hlt | hgt
  · exact fieldArea_apart_of_lt hm b hlt
  · exact (fieldArea_apart_of_lt hm b hgt).symm

/-- Different boxes are apart. -/
theorem area_apart_of_ne (hm : m.Spacious) {a b : TableBox K}
    (ha : a ∈ (columnLayout m g containerWidth overlay).tables)
    (hb : b ∈ (columnLayout m g containerWidth overlay).tables) (hne : a ≠ b) :
    (a.area m).ApartBy m.clearance (b.area m) := by
  have : Std.Symm fun a b : TableBox K => (a.area m).ApartBy m.clearance (b.area m) :=
    ⟨fun _ _ h => h.symm⟩
  exact (stackBands_apart hm containerWidth overlay).forall ha hb hne

/-- Any two fields are apart, in the same table or in different tables. -/
theorem fieldAreas_apart (hm : m.Spacious) (hg : g.WellFormed) {f f' : FieldNode}
    (hf : f ∈ g.fields) (hf' : f' ∈ g.fields) (hne : f ≠ f') {p p' : Point K}
    (hp : (columnLayout m g containerWidth overlay).positions.find? f.id = some p)
    (hp' : (columnLayout m g containerWidth overlay).positions.find? f'.id = some p') :
    (p.fieldArea m).ApartBy m.clearance (p'.fieldArea m) := by
  obtain ⟨b, hb, -, i, hrow⟩ := exists_row m containerWidth overlay hg hf
  obtain ⟨b', hb', -, i', hrow'⟩ := exists_row m containerWidth overlay hg hf'
  obtain rfl : _ = p := Option.some.inj ((find?_positions_row hg hb hrow).symm.trans hp)
  obtain rfl : _ = p' := Option.some.inj ((find?_positions_row hg hb' hrow').symm.trans hp')
  -- rows of one table are apart by their offsets, other rows because their tables are apart
  by_cases hbox : b = b'
  · subst hbox
    have hrows : i ≠ i' := by
      rintro rfl
      exact hne (Option.some.inj (hrow.symm.trans hrow'))
    exact fieldArea_apart_of_ne hm b hrows
  · exact (area_apart_of_ne hm hb hb' hbox).mono (fieldArea_within_area hm hb hrow)
      (fieldArea_within_area hm hb' hrow')

/-- No two fields overlap. -/
theorem fieldAreas_disjoint (hm : m.Spacious) (hg : g.WellFormed) {f f' : FieldNode}
    (hf : f ∈ g.fields) (hf' : f' ∈ g.fields) (hne : f ≠ f') {p p' : Point K}
    (hp : (columnLayout m g containerWidth overlay).positions.find? f.id = some p)
    (hp' : (columnLayout m g containerWidth overlay).positions.find? f'.id = some p') :
    (p.fieldArea m).Disjoint (p'.fieldArea m) :=
  (fieldAreas_apart hm hg hf hf' hne hp hp').disjoint hm.clearance_pos

/-! ## The height of a layout -/

/-- A layout is high enough for all of its tables. -/
theorem bottom_add_le_height {b : TableBox K}
    (hb : b ∈ (columnLayout m g containerWidth overlay).tables) :
    b.bottom + m.bottomPadding ≤ (columnLayout m g containerWidth overlay).height := by
  have hlowest := (isGreatest_lowest _ m.startY).2 (Set.mem_insert_of_mem _ ⟨b, hb, rfl⟩)
  exact (add_le_add hlowest le_rfl).trans (le_max_right _ _)

/-! ## Layouts of relations -/

/-- In the layout of any relations with the standard metrics no two tables and no two fields
overlap, every field lies in its table below the header, and there is room at the bottom. -/
theorem columnLayout_nothing_overlaps (level : Level) (relations : List Relation)
    (containerWidth : K) (overlay : Bool) :
    let m : LayoutMetrics K := LayoutMetrics.standard
    let g := Graph.build level relations
    let layout := columnLayout m g containerWidth overlay
    (layout.tables.map TableBox.id).Perm (g.tables.map TableNode.id) ∧
    layout.tables.Pairwise (fun a b => (a.area m).Disjoint (b.area m)) ∧
    (∀ f ∈ g.fields, ∃ b ∈ layout.tables, b.id = f.parent ∧
      ∃ p, layout.positions.find? f.id = some p ∧ (p.fieldArea m).Within (b.area m) ∧
        b.top + (m.headerHeight + m.fieldGap) ≤ (p.fieldArea m).top ∧
        (p.fieldArea m).bottom + m.fieldGap ≤ b.bottom) ∧
    (∀ f ∈ g.fields, ∀ f' ∈ g.fields, f ≠ f' → ∀ p p',
      layout.positions.find? f.id = some p → layout.positions.find? f'.id = some p' →
      (p.fieldArea m).Disjoint (p'.fieldArea m)) ∧
    ∀ b ∈ layout.tables, b.bottom + m.bottomPadding ≤ layout.height := by
  intro m g layout
  have hm : m.Spacious := LayoutMetrics.spacious_standard
  have hg : g.WellFormed := Graph.wellFormed_build level relations
  refine ⟨map_id_stackBands _, stackBands_disjoint hm containerWidth overlay, ?_, ?_,
    fun b hb => bottom_add_le_height hb⟩
  · intro f hf
    obtain ⟨b, hb, hparent, i, hrow⟩ := exists_row m containerWidth overlay hg hf
    exact ⟨b, hb, hparent, _, find?_positions_row hg hb hrow, fieldArea_within_area hm hb hrow,
      fieldArea_row hm hb hrow⟩
  · intro f hf f' hf' hne p p' hp hp'
    exact fieldAreas_disjoint hm hg hf hf' hne hp hp'

/-- Two tables of one band, one of them with two fields, whose data flows into a third table. -/
def twoSources : List Relation :=
  [.ofFields "s_bani.a" "x" "proceso.p" "id", .ofFields "s_bani.a" "y" "proceso.p" "id",
   .ofFields "s_bani.b" "x" "proceso.p" "id"]

/-- Three boxes with four fields are apart also in a container without any width, computed with
rational numbers. -/
theorem columnLayout_twoSources_rational :
    letI := ExactScalar.rational fun _ _ => 0
    let m : LayoutMetrics ℚ := LayoutMetrics.standard
    let layout := columnLayout m (Graph.build .fields twoSources) 0 true
    layout.tables.length = 3 ∧ (Graph.build .fields twoSources).fields.length = 4 ∧
    layout.tables.Pairwise fun a b => (a.area m).Disjoint (b.area m) := by
  let := ExactScalar.rational fun _ _ => 0
  intro m layout
  obtain ⟨hids, hdisjoint, -⟩ := columnLayout_nothing_overlaps .fields twoSources (0 : ℚ) true
  refine ⟨?_, by decide +kernel, hdisjoint⟩
  have hlength := hids.length_eq
  rw [List.length_map, List.length_map] at hlength
  exact hlength.trans (by decide +kernel)

end Provenance
