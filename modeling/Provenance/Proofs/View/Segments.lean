import Mathlib.Algebra.Order.Field.Basic
import Mathlib.Analysis.Real.Sqrt
import Mathlib.Tactic.Linarith
import Mathlib.Tactic.NormNum.OfScientific
import Mathlib.Tactic.Ring
import Provenance.Proofs.Graph.Accumulation
import Provenance.Proofs.Graph.Identity
import Provenance.Proofs.Layout.Overlap
import Provenance.Proofs.View.Columns

/-!
# Segments between boxes

An edge is drawn along the line between the centres of two boxes, from the border of the one to
the border of the other.  An edge that is not longer than one unit is left out.  This module shows
that in columns no edge is left out but those from a node to itself, and that the others start and
end on the borders of their boxes.

Main results:

- Definition `EuclideanScalar`: exact numbers in which vectors have a length.
- Theorem `Extent.onBorder_clip`: the way to a point outside leaves a box on its border.
- Theorem `Area.ApartBy.le_length`: points of boxes that are apart are as far from each other.
- Theorem `View.segmentBetween?_of_apart`: between boxes that are apart there is a segment.
- Theorem `View.edgeSegment?_of_mem_nodeIds`: in columns an edge between two nodes has a segment
  unless they are one node.
-/

namespace Provenance

/-! ## Lengths -/

/-- Exact numbers in which every vector has its Euclidean length. -/
class EuclideanScalar (K : Type) extends ExactScalar K where
  vectorLength_nonneg : ∀ x y : K, 0 ≤ vectorLength x y
  vectorLength_mul_self : ∀ x y : K,
    vectorLength x y * vectorLength x y = x * x + y * y

namespace EuclideanScalar

/-- The real numbers with the root of the sum of squares. -/
@[reducible]
noncomputable def real : EuclideanScalar ℝ where
  vectorLength x y := Real.sqrt (x * x + y * y)
  vectorLength_nonneg _ _ := Real.sqrt_nonneg _
  vectorLength_mul_self x y :=
    Real.mul_self_sqrt (add_nonneg (mul_self_nonneg x) (mul_self_nonneg y))

variable {K : Type} [EuclideanScalar K]

theorem length_nonneg (x y : K) : 0 ≤ Scalar.length x y := vectorLength_nonneg x y

/-- The square of a length is the sum of the squares of its parts. -/
theorem length_mul_self (x y : K) :
    Scalar.length x y * Scalar.length x y = x * x + y * y :=
  vectorLength_mul_self x y

/-- Lengths compare as their squares do. -/
theorem length_le_length {x y x' y' : K} :
    Scalar.length x y ≤ Scalar.length x' y' ↔ x * x + y * y ≤ x' * x' + y' * y' := by
  rw [← length_mul_self, ← length_mul_self]
  exact mul_self_le_mul_self_iff (length_nonneg x y) (length_nonneg x' y')

/-- A vertical way is as long as its height. -/
theorem length_zero_left (y : K) : Scalar.length 0 y = |y| := by
  refine (mul_self_inj (length_nonneg 0 y) (abs_nonneg y)).1 ?_
  rw [length_mul_self, mul_zero, zero_add, abs_mul_abs_self]

/-- No way is shorter than it is wide. -/
theorem abs_fst_le_length (x y : K) : |x| ≤ Scalar.length x y := by
  refine abs_le_of_sq_le_sq' ?_ (length_nonneg x y) |> abs_le.2
  rw [sq, sq, length_mul_self]
  exact le_add_of_nonneg_right (mul_self_nonneg y)

/-- No way is shorter than it is high. -/
theorem abs_snd_le_length (x y : K) : |y| ≤ Scalar.length x y := by
  refine abs_le_of_sq_le_sq' ?_ (length_nonneg x y) |> abs_le.2
  rw [sq, sq, length_mul_self]
  exact le_add_of_nonneg_left (mul_self_nonneg x)

/-- Scaling a vector scales its length. -/
theorem length_scale {k : K} (hk : 0 ≤ k) (x y : K) :
    Scalar.length (x * k) (y * k) = Scalar.length x y * k := by
  refine (mul_self_inj (length_nonneg _ _) (mul_nonneg (length_nonneg x y) hk)).1 ?_
  calc
    Scalar.length (x * k) (y * k) * Scalar.length (x * k) (y * k) =
        (x * x + y * y) * (k * k) := by
      rw [length_mul_self]
      ring
    _ = Scalar.length x y * k * (Scalar.length x y * k) := by
      rw [← length_mul_self]
      ring

end EuclideanScalar

/-! ## Boxes around a centre -/

section Extents

variable {K : Type} [ExactScalar K]

/-- A point lies on the border of a rectangle. -/
structure Area.OnBorder (r : Area K) (p : Point K) : Prop where
  holds : r.Holds p
  side : p.x = r.left ∨ p.x = r.right ∨ p.y = r.top ∨ p.y = r.bottom

namespace Extent

/-- The rectangle of a box around a centre. -/
def area (e : Extent K) : Area K where
  left := e.center.x - e.halfWidth
  right := e.center.x + e.halfWidth
  top := e.center.y - e.halfHeight
  bottom := e.center.y + e.halfHeight

/-- A box whose sizes are not negative. -/
structure Proper (e : Extent K) : Prop where
  width : 0 ≤ e.halfWidth
  height : 0 ≤ e.halfHeight

variable {e : Extent K}

/-- A point lies in a box if it is no further from the centre than the sides are. -/
theorem holds_area_iff {p : Point K} :
    e.area.Holds p ↔ |p.x - e.center.x| ≤ e.halfWidth ∧ |p.y - e.center.y| ≤ e.halfHeight := by
  rw [abs_le, abs_le]
  constructor
  · rintro ⟨hleft, hright, htop, hbottom⟩
    simp only [area] at hleft hright htop hbottom
    refine ⟨⟨?_, ?_⟩, ?_, ?_⟩ <;> linarith
  · rintro ⟨⟨hleft, hright⟩, htop, hbottom⟩
    constructor <;> simp only [area] <;> linarith

/-- The box contains the points of its rectangle. -/
theorem contains_iff {p : Point K} : e.contains p = true ↔ e.area.Holds p := by
  rw [holds_area_iff]
  simp only [contains, ExactScalar.magnitude_eq, Bool.and_eq_true, decide_eq_true_eq]

/-- A box holds its own centre. -/
theorem Proper.holds_center (he : e.Proper) : e.area.Holds e.center := by
  rw [holds_area_iff, sub_self, sub_self, abs_zero]
  exact ⟨he.width, he.height⟩

/-! ## The way out of a box -/

/-- How much of a way lies in a box is bounded by the sides that the way leads to. -/
theorem reach_eq (dx dy : K) :
    e.reach dx dy =
      if dx = 0 then min (e.halfHeight / |dy|) 1
      else if dy = 0 then min (e.halfWidth / |dx|) 1
      else min (min (e.halfWidth / |dx|) (e.halfHeight / |dy|)) 1 := by
  simp only [reach, ExactScalar.magnitude_eq, ExactScalar.smaller_eq, ExactScalar.zero_eq,
    ExactScalar.one_eq, beq_iff_eq]

/-- How much of a way lies in a box: a part that does not leave the box, and either all of it, or
as much as gets to a side. -/
structure Leaves (e : Extent K) (dx dy t : K) : Prop where
  nonneg : 0 ≤ t
  width : |dx| * t ≤ e.halfWidth
  height : |dy| * t ≤ e.halfHeight
  side : t = 1 ∨ |dx| * t = e.halfWidth ∨ |dy| * t = e.halfHeight

theorem abs_mul_le_of_le_div {d size t : K} (hd : d ≠ 0) (h : t ≤ size / |d|) :
    |d| * t ≤ size := by
  rw [mul_comm]
  exact (le_div_iff₀ (abs_pos.2 hd)).1 h

theorem abs_mul_div_abs {d : K} (hd : d ≠ 0) (size : K) : |d| * (size / |d|) = size :=
  mul_div_cancel₀ size (abs_ne_zero.2 hd)

/-- The part of a way that is taken leaves the box at a side, if at all. -/
theorem leaves_reach (he : e.Proper) {dx dy : K} (h : ¬ (dx = 0 ∧ dy = 0)) :
    e.Leaves dx dy (e.reach dx dy) := by
  have hx : 0 ≤ e.halfWidth / |dx| := div_nonneg he.width (abs_nonneg dx)
  have hy : 0 ≤ e.halfHeight / |dy| := div_nonneg he.height (abs_nonneg dy)
  rw [reach_eq]
  by_cases hdx : dx = 0
  · -- a way straight up or down does not get to the left or right side
    have hdy : dy ≠ 0 := fun hdy => h ⟨hdx, hdy⟩
    rw [if_pos hdx]
    refine ⟨le_min hy zero_le_one, ?_, abs_mul_le_of_le_div hdy (min_le_left _ _), ?_⟩
    · rw [hdx, abs_zero, zero_mul]
      exact he.width
    · rcases min_choice (e.halfHeight / |dy|) 1 with hmin | hmin <;> rw [hmin]
      · exact Or.inr (Or.inr (abs_mul_div_abs hdy _))
      · exact Or.inl rfl
  · rw [if_neg hdx]
    by_cases hdy : dy = 0
    · rw [if_pos hdy]
      refine ⟨le_min hx zero_le_one, abs_mul_le_of_le_div hdx (min_le_left _ _), ?_, ?_⟩
      · rw [hdy, abs_zero, zero_mul]
        exact he.height
      · rcases min_choice (e.halfWidth / |dx|) 1 with hmin | hmin <;> rw [hmin]
        · exact Or.inr (Or.inl (abs_mul_div_abs hdx _))
        · exact Or.inl rfl
    · rw [if_neg hdy]
      refine ⟨le_min (le_min hx hy) zero_le_one, ?_, ?_, ?_⟩
      · exact abs_mul_le_of_le_div hdx ((min_le_left _ _).trans (min_le_left _ _))
      · exact abs_mul_le_of_le_div hdy ((min_le_left _ _).trans (min_le_right _ _))
      · rcases min_choice (min (e.halfWidth / |dx|) (e.halfHeight / |dy|)) 1 with hmin | hmin <;>
          rw [hmin]
        · rcases min_choice (e.halfWidth / |dx|) (e.halfHeight / |dy|) with hmin | hmin <;>
            rw [hmin]
          · exact Or.inr (Or.inl (abs_mul_div_abs hdx _))
          · exact Or.inr (Or.inr (abs_mul_div_abs hdy _))
        · exact Or.inl rfl

/-- The part of a way that lies in a box ends in the box. -/
theorem Leaves.holds {dx dy t : K} (h : e.Leaves dx dy t) :
    e.area.Holds ⟨e.center.x + dx * t, e.center.y + dy * t⟩ := by
  rw [holds_area_iff, add_sub_cancel_left, add_sub_cancel_left, abs_mul, abs_mul,
    abs_of_nonneg h.nonneg]
  exact ⟨h.width, h.height⟩

/-- What is as far from the centre as a side lies on one of the two sides. -/
theorem eq_side_of_abs_mul {c d t size : K} (h : |d| * t = size) :
    c + d * t = c - size ∨ c + d * t = c + size := by
  rcases abs_choice d with hd | hd <;> rw [hd] at h
  · exact Or.inr (by rw [h])
  · exact Or.inl (by rw [← h]; ring)

/-- A way to the centre itself is cut to nothing. -/
theorem clip_center (e : Extent K) : e.clip e.center = e.center := by
  simp [clip, ExactScalar.zero_eq]

/-- Toward any other point, the box keeps a part of the way. -/
theorem clip_of_ne {toward : Point K} (he : e.Proper) (h : toward ≠ e.center) :
    ∃ t, e.Leaves (toward.x - e.center.x) (toward.y - e.center.y) t ∧
      e.clip toward = ⟨e.center.x + (toward.x - e.center.x) * t,
        e.center.y + (toward.y - e.center.y) * t⟩ := by
  have hway : ¬ (toward.x - e.center.x = 0 ∧ toward.y - e.center.y = 0) := by
    rintro ⟨hx, hy⟩
    apply h
    rw [show toward = ⟨toward.x, toward.y⟩ from rfl, sub_eq_zero.1 hx, sub_eq_zero.1 hy]
  refine ⟨_, leaves_reach he hway, ?_⟩
  simp only [clip, ExactScalar.zero_eq, Bool.and_eq_true, beq_iff_eq, hway, if_false]

/-- Where a way is cut off, it is still in the box. -/
theorem holds_clip (he : e.Proper) (toward : Point K) : e.area.Holds (e.clip toward) := by
  by_cases hcenter : toward = e.center
  · rw [hcenter, clip_center]
    exact he.holds_center
  · obtain ⟨t, hleaves, hclip⟩ := clip_of_ne he hcenter
    rw [hclip]
    exact hleaves.holds

/-- The way to a point outside leaves a box on its border. -/
theorem onBorder_clip (he : e.Proper) {toward : Point K} (h : ¬ e.area.Holds toward) :
    e.area.OnBorder (e.clip toward) := by
  have hcenter : toward ≠ e.center := by
    rintro rfl
    exact h he.holds_center
  obtain ⟨t, hleaves, hclip⟩ := clip_of_ne he hcenter
  refine ⟨holds_clip he toward, ?_⟩
  rcases hleaves.side with rfl | hx | hy
  · -- the whole way lies in the box, and so does the point
    rw [mul_one, mul_one, add_sub_cancel, add_sub_cancel] at hclip
    have hin := holds_clip he toward
    rw [hclip] at hin
    exact absurd hin h
  · rw [hclip]
    rcases eq_side_of_abs_mul (c := e.center.x) hx with hleft | hright
    · exact Or.inl hleft
    · exact Or.inr (Or.inl hright)
  · rw [hclip]
    rcases eq_side_of_abs_mul (c := e.center.y) hy with htop | hbottom
    · exact Or.inr (Or.inr (Or.inl htop))
    · exact Or.inr (Or.inr (Or.inr hbottom))

end Extent

/-! ## The boxes of tables and fields -/

/-- The extent of a table is its box. -/
theorem area_tableExtent (s : Setting K) (b : TableBox K) :
    (View.tableExtent s b).area = b.area s.metrics := by
  have htop : b.top + b.height / 2 - b.height / 2 = b.top := by ring
  have hbottom : b.top + b.height / 2 + b.height / 2 = b.top + b.height := by ring
  simp only [View.tableExtent, Extent.area, TableBox.area, TableBox.center, TableBox.bottom,
    ExactScalar.two_eq, htop, hbottom]

/-- The extent of a field is its box. -/
theorem area_fieldExtent (s : Setting K) (p : Point K) :
    (View.fieldExtent s p).area = p.fieldArea s.metrics := by
  simp only [View.fieldExtent, Extent.area, Point.fieldArea, ExactScalar.two_eq]

/-- A field has an extent if it has a place. -/
theorem View.extent?_field {s : Setting K} {v : View K} {f : FieldNode}
    (hf : f ∈ v.graph.fields) :
    v.extent? s f.id = (v.positions.find? f.id).map (View.fieldExtent s) :=
  if_pos (List.find?_isSome.2 ⟨f, hf, beq_self_eq_true f.id⟩)

end Extents

/-! ## Segments between two boxes -/

variable {K : Type} [EuclideanScalar K]

/-- Points of rectangles that are apart are as far from each other. -/
theorem Area.ApartBy.le_length {d : K} {r r' : Area K} (h : r.ApartBy d r') {p q : Point K}
    (hp : r.Holds p) (hq : r'.Holds q) : d ≤ Scalar.length (q.x - p.x) (q.y - p.y) := by
  have hx := EuclideanScalar.abs_fst_le_length (q.x - p.x) (q.y - p.y)
  have hy := EuclideanScalar.abs_snd_le_length (q.x - p.x) (q.y - p.y)
  obtain ⟨hpleft, hpright, hptop, hpbottom⟩ := hp
  obtain ⟨hqleft, hqright, hqtop, hqbottom⟩ := hq
  cases h with
  | above h => linarith [le_abs_self (q.y - p.y)]
  | below h => linarith [neg_abs_le (q.y - p.y)]
  | leftOf h => linarith [le_abs_self (q.x - p.x)]
  | rightOf h => linarith [neg_abs_le (q.x - p.x)]

namespace View

/-- From a box to itself there is no segment. -/
theorem segmentBetween?_self (a : Extent K) : segmentBetween? a a = none := by
  have hlength : ¬ (1 : K) < 0 := not_lt.2 zero_le_one
  simp only [segmentBetween?, Segment.length, Extent.clip_center, sub_self,
    EuclideanScalar.length_zero_left, abs_zero, ExactScalar.one_eq, if_neg hlength]

/-- Between boxes that are more than one unit apart there is a segment from border to border. -/
theorem segmentBetween?_of_apart {a b : Extent K} (ha : a.Proper) (hb : b.Proper) {d : K}
    (hd : 1 < d) (h : a.area.ApartBy d b.area) :
    ∃ segment, segmentBetween? a b = some segment ∧ a.area.OnBorder segment.start ∧
      b.area.OnBorder segment.stop := by
  have hdisjoint : a.area.Disjoint b.area := h.disjoint (zero_lt_one.trans hd)
  have hlength : d ≤ Scalar.length ((b.clip a.center).x - (a.clip b.center).x)
      ((b.clip a.center).y - (a.clip b.center).y) :=
    h.le_length (Extent.holds_clip ha _) (Extent.holds_clip hb _)
  refine ⟨⟨a.clip b.center, b.clip a.center⟩, ?_, ?_, ?_⟩
  · simp only [segmentBetween?, Segment.length, ExactScalar.one_eq,
      if_pos (hd.trans_le hlength)]
  · exact Extent.onBorder_clip ha fun hin => hdisjoint _ hin hb.holds_center
  · exact Extent.onBorder_clip hb fun hin => hdisjoint _ ha.holds_center hin

/-! ## Nodes of a view in columns -/

/-- A node stands in a rectangle: a table in that of its box, a field in that around its place. -/
inductive Occupies (s : Setting K) (v : View K) (id : String) : Area K → Prop
  | table {b : TableBox K} (hb : b ∈ v.tables) (hid : b.id = id) :
      Occupies s v id (b.area s.metrics)
  | field {f : FieldNode} {p : Point K} (hf : f ∈ v.graph.fields) (hid : f.id = id)
      (hp : v.positions.find? id = some p) : Occupies s v id (p.fieldArea s.metrics)

/-- The box of a node: the one that the segments of its edges are computed with, with sizes that
are not negative, and in the rectangle where the node stands. -/
structure HasBox (s : Setting K) (v : View K) (id : String) (a : Extent K) : Prop where
  found : v.extent? s id = some a
  proper : a.Proper
  occupies : v.Occupies s id a.area

section Columns

variable {s : Setting K} {v : View K} (hm : s.metrics.Spacious) (hfield : 0 ≤ s.metrics.fieldWidth)
  (hg : v.graph.WellFormed)
  (hv : v.geometry = (columnLayout s.metrics v.graph v.width true).geometry)

include hm hg hv

/-- In columns every table has a box. -/
theorem hasBox_table {t : TableNode} (ht : t ∈ v.graph.tables) :
    ∃ b ∈ (columnLayout s.metrics v.graph v.width true).tables,
      b.id = t.id ∧ v.HasBox s t.id (tableExtent s b) := by
  have htables : v.tables = (columnLayout s.metrics v.graph v.width true).tables :=
    congrArg Geometry.tables hv
  obtain ⟨b, hb, hid⟩ := exists_box s.metrics v.width true ht
  refine ⟨b, hb, hid, ?_, ?_, ?_⟩
  · have hfield : v.graph.field? t.id = none := by
      rw [Graph.field?, List.find?_eq_none]
      intro f hf
      simpa using (hg.table_ne_field t ht f hf).symm
    have hbox : v.tableBox? t.id = some b := by
      rw [tableBox?, htables, ← hid]
      exact Graph.find?_key_of_mem (nodup_map_id_stackBands hg _) hb
    simp [extent?, hfield, hbox]
  · have hheight := LayoutMetrics.tableHeight_nonneg hm (v.graph.rowCount t)
    rw [← height_of_mem_stackBands hg hb ht hid] at hheight
    simp only [tableExtent, ExactScalar.two_eq]
    exact ⟨div_nonneg hm.table zero_le_two, div_nonneg hheight zero_le_two⟩
  · rw [area_tableExtent]
    exact .table (htables ▸ hb) hid

include hfield

/-- In columns every field has a box. -/
theorem hasBox_field {f : FieldNode} (hf : f ∈ v.graph.fields) :
    ∃ p, (columnLayout s.metrics v.graph v.width true).positions.find? f.id = some p ∧
      v.HasBox s f.id (fieldExtent s p) := by
  have hpositions : v.positions = (columnLayout s.metrics v.graph v.width true).positions :=
    congrArg Geometry.positions hv
  obtain ⟨b, hb, -, i, hrow⟩ := exists_row s.metrics v.width true hg hf
  have hplace := find?_positions_row hg hb hrow
  refine ⟨b.row s.metrics i, hplace, ?_, ?_, ?_⟩
  · rw [extent?_field hf, hpositions, hplace, Option.map_some]
  · simp only [fieldExtent, ExactScalar.two_eq]
    exact ⟨div_nonneg hfield zero_le_two, div_nonneg hm.row zero_le_two⟩
  · rw [area_fieldExtent]
    exact .field hf rfl (hpositions ▸ hplace)

/-- Every node of a level has a box, and the boxes of two nodes are apart. -/
theorem hasBox_of_mem_nodeIds {level : Level} {x y : String} (hx : x ∈ v.graph.nodeIds level)
    (hy : y ∈ v.graph.nodeIds level) :
    ∃ a b, v.HasBox s x a ∧ v.HasBox s y b ∧
      (x ≠ y → a.area.ApartBy s.metrics.clearance b.area) := by
  cases level with
  | tables =>
      obtain ⟨t, ht, rfl⟩ := List.mem_map.1 hx
      obtain ⟨t', ht', rfl⟩ := List.mem_map.1 hy
      obtain ⟨b, hb, hid, hbox⟩ := hasBox_table hm hg hv ht
      obtain ⟨b', hb', hid', hbox'⟩ := hasBox_table hm hg hv ht'
      refine ⟨_, _, hbox, hbox', fun hne => ?_⟩
      rw [area_tableExtent, area_tableExtent]
      refine area_apart_of_ne hm hb hb' ?_
      rintro rfl
      exact hne (hid.symm.trans hid')
  | fields =>
      obtain ⟨f, hf, rfl⟩ := List.mem_map.1 hx
      obtain ⟨f', hf', rfl⟩ := List.mem_map.1 hy
      obtain ⟨p, hp, hbox⟩ := hasBox_field hm hfield hg hv hf
      obtain ⟨p', hp', hbox'⟩ := hasBox_field hm hfield hg hv hf'
      refine ⟨_, _, hbox, hbox', fun hne => ?_⟩
      rw [area_fieldExtent, area_fieldExtent]
      refine fieldAreas_apart hm hg hf hf' ?_ hp hp'
      rintro rfl
      exact hne rfl

/-- An edge between two nodes of a level has a segment unless they are the same node. -/
theorem edgeSegment?_of_mem_nodeIds (hclear : 1 < s.metrics.clearance) {level : Level} {e : Edge}
    (hsource : e.source ∈ v.graph.nodeIds level) (htarget : e.target ∈ v.graph.nodeIds level) :
    (e.source = e.target → v.edgeSegment? s e = none) ∧
    (e.source ≠ e.target → ∃ segment, v.edgeSegment? s e = some segment ∧
      ∃ r r', v.Occupies s e.source r ∧ v.Occupies s e.target r' ∧
        r.OnBorder segment.start ∧ r'.OnBorder segment.stop) := by
  obtain ⟨a, b, ha, hb, hapart⟩ := hasBox_of_mem_nodeIds hm hfield hg hv hsource htarget
  have hbetween : v.edgeSegment? s e = segmentBetween? a b := by
    simp only [edgeSegment?, ha.found, hb.found, Option.bind_eq_bind, Option.bind_some]
  rw [hbetween]
  constructor
  · intro heq
    have hsame : a = b := Option.some.inj (ha.found.symm.trans (heq ▸ hb.found))
    rw [hsame]
    exact segmentBetween?_self b
  · intro hne
    obtain ⟨segment, hsegment, hstart, hstop⟩ :=
      segmentBetween?_of_apart ha.proper hb.proper hclear (hapart hne)
    exact ⟨segment, hsegment, _, _, ha.occupies, hb.occupies, hstart, hstop⟩

end Columns

/-- In a view of any relations in columns, with the standard metrics, on a canvas of any size and
after whatever has been done to it, an edge has a segment exactly if it joins two different nodes.
The segment starts on the border of the one and ends on the border of the other. -/
theorem edgeSegment?_columns (scale : ScaleConfig K) (fitPadding : K)
    (settle : Graph → K → K → NameMap (Point K)) (level : Level) (relations : List Relation)
    (layout : LayoutMode) (width height : K) (calls : List (ViewCall K)) :
    let s : Setting K := ⟨.standard, scale, fitPadding, settle⟩
    let g := Graph.build level relations
    let v := (ofGraph s g layout width height).view.afterAll s calls
    v.layout = .columns → ∀ e ∈ g.edges,
      ((v.edgeSegment? s e).isSome ↔ e.source ≠ e.target) ∧
      ∀ segment, v.edgeSegment? s e = some segment →
        ∃ r r', v.Occupies s e.source r ∧ v.Occupies s e.target r' ∧
          r.OnBorder segment.start ∧ r'.OnBorder segment.stop := by
  intro s g v hcolumns e he
  have hgraph : v.graph = g := by
    rw [graph_afterAll]
    exact graph_relayout s _
  have hv := (settled_afterAll (settled_relayout s _) calls).columns hcolumns
  have hg : v.graph.WellFormed := hgraph ▸ Graph.wellFormed_build level relations
  have hfield : 0 ≤ s.metrics.fieldWidth := by norm_num [s, LayoutMetrics.standard]
  have hclear : 1 < s.metrics.clearance := by
    rw [LayoutMetrics.clearance_standard]
    norm_num
  obtain ⟨source, hsource, target, htarget, hstart, hstop⟩ := Graph.ends_of_mem_build he
  have hsource : e.source ∈ v.graph.nodeIds level := by
    rw [hgraph, hstart]
    exact Graph.id_mem_nodeIds hsource
  have htarget : e.target ∈ v.graph.nodeIds level := by
    rw [hgraph, hstop]
    exact Graph.id_mem_nodeIds htarget
  obtain ⟨hloop, hbetween⟩ := edgeSegment?_of_mem_nodeIds LayoutMetrics.spacious_standard hfield
    hg hv hclear hsource htarget
  by_cases hsame : e.source = e.target
  · simp [hloop hsame, hsame]
  · obtain ⟨segment, hsegment, hborders⟩ := hbetween hsame
    rw [hsegment]
    refine ⟨by simp [hsame], ?_⟩
    rintro _ ⟨⟩
    exact hborders

/-- A field that flows into itself and into its neighbour. -/
def loopAndNeighbour : List Relation :=
  [.ofFields "s_bani.a" "x" "s_bani.a" "x", .ofFields "s_bani.a" "x" "s_bani.a" "y"]

/-- Of the two edges only the one to the neighbour is drawn, also on a canvas without any width
and after a detour through free flow. -/
theorem edgeSegment?_loopAndNeighbour :
    letI := EuclideanScalar.real
    let s : Setting ℝ := ⟨.standard, .standard, 80, fun _ _ _ => .empty⟩
    let g := Graph.build .fields loopAndNeighbour
    let v := (ofGraph s g .freeFlow 0 600).view.afterAll s [.setLayout .columns]
    v.layout = .columns ∧ g.edges.map (fun e => (e.source, e.target)) =
      [("column:s_bani.a:x", "column:s_bani.a:x"), ("column:s_bani.a:x", "column:s_bani.a:y")] ∧
    g.edges.map (fun e => (v.edgeSegment? s e).isSome) = [false, true] := by
  let := EuclideanScalar.real
  intro s g v
  have hcolumns : v.layout = .columns := rfl
  have hvisible := edgeSegment?_columns .standard 80 (fun _ _ _ => .empty) .fields loopAndNeighbour
    .freeFlow (0 : ℝ) 600 [.setLayout .columns] hcolumns
  have hdifferent : g.edges.map (fun e => (v.edgeSegment? s e).isSome) =
      g.edges.map (fun e => decide (e.source ≠ e.target)) := by
    refine List.map_congr_left fun e he => ?_
    rw [Bool.eq_iff_iff, decide_eq_true_iff]
    exact (hvisible e he).1
  refine ⟨hcolumns, by decide +kernel, ?_⟩
  rw [hdifferent]
  decide +kernel

end View

end Provenance
