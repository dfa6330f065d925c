import Mathlib.Algebra.Order.Field.Basic
import Mathlib.Data.Rat.Cast.Order
import Mathlib.Tactic.Linarith
import Mathlib.Tactic.NormNum.OfScientific
import Mathlib.Tactic.Ring
import Provenance.Layout.Columns

/-!
# Exact geometry

The laws of the geometry are stated for numbers that are computed with exactly.  This module
says which numbers these are, what the layout metrics mean in terms of them, and when two
rectangles are apart.

Main results:

- Theorem `LayoutMetrics.rowOffset_add_le_tableHeight`: a table is high enough for its rows.
- Theorem `LayoutMetrics.spacious_standard`: the standard metrics leave room.
- Theorem `Area.ApartBy.mono`: what lies within rectangles that are apart is apart.
- Theorem `isGreatest_lowest`: how low some boxes reach.
-/

namespace Provenance

/-! ## Exact numbers -/

/-- Numbers that are computed with exactly: an ordered field.  Lengths of vectors need not exist
in it, so that any function may stand for them. -/
class ExactScalar (K : Type) extends Field K, LinearOrder K, IsStrictOrderedRing K where
  vectorLength : K → K → K

namespace ExactScalar

/-- The rational numbers are exact, whatever stands for the length of a vector. -/
@[reducible]
def rational (length : ℚ → ℚ → ℚ) : ExactScalar ℚ where
  vectorLength := length

variable {K : Type} [ExactScalar K]

instance : Scalar K where
  ofCount := Nat.cast
  decidableLE := inferInstance
  decidableLT := inferInstance
  larger := max
  smaller := min
  magnitude := abs
  length := vectorLength

theorem ofCount_eq (n : Nat) : (Scalar.ofCount n : K) = n := rfl

/-- Of two exact numbers the larger one is their maximum. -/
theorem larger_eq (a b : K) : Scalar.larger a b = max a b := rfl

/-- Of two exact numbers the smaller one is their minimum. -/
theorem smaller_eq (a b : K) : Scalar.smaller a b = min a b := rfl

/-- The magnitude of an exact number is its absolute value. -/
theorem magnitude_eq (a : K) : Scalar.magnitude a = |a| := rfl

-- decimals are rewritten to numerals, which the tactics for ordered fields know
theorem zero_eq : (0.0 : K) = 0 := by norm_num

theorem one_eq : (1.0 : K) = 1 := by norm_num

theorem two_eq : (2.0 : K) = 2 := by norm_num

end ExactScalar

variable {K : Type} [ExactScalar K]

/-! ## Metrics that leave room -/

namespace LayoutMetrics

/-- Metrics with which nothing collides: rows and tables have gaps between them, a field is no
wider than its table, and a table is narrower than the distance between two bands. -/
structure Spacious (m : LayoutMetrics K) : Prop where
  header : 0 ≤ m.headerHeight
  row : 0 ≤ m.rowHeight
  fieldGap : 0 < m.fieldGap
  tableGap : 0 < m.tableGap
  table : 0 ≤ m.tableWidth
  field : m.fieldWidth ≤ m.tableWidth
  band : m.tableWidth < m.minBandWidth + m.separator

/-- The standard metrics leave room. -/
theorem spacious_standard : (standard : LayoutMetrics K).Spacious := by
  constructor <;> norm_num [standard]

/-- The least gap between two rows, between two tables of a band, or between the tables of two
bands. -/
def clearance (m : LayoutMetrics K) : K :=
  min m.fieldGap (min m.tableGap (m.minBandWidth + m.separator - m.tableWidth))

/-- With the standard metrics, what is kept apart is 12 apart at least. -/
theorem clearance_standard : (standard : LayoutMetrics K).clearance = 12 := by
  norm_num [clearance, standard]

section Clearance

variable (m : LayoutMetrics K)

/-- Rows are at least the clearance apart. -/
theorem clearance_le_fieldGap : m.clearance ≤ m.fieldGap := min_le_left _ _

/-- Tables of a band are at least the clearance apart. -/
theorem clearance_le_tableGap : m.clearance ≤ m.tableGap :=
  (min_le_right _ _).trans (min_le_left _ _)

/-- Tables of different bands are at least the clearance apart. -/
theorem tableWidth_add_clearance_le :
    m.tableWidth + m.clearance ≤ m.minBandWidth + m.separator := by
  have hband : m.clearance ≤ m.minBandWidth + m.separator - m.tableWidth :=
    (min_le_right _ _).trans (min_le_right _ _)
  linarith

end Clearance

variable {m : LayoutMetrics K}

/-- Metrics that leave room have a clearance. -/
theorem Spacious.clearance_pos (hm : m.Spacious) : 0 < m.clearance :=
  lt_min hm.fieldGap (lt_min hm.tableGap (sub_pos.2 hm.band))

/-- The next row is lower by its height and a gap. -/
theorem rowOffset_add (m : LayoutMetrics K) (i k : Nat) :
    m.rowOffset (i + k) = m.rowOffset i + k * (m.rowHeight + m.fieldGap) := by
  simp only [rowOffset, ExactScalar.ofCount_eq, ExactScalar.two_eq]
  push_cast
  ring

/-- The height of a table in terms of the last row that it has room for. -/
theorem tableHeight_eq (m : LayoutMetrics K) (rows : Nat) :
    m.tableHeight rows = m.rowOffset (max rows 1 - 1) + m.rowHeight / 2 + m.fieldGap := by
  have hcast : ((max rows 1 - 1 : Nat) : K) = (max rows 1 : Nat) - 1 :=
    Nat.cast_pred (by omega)
  simp only [tableHeight, rowOffset, ExactScalar.ofCount_eq, ExactScalar.one_eq,
    ExactScalar.two_eq, hcast]
  ring

/-- Every row lies below the header. -/
theorem le_rowOffset (hm : m.Spacious) (i : Nat) :
    m.headerHeight + m.fieldGap + m.rowHeight / 2 ≤ m.rowOffset i := by
  have hstep : 0 ≤ (i : K) * (m.rowHeight + m.fieldGap) :=
    mul_nonneg (Nat.cast_nonneg i) (add_nonneg hm.row hm.fieldGap.le)
  simp only [rowOffset, ExactScalar.ofCount_eq, ExactScalar.two_eq]
  linarith

/-- Between two rows there is a gap. -/
theorem rowOffset_add_le (hm : m.Spacious) {i j : Nat} (h : i < j) :
    m.rowOffset i + m.rowHeight + m.fieldGap ≤ m.rowOffset j := by
  obtain ⟨k, rfl⟩ := Nat.exists_eq_add_of_lt h
  have hstep : 0 ≤ (k : K) * (m.rowHeight + m.fieldGap) :=
    mul_nonneg (Nat.cast_nonneg k) (add_nonneg hm.row hm.fieldGap.le)
  rw [Nat.add_assoc, rowOffset_add]
  push_cast
  linarith

/-- A table is high enough for its rows, with a gap below the last one. -/
theorem rowOffset_add_le_tableHeight (hm : m.Spacious) {i rows : Nat} (h : i < rows) :
    m.rowOffset i + m.rowHeight / 2 + m.fieldGap ≤ m.tableHeight rows := by
  obtain ⟨k, hk⟩ := Nat.exists_eq_add_of_le (show i ≤ max rows 1 - 1 by omega)
  have hstep : 0 ≤ (k : K) * (m.rowHeight + m.fieldGap) :=
    mul_nonneg (Nat.cast_nonneg k) (add_nonneg hm.row hm.fieldGap.le)
  rw [tableHeight_eq, hk, rowOffset_add]
  linarith

/-- No table has a negative height. -/
theorem tableHeight_nonneg (hm : m.Spacious) (rows : Nat) : 0 ≤ m.tableHeight rows := by
  have hoffset := le_rowOffset hm (max rows 1 - 1)
  have hheader := hm.header
  have hrow := hm.row
  have hgap := hm.fieldGap
  rw [tableHeight_eq]
  linarith

end LayoutMetrics

/-! ## Rectangles -/

/-- A rectangle by its four sides. -/
structure Area (K : Type) where
  left : K
  right : K
  top : K
  bottom : K

namespace Area

/-- A point lies in a rectangle or on its border. -/
structure Holds (r : Area K) (p : Point K) : Prop where
  left : r.left ≤ p.x
  right : p.x ≤ r.right
  top : r.top ≤ p.y
  bottom : p.y ≤ r.bottom

/-- Two rectangles have no point in common, not even on their borders. -/
def Disjoint (r s : Area K) : Prop := ∀ p, r.Holds p → ¬ s.Holds p

/-- A rectangle lies within another one. -/
structure Within (r s : Area K) : Prop where
  left : s.left ≤ r.left
  right : r.right ≤ s.right
  top : s.top ≤ r.top
  bottom : r.bottom ≤ s.bottom

/-- Two rectangles are at least some distance apart, above or beside each other. -/
inductive ApartBy (d : K) (r s : Area K) : Prop
  | above (h : r.bottom + d ≤ s.top)
  | below (h : s.bottom + d ≤ r.top)
  | leftOf (h : r.right + d ≤ s.left)
  | rightOf (h : s.right + d ≤ r.left)

variable {r r' s s' : Area K} {d : K}

/-- It does not matter which of two disjoint rectangles is named first. -/
theorem Disjoint.symm (h : r.Disjoint s) : s.Disjoint r := fun p hs hr => h p hr hs

/-- A rectangle above another one has no point in common with it. -/
theorem disjoint_of_above (h : r.bottom < s.top) : r.Disjoint s := by
  intro p hr hs
  exact absurd (hs.top.trans hr.bottom) (not_le.2 h)

/-- A rectangle to the left of another one has no point in common with it. -/
theorem disjoint_of_leftOf (h : r.right < s.left) : r.Disjoint s := by
  intro p hr hs
  exact absurd (hs.left.trans hr.right) (not_le.2 h)

/-- A point of a rectangle is a point of every rectangle around it. -/
theorem Holds.mono {p : Point K} (hr : r.Holds p) (h : r.Within s) : s.Holds p where
  left := h.left.trans hr.left
  right := hr.right.trans h.right
  top := h.top.trans hr.top
  bottom := hr.bottom.trans h.bottom

/-- It does not matter which of two rectangles that are apart is named first. -/
theorem ApartBy.symm (h : r.ApartBy d s) : s.ApartBy d r := by
  cases h with
  | above h => exact .below h
  | below h => exact .above h
  | leftOf h => exact .rightOf h
  | rightOf h => exact .leftOf h

/-- What lies within rectangles that are apart is apart. -/
theorem ApartBy.mono (h : r'.ApartBy d s') (hr : r.Within r') (hs : s.Within s') :
    r.ApartBy d s := by
  have hd : d ≤ d := le_rfl
  cases h with
  | above h => exact .above ((add_le_add hr.bottom hd).trans (h.trans hs.top))
  | below h => exact .below ((add_le_add hs.bottom hd).trans (h.trans hr.top))
  | leftOf h => exact .leftOf ((add_le_add hr.right hd).trans (h.trans hs.left))
  | rightOf h => exact .rightOf ((add_le_add hs.right hd).trans (h.trans hr.left))

/-- Rectangles that are some way apart have no point in common. -/
theorem ApartBy.disjoint (h : r.ApartBy d s) (hd : 0 < d) : r.Disjoint s := by
  cases h with
  | above h => exact disjoint_of_above ((lt_add_of_pos_right _ hd).trans_le h)
  | below h => exact (disjoint_of_above ((lt_add_of_pos_right _ hd).trans_le h)).symm
  | leftOf h => exact disjoint_of_leftOf ((lt_add_of_pos_right _ hd).trans_le h)
  | rightOf h => exact (disjoint_of_leftOf ((lt_add_of_pos_right _ hd).trans_le h)).symm

end Area

/-- The rectangle of a table. -/
def TableBox.area (m : LayoutMetrics K) (b : TableBox K) : Area K where
  left := b.x - m.tableWidth / 2
  right := b.x + m.tableWidth / 2
  top := b.top
  bottom := b.bottom

/-- The rectangle of a field around its place. -/
def Point.fieldArea (m : LayoutMetrics K) (p : Point K) : Area K where
  left := p.x - m.fieldWidth / 2
  right := p.x + m.fieldWidth / 2
  top := p.y - m.rowHeight / 2
  bottom := p.y + m.rowHeight / 2

/-- The lowest of a line and the bottoms of some boxes, as the height of a layout needs it. -/
theorem isGreatest_lowest (boxes : List (TableBox K)) (start : K) :
    IsGreatest (insert start {y | ∃ b ∈ boxes, b.bottom = y})
      (boxes.foldl (fun lowest b => Scalar.larger lowest b.bottom) start) := by
  induction boxes generalizing start with
  | nil => simp
  | cons a boxes ih =>
      obtain ⟨hmem, hupper⟩ := ih (Scalar.larger start a.bottom)
      rw [ExactScalar.larger_eq] at hmem hupper
      rw [List.foldl_cons, ExactScalar.larger_eq]
      generalize boxes.foldl _ _ = lowest at hmem hupper ⊢
      have hstart : max start a.bottom ≤ lowest := hupper (Set.mem_insert _ _)
      constructor
      · rcases Set.mem_insert_iff.1 hmem with rfl | ⟨b, hb, hbottom⟩
        · rcases max_choice start a.bottom with hmax | hmax
          · exact Or.inl hmax
          · exact Or.inr ⟨a, List.mem_cons_self, hmax.symm⟩
        · exact Or.inr ⟨b, List.mem_cons_of_mem a hb, hbottom⟩
      · rintro y (rfl | ⟨b, hb, rfl⟩)
        · exact (le_max_left _ _).trans hstart
        · rcases List.mem_cons.1 hb with rfl | hb
          · exact (le_max_right _ _).trans hstart
          · exact hupper (Set.mem_insert_of_mem _ ⟨b, hb, rfl⟩)

end Provenance
