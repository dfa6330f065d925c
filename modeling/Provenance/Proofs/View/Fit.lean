import Mathlib.Algebra.Order.Field.Basic
import Mathlib.Order.Bounds.Basic
import Mathlib.Tactic.Linarith
import Mathlib.Tactic.NormNum
import Mathlib.Tactic.Ring
import Provenance.Proofs.View.Zoom

/-!
# Fitting shows every table

Fitting computes the corners that enclose all tables, takes the zoom at which they fill the canvas
up to the padding, keeps it within its bounds, and moves the middle of the tables to the middle of
the canvas.  This module shows that in exact arithmetic all tables are visible afterwards, with the
padding around them, unless the least zoom is too large for that.

Main results:

- Theorem `View.toGraph_toScreen`: a point of the drawing is shown where the pointer finds it.
- Theorem `View.isHull_bounds?`: the computed corners are those of the smallest rectangle around
  all tables.
- Theorem `View.fit_eq`: what fitting does to a view.
- Theorem `padded_of_span_le`: what is not wider than the room lies between the paddings.
-/

namespace Provenance

variable {K : Type} [ExactScalar K]

/-! ## From the drawing to the screen -/

namespace View

/-- The point of the screen where a point of the drawing is shown. -/
def toScreen (v : View K) (q : Point K) : Point K where
  x := q.x * v.transform.k + v.transform.x
  y := q.y * v.transform.k + v.transform.y

theorem toGraph_toScreen {v : View K} (hk : v.transform.k ≠ 0) (q : Point K) :
    v.toGraph (v.toScreen q) = q := by
  simp only [toGraph, toScreen, add_sub_cancel_right, mul_div_cancel_right₀ _ hk]

end View

/-! ## The smallest rectangle around boxes -/

/-- Where one side of some boxes lies. -/
def sidesOf (m : LayoutMetrics K) (side : Area K → K) (boxes : List (TableBox K)) : Set K :=
  {x | ∃ b ∈ boxes, side (b.area m) = x}

theorem sidesOf_append (m : LayoutMetrics K) (side : Area K → K)
    (boxes boxes' : List (TableBox K)) :
    sidesOf m side (boxes ++ boxes') = sidesOf m side boxes ∪ sidesOf m side boxes' := by
  ext x
  simp only [sidesOf, List.mem_append, Set.mem_union, Set.mem_ofPred_eq, or_and_right, exists_or]

/-- A rectangle is the smallest one around some boxes: no box reaches beyond any side, and each
side is that of a box. -/
structure Area.IsHull (m : LayoutMetrics K) (boxes : List (TableBox K)) (r : Area K) : Prop where
  left : IsLeast (sidesOf m Area.left boxes) r.left
  right : IsGreatest (sidesOf m Area.right boxes) r.right
  top : IsLeast (sidesOf m Area.top boxes) r.top
  bottom : IsGreatest (sidesOf m Area.bottom boxes) r.bottom

/-- The rectangle between two corners. -/
def Bounds.area (b : Bounds K) : Area K := ⟨b.low.x, b.high.x, b.low.y, b.high.y⟩

section Hull

variable {m : LayoutMetrics K} {boxes boxes' : List (TableBox K)} {r r' : Area K}

theorem Area.IsHull.within (h : r.IsHull m boxes) {b : TableBox K} (hb : b ∈ boxes) :
    (b.area m).Within r where
  left := h.left.2 ⟨b, hb, rfl⟩
  right := h.right.2 ⟨b, hb, rfl⟩
  top := h.top.2 ⟨b, hb, rfl⟩
  bottom := h.bottom.2 ⟨b, hb, rfl⟩

/-- There is only one such rectangle. -/
theorem Area.IsHull.unique (h : r.IsHull m boxes) (h' : r'.IsHull m boxes) : r = r' := by
  cases r
  cases r'
  congr
  · exact h.left.unique h'.left
  · exact h.right.unique h'.right
  · exact h.top.unique h'.top
  · exact h.bottom.unique h'.bottom

theorem area_boxBounds (m : LayoutMetrics K) (b : TableBox K) :
    (View.boxBounds m b).area = b.area m := by
  simp only [View.boxBounds, Bounds.area, TableBox.area, ExactScalar.two_eq]

theorem isHull_singleton (m : LayoutMetrics K) (b : TableBox K) :
    (View.boxBounds m b).area.IsHull m [b] := by
  rw [area_boxBounds]
  constructor <;> simp [sidesOf]

/-- The corners that enclose both enclose the boxes of both. -/
theorem isHull_joinBounds {corners corners' : Bounds K} (h : corners.area.IsHull m boxes)
    (h' : corners'.area.IsHull m boxes') :
    (View.joinBounds corners corners').area.IsHull m (boxes ++ boxes') where
  left := sidesOf_append m Area.left boxes boxes' ▸ h.left.union h'.left
  right := sidesOf_append m Area.right boxes boxes' ▸ h.right.union h'.right
  top := sidesOf_append m Area.top boxes boxes' ▸ h.top.union h'.top
  bottom := sidesOf_append m Area.bottom boxes boxes' ▸ h.bottom.union h'.bottom

/-- The corners that have been computed enclose the boxes seen so far, so that in the end they
enclose all of them. -/
theorem isHull_foldl {corners : Bounds K} (h : corners.area.IsHull m boxes)
    (rest : List (TableBox K)) :
    (rest.foldl (fun acc b => View.joinBounds acc (View.boxBounds m b)) corners).area.IsHull m
      (boxes ++ rest) := by
  induction rest generalizing corners boxes with
  | nil => simpa using h
  | cons b rest ih =>
      have hnext := ih (isHull_joinBounds h (isHull_singleton m b))
      rwa [List.append_assoc] at hnext

end Hull

/-! ## Zooms that leave a padding -/

/-- A zoom that is not below the least one is at most lowered. -/
theorem Scalar.le_of_clamp? {low high x y : K} (h : Scalar.clamp? low high x = some y)
    (hx : low ≤ x) : y ≤ x := by
  unfold Scalar.clamp? at h
  split_ifs at h with hbounds hlow hhigh
  · exact absurd hx (not_le.2 hlow)
  · rw [Option.some.injEq] at h
    exact h ▸ hhigh.le
  · rw [Option.some.injEq] at h
    exact h.ge

/-- At a zoom at which the distance of two sides fills the room, or at a lower one, it fits. -/
theorem span_le_of_le_div {low high k room : K} (hk : 0 ≤ k)
    (h : k ≤ room / max (high - low) 1) : (high - low) * k ≤ room := by
  have hpos : 0 < max (high - low) 1 := zero_lt_one.trans_le (le_max_right _ _)
  calc
    (high - low) * k ≤ max (high - low) 1 * k :=
      mul_le_mul_of_nonneg_right (le_max_left _ _) hk
    _ = k * max (high - low) 1 := mul_comm _ _
    _ ≤ room := (le_div_iff₀ hpos).1 h

/-- If the middle of two sides is shown in the middle of the canvas and their distance fits into
the room, then all that lies between them is shown between the paddings. -/
theorem padded_of_span_le {low high x k size padding : K} (hk : 0 ≤ k) (hlow : low ≤ x)
    (hhigh : x ≤ high) (hspan : (high - low) * k ≤ size - 2 * padding) :
    padding ≤ x * k + (size / 2 - (low + high) / 2 * k) ∧
      x * k + (size / 2 - (low + high) / 2 * k) ≤ size - padding := by
  have hfrom : low * k ≤ x * k := mul_le_mul_of_nonneg_right hlow hk
  have hto : x * k ≤ high * k := mul_le_mul_of_nonneg_right hhigh hk
  have hmiddle : (low + high) / 2 * k = (low * k + high * k) / 2 := by ring
  rw [sub_mul] at hspan
  rw [hmiddle]
  constructor <;> linarith

/-! ## Fitting -/

namespace View

variable {s : Setting K} {v : View K} {b : Bounds K}

/-- The computed corners are those of the smallest rectangle around all tables. -/
theorem isHull_bounds? (h : v.bounds? s = some b) : b.area.IsHull s.metrics v.tables := by
  unfold bounds? at h
  cases htables : v.tables with
  | nil => simp [htables] at h
  | cons first rest =>
      simp only [htables, Option.some.injEq] at h
      rw [← h]
      exact isHull_foldl (isHull_singleton s.metrics first) rest

theorem isSome_bounds? (h : v.tables ≠ []) : ∃ b, v.bounds? s = some b := by
  unfold bounds?
  cases htables : v.tables with
  | nil => exact absurd htables h
  | cons first rest => exact ⟨_, rfl⟩

/-- Fitting sets the transform, and the height of the drawing to that of the canvas. -/
theorem fit_eq (hs : s.scale.Ordered) (hb : v.bounds? s = some b) :
    ∃ k, s.scale.clampZoom? (v.fitZoom s b) = some k ∧ s.scale.Allows k ∧
      v.fit s = ⟨{ v with contentHeight := v.height, transform := v.centerOn b k }, false⟩ := by
  obtain ⟨k, hk, hallowed⟩ := hs.exists_clampZoom? (v.fitZoom s b)
  have hzoom : s.scale.clampZoom? (fitZoom s { v with contentHeight := v.height } b) = some k := hk
  refine ⟨k, hk, hallowed, ?_⟩
  simp only [fit, hb, hzoom]
  rfl

/-- On a canvas that has room between the paddings, the zoom is computed from this room. -/
theorem fitZoom_eq (hwidth : 1 ≤ v.width - 2 * s.fitPadding)
    (hheight : 1 ≤ v.height - 2 * s.fitPadding) :
    v.fitZoom s b =
      min ((v.width - 2 * s.fitPadding) / max (b.area.right - b.area.left) 1)
        ((v.height - 2 * s.fitPadding) / max (b.area.bottom - b.area.top) 1) := by
  simp only [fitZoom, ExactScalar.larger_eq, ExactScalar.smaller_eq, ExactScalar.one_eq,
    ExactScalar.two_eq, max_eq_left hwidth, max_eq_left hheight]
  rfl

/-- The middle of the corners is shown in the middle of the canvas. -/
theorem toScreen_centerOn (v : View K) (b : Bounds K) (k : K) :
    toScreen { v with transform := v.centerOn b k }
        ⟨(b.area.left + b.area.right) / 2, (b.area.top + b.area.bottom) / 2⟩ =
      ⟨v.width / 2, v.height / 2⟩ := by
  simp only [toScreen, centerOn, Bounds.area, ExactScalar.two_eq, add_sub_cancel]

/-- At a zoom at which the corners fit between the paddings, all that lies between the corners is
shown between the paddings. -/
theorem holds_toScreen_centerOn {k : K} (hk : 0 ≤ k)
    (hwidth : (b.area.right - b.area.left) * k ≤ v.width - 2 * s.fitPadding)
    (hheight : (b.area.bottom - b.area.top) * k ≤ v.height - 2 * s.fitPadding) {q : Point K}
    (hq : b.area.Holds q) :
    Area.Holds ⟨s.fitPadding, v.width - s.fitPadding, s.fitPadding, v.height - s.fitPadding⟩
      (toScreen { v with transform := v.centerOn b k } q) := by
  obtain ⟨hleft, hright⟩ := padded_of_span_le hk hq.left hq.right hwidth
  obtain ⟨htop, hbottom⟩ := padded_of_span_le hk hq.top hq.bottom hheight
  simp only [toScreen, centerOn, ExactScalar.two_eq]
  exact ⟨hleft, hright, htop, hbottom⟩

/-- Fitting a view with at least one table into a canvas that has room between the paddings, with
the standard scale, shows the middle of the tables in the middle of the canvas.  If the zoom that
this needs is not below the least one, all tables are shown between the paddings, whatever the
upper bound of the zoom does.  Nothing is said about the signs of sizes: a box without an inside
has no points. -/
theorem fit_shows_all (metrics : LayoutMetrics K) (fitPadding : K)
    (settle : Graph → K → K → NameMap (Point K)) (v : View K) (htables : v.tables ≠ [])
    (hwidth : 1 ≤ v.width - 2 * fitPadding) (hheight : 1 ≤ v.height - 2 * fitPadding) :
    let s : Setting K := ⟨metrics, .standard, fitPadding, settle⟩
    let w := (v.fit s).view
    (v.fit s).refused = false ∧ w.tables = v.tables ∧
    (∀ q, w.toGraph (w.toScreen q) = q) ∧
    (∃ r : Area K, r.IsHull metrics v.tables) ∧
    ∀ r : Area K, r.IsHull metrics v.tables →
      w.toScreen ⟨(r.left + r.right) / 2, (r.top + r.bottom) / 2⟩ =
        ⟨v.width / 2, v.height / 2⟩ ∧
      (s.scale.minZoom ≤ min ((v.width - 2 * fitPadding) / max (r.right - r.left) 1)
          ((v.height - 2 * fitPadding) / max (r.bottom - r.top) 1) →
        ∀ b ∈ v.tables, ∀ q, (b.area metrics).Holds q →
          Area.Holds ⟨fitPadding, v.width - fitPadding, fitPadding, v.height - fitPadding⟩
            (w.toScreen q)) := by
  intro s
  have hs : s.scale.Ordered := ScaleConfig.ordered_standard
  obtain ⟨corners, hcorners⟩ := isSome_bounds? (s := s) htables
  have hhull : corners.area.IsHull metrics v.tables := isHull_bounds? hcorners
  obtain ⟨k, hk, hallowed, hfit⟩ := fit_eq hs hcorners
  have hpos : 0 < k := hs.pos hallowed
  rw [hfit]
  refine ⟨rfl, rfl, toGraph_toScreen hpos.ne', ⟨_, hhull⟩, ?_⟩
  intro r hr
  obtain rfl : corners.area = r := hhull.unique hr
  refine ⟨toScreen_centerOn v corners k, ?_⟩
  intro hzoom b hb q hq
  -- the bounds of the zoom can only have lowered it
  rw [← fitZoom_eq (s := s) hwidth hheight] at hzoom
  have hle : k ≤ v.fitZoom s corners := Scalar.le_of_clamp? hk hzoom
  rw [fitZoom_eq hwidth hheight, le_min_iff] at hle
  have hspanX := span_le_of_le_div hpos.le hle.1
  have hspanY := span_le_of_le_div hpos.le hle.2
  exact holds_toScreen_centerOn (s := s) hpos.le hspanX hspanY (hq.mono (hhull.within hb))

/-- Two tables that are further apart than the canvas is wide. -/
def farApart : List (TableBox ℚ) :=
  [⟨"table:proceso.p", 0, -51, 102⟩, ⟨"table:s_bani.a", 900, 349, 102⟩]

/-- They are fitted at the zoom 0.7: their middle is shown in the middle, and no part of them less
than 80 pixels from the border. -/
theorem fit_farApart :
    letI := ExactScalar.rational fun _ _ => 0
    let s : Setting ℚ := ⟨.standard, .standard, 80, fun _ _ _ => .empty⟩
    let v : View ℚ :=
      { unarranged (Graph.build .tables []) .freeFlow 1000 600 with tables := farApart }
    let w := (v.fit s).view
    w.transform.k = 7 / 10 ∧ w.toScreen ⟨450, 200⟩ = ⟨500, 300⟩ ∧
    ∀ b ∈ farApart, ∀ q, (b.area .standard).Holds q →
      Area.Holds ⟨80, 920, 80, 520⟩ (w.toScreen q) := by
  let := ExactScalar.rational fun _ _ => 0
  intro s v w
  have hhull : (⟨-150, 1050, -51, 451⟩ : Area ℚ).IsHull .standard farApart := by
    constructor <;> refine ⟨?_, ?_⟩ <;>
      norm_num [sidesOf, farApart, TableBox.area, TableBox.bottom, LayoutMetrics.standard] <;>
      rintro x (rfl | rfl) <;> norm_num
  obtain ⟨-, -, -, -, hshown⟩ := fit_shows_all .standard 80 (fun _ _ _ => .empty) v (by decide)
    (show (1 : ℚ) ≤ 1000 - 2 * 80 by norm_num) (show (1 : ℚ) ≤ 600 - 2 * 80 by norm_num)
  obtain ⟨hmiddle, hall⟩ := hshown _ hhull
  refine ⟨by decide +kernel, ?_, ?_⟩
  · rw [show (⟨450, 200⟩ : Point ℚ) = ⟨(-150 + 1050) / 2, (-51 + 451) / 2⟩ by norm_num, hmiddle]
    norm_num [v, unarranged]
  · rw [show (⟨80, 920, 80, 520⟩ : Area ℚ) = ⟨80, 1000 - 80, 80, 600 - 80⟩ by norm_num]
    exact hall (by norm_num [ScaleConfig.standard, v, unarranged])

end View

end Provenance
