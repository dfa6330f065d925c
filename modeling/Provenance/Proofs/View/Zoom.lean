import Mathlib.Algebra.Order.Field.Basic
import Mathlib.Tactic.FieldSimp
import Mathlib.Tactic.Linarith
import Mathlib.Tactic.NormNum.OfScientific
import Mathlib.Tactic.Ring
import Provenance.Paint.Picture
import Provenance.Proofs.Layout.Exact
import Provenance.Viewer

/-!
# The zoom stays within its bounds

The zoom is set by the wheel, by fitting the drawing into the canvas, and by arranging tables in
columns.  Sizes that belong to the screen are divided by it and kept between bounds, so that a
zoom that is zero or negative would leave these bounds out of order.  This module shows that in
exact arithmetic this cannot happen to a viewer, and that the wheel zooms about the pointer.

Main results:

- Theorem `Viewer.inBounds_step`: no event takes the zoom out of its bounds, and none is refused.
- Theorem `View.toGraph_zoomAbout`: the point of the drawing under the pointer stays there.
-/

namespace Provenance

variable {K : Type} [ExactScalar K]

/-! ## Bounds in order -/

/-- Between bounds that are in order every number can be clamped. -/
theorem Scalar.exists_clamp? {low high : K} (h : low ≤ high) (x : K) :
    ∃ y, Scalar.clamp? low high x = some y ∧ low ≤ y ∧ y ≤ high := by
  unfold Scalar.clamp?
  rw [if_pos h]
  refine ⟨_, rfl, ?_⟩
  split_ifs with hlow hhigh
  · exact ⟨le_rfl, h⟩
  · exact ⟨h, le_rfl⟩
  · exact ⟨not_lt.1 hlow, not_lt.1 hhigh⟩

namespace ScaleConfig

/-- Bounds that are in order: zooms are positive, the drawing may be shown at its own size, and
the bounds of the arrow heads are in order. -/
structure Ordered (c : ScaleConfig K) : Prop where
  positive : 0 < c.minZoom
  minZoom : c.minZoom ≤ 1
  maxZoom : 1 ≤ c.maxZoom
  arrow : ∀ low high, c.arrowBehavior = .clamped low high → low ≤ high

/-- The standard bounds are in order. -/
theorem ordered_standard : (standard : ScaleConfig K).Ordered where
  positive := by norm_num [standard]
  minZoom := by norm_num [standard]
  maxZoom := by norm_num [standard]
  arrow := by
    rintro low high ⟨⟩
    norm_num

/-- A zoom lies within the bounds. -/
structure Allows (c : ScaleConfig K) (k : K) : Prop where
  low : c.minZoom ≤ k
  high : k ≤ c.maxZoom

variable {c : ScaleConfig K}

/-- A zoom within the bounds is positive. -/
theorem Ordered.pos (hc : c.Ordered) {k : K} (hk : c.Allows k) : 0 < k :=
  hc.positive.trans_le hk.low

/-- The drawing may be shown at its own size. -/
theorem Ordered.allows_one (hc : c.Ordered) : c.Allows (1.0 : K) := by
  rw [ExactScalar.one_eq]
  exact ⟨hc.minZoom, hc.maxZoom⟩

/-- Every zoom can be clamped. -/
theorem Ordered.exists_clampZoom? (hc : c.Ordered) (k : K) :
    ∃ k', c.clampZoom? k = some k' ∧ c.Allows k' := by
  obtain ⟨k', hk', hlow, hhigh⟩ :=
    Scalar.exists_clamp? (hc.minZoom.trans hc.maxZoom) k
  exact ⟨k', hk', hlow, hhigh⟩

/-- At an allowed zoom the bounds of the arrow heads are in order in the drawing as well. -/
theorem Ordered.arrow_div (hc : c.Ordered) {k : K} (hk : c.Allows k) {low high : K}
    (h : c.arrowBehavior = .clamped low high) : low / k ≤ high / k :=
  div_le_div_of_nonneg_right (hc.arrow low high h) (hc.pos hk).le

/-- At an allowed zoom all sizes can be computed. -/
theorem Ordered.isSome_ofZoom? (hc : c.Ordered) {k : K} (hk : c.Allows k) :
    (ScaledValues.ofZoom? c k).isSome := by
  have harrow : ∃ size, c.arrowBehavior.sizeAt? c.arrowSize k = some size := by
    cases hbehavior : c.arrowBehavior with
    | screen => exact ⟨_, rfl⟩
    | clamped low high =>
        obtain ⟨size, hsize, -⟩ := Scalar.exists_clamp? (hc.arrow_div hk hbehavior) c.arrowSize
        exact ⟨size, hsize⟩
  obtain ⟨size, hsize⟩ := harrow
  simp only [ScaledValues.ofZoom?, hsize]
  rfl

end ScaleConfig

/-! ## Views -/

/-- A change that was finished and has left the zoom within the bounds. -/
structure Change.Sound (s : Setting K) (c : Change K) : Prop where
  finished : c.refused = false
  allowed : s.scale.Allows c.view.transform.k

namespace View

variable {s : Setting K} {v : View K}

/-- Columns are shown at their own size. -/
theorem allows_applyColumns (hs : s.scale.Ordered) (v : View K) :
    s.scale.Allows (v.applyColumns s).transform.k :=
  hs.allows_one

/-- Fitting clamps the zoom, or goes back to the size of the drawing when there is nothing to
fit. -/
theorem sound_fit (hs : s.scale.Ordered) (v : View K) : (v.fit s).Sound s := by
  unfold fit
  cases v.bounds? s with
  | none => exact ⟨rfl, hs.allows_one⟩
  | some b =>
      obtain ⟨k, hk, hallowed⟩ :=
        hs.exists_clampZoom? (fitZoom s { v with contentHeight := v.height } b)
      simp only [hk]
      exact ⟨rfl, hallowed⟩

/-- Arranging a view is never refused. -/
theorem sound_relayout (hs : s.scale.Ordered) (v : View K) : (v.relayout s).Sound s := by
  unfold relayout
  cases v.layout with
  | columns => exact ⟨rfl, allows_applyColumns hs v⟩
  | freeFlow => exact sound_fit hs _

/-- Going back to the transform of the layout is never refused. -/
theorem sound_resetView (hs : s.scale.Ordered) (v : View K) : (v.resetView s).Sound s := by
  unfold resetView
  cases v.layout with
  | columns => exact ⟨rfl, allows_applyColumns hs v⟩
  | freeFlow => exact sound_fit hs v

/-- A new size of the canvas keeps the zoom within the bounds. -/
theorem allows_resize (hs : s.scale.Ordered) (hv : s.scale.Allows v.transform.k)
    (width height : K) : s.scale.Allows (v.resize s width height).transform.k := by
  unfold resize
  dsimp only
  cases v.layout with
  | columns => exact allows_applyColumns hs _
  | freeFlow => exact hv

/-- Picking needs an allowed zoom and nothing else. -/
theorem isSome_pick? (hs : s.scale.Ordered) (hv : s.scale.Allows v.transform.k) (p : Point K) :
    (v.pick? s p).isSome := by
  simpa [pick?] using hs.isSome_ofZoom? hv

/-- Painting needs an allowed zoom and nothing else. -/
theorem isSome_picture? (hs : s.scale.Ordered) (hv : s.scale.Allows v.transform.k)
    (measure : String → Option K) : (v.picture? s measure).isSome := by
  obtain ⟨scaled, hscaled⟩ := Option.isSome_iff_exists.1 (hs.isSome_ofZoom? hv)
  simp only [picture?, hscaled]
  rfl

/-- Moving the pointer, with or without a drag, keeps the zoom. -/
theorem move_of_allows (hs : s.scale.Ordered) (hv : s.scale.Allows v.transform.k)
    (p : Point K) :
    (v.move s p).1.transform.k = v.transform.k ∧ (v.move s p).2.refused = false := by
  have hpick : (pick? s { v with pointer := p } p).isSome := isSome_pick? hs hv p
  obtain ⟨hit, hhit⟩ := Option.isSome_iff_exists.1 hpick
  unfold move
  dsimp only
  split_ifs
  · exact ⟨rfl, rfl⟩
  · rw [hhit]
    exact ⟨rfl, rfl⟩

/-- Releasing the pointer, with or without a click, keeps the zoom. -/
theorem release_of_allows (hs : s.scale.Ordered) (hv : s.scale.Allows v.transform.k)
    (p : Point K) :
    (v.release s p).1.transform.k = v.transform.k ∧ (v.release s p).2.refused = false := by
  have hpick : (pick? s { v with pan := { v.pan with active := false } } p).isSome :=
    isSome_pick? hs hv p
  obtain ⟨hit, hhit⟩ := Option.isSome_iff_exists.1 hpick
  unfold release
  dsimp only
  split_ifs
  · rw [hhit]
    exact ⟨rfl, rfl⟩
  · exact ⟨rfl, rfl⟩

/-! ## The wheel -/

/-- The wheel zooms about the pointer, to some allowed zoom. -/
theorem exists_wheel_eq (hs : s.scale.Ordered) (v : View K) (delta : K) (p : Point K) :
    ∃ k, s.scale.Allows k ∧ v.wheel s delta p = ⟨v.zoomAbout k p, false⟩ := by
  obtain ⟨k, hk, hallowed⟩ := hs.exists_clampZoom? (v.wheelZoom delta)
  exact ⟨k, hallowed, by simp only [wheel, hk]⟩

/-- Zooming about a point of the screen keeps the point of the drawing that is there, whatever
the new zoom is. -/
theorem toGraph_zoomAbout {k : K} (hv : v.transform.k ≠ 0) (hk : k ≠ 0) (p : Point K) :
    (v.zoomAbout k p).toGraph p = v.toGraph p := by
  simp only [toGraph, zoomAbout, Point.mk.injEq]
  constructor <;> field_simp <;> ring

end View

/-! ## Viewers -/

namespace Viewer

/-- Let one event after the other happen. -/
def run {α : Type} [Scalar α] (s : Setting α) (v : Viewer α) (events : List (ViewerEvent α)) :
    Viewer α :=
  events.foldl (fun v event => (v.step s event).1) v

/-- If a view is shown, its zoom lies within the bounds. -/
def InBounds (s : Setting K) (v : Viewer K) : Prop :=
  ∀ w, v.view = some w → s.scale.Allows w.transform.k

variable {s : Setting K} {v : Viewer K}

/-- What happens to the view decides what happens to the viewer. -/
theorem inBounds_react (h : v.InBounds s) {f : View K → View K × Reaction}
    (hf : ∀ w, s.scale.Allows w.transform.k →
      s.scale.Allows (f w).1.transform.k ∧ (f w).2.refused = false) :
    (v.react f).1.InBounds s ∧ (v.react f).2.refused = false := by
  unfold react
  cases hview : v.view with
  | none => exact ⟨h, rfl⟩
  | some w =>
      obtain ⟨hallowed, hfinished⟩ := hf w (h w hview)
      refine ⟨?_, hfinished⟩
      rintro _ ⟨⟩
      exact hallowed

/-- A change that is sound for every view leaves the viewer within the bounds. -/
theorem inBounds_change (h : v.InBounds s) {f : View K → Change K}
    (hf : ∀ w, (f w).Sound s) :
    (v.change f).1.InBounds s ∧ (v.change f).2.refused = false :=
  inBounds_react h fun w _ => ⟨(hf w).allowed, (hf w).finished⟩

/-- No event takes the zoom out of its bounds, and none is refused. -/
theorem inBounds_step (hs : s.scale.Ordered) (h : v.InBounds s) (event : ViewerEvent K) :
    (v.step s event).1.InBounds s ∧ (v.step s event).2.refused = false := by
  cases event with
  | present scene =>
      cases scene with
      | none => exact ⟨fun w hw => absurd hw (by simp [step, present]), rfl⟩
      | some scene =>
          have hsound := View.sound_relayout hs
            (View.unarranged scene.graph scene.layout v.width v.height)
          refine ⟨?_, hsound.finished⟩
          rintro _ ⟨⟩
          exact hsound.allowed
  | arrange layout =>
      refine inBounds_change h fun w => ?_
      split_ifs
      · exact View.sound_resetView hs w
      · exact View.sound_relayout hs _
  | resize width height =>
      refine ⟨?_, rfl⟩
      intro w hw
      obtain ⟨w, hview, rfl⟩ := Option.map_eq_some_iff.1 hw
      exact View.allows_resize hs (h w hview) width height
  | press p => exact inBounds_react h fun w hw => ⟨hw, rfl⟩
  | move p =>
      refine inBounds_react h fun w hw => ?_
      obtain ⟨hzoom, hfinished⟩ := View.move_of_allows hs hw p
      exact ⟨hzoom ▸ hw, hfinished⟩
  | release p =>
      refine inBounds_react h fun w hw => ?_
      obtain ⟨hzoom, hfinished⟩ := View.release_of_allows hs hw p
      exact ⟨hzoom ▸ hw, hfinished⟩
  | leave => exact inBounds_react h fun w hw => ⟨hw, rfl⟩
  | wheel delta p =>
      refine inBounds_change h fun w => ?_
      obtain ⟨k, hk, hwheel⟩ := View.exists_wheel_eq hs w delta p
      rw [hwheel]
      exact ⟨rfl, hk⟩

/-- Whatever happens to a viewer, its zoom stays within the bounds. -/
theorem inBounds_run (hs : s.scale.Ordered) (h : v.InBounds s) (events : List (ViewerEvent K)) :
    (v.run s events).InBounds s := by
  induction events generalizing v with
  | nil => exact h
  | cons event events ih => exact ih (inBounds_step hs h event).1

/-- In the beginning no view is shown. -/
theorem inBounds_initial (s : Setting K) : (initial : Viewer K).InBounds s := by
  rintro w ⟨⟩

/-- Whatever has happened to a viewer with the standard scale, the zoom of what it shows lies
within its bounds, no event is refused, and every frame can be drawn, with bounds of the arrow
heads that are in order.  A turn of the wheel keeps the point of the drawing under the pointer,
also when the zoom is clamped. -/
theorem zoom_bounded_and_anchored (metrics : LayoutMetrics K) (fitPadding : K)
    (settle : Graph → K → K → NameMap (Point K)) (events : List (ViewerEvent K)) :
    let s : Setting K := ⟨metrics, .standard, fitPadding, settle⟩
    let v := Viewer.initial.run s events
    (∀ event, (v.step s event).2.refused = false) ∧
    ∀ w, v.view = some w →
      (s.scale.minZoom ≤ w.transform.k ∧ w.transform.k ≤ s.scale.maxZoom) ∧
      (∀ low high, s.scale.arrowBehavior = .clamped low high →
        low / w.transform.k ≤ high / w.transform.k) ∧
      (ScaledValues.ofZoom? s.scale w.transform.k).isSome ∧
      (∀ measure, (w.picture? s measure).isSome) ∧
      ∀ delta p, ∃ w', (v.step s (.wheel delta p)).1.view = some w' ∧
        w'.toGraph p = w.toGraph p := by
  intro s v
  have hs : s.scale.Ordered := ScaleConfig.ordered_standard
  have hv : v.InBounds s := inBounds_run hs (inBounds_initial s) events
  refine ⟨fun event => (inBounds_step hs hv event).2, ?_⟩
  intro w hw
  have hallowed : s.scale.Allows w.transform.k := hv w hw
  refine ⟨⟨hallowed.low, hallowed.high⟩, fun low high => hs.arrow_div hallowed,
    hs.isSome_ofZoom? hallowed, View.isSome_picture? hs hallowed, ?_⟩
  intro delta p
  obtain ⟨k, hk, hwheel⟩ := View.exists_wheel_eq hs w delta p
  refine ⟨w.zoomAbout k p, ?_, ?_⟩
  · simp only [step, change, react, hw, hwheel]
  · exact View.toGraph_zoomAbout (hs.pos hallowed).ne' (hs.pos hk).ne' p

/-- A scene of no relations in columns. -/
def blankScene : Scene := ⟨Graph.build .tables [], .columns, 0, 0⟩

/-- A scene is shown, and the wheel is turned until the zoom cannot grow. -/
def turnedIn : List (ViewerEvent ℚ) :=
  .present (some blankScene) :: List.replicate 15 (.wheel (-1) ⟨30, 40⟩)

/-- At the upper bound of the zoom all sizes can be computed, and another turn of the wheel keeps
the point under the pointer. -/
theorem zoom_bounded_turnedIn :
    letI := ExactScalar.rational fun _ _ => 0
    let s : Setting ℚ := ⟨.standard, .standard, 80, fun _ _ _ => .empty⟩
    let v := Viewer.initial.run s turnedIn
    ∃ w, v.view = some w ∧ w.transform.k = 4 ∧
      (ScaledValues.ofZoom? s.scale w.transform.k).isSome ∧
      ∃ w', (v.step s (.wheel (-1) ⟨30, 40⟩)).1.view = some w' ∧
        w'.toGraph ⟨30, 40⟩ = w.toGraph ⟨30, 40⟩ := by
  let := ExactScalar.rational fun _ _ => 0
  intro s v
  have hzoom : v.view.map (fun w => w.transform.k) = some 4 := by decide +kernel
  obtain ⟨w, hw, hk⟩ := Option.map_eq_some_iff.1 hzoom
  obtain ⟨-, hbounded⟩ := zoom_bounded_and_anchored .standard 80 (fun _ _ _ => .empty) turnedIn
  obtain ⟨-, -, hsizes, -, hwheel⟩ := hbounded w hw
  exact ⟨w, hw, hk, hsizes, hwheel (-1) ⟨30, 40⟩⟩

end Viewer

end Provenance
