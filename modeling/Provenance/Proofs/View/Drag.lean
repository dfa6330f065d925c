import Mathlib.Algebra.Order.Field.Basic
import Mathlib.Tactic.FieldSimp
import Mathlib.Tactic.Ring
import Provenance.Proofs.View.Zoom

/-!
# What a drag holds

A drag begins where the pointer is pressed, and the drawing follows the pointer from there.  The
wheel may be turned during a drag.  It moves the drawing as well, but the drag does not take
notice of it: the next move of the pointer starts from where the drawing was when the pointer was
pressed.  This module says what is under the pointer then.

Main results:

- Theorem `Viewer.heldSince_run`: neither the pointer nor the wheel ends a drag.
- Theorem `Viewer.toGraph_drag`: after a move the pointer is over the point that was grabbed,
  drawn away from it by the change of the zoom.  So the drag holds its point exactly if the zoom
  is the old one, or if the point is the origin of the drawing.
-/

namespace Provenance

variable {K : Type}

/-- The pointer moves or the wheel is turned. -/
def ViewerEvent.continuesDrag : ViewerEvent K → Bool
  | .move _ => true
  | .wheel _ _ => true
  | _ => false

namespace View

/-- A drag is going on that began at `p₀`, when the drawing was where it is in `v`. -/
structure HeldSince (v : View K) (p₀ : Point K) (w : View K) : Prop where
  active : w.pan.active = true
  startX : w.pan.startX = p₀.x
  startY : w.pan.startY = p₀.y
  transformX : w.pan.transformX = v.transform.x
  transformY : w.pan.transformY = v.transform.y

theorem heldSince_press (v : View K) (p₀ : Point K) : v.HeldSince p₀ (v.press p₀) :=
  ⟨rfl, rfl, rfl, rfl, rfl⟩

variable [ExactScalar K] {s : Setting K} {v w : View K} {p₀ : Point K}

/-- During a drag, moving the pointer moves the drawing and picks nothing. -/
theorem HeldSince.move_eq (h : v.HeldSince p₀ w) (s : Setting K) (p : Point K) :
    w.move s p = (View.drag { w with pointer := p } p, {}) := by
  simp only [move, h.active, if_true]

theorem HeldSince.drag (h : v.HeldSince p₀ w) (p : Point K) :
    v.HeldSince p₀ (View.drag { w with pointer := p } p) :=
  ⟨h.active, h.startX, h.startY, h.transformX, h.transformY⟩

/-- The wheel moves the drawing, but not what a drag remembers. -/
theorem HeldSince.wheel (h : v.HeldSince p₀ w) (s : Setting K) (delta : K) (p : Point K) :
    v.HeldSince p₀ (w.wheel s delta p).view := by
  unfold View.wheel
  split <;> exact ⟨h.active, h.startX, h.startY, h.transformX, h.transformY⟩

/-- A move of the pointer takes the translation from when the drag began.  So the pointer gets
over the grabbed point only as far as the zoom is the old one. -/
theorem HeldSince.toGraph_eq_scaled (h : v.HeldSince p₀ w) (hv : v.transform.k ≠ 0)
    (p : Point K) :
    (View.drag { w with pointer := p } p).toGraph p =
      ⟨(v.toGraph p₀).x * (v.transform.k / w.transform.k),
        (v.toGraph p₀).y * (v.transform.k / w.transform.k)⟩ := by
  simp only [toGraph, View.drag, h.startX, h.startY, h.transformX, h.transformY, Point.mk.injEq]
  constructor
  · rw [div_mul_div_cancel₀ hv]
    ring
  · rw [div_mul_div_cancel₀ hv]
    ring

end View

/-- A point stays where it is under a change of scale exactly if there is none, or if the point
is the origin. -/
theorem Point.scaled_eq_self_iff [ExactScalar K] (g : Point K) {k k' : K} (hk' : k' ≠ 0) :
    (⟨g.x * (k / k'), g.y * (k / k')⟩ : Point K) = g ↔ k' = k ∨ g = ⟨0, 0⟩ := by
  have hone : k / k' = 1 ↔ k' = k := by
    rw [div_eq_one_iff_eq hk', eq_comm]
  obtain ⟨x, y⟩ := g
  simp only [Point.mk.injEq, mul_right_eq_self₀, hone]
  tauto

namespace Viewer

variable [ExactScalar K] {s : Setting K} {v : Viewer K} {w : View K} {p₀ : Point K}

/-- Neither the pointer nor the wheel ends a drag. -/
theorem heldSince_run {events : List (ViewerEvent K)}
    (hevents : ∀ event ∈ events, event.continuesDrag = true) {u : View K}
    (hu : v.view = some u) (h : w.HeldSince p₀ u) :
    ∃ u', (v.run s events).view = some u' ∧ w.HeldSince p₀ u' := by
  induction events generalizing v u with
  | nil => exact ⟨u, hu, h⟩
  | cons event events ih =>
      have hrest := fun e he => hevents e (List.mem_cons_of_mem event he)
      have hevent := hevents event List.mem_cons_self
      cases event with
      | move p =>
          refine ih hrest ?_ (h.drag p)
          simp only [step, react, hu, h.move_eq s p]
      | wheel delta p =>
          refine ih hrest ?_ (h.wheel s delta p)
          simp only [step, change, react, hu]
      | _ => contradiction

/-- As long as the wheel is not turned, a drag keeps the zoom. -/
theorem zoom_run_moves {events : List (ViewerEvent K)}
    (hevents : ∀ event ∈ events, ∃ p, event = .move p) {u u' : View K} (hu : v.view = some u)
    (h : w.HeldSince p₀ u) (hu' : (v.run s events).view = some u') :
    u'.transform.k = u.transform.k := by
  induction events generalizing v u with
  | nil =>
      obtain rfl : u = u' := Option.some.inj (hu.symm.trans hu')
      rfl
  | cons event events ih =>
      obtain ⟨p, rfl⟩ := hevents event List.mem_cons_self
      have hmoved : (v.step s (.move p)).1.view = some (View.drag { u with pointer := p } p) := by
        simp only [step, react, hu, h.move_eq s p]
      have hrest := ih (fun e he => hevents e (List.mem_cons_of_mem _ he)) hmoved (h.drag p) hu'
      exact hrest

/-- What a drag holds.  The pointer is pressed at `p₀`, moves and turns of the wheel follow, and
then the pointer moves to `p`.  The point of the drawing under the pointer is then the one that
was grabbed, scaled by the change of the zoom.  So it is the one that was grabbed exactly if the
zoom is what it was, or if the origin of the drawing was grabbed; a drag without the wheel always
holds its point. -/
theorem toGraph_drag (hs : s.scale.Ordered) (hv : v.InBounds s) (hw : v.view = some w)
    (p₀ : Point K) {gestures : List (ViewerEvent K)}
    (hgestures : ∀ event ∈ gestures, event.continuesDrag = true) (p : Point K) :
    ∃ w', (v.run s (.press p₀ :: gestures ++ [.move p])).view = some w' ∧
      w'.toGraph p =
        ⟨(w.toGraph p₀).x * (w.transform.k / w'.transform.k),
          (w.toGraph p₀).y * (w.transform.k / w'.transform.k)⟩ ∧
      (w'.toGraph p = w.toGraph p₀ ↔
        w'.transform.k = w.transform.k ∨ w.toGraph p₀ = ⟨0, 0⟩) ∧
      ((∀ event ∈ gestures, ∃ q, event = .move q) → w'.toGraph p = w.toGraph p₀) := by
  -- `u` is the view before the last move of the pointer
  have hpressed : (v.step s (.press p₀)).1.view = some (w.press p₀) := by
    simp only [step, react, hw]
  have hbounds : (v.run s (.press p₀ :: gestures)).InBounds s := inBounds_run hs hv _
  obtain ⟨u, hu, hheld⟩ := heldSince_run (s := s) hgestures hpressed (w.heldSince_press p₀)
  have hmoved : (v.run s (.press p₀ :: gestures ++ [.move p])).view =
      some (View.drag { u with pointer := p } p) := by
    have hsplit : v.run s (.press p₀ :: gestures ++ [.move p]) =
        ((v.run s (.press p₀ :: gestures)).step s (.move p)).1 := List.foldl_concat ..
    have hu : (v.run s (.press p₀ :: gestures)).view = some u := hu
    rw [hsplit]
    simp only [step, react, hu, hheld.move_eq s p]
  have hk : w.transform.k ≠ 0 := (hs.pos (hv w hw)).ne'
  have hk' : u.transform.k ≠ 0 := (hs.pos (hbounds u hu)).ne'
  have hpoint := hheld.toGraph_eq_scaled hk p
  have hiff := (w.toGraph p₀).scaled_eq_self_iff (k := w.transform.k) hk'
  refine ⟨_, hmoved, hpoint, by rw [hpoint]; exact hiff, ?_⟩
  intro hmoves
  have hkept := zoom_run_moves hmoves hpressed (w.heldSince_press p₀) hu
  rw [hpoint]
  exact hiff.2 (.inl hkept)

/-- The wheel is turned forth and back on the way, with the pointer at two places. -/
def thereAndBack : List (ViewerEvent ℚ) :=
  [.wheel 1 ⟨100, 100⟩, .move ⟨120, 90⟩, .wheel (-1) ⟨120, 90⟩]

/-- A drag in which the wheel is turned: the grabbed point is drawn away by the change of the
zoom. -/
theorem toGraph_drag_thereAndBack :
    letI := ExactScalar.rational fun _ _ => 0
    let s : Setting ℚ := ⟨.standard, .standard, 80, fun _ _ _ => .empty⟩
    let v := Viewer.initial.run s [.present (some blankScene)]
    (∀ event ∈ thereAndBack, event.continuesDrag = true) ∧
    ∃ w w', v.view = some w ∧
      (v.run s (.press ⟨100, 100⟩ :: thereAndBack ++ [.move ⟨140, 80⟩])).view = some w' ∧
      w'.toGraph ⟨140, 80⟩ =
        ⟨(w.toGraph ⟨100, 100⟩).x * (w.transform.k / w'.transform.k),
          (w.toGraph ⟨100, 100⟩).y * (w.transform.k / w'.transform.k)⟩ := by
  let := ExactScalar.rational fun _ _ => 0
  intro s v
  have hs : s.scale.Ordered := ScaleConfig.ordered_standard
  have hgestures : ∀ event ∈ thereAndBack, event.continuesDrag = true := by decide
  have hv : v.InBounds s := inBounds_run hs (inBounds_initial s) _
  have hview : v.view.isSome = true := by decide +kernel
  obtain ⟨w, hw⟩ := Option.isSome_iff_exists.1 hview
  obtain ⟨w', hw', hpoint, -⟩ := toGraph_drag hs hv hw ⟨100, 100⟩ hgestures ⟨140, 80⟩
  exact ⟨hgestures, w, w', hw, hw', hpoint⟩

/-- A drag can lose its point.  The pointer is pressed over the point `(100, 100)` of the drawing,
the wheel is turned once, and the pointer moves without leaving its place: it is then over another
point. -/
theorem drag_loses_point :
    letI := ExactScalar.rational fun _ _ => 0
    let s : Setting ℚ := ⟨.standard, .standard, 80, fun _ _ _ => .empty⟩
    let p : Point ℚ := ⟨100, 100⟩
    let v := Viewer.initial.run s [.present (some blankScene)]
    let v' := v.run s [.press p, .wheel (-1) p, .move p]
    v.view.map (fun w => (w.toGraph p).x) = some 100 ∧
    v'.view.map (fun w => (w.toGraph p).x) = some (1000 / 11) := by
  decide +kernel

end Viewer

end Provenance
