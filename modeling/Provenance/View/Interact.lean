import Provenance.View.Arrange
import Provenance.View.Pick

/-!
# Pointer and wheel

Pressing and moving the pointer drags the drawing.  A press that does not move by more than a few
pixels is a click and selects what it hits.  The wheel zooms about the pointer.

Picking needs the sizes that depend on the zoom; an interaction that finds their bounds out of
order is reported as refused.
-/

namespace Provenance

variable {α : Type} [Scalar α]

/-- A press that moves further than this is a drag. -/
def clickSlop : α := 3.0

/-- The shape of the pointer. -/
inductive Cursor where
  | pointer
  | grab
  deriving DecidableEq

/-- The name of a shape in a style sheet. -/
def Cursor.css : Cursor → String
  | pointer => "pointer"
  | grab => "grab"

/-- What an interaction gives back: a new shape of the pointer, a selection made by a click, and
whether the interaction was refused. -/
structure Reaction where
  cursor : Option Cursor := none
  selected : Option (Option String) := none
  refused : Bool := false

namespace View

/-- What a point of the screen picks at the present zoom, which may be nothing; there is no answer
if the bounds of a size are out of order. -/
def pick? (s : Setting α) (v : View α) (p : Point α) : Option (Option String) :=
  (ScaledValues.ofZoom? s.scale v.transform.k).map fun scaled => v.hitTest s scaled p

/-- Press the pointer: a drag may begin. -/
def press (v : View α) (p : Point α) : View α :=
  { v with pan := ⟨true, false, p.x, p.y, v.transform.x, v.transform.y⟩ }

/-- Move the pointer during a drag: the drawing follows. -/
def drag (v : View α) (p : Point α) : View α :=
  let dx := p.x - v.pan.startX
  let dy := p.y - v.pan.startY
  { v with
    pan := { v.pan with moved := v.pan.moved || decide (clickSlop < Scalar.length dx dy) }
    transform := { v.transform with x := v.pan.transformX + dx, y := v.pan.transformY + dy } }

/-- Remember what the pointer is over, if it is an edge. -/
def hover (v : View α) (hit : Option String) : View α :=
  { v with hovered := hit.filter fun id => (v.graph.edge? id).isSome }

/-- The shape of the pointer over something or nothing. -/
def cursorOver (hit : Option String) : Cursor := if hit.isSome then .pointer else .grab

/-- Move the pointer.  The shape of the pointer changes unless it drags. -/
def move (s : Setting α) (v : View α) (p : Point α) : View α × Reaction :=
  let v := { v with pointer := p }
  if v.pan.active then (v.drag p, {})
  else
    match v.pick? s p with
    | some hit => (v.hover hit, { cursor := some (cursorOver hit) })
    | none => (v, { refused := true })

/-- Whether a release would be a click. -/
def isClick (v : View α) : Bool := v.pan.active && !v.pan.moved

/-- Release the pointer.  A click selects what it hits, which may be nothing. -/
def release (s : Setting α) (v : View α) (p : Point α) : View α × Reaction :=
  let clicked := v.isClick
  let v := { v with pan := { v.pan with active := false } }
  if clicked then
    match v.pick? s p with
    | some hit => ({ v with selected := hit }, { selected := some hit })
    | none => (v, { refused := true })
  else (v, {})

/-- The pointer leaves the canvas. -/
def leave (v : View α) : View α := { v with pan := { v.pan with active := false }, hovered := none }

/-- The zoom that one turn of the wheel asks for. -/
def wheelZoom (v : View α) (delta : α) : α := v.transform.k * (if 0.0 < delta then 0.9 else 1.1)

/-- Zoom to `k` about a point of the screen. -/
def zoomAbout (v : View α) (k : α) (p : Point α) : View α :=
  let ratio := k / v.transform.k
  { v with
    transform :=
      ⟨p.x - (p.x - v.transform.x) * ratio, p.y - (p.y - v.transform.y) * ratio, k⟩ }

/-- Turn the wheel. -/
def wheel (s : Setting α) (v : View α) (delta : α) (p : Point α) : Change α :=
  match s.scale.clampZoom? (v.wheelZoom delta) with
  | some k => ⟨v.zoomAbout k p, false⟩
  | none => ⟨v, true⟩

end View

end Provenance
