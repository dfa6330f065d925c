import Provenance.Layout.Columns
import Provenance.Selection
import Provenance.View.Scale

/-!
# Views

A view is a graph laid out for a canvas of some size, together with the transform from drawing to
screen and with what the pointer is doing.
-/

namespace Provenance

/-- From drawing to screen: scale by `k`, then move by `x` and `y`. -/
structure Transform (α : Type) where
  x : α
  y : α
  k : α

/-- A drag of the drawing: where the pointer and the transform were when it began. -/
structure Pan (α : Type) where
  active : Bool
  moved : Bool
  startX : α
  startY : α
  transformX : α
  transformY : α

/-- What a view is laid out with.  `settle` finds the centres of the tables in free flow on a
canvas of some width and height. -/
structure Setting (α : Type) where
  metrics : LayoutMetrics α
  scale : ScaleConfig α
  fitPadding : α
  settle : Graph → (width height : α) → NameMap (Point α)

/-- A graph laid out on a canvas. -/
structure View (α : Type) where
  graph : Graph
  layout : LayoutMode
  transform : Transform α
  pan : Pan α
  width : α
  height : α
  bands : Option (Bands α)
  contentHeight : α
  tables : List (TableBox α)
  positions : NameMap (Point α)
  hovered : Option String
  selected : Option String
  pointer : Point α

variable {α : Type} [Scalar α]

/-- Drawing and screen agree. -/
def Transform.identity : Transform α := ⟨0.0, 0.0, 1.0⟩

/-- No drag. -/
def Pan.idle : Pan α := ⟨false, false, 0.0, 0.0, 0.0, 0.0⟩

namespace View

/-- The point of the drawing at a point of the screen. -/
def toGraph (v : View α) (p : Point α) : Point α :=
  ⟨(p.x - v.transform.x) / v.transform.k, (p.y - v.transform.y) / v.transform.k⟩

/-- The box of a table. -/
def tableBox? (v : View α) (id : String) : Option (TableBox α) := v.tables.find? fun b => b.id == id

end View

end Provenance
