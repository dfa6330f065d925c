import Provenance.View.Basic
import Provenance.View.Spread

/-!
# Arranging a view

In columns the geometry follows from the graph and the width of the canvas, and the transform
starts again with every arrangement.  In free flow the tables are settled, spread apart, and the
drawing is fitted into the canvas.

Fitting needs the bounds of the zoom to be in order; a change that finds them out of order is
reported as refused.
-/

namespace Provenance

/-- A changed view.  A refused change was not finished because the bounds of the zoom are out of
order. -/
structure Change (α : Type) where
  view : View α
  refused : Bool

/-- Two opposite corners. -/
structure Bounds (α : Type) where
  low : Point α
  high : Point α

variable {α : Type} [Scalar α]

namespace View

/-- The corners of a box. -/
def boxBounds (m : LayoutMetrics α) (b : TableBox α) : Bounds α :=
  let half := m.tableWidth / 2.0
  ⟨⟨b.x - half, b.top⟩, ⟨b.x + half, b.bottom⟩⟩

/-- The corners that enclose both. -/
def joinBounds (a b : Bounds α) : Bounds α where
  low := ⟨Scalar.smaller a.low.x b.low.x, Scalar.smaller a.low.y b.low.y⟩
  high := ⟨Scalar.larger a.high.x b.high.x, Scalar.larger a.high.y b.high.y⟩

/-- The corners that enclose all tables, if there are any. -/
def bounds? (s : Setting α) (v : View α) : Option (Bounds α) :=
  match v.tables with
  | [] => none
  | b :: rest =>
    some (rest.foldl (fun acc b => joinBounds acc (boxBounds s.metrics b)) (boxBounds s.metrics b))

/-- The zoom at which what lies within the bounds fills the canvas up to the padding. -/
def fitZoom (s : Setting α) (v : View α) (b : Bounds α) : α :=
  let bw := Scalar.larger (b.high.x - b.low.x) 1.0
  let bh := Scalar.larger (b.high.y - b.low.y) 1.0
  Scalar.smaller (Scalar.larger (v.width - 2.0 * s.fitPadding) 1.0 / bw)
    (Scalar.larger (v.height - 2.0 * s.fitPadding) 1.0 / bh)

/-- The transform at zoom `k` that shows the middle of the bounds in the middle of the canvas. -/
def centerOn (v : View α) (b : Bounds α) (k : α) : Transform α :=
  let cx := (b.low.x + b.high.x) / 2.0
  let cy := (b.low.y + b.high.y) / 2.0
  ⟨v.width / 2.0 - cx * k, v.height / 2.0 - cy * k, k⟩

/-- Show all tables. -/
def fit (s : Setting α) (v : View α) : Change α :=
  match v.bounds? s with
  | none => ⟨{ v with transform := Transform.identity }, false⟩
  | some b =>
    let v := { v with contentHeight := v.height }
    match s.scale.clampZoom? (v.fitZoom s b) with
    | some k => ⟨{ v with transform := v.centerOn b k }, false⟩
    | none => ⟨v, true⟩

/-- Arrange the tables in columns. -/
def applyColumns (s : Setting α) (v : View α) : View α :=
  let l := columnLayout s.metrics v.graph v.width true
  { v with
    bands := some l.bands
    contentHeight := l.height
    tables := l.tables
    positions := l.positions
    transform := Transform.identity }

/-- The places of packed fields together with the centres of tables. -/
def withCenters (positions centers : NameMap (Point α)) : NameMap (Point α) :=
  centers.entries.foldl (fun m e => m.set e.1 e.2) positions

/-- Arrange the tables in free flow. -/
def applyFreeFlow (s : Setting α) (v : View α) : Change α :=
  let centers := separate s.metrics v.graph (s.settle v.graph v.width v.height)
  let tables := packTables s.metrics v.graph centers
  fit s
    { v with
      bands := none
      tables := tables
      positions := withCenters (packFields s.metrics v.graph tables) centers }

/-- Arrange the tables anew. -/
def relayout (s : Setting α) (v : View α) : Change α :=
  match v.layout with
  | .columns => ⟨v.applyColumns s, false⟩
  | .freeFlow => v.applyFreeFlow s

/-- Choose a layout. -/
def setLayout (s : Setting α) (v : View α) (layout : LayoutMode) : Change α :=
  relayout s { v with layout := layout }

/-- Back to the transform that belongs to the layout. -/
def resetView (s : Setting α) (v : View α) : Change α :=
  match v.layout with
  | .columns => ⟨v.applyColumns s, false⟩
  | .freeFlow => v.fit s

/-- Change the size of the canvas. -/
def resize (s : Setting α) (v : View α) (width height : α) : View α :=
  let v := { v with width := width, height := height }
  match v.layout with
  | .columns => v.applyColumns s
  | .freeFlow => v

/-- A graph that has not been arranged yet. -/
def unarranged (graph : Graph) (layout : LayoutMode) (width height : α) : View α where
  graph := graph
  layout := layout
  transform := Transform.identity
  pan := Pan.idle
  width := width
  height := height
  bands := none
  contentHeight := height
  tables := []
  positions := NameMap.empty
  hovered := none
  selected := none
  pointer := ⟨0.0, 0.0⟩

/-- The view of a graph on a canvas. -/
def ofGraph (s : Setting α) (graph : Graph) (layout : LayoutMode) (width height : α) : Change α :=
  relayout s (unarranged graph layout width height)

end View

end Provenance
