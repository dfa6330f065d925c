import Provenance.Graph.Basic
import Provenance.Layout.Metrics

/-!
# Tables in columns

Tables are drawn in three bands by the kind of their zone.  In a band they stand below each other
in the order of their names.  Fields stand in rows inside their table, in the order of their
names.
-/

namespace Provenance

/-- A place in the drawing. -/
structure Point (α : Type) where
  x : α
  y : α

/-- Where a table is drawn: the middle of its sides, its top edge and its height. -/
structure TableBox (α : Type) where
  id : String
  x : α
  top : α
  height : α

/-- Three bands side by side. -/
structure Bands (α : Type) where
  bandWidth : α
  centers : Column → α
  totalWidth : α
  offsetX : α

/-- A finished layout in columns. -/
structure ColumnLayout (α : Type) where
  bands : Bands α
  tables : List (TableBox α)
  positions : NameMap (Point α)
  height : α

variable {α : Type} [Scalar α]

namespace TableBox

/-- The middle of a table. -/
def center (b : TableBox α) : Point α := ⟨b.x, b.top + b.height / 2.0⟩

/-- The bottom edge of a table. -/
def bottom (b : TableBox α) : α := b.top + b.height

end TableBox

namespace Bands

/-- How far from the left the middle of a band lies. -/
def centerAt (offsetX bandWidth separator place : α) : α :=
  offsetX + bandWidth * place + separator * place + bandWidth / 2.0

/-- Bands for a container of the given width.  The bands share the width but do not get narrower
than the metrics allow; with an overlay they are centred as a block. -/
def compute (m : LayoutMetrics α) (containerWidth : α) (overlay : Bool) : Bands α :=
  let width := if 0.0 < containerWidth then containerWidth else m.fallbackWidth
  let bandWidth :=
    Scalar.larger m.minBandWidth (Scalar.larger ((width - m.separator * 2.0) / 3.0) 0.0)
  let blockWidth := bandWidth * 3.0 + m.separator * 2.0
  let totalWidth := if overlay then blockWidth else width
  let offsetX := if overlay then Scalar.larger ((width - blockWidth) / 2.0) 0.0 else 0.0
  { bandWidth := bandWidth
    centers := fun
      | .left => centerAt offsetX bandWidth m.separator 0.0
      | .center => centerAt offsetX bandWidth m.separator 1.0
      | .right => centerAt offsetX bandWidth m.separator 2.0
    totalWidth := totalWidth
    offsetX := offsetX }

/-- The left edge of a band. -/
def left (b : Bands α) (column : Column) : α := b.centers column - b.bandWidth / 2.0

end Bands

/-! ## Rows of a table -/

/-- How many rows a table has: its columns or its fields, whichever are more. -/
def Graph.rowCount (g : Graph) (t : TableNode) : Nat :=
  max t.columns.length (g.children t.id).length

/-- The fields of a table from top to bottom. -/
def Graph.rows (g : Graph) (tableId : String) : List FieldNode :=
  (g.children tableId).mergeSort fun a b => decide (a.field ≤ b.field)

/-- The places of fields below each other, in a table with the given top. -/
def placeRows (m : LayoutMetrics α) (x top : α) (rows : List FieldNode) : List (String × Point α) :=
  rows.zipIdx.map fun (field, i) => (field.id, ⟨x, top + m.rowOffset i⟩)

/-! ## Stacking -/

/-- Stack tables below each other from `top` on. -/
def stack (m : LayoutMetrics α) (g : Graph) (x : α) : (top : α) → List TableNode → List (TableBox α)
  | _, [] => []
  | top, t :: ts =>
    let height := m.tableHeight (g.rowCount t)
    ⟨t.id, x, top, height⟩ :: stack m g x (top + (height + m.tableGap)) ts

/-- The tables of a band from top to bottom. -/
def Graph.band (g : Graph) (column : Column) : List TableNode :=
  (g.tables.filter fun t => t.kind.column == column).mergeSort fun a b => decide (a.table ≤ b.table)

/-- The boxes of all bands, from left to right. -/
def stackBands (m : LayoutMetrics α) (g : Graph) (bands : Bands α) : List (TableBox α) :=
  Column.all.flatMap fun column => stack m g (bands.centers column) m.startY (g.band column)

/-- The places of a table and of its fields. -/
def placeTable (m : LayoutMetrics α) (g : Graph) (box : TableBox α) : List (String × Point α) :=
  (box.id, box.center) :: placeRows m box.x box.top (g.rows box.id)

/-- Tables in columns, for a container of the given width. -/
def columnLayout (m : LayoutMetrics α) (g : Graph) (containerWidth : α) (overlay : Bool) :
    ColumnLayout α :=
  let bands := Bands.compute m containerWidth overlay
  let tables := stackBands m g bands
  let bottom := tables.foldl (fun lowest box => Scalar.larger lowest box.bottom) m.startY
  { bands := bands
    tables := tables
    positions := NameMap.ofList (tables.flatMap (placeTable m g))
    height := Scalar.larger m.minHeight (bottom + m.bottomPadding) }

/-! ## Tables around given centres -/

/-- The box of a table around a centre. -/
def boxAround (m : LayoutMetrics α) (g : Graph) (t : TableNode) (center : Point α) : TableBox α :=
  let height := m.tableHeight (g.rowCount t)
  ⟨t.id, center.x, center.y - height / 2.0, height⟩

/-- The boxes of the tables that have a centre. -/
def packTables (m : LayoutMetrics α) (g : Graph) (centers : NameMap (Point α)) :
    List (TableBox α) :=
  g.tables.filterMap fun t => (centers.find? t.id).map (boxAround m g t)

/-- The places of the fields of packed tables. -/
def packFields (m : LayoutMetrics α) (g : Graph) (boxes : List (TableBox α)) : NameMap (Point α) :=
  NameMap.ofList (boxes.flatMap fun box => placeRows m box.x box.top (g.rows box.id))

end Provenance
