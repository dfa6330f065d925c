import Provenance.Json.Attributes
import Provenance.Scalar

/-!
# Layout metrics

The sizes and gaps that tables and their rows are laid out with.
-/

namespace Provenance

/-- Sizes and gaps, in units of the drawing. -/
structure LayoutMetrics (α : Type) where
  startY : α
  headerHeight : α
  rowHeight : α
  fieldGap : α
  tableGap : α
  separator : α
  minBandWidth : α
  fallbackWidth : α
  minHeight : α
  bottomPadding : α
  tableWidth : α
  fieldWidth : α

namespace LayoutMetrics

variable {α : Type} [Scalar α]

/-- The metrics to begin with. -/
def standard : LayoutMetrics α where
  startY := 120.0
  headerHeight := 46.0
  rowHeight := 32.0
  fieldGap := 12.0
  tableGap := 140.0
  separator := 6.0
  minBandWidth := 320.0
  fallbackWidth := 1200.0
  minHeight := 900.0
  bottomPadding := 200.0
  tableWidth := 300.0
  fieldWidth := 260.0

/-- The height of a table with so many rows; there is room for at least one. -/
def tableHeight (m : LayoutMetrics α) (rows : Nat) : α :=
  let n : α := Scalar.ofCount (max rows 1)
  m.headerHeight + m.fieldGap + n * m.rowHeight + (n - 1.0) * m.fieldGap + m.fieldGap

/-- How far below the top of its table the middle of a row lies. -/
def rowOffset (m : LayoutMetrics α) (index : Nat) : α :=
  m.headerHeight + m.fieldGap + m.rowHeight / 2.0 +
    Scalar.ofCount index * (m.rowHeight + m.fieldGap)

/-! ## Documents -/

/-- The names of the metrics in a configuration, in order. -/
def attributeNames : List String :=
  ["start_y", "header_height", "row_height", "field_gap", "table_gap", "separator",
   "min_band_width", "fallback_width", "min_height", "bottom_padding", "table_width",
   "field_width"]

/-- The metrics, in order. -/
def attributes {β : Type} (m : LayoutMetrics β) : List β :=
  [m.startY, m.headerHeight, m.rowHeight, m.fieldGap, m.tableGap, m.separator, m.minBandWidth,
   m.fallbackWidth, m.minHeight, m.bottomPadding, m.tableWidth, m.fieldWidth]

/-- How metrics stand in a configuration. -/
def shape : Json.Shape Float where
  wanted := "struct LayoutMetrics"
  names := attributeNames
  value := fun _ _ cs => Json.readFloat cs

/-- The metrics of a configuration; those that are missing keep their standard value. -/
def ofSlots (slots : Json.Slots Float) : LayoutMetrics Float :=
  let get := fun (i : Nat) (default : Float) => (slots.getD i none).getD default
  let d : LayoutMetrics Float := standard
  { startY := get 0 d.startY
    headerHeight := get 1 d.headerHeight
    rowHeight := get 2 d.rowHeight
    fieldGap := get 3 d.fieldGap
    tableGap := get 4 d.tableGap
    separator := get 5 d.separator
    minBandWidth := get 6 d.minBandWidth
    fallbackWidth := get 7 d.fallbackWidth
    minHeight := get 8 d.minHeight
    bottomPadding := get 9 d.bottomPadding
    tableWidth := get 10 d.tableWidth
    fieldWidth := get 11 d.fieldWidth }

/-- Read metrics. -/
def read (depth : Nat) (cs : List Char) : Except Json.Stop (LayoutMetrics Float × List Char) := do
  let (slots, rest) ← shape.read depth cs
  return (ofSlots slots, rest)

end LayoutMetrics

end Provenance
