import Provenance.Paint.Theme
import Provenance.View.Pick

/-!
# Pictures

A picture is a list of instructions for a canvas.  It is painted from back to front: the
background and the bands, the edges, the tables, the fields, and last the tooltip, which belongs
to the screen and not to the drawing.
-/

namespace Provenance

/-- A rectangle by its upper left corner and its size. -/
structure Rect (α : Type) where
  left : α
  top : α
  width : α
  height : α

/-- A font: titles of bands, names of tables, and other texts. -/
inductive Font (α : Type) where
  | title
  | bold (px : α)
  | regular (px : α)

/-- An instruction for a canvas. -/
inductive Stroke (α : Type) where
  | fillStyle (color : Color)
  | strokeStyle (color : Color)
  | font (font : Font α)
  | textAlign (place : String)
  | textBaseline (place : String)
  | lineWidth (width : α)
  | lineDash (lengths : List α)
  | fillRect (rect : Rect α)
  | strokeRect (rect : Rect α)
  | save
  | restore
  | beginPath
  | closePath
  | outline
  | fill
  | moveTo (p : Point α)
  | lineTo (p : Point α)
  | shift (x y : α)
  | zoom (x y : α)
  | text (text : String) (p : Point α) (maxWidth : Option α)

/-- A font in a style sheet. -/
def Font.css : Font Float → String
  | title => "600 14px sans-serif"
  | bold px => "bold " ++ Decimal.plain px ++ "px sans-serif"
  | regular px => Decimal.plain px ++ "px sans-serif"

/-- A list of instructions, in order. -/
abbrev Picture (α : Type) := List (Stroke α)

variable {α : Type} [Scalar α]

namespace View

/-! ## Bands -/

/-- Paint the background and the title of a band. -/
def paintBand (v : View α) (bands : Bands α) (column : Column) : Picture α :=
  [.fillStyle (Theme.bandFill column),
   .fillRect ⟨bands.left column, 0.0, bands.bandWidth, v.contentHeight⟩,
   .fillStyle Theme.titleColor,
   .font .title,
   .textAlign "center",
   .text (Theme.bandTitle column) ⟨bands.centers column, 48.0⟩ none]

/-- Paint the line to the left of a band. -/
def paintSeparator (s : Setting α) (v : View α) (bands : Bands α) (column : Column) : Picture α :=
  let x := bands.left column - s.metrics.separator / 2.0
  [.beginPath, .moveTo ⟨x, 0.0⟩, .lineTo ⟨x, v.contentHeight⟩, .outline]

/-- Paint the bands, if there are any. -/
def paintBands (s : Setting α) (v : View α) : Picture α :=
  match v.bands with
  | none => []
  | some bands =>
    Column.all.flatMap (v.paintBand bands) ++
      [.strokeStyle Theme.separatorColor, .lineWidth 1.0, .lineDash [6.0, 4.0]] ++
      [Column.center, Column.right].flatMap (v.paintSeparator s bands) ++
      [.lineDash []]

/-! ## Edges -/

/-- Paint an arrow; one that is too short to have a direction is left out. -/
def paintArrow (segment : Segment α) (color : Color) (width arrowSize : α) : Picture α :=
  let a := segment.start
  let b := segment.stop
  let dx := b.x - a.x
  let dy := b.y - a.y
  let dist := Scalar.length dx dy
  if dist < 0.001 then []
  else
    let ux := dx / dist
    let uy := dy / dist
    let backX := b.x - ux * arrowSize
    let backY := b.y - uy * arrowSize
    let px := -uy * arrowSize * 0.5
    let py := ux * arrowSize * 0.5
    [.strokeStyle color, .lineWidth width, .beginPath, .moveTo a, .lineTo ⟨backX, backY⟩, .outline,
     .fillStyle color, .beginPath, .moveTo b, .lineTo ⟨backX + px, backY + py⟩,
     .lineTo ⟨backX - px, backY - py⟩, .closePath, .fill]

/-- The width of an edge on the screen: wider between tables and from landing tables, and wider
when highlighted. -/
def edgeWidth (e : Edge) (highlighted : Bool) : α :=
  let width : α := if e.landing || e.level == .tables then 3.0 else 2.0
  if highlighted then width + 1.0 else width

/-- Paint an edge. -/
def paintEdge (s : Setting α) (v : View α) (scaled : ScaledValues α) (e : Edge) : Picture α :=
  match v.edgeSegment? s e with
  | none => []
  | some segment =>
    let highlighted := v.hovered == some e.id || v.selected == some e.id
    let color := if highlighted then Theme.selection else Theme.edgeColor e.landing
    paintArrow segment color (edgeWidth e highlighted * scaled.pixel) scaled.arrowSize

/-! ## Tables and fields -/

/-- The rectangle of a table. -/
def tableRect (s : Setting α) (b : TableBox α) : Rect α :=
  ⟨b.x - s.metrics.tableWidth / 2.0, b.top, s.metrics.tableWidth, b.height⟩

/-- The rectangle of a field. -/
def fieldRect (s : Setting α) (center : Point α) : Rect α :=
  ⟨center.x - s.metrics.fieldWidth / 2.0, center.y - s.metrics.rowHeight / 2.0,
   s.metrics.fieldWidth, s.metrics.rowHeight⟩

/-- The tables that are painted, from back to front. -/
def paintedTables (v : View α) : List (TableBox α × TableNode) :=
  v.tables.filterMap fun b => (v.graph.table? b.id).map fun t => (b, t)

/-- The fields that are painted, from back to front. -/
def paintedFields (v : View α) : List (Point α × FieldNode) :=
  v.graph.fields.filterMap fun f => (v.positions.find? f.id).map fun p => (p, f)

/-- List the columns of a table, where there are no fields. -/
def paintColumns (s : Setting α) (b : TableBox α) (t : TableNode) : Picture α :=
  .fillStyle Theme.mutedText :: .font (.regular s.scale.fieldFontPx) ::
    t.columns.zipIdx.map fun (column, i) =>
      .text column ⟨b.x, b.top + s.metrics.rowOffset i⟩ (some s.metrics.fieldWidth)

/-- Paint a table: its box, its border, and a plate with its name. -/
def paintTable (s : Setting α) (v : View α) (scaled : ScaledValues α) (b : TableBox α)
    (t : TableNode) : Picture α :=
  let style := Theme.zoneStyle t.kind
  let rect := tableRect s b
  let selected := v.selected == some b.id
  let plateHeight := s.metrics.headerHeight - s.metrics.fieldGap
  [.fillStyle Theme.boxFill,
   .fillRect rect,
   .strokeStyle (if selected then Theme.selection else style.strong),
   .lineWidth ((if selected then 4.0 else 2.0) * scaled.pixel),
   .strokeRect rect,
   .fillStyle style.strong,
   .fillRect { rect with height := plateHeight },
   .fillStyle style.onStrong,
   .font (.bold s.scale.tableFontPx),
   .textAlign "center",
   .textBaseline "middle",
   .text t.table ⟨b.x, b.top + plateHeight / 2.0⟩ (some (s.metrics.tableWidth - 16.0))] ++
    (match v.graph.level with
      | .tables => paintColumns s b t
      | .fields => [])

/-- Paint a field: its box, its border and its name. -/
def paintField (s : Setting α) (v : View α) (scaled : ScaledValues α) (center : Point α)
    (f : FieldNode) : Picture α :=
  let rect := fieldRect s center
  let selected := v.selected == some f.id
  [.fillStyle Theme.boxFill,
   .fillRect rect,
   .strokeStyle (if selected then Theme.selection else (Theme.zoneStyle f.kind).fieldBorder),
   .lineWidth ((if selected then 3.0 else 1.0) * scaled.pixel),
   .strokeRect rect,
   .fillStyle Theme.textColor,
   .text f.field center (some (s.metrics.fieldWidth - 12.0))]

/-- Paint all fields. -/
def paintFields (s : Setting α) (v : View α) (scaled : ScaledValues α) : Picture α :=
  [.font (.regular s.scale.fieldFontPx), .textAlign "center", .textBaseline "middle"] ++
    v.paintedFields.flatMap fun (p, f) => v.paintField s scaled p f

/-! ## Tooltip -/

/-- The width of a text that cannot be measured: a guess from its bytes. -/
def guessedWidth (text : String) (fontPx : α) : α := Scalar.ofCount text.utf8ByteSize * fontPx * 0.6

/-- Paint the tooltip of the edge under the pointer, if there is one. -/
def paintTooltip (s : Setting α) (v : View α) (measure : String → Option α) : Picture α :=
  match v.hovered.bind v.graph.edge? with
  | none => []
  | some e =>
    let text := e.tooltip
    let x := v.pointer.x + 14.0
    let y := v.pointer.y + 14.0
    let fontPx := s.scale.tooltipFontPx
    let textWidth := (measure text).getD (guessedWidth text fontPx)
    let pad : α := 6.0
    let boxHeight := fontPx + 12.0
    [.font (.regular fontPx),
     .fillStyle Theme.tooltipFill,
     .fillRect ⟨x, y, textWidth + pad * 2.0, boxHeight⟩,
     .fillStyle Theme.tooltipText,
     .textAlign "left",
     .textBaseline "middle",
     .text text ⟨x + pad, y + boxHeight / 2.0⟩ none]

/-! ## Whole pictures -/

/-- The background of a view. -/
def backgroundColor (v : View α) : Color :=
  match v.bands with
  | some _ => Theme.background
  | none => Theme.freeFlowBackground

/-- The picture of a view, unless bounds of the zoom are out of order. -/
def picture? (s : Setting α) (v : View α) (measure : String → Option α) : Option (Picture α) := do
  let scaled ← ScaledValues.ofZoom? s.scale v.transform.k
  return [.fillStyle v.backgroundColor, .fillRect ⟨0.0, 0.0, v.width, v.height⟩, .save,
      .shift v.transform.x v.transform.y, .zoom v.transform.k v.transform.k] ++
    v.paintBands s ++
    v.graph.edges.flatMap (v.paintEdge s scaled) ++
    v.paintedTables.flatMap (fun (b, t) => v.paintTable s scaled b t) ++
    v.paintFields s scaled ++
    [.restore] ++
    v.paintTooltip s measure

end View

/-- The picture of an empty canvas. -/
def blankPicture (width height : α) : Picture α :=
  [.fillStyle Theme.background, .fillRect ⟨0.0, 0.0, width, height⟩]

end Provenance
