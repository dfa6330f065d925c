import Provenance.Board
import Provenance.Page.Markup

/-!
# The page

The page shows a board: a toolbar with selectors, the status line, the canvas, and the details
panel.
-/

namespace Provenance

/-! ## Toolbar -/

/-- The entries of a selector, of which the current one is selected. -/
def selectorEntries (options : List SelectorOption) (current : String) : List Markup :=
  options.map fun o => Markup.option o.value o.label (o.value == current)

/-- The entry of a level in the level selector. -/
def Level.title : Level → String
  | tables => "Tables"
  | fields => "Fields"

/-- The entries of the level selector. -/
def levelEntries (current : Level) : List Markup :=
  [Level.tables, Level.fields].map fun level =>
    Markup.option level.name level.title (level == current)

/-- The entries of the layout selector. -/
def layoutEntries (current : LayoutMode) : List Markup :=
  [LayoutMode.columns, LayoutMode.freeFlow].map fun mode =>
    Markup.option mode.name mode.label (mode == current)

/-- A selector with a label. -/
def labelledSelector (label : String) (attributes : List Attribute) (entries : List Markup) :
    Markup :=
  .element "label" [] [.text label, .element "select" attributes entries]

/-- A check box with a label. -/
def labelledCheckbox (props : List Attribute) (label : String) : Markup :=
  .element "label" [] [Markup.checkbox props, .text label]

/-- The toolbar. -/
def toolbar (s : Selection) (options : Selectors) : Markup :=
  .element "div" [Attribute.cls "lineage-controls"]
    [labelledSelector "Level " [] (levelEntries s.level),
     labelledSelector "Zone " [] (selectorEntries options.zones s.zone.value),
     labelledSelector "Start table " [Attribute.prop "disabled" (!options.tablesEnabled)]
       (selectorEntries options.tables s.table.value),
     labelledCheckbox
       [Attribute.prop "checked" s.showAll, Attribute.prop "disabled" (!options.showAllEnabled)]
       " Show whole zone",
     labelledCheckbox [Attribute.prop "checked" s.hideLanding] " Hide landing zones",
     labelledSelector "Layout " [] (layoutEntries s.layout),
     Markup.labelled "button" "Reset view",
     Markup.labelled "button" "Reload data"]

/-! ## Details -/

/-- The class of an entry of the details panel. -/
def Details.cls : Details → String
  | error .. => "details error"
  | _ => "details"

/-- An entry of the details panel with its label. -/
def DetailsRow.markup (row : DetailsRow) : List Markup :=
  [Markup.labelled "dt" row.label, .element "dd" [] (row.lines.map (Markup.labelled "div"))]

/-- What the details panel holds. -/
def detailsMarkup : Option Details → Markup
  | none => .element "p" [Attribute.cls "hint"] [.text Details.emptyHint]
  | some d =>
    .element "div" [Attribute.cls d.cls]
      [Markup.labelled "h2" d.title, .element "dl" [] (d.rows.flatMap DetailsRow.markup)]

/-! ## Whole page -/

/-- The title of the page. -/
def pageTitle : String := "Data Lineage"

/-- The canvas, before anything is drawn on it. -/
def canvasMarkup : Markup :=
  .element "canvas"
    [Attribute.cls "lineage-canvas", Attribute.text "style" "display: block; cursor: grab;"] []

/-- The head of the page. -/
def pageHead : List Markup :=
  [.element "html" [Attribute.text "lang" "en", Attribute.text "dir" "ltr"] [],
   .element "title" [Attribute.text "text" pageTitle] [],
   .element "meta" [Attribute.text "charset" "UTF-8"] [],
   .element "meta" [Attribute.text "name" "viewport",
     Attribute.text "content" "width=device-width, initial-scale=1.0"] []]

/-- The body of the page that shows a board. -/
def pageBody (b : Board) : List Markup :=
  [.element "div" [Attribute.cls "lineage-app"]
    [.element "header" [Attribute.cls "lineage-header"]
      [Markup.labelled "h1" pageTitle, toolbar b.session.selection b.selectors,
       .element "p" [Attribute.cls "status"] [.text b.status.text]],
     .element "main" [Attribute.cls "lineage-main"]
      [.element "div" [Attribute.cls "lineage-stage"] [canvasMarkup],
       .element "aside" [Attribute.cls "lineage-details"] [detailsMarkup b.details]]]]

end Provenance
