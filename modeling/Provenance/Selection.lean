import Provenance.Level
import Provenance.Origins

/-!
# Selections

What the user has chosen: the level of detail, a zone, a table of the zone, whether to hide
landing tables, and the layout.  Every interaction is an action that gives a new selection, and a
selection picks the relations to show.

Nothing is shown before a zone or a table has been chosen: until then the selection is gated.
-/

namespace Provenance

/-! ## Layouts -/

/-- How tables are arranged. -/
inductive LayoutMode where
  | columns
  | freeFlow
  deriving DecidableEq, Repr, Inhabited

namespace LayoutMode

/-- The name of a layout, as the layout selector lists it. -/
def name : LayoutMode → String
  | columns => "columns"
  | freeFlow => "free-flow"

/-- The layout of a name; every other name stands for columns. -/
def ofName (name : String) : LayoutMode :=
  if name = "free-flow" then freeFlow else columns

/-- The entry of a layout in the layout selector. -/
def label : LayoutMode → String
  | columns => "Columns by zone"
  | freeFlow => "Free flow"

end LayoutMode

/-! ## Choices -/

/-- The selector value for all zones or all tables. -/
def allValue : String := "all"

/-- One of several names, or all of them. -/
inductive Choice where
  | all
  | named (name : String)
  deriving DecidableEq, Repr, Inhabited

namespace Choice

/-- The choice of a selector value. -/
def ofValue (value : String) : Choice :=
  if value.isEmpty || value = allValue then all else named value

/-- The chosen name, unless all are chosen. -/
def name? : Choice → Option String
  | all => none
  | named name => some name

/-- A choice has a name if it is the one of something named. -/
@[simp]
theorem name?_eq_some {c : Choice} {name : String} : c.name? = some name ↔ c = named name := by
  cases c <;> simp [name?]

/-- Whether all are chosen. -/
def isAll : Choice → Bool
  | all => true
  | named _ => false

/-- Everything is chosen by one choice only. -/
@[simp]
theorem isAll_eq_true {c : Choice} : c.isAll = true ↔ c = all := by
  cases c <;> simp [isAll]

/-- The selector value of a choice. -/
def value (c : Choice) : String := c.name?.getD allValue

/-- The choice of a name, or of all if there is none. -/
def ofName? : Option String → Choice
  | some name => named name
  | none => all

end Choice

/-! ## Actions -/

/-- An interaction with the selectors. -/
inductive Action where
  | setLevel (level : Level)
  | selectZone (zone : Choice)
  | selectTable (table : Choice)
  | setShowAll (on : Bool)
  | setHideLanding (on : Bool)
  | setLayout (layout : LayoutMode)
  deriving DecidableEq

namespace Action

/-- Whether the selection has to be matched with the zones afterwards. -/
def requiresSync : Action → Bool
  | selectTable _ | setLayout _ => false
  | _ => true

/-- Whether the relations have to be picked anew afterwards. -/
def requiresRefilter : Action → Bool
  | setLayout _ => false
  | _ => true

end Action

/-- What the user has chosen. -/
structure Selection where
  level : Level := .tables
  zone : Choice := .all
  table : Choice := .all
  showAll : Bool := false
  hideLanding : Bool := false
  layout : LayoutMode := .columns
  ready : Bool := false
  deriving DecidableEq, Inhabited

namespace Selection

/-- The selection to begin with. -/
def initial : Selection := {}

/-- Back to the beginning, except for the layout. -/
def reset (s : Selection) : Selection := { initial with layout := s.layout }

/-- The selection after an action. -/
def apply (s : Selection) : Action → Selection
  | .setLevel level =>
    { s with level := level, zone := .all, table := .all, showAll := false, ready := false }
  | .selectZone zone => { s with zone := zone, showAll := false, ready := !zone.isAll }
  | .selectTable table => { s with table := table, ready := !table.isAll || !s.zone.isAll }
  | .setShowAll on =>
    let table := if on then .all else s.table
    { s with showAll := on, table := table, ready := on || !table.isAll || !s.zone.isAll }
  | .setHideLanding on => { s with hideLanding := on }
  | .setLayout layout => { s with layout := layout }

/-- A zone that is not there gives way to the first one. -/
def syncZone (zones : ZoneIndex) (zone : Choice) : Choice :=
  match zone.name? with
  | none => zone
  | some name => if zones.contains name then zone else Choice.ofName? zones.first?

/-- Match the table with what is known of the zone: one of its start tables, unless all are
shown. -/
def syncTable (info : Option ZoneInfo) (s : Selection) : Selection :=
  match info with
  | none => { s with table := .all, showAll := false }
  | some info =>
    if info.startTables.isEmpty then { s with table := .all, showAll := false }
    else if s.showAll then { s with table := .all }
    else if s.table.name?.any info.startTables.contains then s
    else { s with table := Choice.ofName? info.startTables.first? }

/-- Match the selection with the zones that there are. -/
def synced (s : Selection) (zones : ZoneIndex) : Selection :=
  let zone := syncZone zones s.zone
  syncTable (zone.name?.bind zones.get?) { s with zone := zone }

/-- Whether nothing is shown yet. -/
def isGated (s : Selection) : Bool :=
  !s.ready || (s.zone.isAll && s.table.isAll && !s.showAll)

/-! ## Picking relations -/

/-- Whether a relation may be shown at all: landing tables can be hidden as sources. -/
def shows (s : Selection) (r : Relation) : Bool := !(s.hideLanding && isLanding r.sourceTable)

/-- The relations that may be shown, whatever zone and table are chosen. -/
def visible (s : Selection) (relations : List Relation) : List Relation := relations.filter s.shows

/-- The relations to show: those that lead to the chosen table or to anything its data comes from,
to start tables of the chosen zone, or to any start table.  An index of sources is taken if there
is one. -/
def pick (s : Selection) (index : Option SourceIndex) (relations : List Relation) : List Relation :=
  match s.table, s.zone with
  | .named table, _ =>
    let index := match index with
      | some index => index
      | none => SourceIndex.build s.hideLanding relations
    let found := index.closure table
    (s.visible relations).filter fun r => found.contains r.targetTable
  | .all, .named zone =>
    (s.visible relations).filter fun r =>
      zoneOf? r.targetTable == some zone && isStartTable r.targetTable
  | .all, .all => (s.visible relations).filter fun r => isStartTable r.targetTable

/-- The relations to work with: those that may be shown, if the choice of a zone and a table is to
be skipped, and those to show otherwise.  The selectors are filled from the former, the graph is
drawn from the latter. -/
def narrow (s : Selection) (skipZone : Bool) (index : Option SourceIndex)
    (relations : List Relation) : List Relation :=
  if skipZone then s.visible relations else s.pick index relations

end Selection

/-! ## Selectors -/

/-- An entry of a selector. -/
structure SelectorOption where
  value : String
  label : String
  deriving DecidableEq

/-- What the selectors offer. -/
structure Selectors where
  zones : List SelectorOption
  tables : List SelectorOption
  tablesEnabled : Bool
  showAllEnabled : Bool
  deriving DecidableEq

namespace Selectors

/-- The entry for all zones. -/
def allZonesLabel : String := "All zones (start: resultados/proceso)"

/-- What the selectors offer for a selection among the zones. -/
def build (s : Selection) (index : ZoneIndex) : Selectors :=
  let zones :=
    ⟨allValue, allZonesLabel⟩ :: index.ordered.map fun info => ⟨info.zone, info.optionLabel⟩
  match s.zone.name?.bind index.get? with
  | none => ⟨zones, [⟨allValue, "Select a zone"⟩], false, false⟩
  | some info =>
    if info.startTables.isEmpty then ⟨zones, [⟨allValue, "No start tables"⟩], false, false⟩
    else ⟨zones, info.startTables.toList.map fun t => ⟨t, t⟩, !s.showAll, true⟩

end Selectors

end Provenance
