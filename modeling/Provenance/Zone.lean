import Provenance.Names
import Provenance.Relation.Basic
import Provenance.Text.Blank

/-!
# Zones

The name of a table begins with its zone.  The zone is the part before the first dot, except for
the two landing zones, which have a dot in their own name.  The kind of a zone is told by how its
name begins; it decides the order of zones in lists and the column a table is drawn in.

Relations are explored from start tables, the tables of results and processes.
-/

namespace Provenance

/-! ## Kinds of zones -/

/-- What a zone is for. -/
inductive ZoneKind where
  | results
  | process
  | stagingArea
  | landingStatic
  | landingFunction
  | other
  deriving DecidableEq, Repr

/-- The columns that tables are drawn in. -/
inductive Column where
  | left
  | center
  | right
  deriving DecidableEq, Repr

/-- The columns from left to right. -/
def Column.all : List Column := [.left, .center, .right]

/-- The place of a column from left to right. -/
def Column.index : Column → Nat
  | left => 0
  | center => 1
  | right => 2

/-- The zone of static landing tables. -/
def landingStaticZone : String := "lz.estatico"

/-- The zone of landing functions. -/
def landingFunctionZone : String := "lz.funcion"

/-- How names of result zones begin. -/
def resultsStem : String := "resultados"

/-- How names of process zones begin. -/
def processStem : String := "proceso"

/-- How names of staging areas begin. -/
def stagingStem : String := "s_bani"

namespace ZoneKind

/-- The kind of a zone, by its name. -/
def ofZone (zone : String) : ZoneKind :=
  if Text.startsWith zone resultsStem then results
  else if Text.startsWith zone processStem then process
  else if Text.startsWith zone stagingStem then stagingArea
  else if Text.startsWith zone landingStaticZone then landingStatic
  else if Text.startsWith zone landingFunctionZone then landingFunction
  else other

/-- The place of a kind in lists of zones. -/
def order : ZoneKind → Nat
  | results => 0
  | process => 1
  | stagingArea => 2
  | landingStatic => 3
  | landingFunction => 4
  | other => 5

/-- The column of tables of this kind: data flows from the staging areas on the left to the
results on the right. -/
def column : ZoneKind → Column
  | results => .right
  | stagingArea => .left
  | process | landingStatic | landingFunction | other => .center

/-- The name of a kind in descriptions. -/
def label : ZoneKind → String
  | results => "results"
  | process => "process"
  | stagingArea => "staging-area"
  | landingStatic => "lz-static"
  | landingFunction => "lz-function"
  | other => "other"

end ZoneKind

/-! ## Zones of tables -/

/-- The zone of a table; a table without a name has none. -/
def zoneOf? (table : String) : Option String :=
  if table.isEmpty then none
  else if Text.startsWith table landingStaticZone then some landingStaticZone
  else if Text.startsWith table landingFunctionZone then some landingFunctionZone
  else some (String.ofList (table.toList.takeWhile fun c => c != '.'))

/-- The zone of a table in descriptions. -/
def zoneName (table : String) : String := (zoneOf? table).getD "unknown"

/-- The kind of the zone of a table. -/
def zoneKind (table : String) : ZoneKind := ZoneKind.ofZone (zoneName table)

/-- Whether a table is one to explore relations from. -/
def isStartTable (table : String) : Bool :=
  Text.startsWith table resultsStem || Text.startsWith table processStem

/-- Whether a table lies in a landing zone. -/
def isLanding (table : String) : Bool :=
  Text.startsWith table landingStaticZone || Text.startsWith table landingFunctionZone

/-! ## Zones of a list of relations -/

/-- What is known of a zone: the tables that relations lead to, and the start tables among them. -/
structure ZoneInfo where
  zone : String
  kind : ZoneKind
  startTables : Names
  destinations : Names
  deriving DecidableEq

namespace ZoneInfo

/-- A zone without tables. -/
def ofZone (zone : String) : ZoneInfo where
  zone := zone
  kind := ZoneKind.ofZone zone
  startTables := Names.empty
  destinations := Names.empty

/-- Record that a relation leads to a table of the zone. -/
def addTable (info : ZoneInfo) (table : String) : ZoneInfo :=
  { info with
    destinations := info.destinations.insert table
    startTables := if isStartTable table then info.startTables.insert table else info.startTables }

/-- How many tables a zone is said to have: its start tables, or all tables if it has no start
tables. -/
def count (info : ZoneInfo) : Nat :=
  if info.startTables.isEmpty then info.destinations.size else info.startTables.size

/-- The entry of a zone in the zone selector. -/
def optionLabel (info : ZoneInfo) : String :=
  info.zone ++ " (" ++ toString info.count ++ " tables)"

end ZoneInfo

/-- The zones that relations lead to. -/
structure ZoneIndex where
  zones : NameMap ZoneInfo
  deriving DecidableEq

namespace ZoneIndex

/-- No zones. -/
def empty : ZoneIndex := ⟨NameMap.empty⟩

instance : Inhabited ZoneIndex := ⟨empty⟩

/-- Record the target of one relation. -/
def addTarget (index : ZoneIndex) (table : String) : ZoneIndex :=
  match zoneOf? table with
  | none => index
  | some zone =>
    ⟨index.zones.alter zone fun info => (info.getD (ZoneInfo.ofZone zone)).addTable table⟩

/-- The zones that the relations lead to. -/
def build (relations : List Relation) : ZoneIndex :=
  relations.foldl (fun index r => index.addTarget r.targetTable) empty

/-- What is known of a zone. -/
def get? (index : ZoneIndex) (zone : String) : Option ZoneInfo := index.zones.find? zone

/-- Whether a zone is known. -/
def contains (index : ZoneIndex) (zone : String) : Bool := index.zones.contains zone

/-- Whether no zone is known. -/
def isEmpty (index : ZoneIndex) : Bool := index.zones.isEmpty

/-- The first zone by name. -/
def first? (index : ZoneIndex) : Option String := index.zones.firstName?

/-- Whether a zone comes before another one in lists: by kind, then by name. -/
def precedes (a b : ZoneInfo) : Bool :=
  decide (a.kind.order < b.kind.order) || (a.kind.order == b.kind.order && decide (a.zone ≤ b.zone))

/-- The zones in the order of lists. -/
def ordered (index : ZoneIndex) : List ZoneInfo := index.zones.values.mergeSort precedes

end ZoneIndex

end Provenance
