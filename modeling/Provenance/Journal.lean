import Provenance.Session

/-!
# Journal

What the application writes into its journal.  Every line has a severity; the lines of a step are
computed from what the step did, so that the steps themselves need not know about the journal.
-/

namespace Provenance

/-- How much a line matters. -/
inductive Severity where
  | error
  | warning
  | info
  | detail
  deriving DecidableEq

/-- The name of a severity in the journal. -/
def Severity.name : Severity → String
  | error => "ERROR"
  | warning => "WARN"
  | info => "INFO"
  | detail => "DEBUG"

/-- A line of the journal. -/
structure JournalLine where
  severity : Severity
  text : String
  deriving DecidableEq

/-- A part of the journal, oldest line first. -/
abbrev Journal := List JournalLine

namespace JournalLine

/-- A line with the words that begin every line. -/
def of (severity : Severity) (text : String) : JournalLine := ⟨severity, "lineage-graph: " ++ text⟩

/-- The journal is open. -/
def started : JournalLine := of .info "logging initialized"

/-- The sizes of a graph. -/
def graphSizes (g : Graph) : String :=
  toString g.tables.length ++ " tables, " ++ toString g.fields.length ++ " fields, " ++
    toString g.edges.length ++ " edges"

/-- A graph was built. -/
def built (g : Graph) : JournalLine := of .detail (graphSizes g)

/-- A graph is drawn. -/
def drawing (g : Graph) : JournalLine := of .detail ("drawing " ++ graphSizes g)

/-- The selection was matched with the zones. -/
def synced (s : Session) : JournalLine :=
  of .detail ("synced filters to " ++ toString s.zones.ordered.length ++ " zones (zone " ++
    s.selection.zone.value ++ ", table " ++ s.selection.table.value ++ ")")

/-- How many rows were dropped for each reason that occurs. -/
def refusalCounts (s : Sanitized) : String :=
  let counts := Refusal.all.filterMap fun reason =>
    if s.count reason = 0 then none else some (reason.name ++ ": " ++ toString (s.count reason))
  "\x7b" ++ String.intercalate ", " counts ++ "\x7d"

/-- The rows of a document were checked. -/
def sanitized (level : Level) (rows : Nat) (s : Sanitized) : JournalLine :=
  of .detail ("sanitized " ++ toString rows ++ " " ++ level.name ++ " records, kept " ++
    toString s.relations.length ++ ", dropped " ++ toString s.refused ++ " (" ++
    refusalCounts s ++ ")")

/-- Both documents were checked. -/
def kept (data : Dataset) : JournalLine :=
  of .info (toString data.tables.relations.length ++ " table relations, " ++
    toString data.fields.relations.length ++ " field relations after sanitizing")

/-- A document has arrived. -/
def fetched (url body : String) : JournalLine :=
  of .detail ("fetched " ++ toString body.utf8ByteSize ++ " bytes from " ++ url)

/-- Both documents have arrived. -/
def loaded (docs : Documents) : JournalLine :=
  of .info ("loaded " ++ toString docs.tables.length ++ " table records, " ++
    toString docs.fields.length ++ " field records")

/-- A load was overtaken by a later one. -/
def stale : JournalLine := of .warning "discarding stale load result"

/-- A load failed. -/
def failed (failure : LoadFailure) : JournalLine :=
  of .error ("failed to load data: " ++ failure.message)

/-- A malformed configuration was ignored. -/
def malformed (fault : Json.Fault) : JournalLine :=
  of .warning ("ignoring malformed configuration: " ++ fault.message)

/-- The canvas cannot be drawn on. -/
def noContext : JournalLine := of .warning "canvas has no 2d context"

/-- The shape of the pointer could not be set. -/
def noCursor : JournalLine := of .detail "could not set cursor: JsValue(undefined)"

end JournalLine

namespace Journal

/-- Whether a task matches the selection with the zones. -/
def syncs : Task → Bool
  | .act action => action.requiresSync
  | _ => false

/-- The lines about a task that led to a session and an outcome. -/
def ofTask (task : Task) (after : Session) (outcome : Option Outcome) : Journal :=
  (if syncs task then [JournalLine.synced after] else []) ++
    match outcome with
    | some (.draw scene) => [JournalLine.built scene.graph]
    | _ => []

/-- The lines about documents that were taken over into a session. -/
def ofDocuments (docs : Documents) (after : Session) : Journal :=
  match after.data with
  | some data =>
    [JournalLine.sanitized .tables docs.tables.length data.tables,
     JournalLine.sanitized .fields docs.fields.length data.fields,
     JournalLine.kept data, JournalLine.synced after]
  | none => []

/-- The lines about a load that is finished in a session and leads to another one. -/
def ofLoad (before : Session) (ticket : LoadTicket) (result : Except LoadFailure Documents)
    (after : Session) : Journal :=
  if before.loads.isCurrent ticket then
    match result with
    | .ok docs => ofDocuments docs after
    | .error failure => [JournalLine.failed failure]
  else [JournalLine.stale]

end Journal

end Provenance
