import Provenance.Graph.Details
import Provenance.LoadFailure
import Provenance.Relation.Sanitize
import Provenance.Selection

/-!
# Sessions

A session holds the loaded relations and the selection.  Tasks wait in a queue and are run one at
a time; each may have an outcome, which tells the view what to do.  Every load has a ticket with a
number, and only the load begun last may change the session, so a slow answer never replaces a
newer one.
-/

namespace Provenance

/-! ## Data -/

/-- The proper relations of both documents. -/
structure Dataset where
  tables : Sanitized
  fields : Sanitized
  deriving DecidableEq

namespace Dataset

/-- Keep the proper relations of both documents. -/
def ofDocuments (docs : Documents) : Dataset where
  tables := sanitize .tables docs.tables
  fields := sanitize .fields docs.fields

/-- The relations of a level. -/
def relations (data : Dataset) : Level → List Relation
  | .tables => data.tables.relations
  | .fields => data.fields.relations

end Dataset

/-! ## Loads -/

/-- The ticket of a load. -/
structure LoadTicket where
  number : UInt64
  reload : Bool
  deriving DecidableEq

/-- Counts the loads begun, starting again at zero after `2 ^ 64` loads. -/
structure LoadTracker where
  latest : UInt64
  deriving DecidableEq

namespace LoadTracker

/-- No load has begun. -/
def initial : LoadTracker := ⟨0⟩

/-- Begin a load. -/
def begin (t : LoadTracker) (reload : Bool) : LoadTracker × LoadTicket :=
  (⟨t.latest + 1⟩, ⟨t.latest + 1, reload⟩)

/-- Whether no load has begun since. -/
def isCurrent (t : LoadTracker) (ticket : LoadTicket) : Bool := ticket.number == t.latest

end LoadTracker

/-! ## Tasks and outcomes -/

/-- Something to be done. -/
inductive Task where
  | act (action : Action)
  | resetView
  | render
  deriving DecidableEq

/-- A graph to draw, how many relations it shows, and how many there are to choose from. -/
structure Scene where
  graph : Graph
  layout : LayoutMode
  matched : Nat
  total : Nat
  deriving DecidableEq

/-- What the view has to do. -/
inductive Outcome where
  | prompt
  | noMatches (total : Nat)
  | draw (scene : Scene)
  | relayout (layout : LayoutMode)
  | loaded (reloaded : Bool)
  | loadFailed (message hint : String)
  deriving DecidableEq

/-- What the status line says. -/
inductive Status where
  | loading
  | loaded (reloaded : Bool)
  | selectionNeeded
  | noMatches (total : Nat)
  | showing (matched : Nat) (level : Level) (total : Nat)
  | loadFailed (message : String)
  deriving DecidableEq

/-- The text of the status line. -/
def Status.text : Status → String
  | loading => "Loading data..."
  | loaded false => "Data loaded. Select a zone or a start table."
  | loaded true => "Data reloaded. Select a zone or a start table."
  | selectionNeeded => "Select a zone or a start table to draw the graph."
  | noMatches total =>
    "No relations for the selected filters (" ++ toString total ++ " records available in total)."
  | showing matched level total =>
    "Showing " ++ toString matched ++ " relations (" ++ level.label ++ ") filtered from " ++
      toString total ++ "."
  | loadFailed message => "Error loading data: " ++ message

namespace Outcome

/-- Whether a graph is shown afterwards. -/
def hasGraph : Outcome → Bool
  | draw _ | relayout _ => true
  | _ => false

/-- The status to show, if it changes. -/
def status? : Outcome → Option Status
  | prompt => some .selectionNeeded
  | noMatches total => some (.noMatches total)
  | draw scene => some (.showing scene.matched scene.graph.level scene.total)
  | relayout _ => none
  | loaded reloaded => some (.loaded reloaded)
  | loadFailed message _ => some (.loadFailed message)

end Outcome

/-! ## Sessions -/

/-- An index of sources that was built for a level and for hidden or shown landing tables. -/
structure CachedIndex where
  level : Level
  hideLanding : Bool
  index : SourceIndex
  deriving DecidableEq

/-- Loaded relations, selection and waiting tasks. -/
structure Session where
  data : Option Dataset
  selection : Selection
  zones : ZoneIndex
  queue : List Task
  loads : LoadTracker
  cache : Option CachedIndex
  hasGraph : Bool
  deriving DecidableEq

namespace Session

/-- Nothing loaded and nothing selected. -/
def initial : Session where
  data := none
  selection := Selection.initial
  zones := ZoneIndex.empty
  queue := []
  loads := LoadTracker.initial
  cache := none
  hasGraph := false

/-- The relations of the selected level. -/
def relations (s : Session) : List Relation :=
  match s.data with
  | some data => data.relations s.selection.level
  | none => []

/-- The relations to choose from. -/
def candidates (s : Session) : List Relation := s.selection.visible s.relations

/-- Match the selection with the zones of the relations to choose from. -/
def sync (s : Session) : Session :=
  let zones := ZoneIndex.build s.candidates
  { s with zones := zones, selection := s.selection.synced zones }

/-- The index of sources for the selection: the cached one if it was built for the same level and
the same landing tables. -/
def sourceIndex (s : Session) : SourceIndex :=
  match s.cache with
  | some c =>
    if c.level = s.selection.level ∧ c.hideLanding = s.selection.hideLanding then c.index
    else SourceIndex.build s.selection.hideLanding s.relations
  | none => SourceIndex.build s.selection.hideLanding s.relations

/-- The graph of the selection. -/
def draw (s : Session) (index : SourceIndex) : Outcome :=
  let total := s.candidates.length
  let picked := s.selection.pick (some index) s.relations
  if picked.isEmpty then .noMatches total
  else .draw ⟨Graph.build s.selection.level picked, s.selection.layout, picked.length, total⟩

/-- Show what is selected.  The index of sources is kept for the next time. -/
def render (s : Session) : Session × Option Outcome :=
  match s.data with
  | none => (s, none)
  | some _ =>
    if s.selection.isGated then (s, some .prompt)
    else
      let index := s.sourceIndex
      ({ s with cache := some ⟨s.selection.level, s.selection.hideLanding, index⟩ },
        some (s.draw index))

/-- Change the selection. -/
def act (s : Session) (action : Action) : Session :=
  let s := { s with selection := s.selection.apply action }
  if action.requiresSync then s.sync else s

/-- Run one task. -/
def runTask (s : Session) : Task → Session × Option Outcome
  | .act action =>
    let s := s.act action
    if !action.requiresRefilter && s.hasGraph then (s, some (.relayout s.selection.layout))
    else s.render
  | .resetView => (s, if s.hasGraph then some (.relayout s.selection.layout) else none)
  | .render => s.render

/-- Run one task and remember whether a graph is shown. -/
def run (s : Session) (task : Task) : Session × Option Outcome :=
  match s.runTask task with
  | (s, some outcome) => ({ s with hasGraph := outcome.hasGraph }, some outcome)
  | (s, none) => (s, none)

/-- Put a task behind the waiting ones. -/
def dispatch (s : Session) (task : Task) : Session := { s with queue := s.queue ++ [task] }

/-- Run tasks one after the other.  The last outcome counts. -/
def runAll (s : Session) : List Task → Session × Option Outcome
  | [] => (s, none)
  | task :: tasks =>
    let (s, outcome) := s.run task
    let (s, later) := runAll s tasks
    (s, later.or outcome)

/-- Run all waiting tasks. -/
def runPending (s : Session) : Session × Option Outcome := runAll { s with queue := [] } s.queue

/-- Begin a load. -/
def beginLoad (s : Session) (reload : Bool) : Session × LoadTicket :=
  let (loads, ticket) := s.loads.begin reload
  ({ s with loads := loads }, ticket)

/-- Take over loaded relations: the selection starts again, except for the layout. -/
def accept (s : Session) (data : Dataset) : Session :=
  sync { s with data := some data, cache := none, selection := s.selection.reset }

/-- Finish a load.  Only the load begun last has an effect. -/
def finishLoad (s : Session) (ticket : LoadTicket) (result : Except LoadFailure Documents) :
    Session × Option Outcome :=
  if s.loads.isCurrent ticket then
    match result with
    | .ok docs =>
      ({ s.accept (Dataset.ofDocuments docs) with hasGraph := false }, some (.loaded ticket.reload))
    | .error failure =>
      ({ s with hasGraph := false }, some (.loadFailed failure.message Details.loadErrorHint))
  else (s, none)

end Session

end Provenance
