import Provenance.Session

/-!
# Boards

A board is what the application shows beside its session: a status line, at most one scene, and at
most one entry in the details panel.  Whatever happens to the session is shown on the board by
applying its outcome.
-/

namespace Provenance

/-- A session and what is shown of it. -/
structure Board where
  session : Session
  status : Status
  scene : Option Scene
  details : Option Details
  deriving DecidableEq

namespace Board

/-- Nothing has been loaded yet. -/
def initial : Board := ⟨Session.initial, .loading, none, none⟩

/-- The selectors of the session. -/
def selectors (b : Board) : Selectors := Selectors.build b.session.selection b.session.zones

/-- Show an outcome apart from its status. -/
def showOutcome (b : Board) : Outcome → Board
  | .draw scene => { b with scene := some scene, details := none }
  | .relayout _ => b
  | .loadFailed message _ => { b with scene := none, details := some (Details.loadError message) }
  | .prompt | .noMatches _ | .loaded _ => { b with scene := none, details := none }

/-- Show an outcome, if there is one. -/
def apply (b : Board) : Option Outcome → Board
  | none => b
  | some outcome => { b with status := outcome.status?.getD b.status }.showOutcome outcome

/-- Run a task and show its outcome. -/
def runTask (b : Board) (task : Task) : Board × Option Outcome :=
  let (session, outcome) := (b.session.dispatch task).runPending
  ({ b with session := session }.apply outcome, outcome)

/-- Begin a load. -/
def beginLoad (b : Board) (reload : Bool) : Board × LoadTicket :=
  let (session, ticket) := b.session.beginLoad reload
  ({ b with session := session, status := .loading }, ticket)

/-- Finish a load and show its outcome. -/
def finishLoad (b : Board) (ticket : LoadTicket) (result : Except LoadFailure Documents) :
    Board × Option Outcome :=
  let (session, outcome) := b.session.finishLoad ticket result
  ({ b with session := session }.apply outcome, outcome)

/-- Show the details of what has been clicked. -/
def select (b : Board) (id : Option String) : Board :=
  { b with details := id.bind fun id => b.scene.bind fun scene => scene.graph.describe id }

end Board

end Provenance
