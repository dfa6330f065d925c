import Provenance.Board
import Provenance.Canvas
import Provenance.Loading

/-!
# Application

The application is a board, a canvas that shows its scene, and the loads that are under way.
After every event the canvas shows what has changed, every load is carried on with as far as
possible, and the canvas shows what this has changed.
-/

namespace Provenance

/-- The page that an application runs on.  `configuration` is the text of the configuration that
the page holds, if it holds one that can be read. -/
structure Page where
  host : Host
  parent : Option (Int × Int)
  badUrls : List String
  configuration : Option String

/-- Where requests of a page go. -/
def Page.network (page : Page) : Network := ⟨page.host.hasWindow, page.badUrls⟩

/-- The settings of a page, and a line if its configuration is malformed. -/
def Page.settings (page : Page) : Settings × Journal :=
  match page.configuration with
  | some text =>
    if page.host.hasWindow && !Text.isBlankText text then
      match Settings.parse text with
      | .ok settings => (settings, [])
      | .error fault => ({}, [JournalLine.malformed fault])
    else ({}, [])
  | none => ({}, [])

/-- What an application has done: the addresses of the requests sent, lines for the journal, what
was drawn, and whether the canvas refused something. -/
structure Report where
  sent : List String := []
  journal : Journal := []
  picture : Picture Float := []
  refused : Bool := false

namespace Report

/-- What a canvas has done. -/
def ofReply (reply : CanvasReply) : Report where
  journal := reply.journal
  picture := reply.picture
  refused := reply.refused

/-- One report after the other. -/
def append (a b : Report) : Report :=
  ⟨a.sent ++ b.sent, a.journal ++ b.journal, a.picture ++ b.picture, a.refused || b.refused⟩

end Report

/-- Something that happens to an application. -/
inductive AppEvent where
  | run (task : Task)
  | reload
  | deliver (delivery : Delivery)
  | canvas (event : CanvasEvent)

/-- A running application.  `sent` is the number of requests sent so far. -/
structure Application where
  page : Page
  sources : DataSources
  board : Board
  canvas : Canvas
  loads : List Load
  sent : Nat

namespace Application

/-- What an outcome changes on the canvas.  The layout is arranged again even if nothing has come
out. -/
def changes : Option Outcome → Refresh
  | none | some (.relayout _) => ⟨false, true⟩
  | some _ => ⟨true, true⟩

/-- Show on the canvas what has changed. -/
def refresh (a : Application) (what : Refresh) : Application × Report :=
  let (canvas, reply) := a.canvas.refresh what a.board.scene a.board.session.selection.layout
  ({ a with canvas := canvas }, .ofReply reply)

/-- Begin a load. -/
def beginLoad (a : Application) (reload : Bool) : Application :=
  let (board, ticket) := a.board.beginLoad reload
  { a with board := board, loads := a.loads ++ [Load.begin ticket] }

/-- Finish a load. -/
def finishLoad (a : Application) (ticket : LoadTicket) (result : Except LoadFailure Documents) :
    Application × Refresh × Journal :=
  let (board, outcome) := a.board.finishLoad ticket result
  ({ a with board := board }, changes outcome,
    Journal.ofLoad a.board.session ticket result board.session)

/-- Carry on with one load, which stays in the list of loads while it is running. -/
def advanceLoad (a : Application) (delivery : Option Delivery) (load : Load) :
    Application × Refresh × Report :=
  let step := load.advance a.page.network a.sources a.sent delivery
  let a := { a with sent := a.sent + step.sent.length }
  match step.now with
  | .running load =>
    ({ a with loads := a.loads ++ [load] }, .nothing,
      { sent := step.sent, journal := step.journal })
  | .finished result =>
    let (a, what, journal) := a.finishLoad load.ticket result
    (a, what, { sent := step.sent, journal := step.journal ++ journal })

/-- Carry on with loads one after the other. -/
def advanceAll (a : Application) (delivery : Option Delivery) :
    List Load → Application × Refresh × Report
  | [] => (a, .nothing, {})
  | load :: loads =>
    let (a, what, report) := a.advanceLoad delivery load
    let (a, later, reports) := a.advanceAll delivery loads
    (a, what.merge later, report.append reports)

/-- Carry on with everything after an event that has changed something. -/
def settle (a : Application) (what : Refresh) (delivery : Option Delivery) : Application × Report :=
  let (a, first) := a.refresh what
  let (a, later, second) := { a with loads := [] }.advanceAll delivery a.loads
  let (a, third) := a.refresh later
  (a, first.append (second.append third))

/-- Start on a page: read the settings, open the canvas, and load the documents. -/
def start (page : Page) : Application × Report :=
  let (settings, malformed) := page.settings
  let setting := Setting.ofForce settings.layout settings.force ScaleConfig.standard
  let board := Board.initial
  let (canvas, reply) :=
    Canvas.mount page.host setting page.parent board.scene board.session.selection.layout
  let a : Application :=
    { page := page, sources := settings.data, board := board, canvas := canvas, loads := []
      sent := 0 }
  let (a, report) := (a.beginLoad false).settle .nothing none
  (a, Report.append { journal := JournalLine.started :: malformed }
    ((Report.ofReply reply).append report))

/-- Handle an event before anything is carried on with. -/
def handle (a : Application) : AppEvent → Application × Refresh × Report
  | .run task =>
    let (board, outcome) := a.board.runTask task
    ({ a with board := board }, changes outcome,
      { journal := Journal.ofTask task board.session outcome })
  | .reload => (a.beginLoad true, .nothing, {})
  | .deliver _ => (a, .nothing, {})
  | .canvas event =>
    let (canvas, reply) := a.canvas.step event
    let board := match reply.selected with
      | some id => a.board.select id
      | none => a.board
    ({ a with canvas := canvas, board := board }, .nothing, .ofReply reply)

/-- What an event delivers. -/
def delivery? : AppEvent → Option Delivery
  | .deliver d => some d
  | _ => none

/-- Whether an event can happen: only requests that have been sent are answered. -/
def admits (a : Application) (event : AppEvent) : Bool :=
  (delivery? event).all fun d => d.request < a.sent

/-- Let something happen. -/
def step (a : Application) (event : AppEvent) : Application × Report :=
  let (a, what, first) := a.handle event
  let (a, second) := a.settle what (delivery? event)
  (a, first.append second)

end Application

end Provenance
