import Provenance.Proofs.Session.Draining
import Provenance.Proofs.Session.Loads
import Provenance.Proofs.Relation.Kept

/-!
# A load begins afresh

A load that succeeds replaces the relations and resets the selection, except for the layout.
This module compares two sessions with different pasts and shows that nothing else of the past
is left: when both are idle, have the same layout and take over the same documents, nobody can
tell one from the other by their tasks.  What remains different is how many loads have begun,
and no task looks at that.

Main results:

- Theorem `Session.runPending_withLoads`: tasks do not depend on how many loads have begun.
- Theorem `Session.observe_withLoads`: neither does anything that tasks let us see.
- Theorem `Session.accept_eq_withLoads`: idle sessions with the same layout that take over the
  same relations differ at most in how many loads have begun.
-/

namespace Provenance

/-- Whether an event has to do with tasks, and not with loads. -/
def SessionEvent.concernsTasks : SessionEvent → Bool
  | .dispatch _ | .runPending => true
  | .beginLoad _ | .finishLoad _ _ => false

/-- What is seen after an event: its outcome, the selection and the zones. -/
structure Observation where
  outcome : Option Outcome
  selection : Selection
  zones : ZoneIndex
  deriving DecidableEq

namespace Session

/-- What is seen after each of several events, the earliest one first. -/
def observe (s : Session) : List SessionEvent → List Observation
  | [] => []
  | event :: later =>
    ⟨s.report event, (s.after event).selection, (s.after event).zones⟩ ::
      (s.after event).observe later

/-! ## Tasks do not count loads -/

/-- The session as it would be if another number of loads had begun. -/
def withLoads (s : Session) (loads : LoadTracker) : Session := { s with loads := loads }

variable (s : Session) (loads : LoadTracker)

/-- How many loads have begun makes no difference to an action. -/
theorem act_withLoads (action : Action) :
    (s.withLoads loads).act action = (s.act action).withLoads loads := by
  cases action <;> rfl

/-- How many loads have begun makes no difference to rendering. -/
theorem render_withLoads :
    (s.withLoads loads).render = (s.render.1.withLoads loads, s.render.2) := by
  have hdata : (s.withLoads loads).data = s.data := rfl
  unfold render
  rw [hdata]
  cases s.data with
  | none => rfl
  | some data =>
      have hgated : (s.withLoads loads).selection.isGated = s.selection.isGated := rfl
      dsimp only
      rw [hgated]
      by_cases hopen : s.selection.isGated = true
      · simp [hopen]
      · simp only [hopen]
        rfl

theorem runTask_withLoads (task : Task) :
    (s.withLoads loads).runTask task =
      ((s.runTask task).1.withLoads loads, (s.runTask task).2) := by
  cases task with
  | act action =>
      simp only [runTask, act_withLoads, render_withLoads]
      -- both sessions take the same branch, since they agree on whether there is a graph
      split
      · rename_i hrelayout
        have hrelayout' : (!action.requiresRefilter && (s.act action).hasGraph) = true := hrelayout
        rw [if_pos hrelayout']
        rfl
      · rename_i hrender
        have hrender' : ¬ (!action.requiresRefilter && (s.act action).hasGraph) = true := hrender
        rw [if_neg hrender']
  | resetView => rfl
  | render => exact render_withLoads s loads

/-- How many loads have begun makes no difference to a task. -/
theorem run_withLoads (task : Task) :
    (s.withLoads loads).run task = ((s.run task).1.withLoads loads, (s.run task).2) := by
  unfold run
  rw [runTask_withLoads]
  cases s.runTask task with
  | mk t outcome =>
      cases outcome with
      | none => rfl
      | some outcome => rfl

/-- How many loads have begun makes no difference to tasks. -/
theorem runAll_withLoads (tasks : List Task) :
    (s.withLoads loads).runAll tasks =
      ((s.runAll tasks).1.withLoads loads, (s.runAll tasks).2) := by
  induction tasks generalizing s with
  | nil => rfl
  | cons task tasks ih =>
      simp only [runAll]
      rw [run_withLoads, ih]

/-- Tasks do not depend on how many loads have begun. -/
theorem runPending_withLoads :
    (s.withLoads loads).runPending = (s.runPending.1.withLoads loads, s.runPending.2) :=
  runAll_withLoads { s with queue := [] } loads s.queue

/-- Nothing that tasks let us see depends on how many loads have begun. -/
theorem observe_withLoads {events : List SessionEvent}
    (h : ∀ event ∈ events, event.concernsTasks = true) :
    (s.withLoads loads).observe events = s.observe events := by
  induction events generalizing s with
  | nil => rfl
  | cons event events ih =>
      have hevent : event.concernsTasks = true := h event List.mem_cons_self
      have hevents : ∀ e ∈ events, e.concernsTasks = true :=
        fun e he => h e (List.mem_cons_of_mem event he)
      have hreport : (s.withLoads loads).report event = s.report event := by
        cases event with
        | dispatch task => rfl
        | runPending => simp only [report, runPending_withLoads]
        | beginLoad reload => contradiction
        | finishLoad ticket result => contradiction
      have hafter : (s.withLoads loads).after event = (s.after event).withLoads loads := by
        cases event with
        | dispatch task => rfl
        | runPending => simp only [after, runPending_withLoads]
        | beginLoad reload => contradiction
        | finishLoad ticket result => contradiction
      simp only [observe]
      rw [hreport, hafter, ih (s.after event) hevents]
      rfl

/-! ## What a load leaves of the past -/

/-- Idle sessions with the same layout that take over the same relations differ at most in how
many loads have begun. -/
theorem accept_eq_withLoads {s t : Session} (hs : s.queue = []) (ht : t.queue = [])
    (layout : s.selection.layout = t.selection.layout) (data : Dataset) :
    { s.accept data with hasGraph := false } =
      withLoads { t.accept data with hasGraph := false } s.loads := by
  have hreset : s.selection.reset = t.selection.reset := by
    unfold Selection.reset
    rw [layout]
  -- the zones come from the new relations and the reset selection, the rest is replaced
  simp only [accept, sync, candidates, relations, withLoads]
  rw [hreset, hs, ht]

/-- A load that succeeds erases the past: whatever has happened to two sessions, if both are
idle and have the same layout, and then both take over the same documents with their latest
ticket, any sequence of tasks that are put into the queue and run has the same outcomes and
leads to the same selections and the same zones. -/
theorem observe_after_reload (history history' : List SessionEvent)
    (idle : (ofHistory history).queue = []) (idle' : (ofHistory history').queue = [])
    (layout : (ofHistory history).selection.layout = (ofHistory history').selection.layout)
    {ticket ticket' : LoadTicket} (latest : (issued history).head? = some ticket)
    (latest' : (issued history').head? = some ticket') (docs : Documents)
    (later : List SessionEvent) (tasks : ∀ event ∈ later, event.concernsTasks = true) :
    ((ofHistory history).finishLoad ticket (.ok docs)).1.observe later =
      ((ofHistory history').finishLoad ticket' (.ok docs)).1.observe later := by
  have hfinish : ((ofHistory history).finishLoad ticket (.ok docs)).1 =
      { (ofHistory history).accept (Dataset.ofDocuments docs) with hasGraph := false } := by
    simp [finishLoad, isCurrent_of_head? latest]
  have hfinish' : ((ofHistory history').finishLoad ticket' (.ok docs)).1 =
      { (ofHistory history').accept (Dataset.ofDocuments docs) with hasGraph := false } := by
    simp [finishLoad, isCurrent_of_head? latest']
  rw [hfinish, hfinish', accept_eq_withLoads idle idle' layout]
  exact observe_withLoads _ _ tasks

/-- A zone has been selected and drawn, landing tables have been hidden, and a reload begins. -/
def reloadBegun : List SessionEvent :=
  .beginLoad true :: .runPending :: .dispatch (.act (.setHideLanding true)) :: zoneSelected

/-- Two relations, one of them from a landing table. -/
def reloadedDocuments : Documents :=
  ⟨[.ofFields "lz.estatico" "*" "proceso.p" "*", .ofFields "proceso.p" "*" "proceso.q" "*"], []⟩

/-- Choose a zone and have it drawn. -/
def chooseAndRun : List SessionEvent :=
  [.dispatch (.act (.selectZone (.named "proceso"))), .runPending]

/-- After the same load, a session with a graph and hidden landing tables goes on like one to
which nothing has happened before: running the task draws the same graph in both. -/
theorem observe_reloadBegun :
    (ofHistory reloadBegun).queue = [] ∧ (ofHistory reloadBegun).hasGraph = true ∧
    (ofHistory reloadBegun).selection.hideLanding = true ∧
    (((ofHistory [.beginLoad false]).finishLoad ⟨1, false⟩ (.ok reloadedDocuments)).1.observe
      chooseAndRun).map (fun o => o.outcome.map Outcome.hasGraph) = [none, some true] ∧
    ((ofHistory reloadBegun).finishLoad ⟨2, true⟩ (.ok reloadedDocuments)).1.observe chooseAndRun =
      ((ofHistory [.beginLoad false]).finishLoad ⟨1, false⟩ (.ok reloadedDocuments)).1.observe
        chooseAndRun := by
  have idle : (ofHistory reloadBegun).queue = [] := by decide +kernel
  have layout : (ofHistory reloadBegun).selection.layout =
      (ofHistory [.beginLoad false]).selection.layout := by decide +kernel
  refine ⟨idle, by decide +kernel, by decide +kernel, by decide +kernel, ?_⟩
  exact observe_after_reload reloadBegun [.beginLoad false] idle rfl layout rfl rfl
    reloadedDocuments chooseAndRun (by decide)

end Session

end Provenance
