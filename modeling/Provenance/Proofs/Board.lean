import Provenance.Board
import Provenance.Proofs.Session.Rendering

/-!
# A board never shows what is out of date

A board shows the outcome of every task and of every load.  Some outcomes keep what is
shown, some replace it and some remove it, and a load may be overtaken by another one.
This module shows that after every sequence of events the scene and the details are those
of the session as it is now.

Main results:

- Theorem `Board.faithful_runTask`: tasks keep scene and details in step with the session.
- Theorem `Board.faithful_ofHistory`: so does everything else that happens to a board.
-/

namespace Provenance

/-- Something that happens to a board. -/
inductive BoardEvent where
  | runTask (task : Task)
  | beginLoad (reload : Bool)
  | finishLoad (ticket : LoadTicket) (result : Except LoadFailure Documents)
  | select (id : Option String)

namespace Board

/-- The board after an event. -/
def after (b : Board) : BoardEvent → Board
  | .runTask task => (b.runTask task).1
  | .beginLoad reload => (b.beginLoad reload).1
  | .finishLoad ticket result => (b.finishLoad ticket result).1
  | .select id => b.select id

/-- The board that a history leads to; the latest event of the history comes first. -/
def ofHistory : List BoardEvent → Board
  | [] => initial
  | event :: earlier => (ofHistory earlier).after event

/-! ## Applying outcomes -/

/-- What the board makes of an outcome leaves the session alone. -/
@[simp]
theorem session_apply (b : Board) (outcome : Option Outcome) :
    (b.apply outcome).session = b.session := by
  cases outcome with
  | none => rfl
  | some outcome => cases outcome <;> rfl

/-- The scene of a board is what a view of the session shows. -/
@[simp]
theorem scene_apply (b : Board) (outcome : Option Outcome) :
    (b.apply outcome).scene = Session.shownAfter b.scene outcome := by
  cases outcome with
  | none => rfl
  | some outcome => cases outcome <;> rfl

/-- The details of a board are empty, the report of a failed load while there is no scene,
or they describe something in the scene. -/
def DetailsFit (b : Board) : Prop :=
  b.details = none ∨
  (b.scene = none ∧
    ∃ failure : LoadFailure, b.details = some (Details.loadError failure.message)) ∨
  ∃ scene id, b.scene = some scene ∧ id ∈ scene.graph.ids ∧ b.details = scene.graph.describe id

/-- Details fit after every outcome whose report, if it has one, is that of a failed load. -/
theorem detailsFit_apply {b : Board} (h : b.DetailsFit) {outcome : Option Outcome}
    (hreport : ∀ message hint, outcome = some (.loadFailed message hint) →
      ∃ failure : LoadFailure, message = failure.message) : (b.apply outcome).DetailsFit := by
  cases outcome with
  | none => exact h
  | some outcome =>
      cases outcome with
      | relayout layout => exact h
      | loadFailed message hint =>
          obtain ⟨failure, rfl⟩ := hreport message hint rfl
          exact Or.inr (Or.inl ⟨rfl, failure, rfl⟩)
      | prompt => exact Or.inl rfl
      | noMatches total => exact Or.inl rfl
      | draw scene => exact Or.inl rfl
      | loaded reloaded => exact Or.inl rfl

/-- Selecting something gives the details of something in the scene, or none. -/
theorem detailsFit_select (b : Board) (id : Option String) : (b.select id).DetailsFit := by
  cases hdetails : (b.select id).details with
  | none => exact Or.inl hdetails
  | some details =>
      obtain ⟨id, rfl, hid⟩ := Option.bind_eq_some_iff.1 hdetails
      obtain ⟨scene, hscene, hdescribe⟩ := Option.bind_eq_some_iff.1 hid
      exact Or.inr (Or.inr ⟨scene, id, hscene, Graph.mem_ids_of_describe hdescribe,
        hdetails.trans hdescribe.symm⟩)

/-! ## The invariant -/

/-- What holds of every board: no task is waiting, the caches of the session are fresh, and
scene and details show the session as it is now. -/
structure Faithful (b : Board) : Prop where
  idle : b.session.queue = []
  fresh : b.session.Fresh
  shows : b.session.Shows b.scene
  details : b.DetailsFit

/-- A new board shows its session as it is. -/
theorem faithful_initial : initial.Faithful where
  idle := rfl
  fresh := Session.fresh_initial
  shows := Session.shows_none rfl
  details := Or.inl rfl

/-- A board without waiting tasks runs a task at once. -/
theorem runTask_of_idle {b : Board} (h : b.session.queue = []) (task : Task) :
    b.runTask task =
      ({ b with session := (b.session.run task).1 }.apply (b.session.run task).2,
        (b.session.run task).2) := by
  simp only [runTask, Session.runPending_dispatch h]

/-- A task keeps a board faithful. -/
theorem faithful_runTask {b : Board} (h : b.Faithful) (task : Task) :
    (b.runTask task).1.Faithful := by
  rw [runTask_of_idle h.idle]
  refine ⟨?_, ?_, ?_, ?_⟩
  · simpa using h.idle
  · simpa using Session.fresh_run h.fresh task
  · simpa using Session.shows_run h.fresh h.shows task
  · apply detailsFit_apply
    · exact h.details
    · -- Tasks never fail to load: they arrange, do nothing, or render.
      intro message hint houtcome
      rcases Session.run_cases h.fresh task with ⟨layout, -, hrun⟩ | ⟨-, hrun⟩ | ⟨hrender, -⟩
      · simp [hrun] at houtcome
      · simp [hrun] at houtcome
      · rw [houtcome] at hrender
        rcases Session.renderAfresh_some_cases hrender.symm with
          hcase | ⟨_, hcase⟩ | ⟨_, hcase, -⟩
        · contradiction
        · contradiction
        · contradiction

/-- A load that ends keeps a board faithful. -/
theorem faithful_finishLoad {b : Board} (h : b.Faithful) (ticket : LoadTicket)
    (result : Except LoadFailure Documents) : (b.finishLoad ticket result).1.Faithful := by
  simp only [finishLoad]
  refine ⟨?_, ?_, ?_, ?_⟩
  · simpa using h.idle
  · simpa using Session.fresh_finishLoad h.fresh ticket result
  · simpa using Session.shows_finishLoad h.shows ticket result
  · apply detailsFit_apply
    · exact h.details
    · intro message hint houtcome
      rcases b.session.finishLoad_cases ticket result with
        ⟨-, hfinish⟩ | ⟨-, _, -, hfinish⟩ | ⟨-, failure, -, hfinish⟩
      · simp [hfinish] at houtcome
      · simp [hfinish] at houtcome
      · simp only [hfinish, Option.some.injEq, Outcome.loadFailed.injEq] at houtcome
        exact ⟨failure, houtcome.1.symm⟩

/-- An event keeps a board faithful. -/
theorem faithful_after {b : Board} (h : b.Faithful) (event : BoardEvent) :
    (b.after event).Faithful := by
  cases event with
  | runTask task => exact faithful_runTask h task
  | beginLoad reload =>
      exact ⟨h.idle, ⟨h.fresh.zones, h.fresh.cache⟩, ⟨h.shows.hasGraph, h.shows.current⟩,
        h.details⟩
  | finishLoad ticket result => exact faithful_finishLoad h ticket result
  | select id => exact ⟨h.idle, h.fresh, h.shows, b.detailsFit_select id⟩

/-- The invariant holds after every history. -/
theorem faithful_ofHistory (history : List BoardEvent) : (ofHistory history).Faithful := by
  induction history with
  | nil => exact faithful_initial
  | cons event earlier ih => exact faithful_after ih event

/-- After every history a board has a scene exactly if its session has a graph; rendering
would draw this scene again, in some layout; and the details are empty, the report of a
failed load while there is no scene, or those of something in the scene. -/
theorem scene_and_details_current (history : List BoardEvent) :
    ((ofHistory history).scene.isSome = true ↔ (ofHistory history).session.hasGraph = true) ∧
    (∀ scene, (ofHistory history).scene = some scene →
      ∃ layout, ((ofHistory history).runTask .render).2 =
        some (.draw { scene with layout := layout })) ∧
    ((ofHistory history).details = none ∨
      ((ofHistory history).scene = none ∧
        ∃ failure : LoadFailure,
          (ofHistory history).details = some (Details.loadError failure.message)) ∨
      ∃ scene id, (ofHistory history).scene = some scene ∧ id ∈ scene.graph.ids ∧
        (ofHistory history).details = scene.graph.describe id) := by
  have faithful := faithful_ofHistory history
  refine ⟨?_, ?_, faithful.details⟩
  · rw [faithful.shows.hasGraph]
  · intro scene hscene
    refine ⟨(ofHistory history).session.selection.layout, ?_⟩
    rw [runTask_of_idle faithful.idle, Session.snd_run]
    exact (Session.snd_render faithful.fresh.cache).trans (faithful.shows.current scene hscene)

end Board

end Provenance
