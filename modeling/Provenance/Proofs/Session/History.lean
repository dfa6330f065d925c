import Provenance.Session

/-!
# Histories of a session

Whatever happens to a session is an event: a task is put into the queue, the waiting tasks
are run, a load begins, or a load is finished.  A history is a list of events, the latest
one first, and every history leads to a session.

This module says which parts of a session each step leaves alone, and how a property of
sessions is carried along tasks and histories.

Main results:

- Theorem `Session.runPending_frame`: tasks change neither the relations nor the count of
  loads.
- Theorem `Session.ofHistory_induction`: what holds at the beginning and is kept by events
  holds after every history.
-/

namespace Provenance

/-- Something that happens to a session. -/
inductive SessionEvent where
  | dispatch (task : Task)
  | runPending
  | beginLoad (reload : Bool)
  | finishLoad (ticket : LoadTicket) (result : Except LoadFailure Documents)

namespace Session

/-! ## What a step leaves alone -/

/-- An action changes the selection and the zones. -/
theorem act_frame (s : Session) (action : Action) :
    ∃ selection zones, s.act action = { s with selection := selection, zones := zones } := by
  unfold act
  split
  · exact ⟨_, _, rfl⟩
  · exact ⟨_, _, rfl⟩

/-- Showing what is selected changes the cached index. -/
theorem render_frame (s : Session) : ∃ cache, s.render.1 = { s with cache := cache } := by
  unfold render
  split
  · exact ⟨_, rfl⟩
  · split
    · exact ⟨_, rfl⟩
    · exact ⟨_, rfl⟩

/-- A task changes nothing but the selection and the caches. -/
theorem runTask_frame (s : Session) (task : Task) :
    ∃ selection zones cache,
      (s.runTask task).1 =
        { s with selection := selection, zones := zones, cache := cache } := by
  cases task with
  | act action =>
      obtain ⟨selection, zones, hact⟩ := s.act_frame action
      simp only [runTask]
      split
      · exact ⟨selection, zones, s.cache, hact⟩
      · obtain ⟨cache, hrender⟩ := (s.act action).render_frame
        rw [hrender, hact]
        exact ⟨selection, zones, cache, rfl⟩
  | resetView => exact ⟨_, _, _, rfl⟩
  | render =>
      obtain ⟨cache, hrender⟩ := s.render_frame
      exact ⟨_, _, cache, hrender⟩

/-- A task that is run changes nothing but the selection, the caches and what is shown. -/
theorem run_frame (s : Session) (task : Task) :
    ∃ selection zones cache hasGraph,
      (s.run task).1 =
        { s with
          selection := selection, zones := zones, cache := cache, hasGraph := hasGraph } := by
  obtain ⟨selection, zones, cache, htask⟩ := s.runTask_frame task
  unfold run
  split <;> rename_i h
  · rw [h] at htask
    subst htask
    exact ⟨_, _, _, _, rfl⟩
  · rw [h] at htask
    subst htask
    exact ⟨_, _, _, _, rfl⟩

/-- Tasks that are run change nothing but the selection, the caches and what is shown. -/
theorem runAll_frame (s : Session) (tasks : List Task) :
    ∃ selection zones cache hasGraph,
      (s.runAll tasks).1 =
        { s with
          selection := selection, zones := zones, cache := cache, hasGraph := hasGraph } := by
  induction tasks generalizing s with
  | nil => exact ⟨_, _, _, _, rfl⟩
  | cons task tasks ih =>
      obtain ⟨_, _, _, _, hrun⟩ := s.run_frame task
      obtain ⟨selection, zones, cache, hasGraph, hall⟩ := ih (s.run task).1
      refine ⟨selection, zones, cache, hasGraph, ?_⟩
      simp only [runAll]
      rw [hall, hrun]

/-- Running the waiting tasks empties the queue.  The relations and the count of loads stay. -/
theorem runPending_frame (s : Session) :
    ∃ selection zones cache hasGraph,
      s.runPending.1 =
        { s with
          queue := []
          selection := selection, zones := zones, cache := cache, hasGraph := hasGraph } :=
  runAll_frame { s with queue := [] } s.queue

/-- A task leaves the relations alone. -/
@[simp]
theorem data_run (s : Session) (task : Task) : (s.run task).1.data = s.data := by
  obtain ⟨_, _, _, _, h⟩ := s.run_frame task
  rw [h]

/-- A task leaves the waiting tasks alone. -/
@[simp]
theorem queue_run (s : Session) (task : Task) : (s.run task).1.queue = s.queue := by
  obtain ⟨_, _, _, _, h⟩ := s.run_frame task
  rw [h]

/-- Waiting tasks leave the relations alone. -/
@[simp]
theorem data_runPending (s : Session) : s.runPending.1.data = s.data := by
  obtain ⟨_, _, _, _, h⟩ := s.runPending_frame
  rw [h]

/-- Waiting tasks begin no load. -/
@[simp]
theorem loads_runPending (s : Session) : s.runPending.1.loads = s.loads := by
  obtain ⟨_, _, _, _, h⟩ := s.runPending_frame
  rw [h]

/-- A task that is put into an empty queue is run at once. -/
theorem runPending_dispatch {s : Session} (h : s.queue = []) (task : Task) :
    (s.dispatch task).runPending = s.run task := by
  have hs : { s with queue := [] } = s := by
    rw [← h]
  calc
    (s.dispatch task).runPending = runAll { s with queue := [] } (s.queue ++ [task]) := rfl
    _ = runAll s [task] := by rw [hs, h, List.nil_append]
    _ = s.run task := by simp [runAll]

/-- What finishing a load can do: nothing if the ticket is an old one, take over new
relations, or remove the graph because the load has failed. -/
theorem finishLoad_cases (s : Session) (ticket : LoadTicket)
    (result : Except LoadFailure Documents) :
    (s.loads.isCurrent ticket = false ∧ s.finishLoad ticket result = (s, none)) ∨
    (s.loads.isCurrent ticket = true ∧ ∃ docs, result = .ok docs ∧
      s.finishLoad ticket result =
        ({ s.accept (Dataset.ofDocuments docs) with hasGraph := false },
          some (.loaded ticket.reload))) ∨
    (s.loads.isCurrent ticket = true ∧ ∃ failure, result = .error failure ∧
      s.finishLoad ticket result =
        ({ s with hasGraph := false },
          some (.loadFailed failure.message Details.loadErrorHint))) := by
  cases hcurrent : s.loads.isCurrent ticket with
  | false => exact Or.inl ⟨rfl, by simp [finishLoad, hcurrent]⟩
  | true =>
      cases result with
      | ok docs => exact Or.inr (Or.inl ⟨rfl, docs, rfl, by simp [finishLoad, hcurrent]⟩)
      | error failure =>
          exact Or.inr (Or.inr ⟨rfl, failure, rfl, by simp [finishLoad, hcurrent]⟩)

/-- A load that ends begins no other one. -/
@[simp]
theorem loads_finishLoad (s : Session) (ticket : LoadTicket)
    (result : Except LoadFailure Documents) :
    (s.finishLoad ticket result).1.loads = s.loads := by
  rcases s.finishLoad_cases ticket result with ⟨-, h⟩ | ⟨-, _, -, h⟩ | ⟨-, _, -, h⟩ <;>
    exact congrArg (fun r => r.1.loads) h

/-- A load that ends leaves the waiting tasks alone. -/
@[simp]
theorem queue_finishLoad (s : Session) (ticket : LoadTicket)
    (result : Except LoadFailure Documents) :
    (s.finishLoad ticket result).1.queue = s.queue := by
  rcases s.finishLoad_cases ticket result with ⟨-, h⟩ | ⟨-, _, -, h⟩ | ⟨-, _, -, h⟩ <;>
    exact congrArg (fun r => r.1.queue) h

/-! ## Histories -/

/-- The session after an event. -/
def after (s : Session) : SessionEvent → Session
  | .dispatch task => s.dispatch task
  | .runPending => s.runPending.1
  | .beginLoad reload => (s.beginLoad reload).1
  | .finishLoad ticket result => (s.finishLoad ticket result).1

/-- What an event reports to the view. -/
def report (s : Session) : SessionEvent → Option Outcome
  | .runPending => s.runPending.2
  | .finishLoad ticket result => (s.finishLoad ticket result).2
  | .dispatch _ | .beginLoad _ => none

/-- The session that a history leads to. -/
def ofHistory : List SessionEvent → Session
  | [] => initial
  | event :: earlier => (ofHistory earlier).after event

/-- What every task keeps is kept by a list of tasks. -/
theorem runAll_induction {P : Session → Prop} (hrun : ∀ s task, P s → P (s.run task).1)
    {s : Session} (h : P s) (tasks : List Task) : P (s.runAll tasks).1 := by
  induction tasks generalizing s with
  | nil => exact h
  | cons task tasks ih =>
      simp only [runAll]
      exact ih (hrun s task h)

/-- What holds at the beginning and is kept by every event holds after every history. -/
theorem ofHistory_induction {P : Session → Prop} (hinitial : P initial)
    (hafter : ∀ s event, P s → P (s.after event)) (history : List SessionEvent) :
    P (ofHistory history) := by
  induction history with
  | nil => exact hinitial
  | cons event earlier ih => exact hafter _ event ih

end Session

end Provenance
