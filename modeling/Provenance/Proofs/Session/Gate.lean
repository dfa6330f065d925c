import Provenance.Proofs.Session.Choices
import Provenance.Proofs.Session.Draining

/-!
# The gate to the graph

Nothing is drawn before a zone or a table has been chosen.  Every action opens or closes the
gate by a rule of its own, and matching the selection with the zones may take away the very
choice that opened it.  This module shows that the gate never disagrees with the selection,
whatever happens, and that it stays closed until something is chosen.

Main results:

- Theorem `Session.gateAgrees_ofHistory`: the gate agrees with the selection after every
  history.
- Theorem `Session.unchosen_after`: what does not choose leaves nothing chosen.
- Theorem `Session.run_eq_prompt_iff`: a task that shows what is selected prompts exactly if
  neither a zone nor a table is chosen.
- Theorem `Session.withholds_of_mem_outcomesOf`: no relations are shown while nothing is chosen.
-/

namespace Provenance

/-- Whether an action chooses a zone or a table. -/
def Action.chooses : Action → Bool
  | .selectZone _ | .selectTable _ => true
  | .setLevel _ | .setShowAll _ | .setHideLanding _ | .setLayout _ => false

def Task.chooses : Task → Bool
  | .act action => action.chooses
  | .resetView | .render => false

/-- Whether a task that chooses a zone or a table is put into the queue. -/
def SessionEvent.chooses : SessionEvent → Bool
  | .dispatch task => task.chooses
  | .runPending | .beginLoad _ | .finishLoad _ _ => false

/-- An outcome tells nothing of the relations: neither a graph nor that there is none. -/
structure Outcome.Withholds (outcome : Outcome) : Prop where
  noGraph : ∀ scene, outcome ≠ .draw scene
  noCount : ∀ total, outcome ≠ .noMatches total

namespace Session

/-! ## The gate agrees with the selection -/

/-- An action keeps the gate in agreement with what is chosen. -/
theorem gateAgrees_act {s : Session} (h : s.selection.GateAgrees) (action : Action) :
    (s.act action).selection.GateAgrees := by
  unfold act
  split <;> rename_i hsync
  · exact Selection.gateAgrees_synced (Selection.zone_apply_of_not_ready h) _
  · exact Selection.gateAgrees_apply_of_not_requiresSync h (Bool.eq_false_iff.2 hsync)

/-- A task keeps the gate in agreement with what is chosen. -/
theorem gateAgrees_run {s : Session} (h : s.selection.GateAgrees) (task : Task) :
    (s.run task).1.selection.GateAgrees := by
  rw [selection_run]
  cases task with
  | act action => exact gateAgrees_act h action
  | resetView => exact h
  | render => exact h

/-- With new relations the gate agrees with what is chosen. -/
theorem gateAgrees_accept (s : Session) (data : Dataset) :
    (s.accept data).selection.GateAgrees :=
  Selection.gateAgrees_synced (s := s.selection.reset) (fun _ => rfl) _

/-- An event keeps the gate in agreement with what is chosen. -/
theorem gateAgrees_after {s : Session} (h : s.selection.GateAgrees) (event : SessionEvent) :
    (s.after event).selection.GateAgrees := by
  cases event with
  | dispatch task => exact h
  | runPending =>
      exact runAll_induction (P := fun s => s.selection.GateAgrees)
        (fun _ task hs => gateAgrees_run hs task) (s := { s with queue := [] }) h s.queue
  | beginLoad reload => exact h
  | finishLoad ticket result =>
      rcases s.finishLoad_cases ticket result with
        ⟨-, hfinish⟩ | ⟨-, docs, -, hfinish⟩ | ⟨-, _, -, hfinish⟩
      · rw [after, hfinish]
        exact h
      · rw [after, hfinish]
        exact s.gateAgrees_accept (Dataset.ofDocuments docs)
      · rw [after, hfinish]
        exact h

/-- The gate agrees with the selection after every history. -/
theorem gateAgrees_ofHistory (history : List SessionEvent) :
    (ofHistory history).selection.GateAgrees :=
  ofHistory_induction (P := fun s => s.selection.GateAgrees)
    (Selection.gateAgrees_reset Selection.initial) (fun _ event h => gateAgrees_after h event)
    history

/-! ## Prompts -/

/-- Whether a task shows what is selected, rather than arranging the graph that is there. -/
def renders (s : Session) : Task → Bool
  | .act action => action.requiresRefilter || !s.hasGraph
  | .resetView => false
  | .render => true

/-- A task that shows what is selected makes its choice and renders. -/
theorem runTask_of_renders {s : Session} {task : Task} (h : s.renders task = true) :
    s.runTask task = (s.choose task).render := by
  cases task with
  | act action =>
      obtain ⟨selection, zones, hact⟩ := s.act_frame action
      simp only [renders, Bool.or_eq_true, Bool.not_eq_true'] at h
      simp only [runTask]
      rw [if_neg]
      · rfl
      · rcases h with hrefilter | hgraph
        · simp [hrefilter]
        · simp [hact, hgraph]
  | resetView => contradiction
  | render => rfl

/-- With relations to show, the user is prompted exactly while the gate is closed. -/
theorem render_eq_prompt_iff {s : Session} (hdata : s.data.isSome = true) :
    s.render.2 = some .prompt ↔ s.selection.isGated = true := by
  obtain ⟨data, hdata⟩ := Option.isSome_iff_exists.1 hdata
  simp only [render, hdata]
  split
  · rename_i hgated
    simp [hgated]
  · rename_i hopen
    simp only [draw, hopen]
    split <;> simp

/-- A choice leaves the relations alone. -/
theorem data_choose (s : Session) (task : Task) : (s.choose task).data = s.data := by
  cases task with
  | act action =>
      obtain ⟨_, _, h⟩ := s.act_frame action
      rw [choose, h]
  | resetView => rfl
  | render => rfl

/-- With relations to show, a task that shows what is selected prompts exactly if neither a zone
nor a table is chosen after it. -/
theorem run_eq_prompt_iff {s : Session} (gate : s.selection.GateAgrees)
    (hdata : s.data.isSome = true) {task : Task} (hrenders : s.renders task = true) :
    (s.run task).2 = some .prompt ↔
      (s.run task).1.selection.zone = .all ∧ (s.run task).1.selection.table = .all := by
  rw [← Selection.isGated_iff (gateAgrees_run gate task), selection_run, snd_run,
    runTask_of_renders hrenders, render_eq_prompt_iff]
  rwa [data_choose]

/-! ## Before anything is chosen -/

/-- Neither a zone nor a table is chosen, and no waiting task is going to choose one. -/
structure Unchosen (s : Session) : Prop where
  gate : s.selection.GateAgrees
  zone : s.selection.zone = .all
  table : s.selection.table = .all
  queue : ∀ task ∈ s.queue, task.chooses = false

theorem Unchosen.isGated {s : Session} (h : s.Unchosen) : s.selection.isGated = true :=
  (Selection.isGated_iff h.gate).2 ⟨h.zone, h.table⟩

/-- Without its waiting tasks a session has chosen no more than before. -/
theorem unchosen_emptied {s : Session} (h : s.Unchosen) : Unchosen { s with queue := [] } where
  gate := h.gate
  zone := h.zone
  table := h.table
  queue := by simp

/-- New relations leave nothing chosen. -/
theorem unchosen_accept (s : Session) (data : Dataset)
    (hqueue : ∀ task ∈ s.queue, task.chooses = false) : (s.accept data).Unchosen where
  gate := s.gateAgrees_accept data
  zone := rfl
  table := rfl
  queue := hqueue

/-- An action that does not choose leaves nothing chosen. -/
theorem unchosen_act {s : Session} (h : s.Unchosen) {action : Action}
    (hchooses : action.chooses = false) : (s.act action).Unchosen := by
  have hzone : (s.selection.apply action).zone = .all := by
    cases action with
    | setLevel level => rfl
    | setShowAll on => exact h.zone
    | setHideLanding on => exact h.zone
    | setLayout layout => exact h.zone
    | _ => contradiction
  have hqueue : (s.act action).queue = s.queue := by
    obtain ⟨_, _, hact⟩ := s.act_frame action
    rw [hact]
  have hselection : (s.act action).selection.zone = .all ∧
      (s.act action).selection.table = .all := by
    unfold act
    split <;> rename_i hsync
    · simp only [sync]
      rw [Selection.synced_of_all (by rw [hzone]; rfl)]
      exact ⟨rfl, rfl⟩
    · cases action with
      | setLayout layout => exact ⟨h.zone, h.table⟩
      | selectTable table => contradiction
      | _ => simp [Action.requiresSync] at hsync
  exact ⟨gateAgrees_act h.gate action, hselection.1, hselection.2, hqueue ▸ h.queue⟩

/-- A task that chooses nothing leaves nothing chosen. -/
theorem unchosen_run {s : Session} (h : s.Unchosen) {task : Task}
    (hchooses : task.chooses = false) : (s.run task).1.Unchosen := by
  have hchosen : (s.choose task).Unchosen := by
    cases task with
    | act action => exact unchosen_act h hchooses
    | resetView => exact h
    | render => exact h
  obtain ⟨cache, hasGraph, hrun⟩ := s.run_frame_choose task
  rw [hrun]
  exact ⟨hchosen.gate, hchosen.zone, hchosen.table, hchosen.queue⟩

/-- Tasks that choose nothing leave nothing chosen. -/
theorem unchosen_runAll {s : Session} (h : s.Unchosen) {tasks : List Task}
    (hchooses : ∀ task ∈ tasks, task.chooses = false) : (s.runAll tasks).1.Unchosen := by
  induction tasks generalizing s with
  | nil => exact h
  | cons task tasks ih =>
      simp only [runAll]
      obtain ⟨htask, htasks⟩ := List.forall_mem_cons.1 hchooses
      exact ih (unchosen_run h htask) htasks

/-- What does not choose leaves nothing chosen. -/
theorem unchosen_after {s : Session} (h : s.Unchosen) {event : SessionEvent}
    (hchooses : event.chooses = false) : (s.after event).Unchosen := by
  cases event with
  | dispatch task =>
      refine ⟨h.gate, h.zone, h.table, ?_⟩
      intro waiting hwaiting
      rcases List.mem_append.1 hwaiting with hwaiting | hwaiting
      · exact h.queue waiting hwaiting
      · rw [List.mem_singleton.1 hwaiting]
        exact hchooses
  | runPending => exact unchosen_runAll (unchosen_emptied h) h.queue
  | beginLoad reload => exact ⟨h.gate, h.zone, h.table, h.queue⟩
  | finishLoad ticket result =>
      rcases s.finishLoad_cases ticket result with
        ⟨-, hfinish⟩ | ⟨-, docs, -, hfinish⟩ | ⟨-, _, -, hfinish⟩
      · rw [after, hfinish]
        exact h
      · rw [after, hfinish]
        have haccept := s.unchosen_accept (Dataset.ofDocuments docs) h.queue
        exact ⟨haccept.gate, haccept.zone, haccept.table, haccept.queue⟩
      · rw [after, hfinish]
        exact ⟨h.gate, h.zone, h.table, h.queue⟩

/-- As long as no event chooses anything, nothing is chosen. -/
theorem unchosen_ofHistory_append {history : List SessionEvent}
    (h : (ofHistory history).Unchosen) {later : List SessionEvent}
    (hchooses : ∀ event ∈ later, event.chooses = false) :
    (ofHistory (later ++ history)).Unchosen := by
  induction later with
  | nil => exact h
  | cons event later ih =>
      obtain ⟨hevent, hlater⟩ := List.forall_mem_cons.1 hchooses
      exact unchosen_after (ih hlater) hevent

/-! ## Nothing is shown -/

/-- All outcomes of an event, also those that are not reported because another one follows. -/
def outcomesOf (s : Session) : SessionEvent → List Outcome
  | .runPending => outcomes { s with queue := [] } s.queue
  | .finishLoad ticket result => (s.finishLoad ticket result).2.toList
  | .dispatch _ | .beginLoad _ => []

/-- Behind the gate nothing is told of the relations. -/
theorem withholds_render {s : Session} (hgated : s.selection.isGated = true) {outcome : Outcome}
    (h : s.render.2 = some outcome) : outcome.Withholds := by
  unfold render at h
  split at h
  · contradiction
  · rw [if_pos hgated] at h
    cases h
    constructor <;> simp

/-- While nothing is chosen, a task that chooses nothing tells nothing of the relations. -/
theorem withholds_run {s : Session} (h : s.Unchosen) {task : Task}
    (hchooses : task.chooses = false) {outcome : Outcome}
    (houtcome : (s.run task).2 = some outcome) : outcome.Withholds := by
  rw [snd_run] at houtcome
  cases task with
  | act action =>
      simp only [runTask] at houtcome
      split at houtcome
      · cases houtcome
        constructor <;> simp
      · exact withholds_render (unchosen_act h hchooses).isGated houtcome
  | resetView =>
      simp only [runTask] at houtcome
      split at houtcome
      · cases houtcome
        constructor <;> simp
      · contradiction
  | render => exact withholds_render h.isGated houtcome

/-- While nothing is chosen, tasks that choose nothing tell nothing of the relations. -/
theorem withholds_of_mem_outcomes {s : Session} (h : s.Unchosen) {tasks : List Task}
    (hchooses : ∀ task ∈ tasks, task.chooses = false) {outcome : Outcome}
    (hmem : outcome ∈ s.outcomes tasks) : outcome.Withholds := by
  induction tasks generalizing s with
  | nil => simp [outcomes] at hmem
  | cons task tasks ih =>
      obtain ⟨htask, htasks⟩ := List.forall_mem_cons.1 hchooses
      rcases List.mem_append.1 hmem with hfirst | hlater
      · exact withholds_run h htask (Option.mem_toList.1 hfirst)
      · exact ih (unchosen_run h htask) htasks hlater

/-- While nothing is chosen, no event shows relations. -/
theorem withholds_of_mem_outcomesOf {s : Session} (h : s.Unchosen) {event : SessionEvent}
    {outcome : Outcome} (hmem : outcome ∈ s.outcomesOf event) : outcome.Withholds := by
  cases event with
  | dispatch task => simp [outcomesOf] at hmem
  | runPending => exact withholds_of_mem_outcomes (unchosen_emptied h) h.queue hmem
  | beginLoad reload => simp [outcomesOf] at hmem
  | finishLoad ticket result =>
      rcases s.finishLoad_cases ticket result with
        ⟨-, hfinish⟩ | ⟨-, docs, -, hfinish⟩ | ⟨-, _, -, hfinish⟩
      · simp [outcomesOf, hfinish] at hmem
      · simp only [outcomesOf, hfinish, Option.toList_some, List.mem_singleton] at hmem
        subst hmem
        constructor <;> simp
      · simp only [outcomesOf, hfinish, Option.toList_some, List.mem_singleton] at hmem
        subst hmem
        constructor <;> simp

/-- After every history the gate is closed exactly while neither a zone nor a table is chosen,
and all tables are shown only within a zone.  With relations to show, a task that shows what is
selected prompts exactly if neither is chosen after it.  And while neither is chosen and no
waiting task chooses one, no later event draws a graph or tells that nothing matches before a
task that chooses is put into the queue. -/
theorem gate_exact (history : List SessionEvent) :
    ((ofHistory history).selection.isGated = true ↔
      (ofHistory history).selection.zone = .all ∧ (ofHistory history).selection.table = .all) ∧
    ((ofHistory history).selection.zone = .all →
      (ofHistory history).selection.showAll = false) ∧
    (∀ task, (ofHistory history).data.isSome = true → (ofHistory history).renders task = true →
      (((ofHistory history).run task).2 = some .prompt ↔
        ((ofHistory history).run task).1.selection.zone = .all ∧
          ((ofHistory history).run task).1.selection.table = .all)) ∧
    ((ofHistory history).selection.zone = .all → (ofHistory history).selection.table = .all →
      (∀ task ∈ (ofHistory history).queue, task.chooses = false) →
      ∀ later : List SessionEvent, (∀ event ∈ later, event.chooses = false) →
        ∀ event, ∀ outcome ∈ (ofHistory (later ++ history)).outcomesOf event,
          (∀ scene, outcome ≠ .draw scene) ∧ ∀ total, outcome ≠ .noMatches total) := by
  have gate := gateAgrees_ofHistory history
  refine ⟨Selection.isGated_iff gate, gate.withinZone, ?_, ?_⟩
  · intro task hdata hrenders
    exact run_eq_prompt_iff gate hdata hrenders
  · intro hzone htable hqueue later hlater event outcome houtcome
    have hunchosen : (ofHistory (later ++ history)).Unchosen :=
      unchosen_ofHistory_append ⟨gate, hzone, htable, hqueue⟩ hlater
    have hwithholds := withholds_of_mem_outcomesOf hunchosen houtcome
    exact ⟨hwithholds.noGraph, hwithholds.noCount⟩

/-- Asking for all tables before there is a zone prompts for one. -/
theorem prompt_of_showAll_oneRelationLoaded :
    (ofHistory oneRelationLoaded).data.isSome = true ∧
    (ofHistory oneRelationLoaded).renders (.act (.setShowAll true)) = true ∧
    ((ofHistory oneRelationLoaded).run (.act (.setShowAll true))).2 = some .prompt := by
  have hdata : (ofHistory oneRelationLoaded).data.isSome = true := rfl
  have hrenders : (ofHistory oneRelationLoaded).renders (.act (.setShowAll true)) = true := rfl
  refine ⟨hdata, hrenders, ?_⟩
  refine ((gate_exact oneRelationLoaded).2.2.1 _ hdata hrenders).2 ?_
  decide +kernel

end Session

end Provenance
