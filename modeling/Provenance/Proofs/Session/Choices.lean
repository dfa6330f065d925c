import Provenance.Proofs.Session.Rendering

/-!
# Sessions whose selection fits

The selectors offer zones and tables that depend on the selection and on the zones that there
are, and both change with tasks and with loads.  The selection is matched with the zones after
some actions only.  This module shows that it fits the zones nevertheless, as long as the user
does what the selectors offer.

Main results:

- Theorem `Session.run_frame_choose`: of the selection and the zones, a task changes what its
  action changes.
- Theorem `Session.fits_run`: a task that is offered keeps the selection in agreement with the
  zones.
- Theorem `Session.fits_ofHistory`: after every history in which tasks are run only while they
  are offered, the selection fits the zones.
-/

namespace Provenance

namespace Session

/-! ## What a task chooses -/

/-- The session after the action of a task, before anything is shown. -/
def choose (s : Session) : Task → Session
  | .act action => s.act action
  | .resetView | .render => s

/-- Of a session, a task changes what its action changes, the cached index and whether there is
a graph. -/
theorem run_frame_choose (s : Session) (task : Task) :
    ∃ cache hasGraph,
      (s.run task).1 = { s.choose task with cache := cache, hasGraph := hasGraph } := by
  have htask : ∃ cache, (s.runTask task).1 = { s.choose task with cache := cache } := by
    cases task with
    | act action =>
        simp only [runTask]
        split
        · exact ⟨_, rfl⟩
        · exact (s.act action).render_frame
    | resetView => exact ⟨_, rfl⟩
    | render => exact s.render_frame
  obtain ⟨cache, htask⟩ := htask
  unfold run
  split <;> rename_i heq
  · rw [heq] at htask
    subst htask
    exact ⟨_, _, rfl⟩
  · rw [heq] at htask
    subst htask
    exact ⟨_, _, rfl⟩

/-- A task changes the selection by its choice only. -/
@[simp]
theorem selection_run (s : Session) (task : Task) :
    (s.run task).1.selection = (s.choose task).selection := by
  obtain ⟨_, _, h⟩ := s.run_frame_choose task
  rw [h]

@[simp]
theorem zones_run (s : Session) (task : Task) :
    (s.run task).1.zones = (s.choose task).zones := by
  obtain ⟨_, _, h⟩ := s.run_frame_choose task
  rw [h]

/-! ## Doing what is offered -/

/-- Whether the selectors let the user have a task done.  The view can always be reset and
shown again. -/
def Offers (s : Session) : Task → Prop
  | .act action => (Selectors.build s.selection s.zones).Offers action
  | .resetView | .render => True

/-- Whether every one of the tasks is offered when its turn comes. -/
def OffersInTurn (s : Session) : List Task → Prop
  | [] => True
  | task :: tasks => s.Offers task ∧ (s.run task).1.OffersInTurn tasks

/-- A history in which every task was offered at the moment it was run.  Loads begin and are
finished at any time. -/
def Guided : List SessionEvent → Prop
  | [] => True
  | .runPending :: earlier =>
    OffersInTurn { ofHistory earlier with queue := [] } (ofHistory earlier).queue ∧
      Guided earlier
  | .dispatch _ :: earlier | .beginLoad _ :: earlier | .finishLoad _ _ :: earlier =>
    Guided earlier

instance (s : Session) : DecidablePred s.Offers
  | .act action =>
    inferInstanceAs (Decidable ((Selectors.build s.selection s.zones).Offers action))
  | .resetView | .render => isTrue trivial

instance instDecidableOffersInTurn (s : Session) : DecidablePred s.OffersInTurn
  | [] => isTrue trivial
  | task :: tasks =>
    have := instDecidableOffersInTurn (s.run task).1 tasks
    inferInstanceAs (Decidable (s.Offers task ∧ (s.run task).1.OffersInTurn tasks))

instance instDecidableGuided : DecidablePred Guided
  | [] => isTrue trivial
  | .runPending :: earlier =>
    have := instDecidableGuided earlier
    inferInstanceAs (Decidable (_ ∧ Guided earlier))
  | .dispatch _ :: earlier | .beginLoad _ :: earlier | .finishLoad _ _ :: earlier =>
    instDecidableGuided earlier

/-! ## The selection goes on fitting -/

/-- After synchronizing, the selection fits the zones. -/
theorem fits_sync (s : Session) : s.sync.selection.Fits s.sync.zones :=
  Selection.fits_synced s.selection _

/-- An action that is offered keeps the selection in agreement with the zones. -/
theorem fits_act {s : Session} (fresh : s.Fresh) (h : s.selection.Fits s.zones)
    {action : Action} (hoffers : (Selectors.build s.selection s.zones).Offers action) :
    (s.act action).selection.Fits (s.act action).zones := by
  unfold act
  split <;> rename_i hsync
  · exact fits_sync _
  · cases action with
    | selectTable table =>
        have proper : s.zones.Proper := by
          rw [fresh.zones]
          exact ZoneIndex.proper_build s.candidates
        exact Selection.fits_selectTable proper hoffers
    | setLayout layout => exact Selection.fits_setLayout h layout
    | _ => simp [Action.requiresSync] at hsync

/-- A task that is offered keeps the selection in agreement with the zones. -/
theorem fits_run {s : Session} (fresh : s.Fresh) (h : s.selection.Fits s.zones) {task : Task}
    (hoffers : s.Offers task) : (s.run task).1.selection.Fits (s.run task).1.zones := by
  rw [selection_run, zones_run]
  cases task with
  | act action => exact fits_act fresh h hoffers
  | resetView => exact h
  | render => exact h

/-- Tasks that choose from what is offered keep the selection fitting. -/
theorem fits_runAll {s : Session} (fresh : s.Fresh) (h : s.selection.Fits s.zones)
    {tasks : List Task} (hoffers : s.OffersInTurn tasks) :
    (s.runAll tasks).1.selection.Fits (s.runAll tasks).1.zones := by
  induction tasks generalizing s with
  | nil => exact h
  | cons task tasks ih =>
      simp only [runAll]
      exact ih (fresh_run fresh task) (fits_run fresh h hoffers.1) hoffers.2

/-- A load leaves the selection alone or begins a new one, which is matched with the new
zones. -/
theorem fits_finishLoad {s : Session} (h : s.selection.Fits s.zones) (ticket : LoadTicket)
    (result : Except LoadFailure Documents) :
    (s.finishLoad ticket result).1.selection.Fits (s.finishLoad ticket result).1.zones := by
  rcases s.finishLoad_cases ticket result with
    ⟨-, hfinish⟩ | ⟨-, docs, -, hfinish⟩ | ⟨-, _, -, hfinish⟩
  · rw [hfinish]
    exact h
  · rw [hfinish]
    have haccept : (s.accept (Dataset.ofDocuments docs)).selection.Fits
        (s.accept (Dataset.ofDocuments docs)).zones := fits_sync _
    exact haccept
  · rw [hfinish]
    exact h

/-- If every choice is made from what is offered, the selection fits the zones. -/
theorem fits_ofHistory {history : List SessionEvent} (guided : Guided history) :
    (ofHistory history).selection.Fits (ofHistory history).zones := by
  induction history with
  | nil =>
      constructor
      · exact fun _ => ⟨rfl, rfl⟩
      · intro zone hzone
        contradiction
  | cons event earlier ih =>
      cases event with
      | dispatch task => exact ih guided
      | runPending =>
          obtain ⟨hoffers, guided⟩ := guided
          have fresh := fresh_ofHistory earlier
          have hempty : Fresh { ofHistory earlier with queue := [] } :=
            ⟨fresh.zones, fresh.cache⟩
          exact fits_runAll hempty (ih guided) hoffers
      | beginLoad reload => exact ih guided
      | finishLoad ticket result => exact fits_finishLoad (ih guided) ticket result

/-- After every history in which tasks are run only while the selectors offer them, matching
the selection with the zones leaves it alone.  In other words: without a zone there is no table
and not all tables are shown; a zone is one of those that there are; and within a zone all
start tables are shown or one of them is chosen, or there are none, and then no table is. -/
theorem selection_fits_of_guided {history : List SessionEvent} (guided : Guided history) :
    (ofHistory history).selection.synced (ofHistory history).zones =
        (ofHistory history).selection ∧
      (ofHistory history).selection.Fits (ofHistory history).zones :=
  ⟨Selection.synced_eq_self_iff.2 (fits_ofHistory guided), fits_ofHistory guided⟩

/-- A zone and one of its start tables have been chosen, and then the landing tables are hidden,
so that the table is gone. -/
def tableHidden : List SessionEvent :=
  [.runPending, .dispatch (.act (.setHideLanding true)),
    .runPending, .dispatch (.act (.selectTable (.named "resultados.b"))),
    .runPending, .dispatch (.act (.selectZone (.named "resultados"))),
    .finishLoad ⟨1, false⟩
      (.ok ⟨[{ sourceTable := some (.str "lz.estatico.a"),
               targetTable := some (.str "resultados.b"),
               sourceField := some (.str "*"), targetField := some (.str "*") },
             { sourceTable := some (.str "s_bani.c"), targetTable := some (.str "resultados.d"),
               sourceField := some (.str "*"), targetField := some (.str "*") }], []⟩),
    .beginLoad false]

/-- When the chosen table is gone, the selection fits with the one that takes its place. -/
theorem selection_fits_tableHidden :
    Guided tableHidden ∧
    (ofHistory tableHidden).selection.table = .named "resultados.d" ∧
    (ofHistory tableHidden).selection.synced (ofHistory tableHidden).zones =
      (ofHistory tableHidden).selection ∧
    (ofHistory tableHidden).selection.Fits (ofHistory tableHidden).zones := by
  have guided : Guided tableHidden := by decide +kernel
  have htable : (ofHistory tableHidden).selection.table = .named "resultados.d" := by
    decide +kernel
  exact ⟨guided, htable, selection_fits_of_guided guided⟩

end Session

end Provenance
