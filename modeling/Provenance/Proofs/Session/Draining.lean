import Provenance.Proofs.Session.Rendering

/-!
# Running tasks together and one at a time

Tasks that wait in the queue are run together, and only the last of their outcomes is
reported.  An outcome may be relative: to arrange the graph in a layout is to keep the graph
that is there.  So a view that shows the reported outcome may miss a graph that an earlier
task has drawn.  This module says exactly when it does.

Main results:

- Theorem `Session.snd_runAll`: running tasks together reports the last of their outcomes.
- Theorem `Session.shownAfterAll_of_relayout`: tasks that end by arranging the graph leave
  the graph that was drawn last.
- Theorem `Session.shownAfterAll_of_ne_relayout`: tasks that end otherwise show what their last
  outcome shows.
-/

namespace Provenance

/-- The scene that an outcome draws. -/
def Outcome.scene? : Outcome → Option Scene
  | .draw scene => some scene
  | _ => none

/-- The scene that was drawn last. -/
def lastDrawn : List Outcome → Option Scene
  | [] => none
  | outcome :: later => (lastDrawn later).or outcome.scene?

namespace Session

/-! ## The outcomes of tasks -/

/-- The outcomes of tasks that are run one after the other. -/
def outcomes (s : Session) : List Task → List Outcome
  | [] => []
  | task :: tasks => (s.run task).2.toList ++ (s.run task).1.outcomes tasks

/-- Running tasks together reports the last of their outcomes. -/
theorem snd_runAll (s : Session) (tasks : List Task) :
    (s.runAll tasks).2 = (s.outcomes tasks).getLast? := by
  induction tasks generalizing s with
  | nil => rfl
  | cons task tasks ih =>
      simp only [runAll, outcomes]
      rw [List.getLast?_append, ih]
      cases (s.run task).2 <;> rfl

/-- Rendering never asks to arrange the graph that is there. -/
theorem render_ne_relayout (s : Session) (layout : LayoutMode) :
    s.render.2 ≠ some (.relayout layout) := by
  unfold render
  split
  · simp
  · split
    · simp
    · simp only [draw]
      split <;> simp

/-- A graph is arranged in a layout only if there is one. -/
theorem hasGraph_of_run_eq_relayout {s : Session} {task : Task} {layout : LayoutMode}
    (h : (s.run task).2 = some (.relayout layout)) : s.hasGraph = true := by
  rw [snd_run] at h
  cases task with
  | act action =>
      simp only [runTask] at h
      split at h
      · rename_i hrelayout
        obtain ⟨selection, zones, hact⟩ := s.act_frame action
        rw [hact, Bool.and_eq_true] at hrelayout
        exact hrelayout.2
      · exact absurd h (render_ne_relayout _ layout)
  | resetView =>
      simp only [runTask] at h
      split at h
      · assumption
      · contradiction
  | render => exact absurd h (render_ne_relayout _ layout)

/-- A task tells by its outcome whether there is a graph afterwards. -/
theorem hasGraph_run (s : Session) (task : Task) :
    (s.run task).1.hasGraph = ((s.run task).2.map Outcome.hasGraph).getD s.hasGraph := by
  obtain ⟨selection, zones, cache, htask⟩ := s.runTask_frame task
  unfold run
  split <;> rename_i heq
  · rfl
  · rw [heq] at htask
    subst htask
    rfl

/-! ## Two ways to show tasks -/

/-- Put tasks into the queue, one behind the other. -/
def dispatchAll (s : Session) (tasks : List Task) : Session := tasks.foldl dispatch s

/-- Put all tasks into the queue, run them together and show the outcome. -/
def showTogether (s : Session) (shown : Option Scene) (tasks : List Task) :
    Session × Option Scene :=
  let (s, outcome) := (s.dispatchAll tasks).runPending
  (s, shownAfter shown outcome)

/-- Put one task into the queue, run it and show its outcome before the next one. -/
def showEach (s : Session) (shown : Option Scene) : List Task → Session × Option Scene
  | [] => (s, shown)
  | task :: tasks =>
    let (s, outcome) := (s.dispatch task).runPending
    s.showEach (shownAfter shown outcome) tasks

/-- What a view shows after outcomes that are shown one by one. -/
def shownAfterAll (shown : Option Scene) (outcomes : List Outcome) : Option Scene :=
  outcomes.foldl (fun shown outcome => shownAfter shown (some outcome)) shown

theorem shownAfterAll_cons (shown : Option Scene) (outcome : Outcome) (later : List Outcome) :
    shownAfterAll shown (outcome :: later) =
      shownAfterAll (shownAfter shown (some outcome)) later :=
  rfl

/-- Outcomes are shown one after the other. -/
theorem shownAfterAll_append (shown : Option Scene) (earlier later : List Outcome) :
    shownAfterAll shown (earlier ++ later) =
      shownAfterAll (shownAfterAll shown earlier) later :=
  List.foldl_append

/-- Tasks are put behind those that are waiting already. -/
theorem dispatchAll_eq (s : Session) (tasks : List Task) :
    s.dispatchAll tasks = { s with queue := s.queue ++ tasks } := by
  induction tasks generalizing s with
  | nil => simp [dispatchAll]
  | cons task tasks ih =>
      calc
        s.dispatchAll (task :: tasks) = (s.dispatch task).dispatchAll tasks := rfl
        _ = { s with queue := s.queue ++ task :: tasks } := by
          rw [ih]
          simp [dispatch]

section Idle

variable {s : Session} (idle : s.queue = [])

include idle

/-- Tasks that are put into an empty queue are run in their order. -/
theorem runPending_dispatchAll (tasks : List Task) :
    (s.dispatchAll tasks).runPending = s.runAll tasks := by
  have hs : { s with queue := [] } = s := by
    rw [← idle]
  rw [dispatchAll_eq, idle, List.nil_append]
  exact congrArg (fun t => runAll t tasks) hs

/-- Run together, tasks show the last of their outcomes only. -/
theorem showTogether_eq (shown : Option Scene) (tasks : List Task) :
    s.showTogether shown tasks =
      ((s.runAll tasks).1, shownAfter shown (s.outcomes tasks).getLast?) := by
  rw [showTogether, runPending_dispatchAll idle, ← snd_runAll]

/-- Run one by one, tasks show all of their outcomes. -/
theorem showEach_eq (shown : Option Scene) (tasks : List Task) :
    s.showEach shown tasks =
      ((s.runAll tasks).1, shownAfterAll shown (s.outcomes tasks)) := by
  induction tasks generalizing s shown with
  | nil => rfl
  | cons task tasks ih =>
      have idle' : (s.run task).1.queue = [] := by
        rw [queue_run, idle]
      simp only [showEach, runPending_dispatch idle, runAll, outcomes, shownAfterAll_append]
      rw [ih idle']
      cases (s.run task).2 <;> rfl

end Idle

/-! ## The graph that was drawn last -/

/-- Without a graph to begin with, a graph is arranged only after one has been drawn. -/
theorem lastDrawn_isSome_of_relayout {s : Session} (hgraph : s.hasGraph = false)
    {tasks : List Task} {layout : LayoutMode}
    (hlast : (s.outcomes tasks).getLast? = some (.relayout layout)) :
    (lastDrawn (s.outcomes tasks)).isSome = true := by
  induction tasks generalizing s with
  | nil => simp [outcomes] at hlast
  | cons task tasks ih =>
      have hflag := s.hasGraph_run task
      simp only [outcomes] at hlast ⊢
      cases houtcome : (s.run task).2 with
      | none =>
          rw [houtcome] at hlast hflag
          exact ih (hflag.trans hgraph) hlast
      | some outcome =>
          rw [houtcome] at hlast hflag
          have hne : ∀ layout, outcome ≠ .relayout layout := by
            rintro layout rfl
            rw [hasGraph_of_run_eq_relayout houtcome] at hgraph
            contradiction
          simp only [Option.toList_some, List.singleton_append, lastDrawn]
          cases hscene : outcome.scene? with
          | some scene => simp
          | none =>
              rw [Option.or_none]
              -- Neither drawn nor arranged: there is still no graph.
              have hflag' : (s.run task).1.hasGraph = false := by
                rw [hflag]
                cases outcome with
                | draw scene => simp [Outcome.scene?] at hscene
                | relayout layout => exact absurd rfl (hne layout)
                | _ => rfl
              apply ih hflag'
              rw [Option.toList_some, List.singleton_append, List.getLast?_cons] at hlast
              cases hlater : ((s.run task).1.outcomes tasks).getLast? with
              | none =>
                  rw [hlater] at hlast
                  exact absurd (Option.some.inj hlast) (hne layout)
              | some last =>
                  rw [hlater] at hlast
                  exact hlast

/-- Tasks that end by arranging the graph leave the graph that they have drawn last, or the
one from before. -/
theorem shownAfterAll_of_relayout {s : Session} {tasks : List Task} {layout : LayoutMode}
    (hlast : (s.outcomes tasks).getLast? = some (.relayout layout)) (shown : Option Scene) :
    shownAfterAll shown (s.outcomes tasks) = (lastDrawn (s.outcomes tasks)).or shown := by
  induction tasks generalizing s shown with
  | nil => simp [outcomes] at hlast
  | cons task tasks ih =>
      have hflag := s.hasGraph_run task
      simp only [outcomes] at hlast ⊢
      cases houtcome : (s.run task).2 with
      | none =>
          rw [houtcome] at hlast
          exact ih hlast shown
      | some outcome =>
          rw [houtcome] at hlast hflag
          rw [Option.toList_some, List.singleton_append, List.getLast?_cons] at hlast
          simp only [Option.toList_some, List.singleton_append, shownAfterAll_cons, lastDrawn]
          cases hlater : ((s.run task).1.outcomes tasks).getLast? with
          | none =>
              rw [hlater] at hlast
              cases hlast
              rw [List.getLast?_eq_none_iff.1 hlater]
              rfl
          | some last =>
              rw [hlater] at hlast
              cases hlast
              rw [ih hlater]
              cases outcome with
              | draw scene => cases lastDrawn ((s.run task).1.outcomes tasks) <;> rfl
              | relayout other => cases lastDrawn ((s.run task).1.outcomes tasks) <;> rfl
              | _ =>
                  -- The graph is gone, so that there must be a later one to arrange.
                  have hsome := lastDrawn_isSome_of_relayout hflag hlater
                  obtain ⟨scene, hscene⟩ := Option.isSome_iff_exists.1 hsome
                  rw [hscene]
                  rfl

/-- Tasks that do not end by arranging the graph show the same whether their outcomes are shown
one by one or only the last one is. -/
theorem shownAfterAll_of_ne_relayout {outcomes : List Outcome}
    (hlast : ∀ layout, outcomes.getLast? ≠ some (.relayout layout)) (shown : Option Scene) :
    shownAfterAll shown outcomes = shownAfter shown outcomes.getLast? := by
  rcases List.eq_nil_or_concat outcomes with rfl | ⟨earlier, outcome, rfl⟩
  · rfl
  · rw [List.concat_eq_append] at hlast ⊢
    rw [List.getLast?_concat] at hlast ⊢
    rw [shownAfterAll_append]
    cases outcome with
    | relayout layout => exact absurd rfl (hlast layout)
    | _ => rfl

/-- Tasks that are run together lead to the same session as tasks that are run one at a time.
A view that shows the reported outcome shows the same graph as a view that shows every outcome,
unless the report is to arrange a graph and the graph drawn last is not the one that was shown
before. -/
theorem graph_showTogether_eq_iff {s : Session} (idle : s.queue = []) (shown : Option Scene)
    (tasks : List Task) :
    (s.showTogether shown tasks).1 = (s.showEach shown tasks).1 ∧
    ((s.showTogether shown tasks).2.map Scene.graph =
        (s.showEach shown tasks).2.map Scene.graph ↔
      ∀ layout scene, (s.dispatchAll tasks).runPending.2 = some (.relayout layout) →
        lastDrawn (s.outcomes tasks) = some scene →
        shown.map Scene.graph = some scene.graph) := by
  rw [showTogether_eq idle, showEach_eq idle, runPending_dispatchAll idle, snd_runAll]
  refine ⟨rfl, ?_⟩
  dsimp only
  by_cases hlast : ∃ layout, (s.outcomes tasks).getLast? = some (.relayout layout)
  · obtain ⟨layout, hlast⟩ := hlast
    rw [shownAfterAll_of_relayout hlast, hlast]
    cases lastDrawn (s.outcomes tasks) with
    | none => simp [shownAfter]
    | some scene => simp [shownAfter]
  · have hlast' : ∀ layout, (s.outcomes tasks).getLast? ≠ some (.relayout layout) :=
      fun layout h => hlast ⟨layout, h⟩
    rw [shownAfterAll_of_ne_relayout hlast']
    simp [hlast']

/-- A document with one relation has been loaded. -/
def oneRelationLoaded : List SessionEvent :=
  [.finishLoad ⟨1, false⟩
      (.ok ⟨[{ sourceTable := some (.str "s_bani.a"), targetTable := some (.str "resultados.b"),
               sourceField := some (.str "*"), targetField := some (.str "*") }], []⟩),
    .beginLoad false]

/-- The only zone has been selected, which draws its graph. -/
def zoneSelected : List SessionEvent :=
  .runPending :: .dispatch (.act (.selectZone (.named "resultados"))) :: oneRelationLoaded

/-- The graph that is shown when the only zone has been selected. -/
def zoneShown : Option Scene :=
  lastDrawn
    ((ofHistory oneRelationLoaded).outcomes [.act (.selectZone (.named "resultados"))])

/-- A graph that is drawn once more and then arranged was shown before, so that nothing is
missed. -/
theorem graph_showTogether_drawnBefore :
    (ofHistory zoneSelected).queue = [] ∧
    ((ofHistory zoneSelected).dispatchAll [.render, .resetView]).runPending.2 =
      some (.relayout .columns) ∧
    ((ofHistory zoneSelected).showTogether zoneShown [.render, .resetView]).2.map Scene.graph =
      ((ofHistory zoneSelected).showEach zoneShown [.render, .resetView]).2.map
        Scene.graph := by
  have idle : (ofHistory zoneSelected).queue = [] := by decide +kernel
  have hdrawn : lastDrawn ((ofHistory zoneSelected).outcomes [.render, .resetView]) =
      zoneShown := by decide +kernel
  refine ⟨idle, by decide +kernel, ?_⟩
  refine (graph_showTogether_eq_iff idle zoneShown [.render, .resetView]).2.2 ?_
  intro layout scene _ hscene
  rw [← hdrawn, hscene]
  rfl

/-- Select a zone, which draws its graph, and then have the graph arranged anew. -/
def selectAndReset : List Task :=
  [.act (.selectZone (.named "resultados")), .resetView]

/-- When a zone is selected and the view is reset together, the view stays empty although the
session has a graph. -/
theorem showTogether_selectAndReset :
    (ofHistory oneRelationLoaded).queue = [] ∧ (ofHistory oneRelationLoaded).Shows none ∧
    ((ofHistory oneRelationLoaded).showTogether none selectAndReset).1.hasGraph = true ∧
    ((ofHistory oneRelationLoaded).showTogether none selectAndReset).2 = none ∧
    ((ofHistory oneRelationLoaded).showEach none selectAndReset).2.isSome = true :=
  ⟨rfl, shows_none rfl, by decide +kernel, by decide +kernel, by decide +kernel⟩

end Session

end Provenance
