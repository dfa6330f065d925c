import Provenance.Proofs.Session.Gate
import Provenance.Proofs.Session.Loads

/-!
# A load that fails

When a load fails, the graph is taken off the screen and nothing else changes.  This module
shows that no harm is done: the graph that was shown can be had again by rendering, or by choosing
a layout.  For this, the graph that the session takes to be shown has to be the one that the
relations and the selection give, at every time and not only when it was drawn.

A session takes every outcome to be shown, also one that is not reported because another one
follows at once.  A view has only what is reported to it, so that the two may differ.

Main results:

- Theorem `Session.shows_ofHistory`: after every history the graph that the session takes to be
  shown is the one that rendering would give.
- Theorem `Session.seen_eq_presumed`: a view that sees what is reported has this graph, if tasks
  are run one at a time.
- Theorems `Session.render_of_shows` and `Session.setLayout_of_shows`: when no graph is taken to be
  shown any more, the same graph is drawn again.
-/

namespace Provenance

namespace Session

/-! ## The graph that is taken to be shown -/

/-- The graph that the session takes to be shown after a history.  Every outcome counts, also one
that is not reported because another one follows at once. -/
def presumed : List SessionEvent → Option Scene
  | [] => none
  | event :: earlier => shownAfterAll (presumed earlier) ((ofHistory earlier).outcomesOf event)

/-- The graph that a view shows after a history if it sees what is reported. -/
def seen : List SessionEvent → Option Scene
  | [] => none
  | event :: earlier => shownAfter (seen earlier) ((ofHistory earlier).report event)

/-- Whenever tasks are run, there is at most one. -/
def OneAtATime : List SessionEvent → Prop
  | [] => True
  | .runPending :: earlier => (ofHistory earlier).queue.length ≤ 1 ∧ OneAtATime earlier
  | _ :: earlier => OneAtATime earlier

/-- At most one outcome is the same as all outcomes. -/
theorem shownAfterAll_toList (shown : Option Scene) (outcome : Option Outcome) :
    shownAfterAll shown outcome.toList = shownAfter shown outcome := by
  cases outcome <;> rfl

/-- Tasks that are run one after the other keep what is taken to be shown in agreement with the
session. -/
theorem shows_runAll {s : Session} {shown : Option Scene} (fresh : s.Fresh) (h : s.Shows shown)
    (tasks : List Task) :
    (s.runAll tasks).1.Shows (shownAfterAll shown (s.outcomes tasks)) := by
  induction tasks generalizing s shown with
  | nil => exact h
  | cons task tasks ih =>
      simp only [runAll, outcomes]
      rw [shownAfterAll_append, shownAfterAll_toList]
      exact ih (fresh_run fresh task) (shows_run fresh h task)

/-- After every history the graph that the session takes to be shown is the one that rendering
would give. -/
theorem shows_ofHistory (history : List SessionEvent) :
    (ofHistory history).Shows (presumed history) := by
  induction history with
  | nil => exact shows_none rfl
  | cons event earlier ih =>
      have fresh : (ofHistory earlier).Fresh := fresh_ofHistory earlier
      -- neither waiting tasks nor a load that begins change what is shown
      cases event with
      | dispatch task => exact ⟨ih.hasGraph, ih.current⟩
      | runPending =>
          have hshows : Shows { ofHistory earlier with queue := [] } (presumed earlier) :=
            ⟨ih.hasGraph, ih.current⟩
          exact shows_runAll (fresh_emptied fresh) hshows (ofHistory earlier).queue
      | beginLoad reload => exact ⟨ih.hasGraph, ih.current⟩
      | finishLoad ticket result =>
          simp only [presumed, outcomesOf]
          rw [shownAfterAll_toList]
          exact shows_finishLoad ih ticket result

/-- With at most one task to run, all outcomes are reported. -/
theorem outcomesOf_eq_toList_report {s : Session} {event : SessionEvent}
    (h : event = .runPending → s.queue.length ≤ 1) :
    s.outcomesOf event = (s.report event).toList := by
  cases event with
  | dispatch task => rfl
  | runPending =>
      have hlength : s.queue.length ≤ 1 := h rfl
      simp only [outcomesOf, report, runPending]
      cases hqueue : s.queue with
      | nil => rfl
      | cons task tasks =>
          have htasks : tasks = [] := by
            rw [hqueue, List.length_cons] at hlength
            exact List.eq_nil_of_length_eq_zero (by omega)
          rw [htasks]
          simp [outcomes, runAll]
  | beginLoad reload => rfl
  | finishLoad ticket result => rfl

/-- A view that sees what is reported shows the graph that the session takes to be shown, if tasks
are run one at a time. -/
theorem seen_eq_presumed {history : List SessionEvent} (h : OneAtATime history) :
    seen history = presumed history := by
  induction history with
  | nil => rfl
  | cons event earlier ih =>
      have hearlier : OneAtATime earlier := by
        cases event with
        | runPending => exact h.2
        | _ => exact h
      have hone : event = .runPending → (ofHistory earlier).queue.length ≤ 1 := by
        rintro rfl
        exact h.1
      simp only [seen, presumed]
      rw [outcomesOf_eq_toList_report hone, shownAfterAll_toList, ih hearlier]

/-! ## Drawing it again -/

section Torn

variable {s : Session} {scene : Scene} (fresh : s.Fresh) (h : s.Shows (some scene))

include fresh h

/-- Rendering draws what was shown, also when the screen has been cleared. -/
theorem render_of_shows :
    (run { s with hasGraph := false } .render).2 =
      some (.draw { scene with layout := s.selection.layout }) := by
  have hcache : CacheFresh { s with hasGraph := false } := fresh.cache
  rw [snd_run]
  exact (snd_render hcache).trans (h.current scene rfl)

/-- When the screen has been cleared, choosing a layout draws what was shown in this layout. -/
theorem setLayout_of_shows (layout : LayoutMode) :
    (run { s with hasGraph := false } (.act (.setLayout layout))).2 =
      some (.draw { scene with layout := layout }) := by
  have hfresh : Fresh { s with hasGraph := false } := ⟨fresh.zones, fresh.cache⟩
  have hcache := (fresh_act hfresh (.setLayout layout)).cache
  -- without a graph there is nothing to arrange, so that choosing a layout renders
  rw [snd_run, runTask_of_renders rfl]
  exact (snd_render hcache).trans (renderAfresh_layout (h.current scene rfl) layout)

end Torn

/-- A load that fails is harmless.  If it was begun last, it takes the graph off the screen and
changes nothing else; and if the session took a graph to be shown, rendering or choosing a layout
draws the same graph again, of as many relations.  A view that sees what is reported had this
graph, if tasks were run one at a time. -/
theorem failed_load_harmless (history : List SessionEvent) (idle : (ofHistory history).queue = [])
    {ticket : LoadTicket} (latest : (issued history).head? = some ticket)
    (failure : LoadFailure) :
    (ofHistory history).finishLoad ticket (.error failure) =
      ({ ofHistory history with hasGraph := false },
        some (.loadFailed failure.message Details.loadErrorHint)) ∧
    (ofHistory history).hasGraph = (presumed history).isSome ∧
    (OneAtATime history → seen history = presumed history) ∧
    ∀ scene, presumed history = some scene →
      (((ofHistory history).finishLoad ticket (.error failure)).1.dispatch .render).runPending.2 =
        some (.draw { scene with layout := (ofHistory history).selection.layout }) ∧
      ∀ layout,
        (((ofHistory history).finishLoad ticket (.error failure)).1.dispatch
            (.act (.setLayout layout))).runPending.2 =
          some (.draw { scene with layout := layout }) := by
  have fresh : (ofHistory history).Fresh := fresh_ofHistory history
  have hshows : (ofHistory history).Shows (presumed history) := shows_ofHistory history
  have hfinish : (ofHistory history).finishLoad ticket (.error failure) =
      ({ ofHistory history with hasGraph := false },
        some (.loadFailed failure.message Details.loadErrorHint)) := by
    simp [finishLoad, isCurrent_of_head? latest]
  have hidle : Session.queue { ofHistory history with hasGraph := false } = [] := idle
  refine ⟨hfinish, hshows.hasGraph, seen_eq_presumed, ?_⟩
  intro scene hscene
  rw [hscene] at hshows
  rw [hfinish]
  constructor
  · rw [runPending_dispatch hidle]
    exact render_of_shows fresh hshows
  · intro layout
    rw [runPending_dispatch hidle]
    exact setLayout_of_shows fresh hshows layout

/-- A graph has been drawn and arranged anew, and two reloads have begun. -/
def reloadsBegun : List SessionEvent :=
  .beginLoad true :: .beginLoad true :: .runPending ::
    .dispatch (.act (.setLayout .freeFlow)) :: zoneSelected

/-- When the latest reload fails, the graph is drawn again in the layout that it had last. -/
theorem failed_load_reloadsBegun :
    (ofHistory reloadsBegun).queue = [] ∧ (issued reloadsBegun).head? = some ⟨3, true⟩ ∧
    OneAtATime reloadsBegun ∧
    ∃ scene, seen reloadsBegun = some scene ∧
      (((ofHistory reloadsBegun).finishLoad ⟨3, true⟩
          (.error (.http 404 "fields.json"))).1.dispatch .render).runPending.2 =
        some (.draw { scene with layout := .freeFlow }) := by
  have idle : (ofHistory reloadsBegun).queue = [] := by decide +kernel
  have hone : OneAtATime reloadsBegun := by
    refine ⟨by decide +kernel, ?_⟩
    exact ⟨by decide +kernel, trivial⟩
  have hlayout : (ofHistory reloadsBegun).selection.layout = .freeFlow := by decide +kernel
  have hgraph : (presumed reloadsBegun).isSome = true := by decide +kernel
  obtain ⟨scene, hscene⟩ := Option.isSome_iff_exists.1 hgraph
  obtain ⟨-, -, hseen, hdraw⟩ := failed_load_harmless reloadsBegun idle rfl
    (.http 404 "fields.json")
  refine ⟨idle, rfl, hone, scene, (hseen hone).trans hscene, ?_⟩
  rw [← hlayout]
  exact (hdraw scene hscene).1

end Session

end Provenance
