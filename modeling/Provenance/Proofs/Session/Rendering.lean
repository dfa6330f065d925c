import Provenance.Proofs.Selection
import Provenance.Proofs.Session.History

/-!
# Rendering with and without caches

A session keeps the zones of the relations to choose from, and an index of sources
together with the level and the flag it was built for.  Both are computed from the loaded
relations, and both have to follow the selection and the loads.  This module shows that
they always do, so that a session shows what it would show without any cache.

Main results:

- Theorem `Session.fresh_ofHistory`: zones and cached index agree with the relations after
  every history.
- Theorem `Session.snd_render`: the outcome of rendering is a function of the relations
  and the selection.
- Theorem `Session.run_cases`: every task arranges the graph anew, does nothing, or
  renders the session it leads to.
-/

namespace Provenance

/-! ## Level and landing tables -/

namespace Selection

/-- An action that does not call for synchronizing changes neither the level nor whether
landing tables are hidden. -/
theorem apply_of_not_requiresSync (s : Selection) {action : Action}
    (h : action.requiresSync = false) :
    (s.apply action).level = s.level ∧ (s.apply action).hideLanding = s.hideLanding := by
  cases action with
  | selectTable table => exact ⟨rfl, rfl⟩
  | setLayout layout => exact ⟨rfl, rfl⟩
  | _ => simp [Action.requiresSync] at h

/-- Which relations may be shown depends on whether landing tables are hidden and on nothing
else. -/
theorem visible_congr {s t : Selection} (h : s.hideLanding = t.hideLanding)
    (relations : List Relation) : s.visible relations = t.visible relations := by
  unfold visible shows
  rw [h]

/-- An index that was built for the selection picks what is picked without an index. -/
theorem pick_some_build (s : Selection) (relations : List Relation) :
    s.pick (some (SourceIndex.build s.hideLanding relations)) relations =
      s.pick none relations := by
  unfold pick
  split <;> rfl

end Selection

namespace Session

/-- The relations of a session are those of its data at the selected level. -/
theorem relations_of_data {s : Session} {data : Dataset} (h : s.data = some data) :
    s.relations = data.relations s.selection.level := by
  simp [relations, h]

/-- Which relations may be shown depends on the data, the level and the landing flag only. -/
theorem candidates_congr {s t : Session} (hdata : s.data = t.data)
    (hlevel : s.selection.level = t.selection.level)
    (hhide : s.selection.hideLanding = t.selection.hideLanding) :
    s.candidates = t.candidates := by
  unfold candidates relations
  rw [hdata, hlevel, Selection.visible_congr hhide]

@[simp]
theorem candidates_sync (s : Session) : s.sync.candidates = s.candidates :=
  candidates_congr rfl (Selection.level_synced _ _) (Selection.hideLanding_synced _ _)

/-! ## Caches that agree with the relations -/

/-- A cached index is the one of the loaded relations for its own level and flag. -/
def CacheFresh (s : Session) : Prop :=
  ∀ c, s.cache = some c →
    ∃ data, s.data = some data ∧
      c.index = SourceIndex.build c.hideLanding (data.relations c.level)

/-- Zones and cached index agree with the loaded relations and the selection. -/
structure Fresh (s : Session) : Prop where
  zones : s.zones = ZoneIndex.build s.candidates
  cache : s.CacheFresh

/-- In the beginning there is nothing that could be out of date. -/
theorem fresh_initial : initial.Fresh where
  zones := rfl
  cache := by
    intro c hc
    simp [initial] at hc

/-- Matching a session brings its zones up to date. -/
theorem fresh_sync {s : Session} (h : s.CacheFresh) : s.sync.Fresh where
  zones := by
    rw [candidates_sync]
    rfl
  cache := h

/-- An action keeps zones and cache up to date. -/
theorem fresh_act {s : Session} (h : s.Fresh) (action : Action) : (s.act action).Fresh := by
  unfold act
  split <;> rename_i hsync
  · exact fresh_sync h.cache
  · obtain ⟨hlevel, hhide⟩ := s.selection.apply_of_not_requiresSync (Bool.eq_false_iff.2 hsync)
    have hcandidates :
        candidates { s with selection := s.selection.apply action } = s.candidates :=
      candidates_congr rfl hlevel hhide
    refine ⟨?_, h.cache⟩
    rw [hcandidates]
    exact h.zones

/-- The index that is used for the selection is the one of the relations of its level. -/
theorem sourceIndex_eq {s : Session} (h : s.CacheFresh) :
    s.sourceIndex = SourceIndex.build s.selection.hideLanding s.relations := by
  unfold sourceIndex
  split
  · rename_i c hc
    split
    · rename_i hkey
      obtain ⟨data, hdata, hindex⟩ := h c hc
      rw [hindex, relations_of_data hdata, hkey.1, hkey.2]
    · rfl
  · rfl

/-- Rendering keeps zones and cache up to date. -/
theorem fresh_render {s : Session} (h : s.Fresh) : s.render.1.Fresh := by
  unfold render
  split
  · exact h
  · rename_i data hdata
    split
    · exact h
    · refine ⟨h.zones, ?_⟩
      intro c hc
      simp only [Option.some.injEq] at hc
      subst hc
      exact ⟨data, hdata, by rw [sourceIndex_eq h.cache, relations_of_data hdata]⟩

/-- A task keeps zones and cache up to date. -/
theorem fresh_runTask {s : Session} (h : s.Fresh) (task : Task) : (s.runTask task).1.Fresh := by
  cases task with
  | act action =>
      simp only [runTask]
      split
      · exact fresh_act h action
      · exact fresh_render (fresh_act h action)
  | resetView => exact h
  | render => exact fresh_render h

/-- A task that is run keeps zones and cache up to date. -/
theorem fresh_run {s : Session} (h : s.Fresh) (task : Task) : (s.run task).1.Fresh := by
  have htask := fresh_runTask h task
  unfold run
  split <;> rename_i heq
  · rw [heq] at htask
    exact ⟨htask.zones, htask.cache⟩
  · rw [heq] at htask
    exact htask

/-- With new relations zones and cache are up to date. -/
theorem fresh_accept (s : Session) (data : Dataset) : (s.accept data).Fresh := by
  apply fresh_sync
  intro c hc
  contradiction

/-- A load that ends keeps zones and cache up to date. -/
theorem fresh_finishLoad {s : Session} (h : s.Fresh) (ticket : LoadTicket)
    (result : Except LoadFailure Documents) : (s.finishLoad ticket result).1.Fresh := by
  rcases s.finishLoad_cases ticket result with
    ⟨-, hfinish⟩ | ⟨-, docs, -, hfinish⟩ | ⟨-, _, -, hfinish⟩
  · rw [hfinish]
    exact h
  · rw [hfinish]
    have haccept := s.fresh_accept (Dataset.ofDocuments docs)
    exact ⟨haccept.zones, haccept.cache⟩
  · rw [hfinish]
    exact ⟨h.zones, h.cache⟩

theorem fresh_emptied {s : Session} (h : s.Fresh) : Fresh { s with queue := [] } :=
  ⟨h.zones, h.cache⟩

/-- An event keeps zones and cache up to date. -/
theorem fresh_after {s : Session} (h : s.Fresh) (event : SessionEvent) :
    (s.after event).Fresh := by
  cases event with
  | dispatch task => exact ⟨h.zones, h.cache⟩
  | runPending =>
      exact runAll_induction (P := Fresh) (fun _ task hs => fresh_run hs task) (fresh_emptied h)
        s.queue
  | beginLoad reload => exact ⟨h.zones, h.cache⟩
  | finishLoad ticket result => exact fresh_finishLoad h ticket result

/-- Zones and cached index agree with the relations after every history. -/
theorem fresh_ofHistory (history : List SessionEvent) : (ofHistory history).Fresh :=
  ofHistory_induction fresh_initial (fun _ event h => fresh_after h event) history

/-! ## Rendering without caches -/

/-- What relations and a selection show when everything is computed anew: nothing without
relations, a prompt while nothing is selected, and otherwise the graph of the relations
picked, if there are any. -/
def renderAfresh (data : Option Dataset) (selection : Selection) : Option Outcome :=
  data.map fun data =>
    let relations := data.relations selection.level
    let picked := selection.pick none relations
    let total := (selection.visible relations).length
    if selection.isGated then .prompt
    else if picked.isEmpty then .noMatches total
    else .draw ⟨Graph.build selection.level picked, selection.layout, picked.length, total⟩

/-- A session with fresh caches shows what is shown without caches. -/
theorem snd_render {s : Session} (h : s.CacheFresh) :
    s.render.2 = renderAfresh s.data s.selection := by
  unfold render renderAfresh
  split
  · rename_i hdata
    rw [hdata]
    rfl
  · rename_i data hdata
    rw [hdata, Option.map_some]
    split
    · rfl
    · simp only [draw, candidates]
      rw [sourceIndex_eq h, Selection.pick_some_build, relations_of_data hdata]

theorem snd_run (s : Session) (task : Task) : (s.run task).2 = (s.runTask task).2 := by
  unfold run
  split <;> rename_i heq <;> rw [heq]

/-- A task that comes down to rendering a session has the outcome of this session without
caches. -/
theorem run_of_render {s t : Session} {task : Task} (htask : s.runTask task = t.render)
    (h : t.Fresh) :
    (s.run task).2 = renderAfresh t.data (s.run task).1.selection ∧
      (s.run task).1.hasGraph = ((s.run task).2.map Outcome.hasGraph).getD t.hasGraph := by
  obtain ⟨cache, hframe⟩ := t.render_frame
  have houtcome := snd_render h.cache
  unfold run
  rw [htask]
  cases hrender : t.render with
  | mk rendered outcome =>
      rw [hrender] at hframe houtcome
      subst hframe
      cases outcome with
      | none => exact ⟨houtcome, rfl⟩
      | some outcome => exact ⟨houtcome, rfl⟩

/-- What a task can do: arrange the graph that is there in a layout, nothing because there
is no graph, or render the session that it leads to. -/
theorem run_cases {s : Session} (h : s.Fresh) (task : Task) :
    (∃ layout, s.hasGraph = true ∧
      s.run task =
        ({ s with selection := { s.selection with layout := layout } },
          some (.relayout layout))) ∨
    (s.hasGraph = false ∧ s.run task = (s, none)) ∨
    ((s.run task).2 = renderAfresh s.data (s.run task).1.selection ∧
      (s.run task).1.hasGraph = ((s.run task).2.map Outcome.hasGraph).getD s.hasGraph) := by
  cases task with
  | act action =>
      obtain ⟨selection, zones, hact⟩ := s.act_frame action
      by_cases hrelayout : action.requiresRefilter = false ∧ s.hasGraph = true
      · left
        obtain ⟨hrefilter, hgraph⟩ := hrelayout
        cases action with
        | setLayout layout =>
            refine ⟨layout, hgraph, ?_⟩
            simp [run, runTask, act, Action.requiresSync, Action.requiresRefilter,
              Selection.apply, Outcome.hasGraph, hgraph]
        | _ => simp [Action.requiresRefilter] at hrefilter
      · right; right
        have htask : s.runTask (.act action) = (s.act action).render := by
          simp only [runTask]
          rw [if_neg]
          simpa [hact] using hrelayout
        have hrun := run_of_render htask (fresh_act h action)
        rw [hact] at hrun
        exact hrun
  | resetView =>
      cases hgraph : s.hasGraph with
      | false => exact Or.inr (Or.inl ⟨rfl, by simp [run, runTask, hgraph]⟩)
      | true =>
          left
          refine ⟨s.selection.layout, rfl, ?_⟩
          simp [run, runTask, hgraph, Outcome.hasGraph]
  | render => exact Or.inr (Or.inr (run_of_render rfl h))

/-- After every history the zones are those of the relations of the selected level without
hidden landing tables, a cached index has the sources of the loaded relations for its level
and flag, and rendering has the outcome that it has without caches. -/
theorem caches_agree_and_render_eq_afresh (history : List SessionEvent) :
    (ofHistory history).zones =
      ZoneIndex.build ((ofHistory history).relations.filter fun r =>
        !((ofHistory history).selection.hideLanding && isLanding r.sourceTable)) ∧
    (∀ c, (ofHistory history).cache = some c →
      ∃ data, (ofHistory history).data = some data ∧
        ∀ table, c.index.sourcesOf table =
          (SourceIndex.build c.hideLanding (data.relations c.level)).sourcesOf table) ∧
    ((ofHistory history).run .render).2 =
      renderAfresh (ofHistory history).data (ofHistory history).selection := by
  have fresh := fresh_ofHistory history
  refine ⟨fresh.zones, ?_, ?_⟩
  · intro c hc
    obtain ⟨data, hdata, hindex⟩ := fresh.cache c hc
    exact ⟨data, hdata, fun table => by rw [hindex]⟩
  · rw [snd_run]
    exact snd_render fresh.cache

/-! ## Views of a session -/

/-- What a view shows after an outcome: a new graph, the graph that was there before, or no
graph. -/
def shownAfter (shown : Option Scene) : Option Outcome → Option Scene
  | none | some (.relayout _) => shown
  | some (.draw scene) => some scene
  | some .prompt | some (.noMatches _) | some (.loaded _) | some (.loadFailed _ _) => none

/-- A view shows a graph exactly if the session says so, and this graph is the one that
rendering would give now.  The layout that the graph was drawn in may be an older one. -/
structure Shows (s : Session) (shown : Option Scene) : Prop where
  hasGraph : s.hasGraph = shown.isSome
  current : ∀ scene, shown = some scene →
    renderAfresh s.data s.selection = some (.draw { scene with layout := s.selection.layout })

/-- A session without a graph agrees with a view that shows none. -/
theorem shows_none {s : Session} (h : s.hasGraph = false) : s.Shows none where
  hasGraph := h
  current := by simp

/-- Rendering prompts, finds nothing, or draws in the selected layout. -/
theorem renderAfresh_some_cases {data : Option Dataset} {selection : Selection}
    {outcome : Outcome} (h : renderAfresh data selection = some outcome) :
    outcome = .prompt ∨ (∃ total, outcome = .noMatches total) ∨
      ∃ scene, outcome = .draw scene ∧ scene.layout = selection.layout := by
  obtain ⟨data, -, rfl⟩ := Option.map_eq_some_iff.1 h
  dsimp only
  split
  · exact Or.inl rfl
  · split
    · exact Or.inr (Or.inl ⟨_, rfl⟩)
    · exact Or.inr (Or.inr ⟨_, rfl, rfl⟩)

/-- Another layout changes the layout of the graph and nothing else. -/
theorem renderAfresh_layout {data : Option Dataset} {selection : Selection} {scene : Scene}
    (h : renderAfresh data selection = some (.draw scene)) (layout : LayoutMode) :
    renderAfresh data { selection with layout := layout } =
      some (.draw { scene with layout := layout }) := by
  obtain ⟨data, rfl, hdraw⟩ := Option.map_eq_some_iff.1 h
  have hgated : ({ selection with layout := layout } : Selection).isGated = selection.isGated :=
    rfl
  have hpick (relations : List Relation) :
      ({ selection with layout := layout } : Selection).pick none relations =
        selection.pick none relations :=
    rfl
  dsimp only at hdraw
  simp only [renderAfresh, Option.map_some, hgated, hpick]
  split at hdraw
  · contradiction
  · rename_i hopen
    split at hdraw
    · contradiction
    · rename_i hpicked
      cases hdraw
      rw [if_neg hopen, if_neg hpicked]
      rfl

/-- A view that shows the outcome of every task goes on showing the session. -/
theorem shows_run {s : Session} {shown : Option Scene} (fresh : s.Fresh) (h : s.Shows shown)
    (task : Task) : (s.run task).1.Shows (shownAfter shown (s.run task).2) := by
  rcases run_cases fresh task with ⟨layout, hgraph, hrun⟩ | ⟨-, hrun⟩ | ⟨houtcome, hflag⟩
  · rw [hrun]
    refine ⟨h.hasGraph, ?_⟩
    intro scene hscene
    exact renderAfresh_layout (h.current scene hscene) layout
  · rw [hrun]
    exact h
  · cases hcase : (s.run task).2 with
    | none =>
        -- Without an outcome nothing has been loaded, so there was no graph to begin with.
        rw [hcase] at houtcome hflag
        have hdata : s.data = none := Option.map_eq_none_iff.1 houtcome.symm
        refine ⟨hflag.trans h.hasGraph, ?_⟩
        intro scene hscene
        have hcurrent := h.current scene hscene
        simp [renderAfresh, hdata] at hcurrent
    | some outcome =>
        rw [hcase] at houtcome hflag
        rcases renderAfresh_some_cases houtcome.symm with
          rfl | ⟨total, rfl⟩ | ⟨scene, rfl, hlayout⟩
        · exact shows_none hflag
        · exact shows_none hflag
        · refine ⟨hflag, ?_⟩
          rintro _ ⟨⟩
          rw [data_run, ← houtcome, ← hlayout]

/-- A view that shows the outcome of every load goes on showing the session. -/
theorem shows_finishLoad {s : Session} {shown : Option Scene} (h : s.Shows shown)
    (ticket : LoadTicket) (result : Except LoadFailure Documents) :
    (s.finishLoad ticket result).1.Shows (shownAfter shown (s.finishLoad ticket result).2) := by
  rcases s.finishLoad_cases ticket result with
    ⟨-, hfinish⟩ | ⟨-, _, -, hfinish⟩ | ⟨-, _, -, hfinish⟩
  · rw [hfinish]
    exact h
  · rw [hfinish]
    exact shows_none rfl
  · rw [hfinish]
    exact shows_none rfl

end Session

end Provenance
