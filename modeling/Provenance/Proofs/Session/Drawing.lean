import Provenance.Proofs.Graph.Identity
import Provenance.Proofs.Session.Gate

/-!
# What is drawn

A session counts the relations that it matches and hands them to the graph, which passes over
those without a place in it.  Whether a relation has one depends on the level, and the level,
the loaded relations and the selection all change in the course of a session.  This module
shows that nothing is lost on the way: every relation that is counted is drawn.

Main results:

- Theorem `Session.map_snd_traceOf`: the trace of an event has all outcomes of the event.
- Theorem `Session.renderAfresh_of_mem_traceOf`: a scene is drawn from the relations and the
  selection of the session at that time.
- Theorem `Session.loaded_ofHistory`: all relations of a session have passed the naming rules.
- Theorem `Scene.accountsFor_build`: a scene of relations that have passed the naming rules of
  its level accounts for all of them.
-/

namespace Provenance

/-! ## Scenes that account for relations -/

/-- A scene accounts for relations at a level: it is their graph and says how many they are,
none of them is passed over, each has its tables, its edge and at field level its fields in the
graph, and there is no edge without a relation. -/
structure Scene.AccountsFor (scene : Scene) (level : Level) (relations : List Relation) :
    Prop where
  graph : scene.graph = Graph.build level relations
  matched : scene.matched = relations.length
  usable : ∀ r ∈ relations, r.isUsable level = true
  sourceTable : ∀ r ∈ relations, ∃ n ∈ scene.graph.tables, n.table = r.sourceTable
  targetTable : ∀ r ∈ relations, ∃ n ∈ scene.graph.tables, n.table = r.targetTable
  sourceField : level = .fields → ∀ r ∈ relations,
    ∃ f ∈ scene.graph.fields, f.table = r.sourceTable ∧ r.sourceField = some f.field
  targetField : level = .fields → ∀ r ∈ relations,
    ∃ f ∈ scene.graph.fields, f.table = r.targetTable ∧ r.targetField = f.field
  edge : ∀ r ∈ relations, ∃ e ∈ scene.graph.edges, e.id = r.edgeId level
  stems : ∀ e ∈ scene.graph.edges, ∃ r ∈ relations, e.withoutTexts = Edge.ofRelation level r

/-- A graph of relations that have passed the naming rules of its level accounts for all of
them. -/
theorem Scene.accountsFor_build {level : Level} {rows : List RawRelation}
    {relations : List Relation} (h : ∀ r ∈ relations, r ∈ (sanitize level rows).relations)
    (layout : LayoutMode) (total : Nat) :
    (⟨Graph.build level relations, layout, relations.length, total⟩ : Scene).AccountsFor level
      relations := by
  have husable : ∀ r ∈ relations, r.isUsable level = true :=
    fun r hr => Relation.isUsable_of_mem_sanitize (h r hr)
  have hsource : ∀ r ∈ relations, r.sourceEnd level ∈ Graph.ends level relations :=
    fun r hr => Graph.mem_ends.2 ⟨r, hr, husable r hr, Or.inl rfl⟩
  have htarget : ∀ r ∈ relations, r.targetEnd level ∈ Graph.ends level relations :=
    fun r hr => Graph.mem_ends.2 ⟨r, hr, husable r hr, Or.inr rfl⟩
  have hnodes : ∀ e ∈ Graph.ends level relations, e.IsNode level :=
    fun e he => Graph.isNode_of_mem_ends_sanitize h he
  constructor
  case graph => rfl
  case matched => rfl
  case usable => exact husable
  case sourceTable =>
    intro r hr
    exact List.mem_map.1 (Graph.mem_map_table_build.2 ⟨_, hsource r hr, rfl⟩)
  case targetTable =>
    intro r hr
    exact List.mem_map.1 (Graph.mem_map_table_build.2 ⟨_, htarget r hr, rfl⟩)
  case sourceField =>
    rintro rfl r hr
    obtain ⟨field, hfield, -⟩ := hnodes _ (hsource r hr)
    obtain ⟨f, hf, htable, hname⟩ :=
      Graph.exists_own_field_of_mem_ends hnodes (hsource r hr) hfield
    exact ⟨f, hf, htable, hname ▸ hfield⟩
  case targetField =>
    rintro rfl r hr
    obtain ⟨f, hf, htable, hname⟩ :=
      Graph.exists_own_field_of_mem_ends hnodes (htarget r hr) rfl
    exact ⟨f, hf, htable, hname.symm⟩
  case edge =>
    intro r hr
    exact Graph.exists_edge_of_isUsable hr (husable r hr)
  case stems =>
    intro e he
    obtain ⟨r, hr, -, hshape⟩ := Graph.withoutTexts_of_mem_build he
    exact ⟨r, hr, hshape⟩

namespace Session

/-! ## Outcomes and the sessions that have them -/

/-- The outcomes of tasks that are run one after the other, each with the session that the task
leads to. -/
def trace (s : Session) : List Task → List (Session × Outcome)
  | [] => []
  | task :: tasks =>
    ((s.run task).2.map fun outcome => ((s.run task).1, outcome)).toList ++
      (s.run task).1.trace tasks

/-- All outcomes of an event, each with the session at that time. -/
def traceOf (s : Session) : SessionEvent → List (Session × Outcome)
  | .runPending => trace { s with queue := [] } s.queue
  | .finishLoad ticket result =>
    ((s.finishLoad ticket result).2.map fun outcome =>
      ((s.finishLoad ticket result).1, outcome)).toList
  | .dispatch _ | .beginLoad _ => []

/-- The outcomes are those of the tasks. -/
theorem map_snd_trace (s : Session) (tasks : List Task) :
    (s.trace tasks).map Prod.snd = s.outcomes tasks := by
  induction tasks generalizing s with
  | nil => rfl
  | cons task tasks ih =>
      simp only [trace, outcomes, List.map_append, ih]
      cases (s.run task).2 <;> rfl

/-- The outcomes are those of the event. -/
theorem map_snd_traceOf (s : Session) (event : SessionEvent) :
    (s.traceOf event).map Prod.snd = s.outcomesOf event := by
  cases event with
  | dispatch task => rfl
  | runPending => exact map_snd_trace _ _
  | beginLoad reload => rfl
  | finishLoad ticket result =>
      simp only [traceOf, outcomesOf]
      cases (s.finishLoad ticket result).2 <;> rfl

/-- A task that draws draws what its session shows when everything is computed anew. -/
theorem renderAfresh_of_run_eq_draw {s : Session} (fresh : s.Fresh) {task : Task}
    {scene : Scene} (h : (s.run task).2 = some (.draw scene)) :
    renderAfresh s.data (s.run task).1.selection = some (.draw scene) := by
  rcases run_cases fresh task with ⟨layout, -, hrun⟩ | ⟨-, hrun⟩ | ⟨houtcome, -⟩
  · simp [hrun] at h
  · simp [hrun] at h
  · rw [← houtcome, h]

theorem renderAfresh_of_mem_trace {s t : Session} (fresh : s.Fresh) {tasks : List Task}
    {scene : Scene} (h : (t, .draw scene) ∈ s.trace tasks) :
    t.data = s.data ∧ renderAfresh t.data t.selection = some (.draw scene) := by
  -- no task touches the data, and every task leaves the caches fresh for the next one
  induction tasks generalizing s with
  | nil => simp [trace] at h
  | cons task tasks ih =>
      rcases List.mem_append.1 h with hfirst | hlater
      · simp only [Option.mem_toList, Option.map_eq_some_iff, Prod.mk.injEq] at hfirst
        obtain ⟨outcome, houtcome, rfl, rfl⟩ := hfirst
        rw [data_run]
        exact ⟨rfl, renderAfresh_of_run_eq_draw fresh houtcome⟩
      · obtain ⟨hdata, hrender⟩ := ih (fresh_run fresh task) hlater
        exact ⟨hdata.trans (data_run s task), hrender⟩

/-- A scene is drawn from the relations and the selection of the session at that time. -/
theorem renderAfresh_of_mem_traceOf {s t : Session} (fresh : s.Fresh) {event : SessionEvent}
    {scene : Scene} (h : (t, .draw scene) ∈ s.traceOf event) :
    t.data = s.data ∧ renderAfresh t.data t.selection = some (.draw scene) := by
  cases event with
  | dispatch task => simp [traceOf] at h
  | runPending =>
      exact renderAfresh_of_mem_trace (fresh_emptied fresh) h
  | beginLoad reload => simp [traceOf] at h
  | finishLoad ticket result =>
      rcases s.finishLoad_cases ticket result with
        ⟨-, hfinish⟩ | ⟨-, _, -, hfinish⟩ | ⟨-, _, -, hfinish⟩
      · simp [traceOf, hfinish] at h
      · simp [traceOf, hfinish] at h
      · simp [traceOf, hfinish] at h

/-- What is drawn is the graph of the relations picked, of which there is at least one. -/
theorem eq_of_renderAfresh_eq_draw {data : Option Dataset} {selection : Selection}
    {scene : Scene} (h : renderAfresh data selection = some (.draw scene)) :
    ∃ d, data = some d ∧ selection.pick none (d.relations selection.level) ≠ [] ∧
      scene =
        ⟨Graph.build selection.level (selection.pick none (d.relations selection.level)),
          selection.layout, (selection.pick none (d.relations selection.level)).length,
          (selection.visible (d.relations selection.level)).length⟩ := by
  obtain ⟨d, hd, hdraw⟩ := Option.map_eq_some_iff.1 h
  refine ⟨d, hd, ?_⟩
  dsimp only at hdraw
  split at hdraw
  · contradiction
  · split at hdraw
    · contradiction
    · rename_i hpicked
      cases hdraw
      exact ⟨by simpa using hpicked, rfl⟩

/-! ## Relations that have passed the naming rules -/

/-- All relations of a session have passed the naming rules of their level. -/
def Loaded (s : Session) : Prop :=
  ∀ data, s.data = some data → ∃ docs, data = Dataset.ofDocuments docs

theorem loaded_after {s : Session} (h : s.Loaded) (event : SessionEvent) :
    (s.after event).Loaded := by
  cases event with
  | dispatch task => exact h
  | runPending =>
      intro data hdata
      rw [after, data_runPending] at hdata
      exact h data hdata
  | beginLoad reload => exact h
  | finishLoad ticket result =>
      rcases s.finishLoad_cases ticket result with
        ⟨-, hfinish⟩ | ⟨-, docs, -, hfinish⟩ | ⟨-, _, -, hfinish⟩
      · rw [after, hfinish]
        exact h
      · rw [after, hfinish]
        rintro data ⟨⟩
        exact ⟨docs, rfl⟩
      · rw [after, hfinish]
        exact h

theorem loaded_ofHistory (history : List SessionEvent) : (ofHistory history).Loaded :=
  ofHistory_induction (P := Loaded) (fun _ h => by simp [initial] at h)
    (fun _ event h => loaded_after h event) history

/-- The relations of a level are those kept of a document at this level. -/
theorem exists_relations_ofDocuments (docs : Documents) (level : Level) :
    ∃ rows, (Dataset.ofDocuments docs).relations level = (sanitize level rows).relations := by
  cases level with
  | tables => exact ⟨docs.tables, rfl⟩
  | fields => exact ⟨docs.fields, rfl⟩

/-- The relations picked in a session have passed the naming rules of the selected level. -/
theorem exists_sanitize_of_mem_pick {s : Session} (h : s.Loaded) {data : Dataset}
    (hdata : s.data = some data) :
    ∃ rows, ∀ r ∈ s.selection.pick none (data.relations s.selection.level),
      r ∈ (sanitize s.selection.level rows).relations := by
  obtain ⟨docs, rfl⟩ := h data hdata
  obtain ⟨rows, hrows⟩ := exists_relations_ofDocuments docs s.selection.level
  exact ⟨rows, fun r hr => hrows ▸ (Selection.mem_of_mem_pick hr).1⟩

/-! ## Every relation that is counted is drawn -/

/-- The trace of an event has exactly the outcomes of the event.  Whenever one of them draws a
scene, it accounts for all relations that the selection picks at that time, and no edge starts at
a landing table while those are hidden. -/
theorem scene_accountsFor_picked (history : List SessionEvent) (event : SessionEvent)
    (t : Session) (scene : Scene)
    (h : (t, Outcome.draw scene) ∈ (ofHistory history).traceOf event) :
    ((ofHistory history).traceOf event).map Prod.snd = (ofHistory history).outcomesOf event ∧
    scene.AccountsFor t.selection.level (t.selection.pick none t.relations) ∧
    scene.total = t.candidates.length ∧
    1 ≤ scene.graph.edges.length ∧ scene.graph.edges.length ≤ scene.matched ∧
    scene.matched ≤ scene.total ∧
    (t.selection.hideLanding = true → ∀ e ∈ scene.graph.edges, e.landing = false) := by
  obtain ⟨hsame, hrender⟩ := renderAfresh_of_mem_traceOf (fresh_ofHistory history) h
  obtain ⟨data, hdata, hpicked, hscene⟩ := eq_of_renderAfresh_eq_draw hrender
  have hrelations : t.relations = data.relations t.selection.level := by
    rw [relations, hdata]
  have hloaded : t.Loaded := fun d hd => loaded_ofHistory history d (hsame ▸ hd)
  obtain ⟨rows, hrows⟩ := exists_sanitize_of_mem_pick hloaded hdata
  rw [← hrelations] at hpicked hscene hrows
  have haccounts :
      scene.AccountsFor t.selection.level (t.selection.pick none t.relations) := by
    rw [hscene]
    exact Scene.accountsFor_build hrows _ _
  refine ⟨map_snd_traceOf _ event, haccounts, by rw [hscene, candidates], ?_, ?_, ?_, ?_⟩
  · obtain ⟨r, hr⟩ := List.exists_mem_of_ne_nil _ hpicked
    obtain ⟨e, he, -⟩ := haccounts.edge r hr
    exact List.length_pos_of_mem he
  · rw [haccounts.graph, haccounts.matched]
    exact Graph.length_edges_build_le
  · rw [hscene]
    exact (t.selection.pick_sublist none t.relations).length_le
  · intro hhide e he
    obtain ⟨r, hr, hshape⟩ := haccounts.stems e he
    have hlanding : e.landing = isLanding r.sourceTable := congrArg Edge.landing hshape
    simpa [Selection.shows, hhide, ← hlanding] using (Selection.mem_of_mem_pick hr).2

/-- Relations between fields have been loaded, one of them from a landing table.  Waiting are
the tasks to show fields, to hide landing tables and to select a zone. -/
def fieldsWaiting : List SessionEvent :=
  [.dispatch (.act (.selectZone (.named "resultados"))),
    .dispatch (.act (.setHideLanding true)),
    .dispatch (.act (.setLevel .fields)),
    .finishLoad ⟨1, false⟩
      (.ok ⟨[], [.ofFields "lz.estatico" "id" "proceso.p" "id",
        .ofFields "s_bani.c" "x" "proceso.p" "id",
        .ofFields "proceso.p" "id" "resultados.r" "id"]⟩),
    .beginLoad false]

/-- The two relations that do not come from the landing table are drawn and counted. -/
theorem scene_accountsFor_fieldsWaiting :
    ∃ t scene, (t, Outcome.draw scene) ∈ (ofHistory fieldsWaiting).traceOf .runPending ∧
      t.selection.level = .fields ∧ t.selection.hideLanding = true ∧
      scene.matched = 2 ∧ scene.total = 2 ∧
      scene.AccountsFor .fields (t.selection.pick none t.relations) ∧
      ∀ e ∈ scene.graph.edges, e.landing = false := by
  have hdrawn : ∃ p ∈ (ofHistory fieldsWaiting).traceOf .runPending,
      ∃ scene ∈ p.2.scene?, p.2 = .draw scene ∧ p.1.selection.level = .fields ∧
        p.1.selection.hideLanding = true ∧ scene.matched = 2 ∧ scene.total = 2 := by
    decide +kernel
  obtain ⟨⟨t, outcome⟩, hmem, scene, -, hdraw, hlevel, hhide, hmatched, htotal⟩ := hdrawn
  obtain rfl : outcome = .draw scene := hdraw
  obtain ⟨-, haccounts, -, -, -, -, hlanding⟩ :=
    scene_accountsFor_picked fieldsWaiting .runPending t scene hmem
  rw [show t.selection.level = .fields from hlevel] at haccounts
  exact ⟨t, scene, hmem, hlevel, hhide, hmatched, htotal, haccounts, hlanding hhide⟩

end Session

end Provenance
