import Provenance.Proofs.Graph.Build
import Provenance.Proofs.Origins
import Provenance.Proofs.Relation.Kept
import Provenance.Proofs.Selection

/-!
# The graph of a chosen table

When a table is chosen, the relations into its origins are picked and drawn.  The search for the
origins stops at tables that are no start tables, but the relations into such a leaf are picked
like all others.  This module determines the tables of the graph: no origin is missing, and
beyond the origins there is at most one step.

Main results:

- Theorem `Selection.mem_pick_of_table`: the relations picked for a table are the visible ones
  that lead to one of its origins.
- Theorem `Selection.exists_pick_to_table`: if any relation is picked for a table, one of them
  leads to the table itself.
- Theorem `Graph.mem_tables_build_iff`: the tables of a graph are the ends of its relations.
-/

namespace Provenance

/-- The tables of the nodes are the ends of the relations, provided that all of these have a
place in the graph. -/
theorem Graph.mem_tables_build_iff {level : Level} {relations : List Relation}
    (usable : ∀ r ∈ relations, r.isUsable level = true) {table : String} :
    table ∈ (build level relations).tables.map TableNode.table ↔
      ∃ r ∈ relations, r.sourceTable = table ∨ r.targetTable = table := by
  rw [mem_map_table_build]
  constructor
  · rintro ⟨e, he, rfl⟩
    obtain ⟨r, hr, -, rfl | rfl⟩ := mem_ends.1 he
    · exact ⟨r, hr, Or.inl rfl⟩
    · exact ⟨r, hr, Or.inr rfl⟩
  · rintro ⟨r, hr, rfl | rfl⟩
    · exact ⟨r.sourceEnd level, mem_ends.2 ⟨r, hr, usable r hr, Or.inl rfl⟩, rfl⟩
    · exact ⟨r.targetEnd level, mem_ends.2 ⟨r, hr, usable r hr, Or.inr rfl⟩, rfl⟩

namespace Selection

variable {s : Selection} {relations : List Relation} {t : String}

/-- The direct sources of a table are at the other ends of the visible relations to it. -/
theorem mem_sourcesOf_iff_visible (named : ∀ r ∈ relations, r.sourceTable ≠ "")
    {table source : String} :
    source ∈ (SourceIndex.build s.hideLanding relations).sourcesOf table ↔
      ∃ r ∈ s.visible relations, r.targetTable = table ∧ r.sourceTable = source := by
  simp only [SourceIndex.mem_sourcesOf_build, SourceIndex.counts_eq_true, visible,
    List.mem_filter, shows_eq_true]
  constructor
  · rintro ⟨r, hr, ⟨hshown, -⟩, hends⟩
    exact ⟨r, ⟨hr, hshown⟩, hends⟩
  · rintro ⟨r, ⟨hr, hshown⟩, hends⟩
    exact ⟨r, hr, ⟨hshown, named r hr⟩, hends⟩

theorem mem_pick_of_table (htable : s.table = .named t) {r : Relation} :
    r ∈ s.pick none relations ↔
      r ∈ s.visible relations ∧ r.targetTable ∈ origins s.hideLanding relations t := by
  simp [pick, htable, origins, Names.contains_eq_true]

/-- A source of an origin that the search visits is an origin. -/
theorem source_mem_origins (named : ∀ r ∈ relations, r.sourceTable ≠ "") {r : Relation}
    (hr : r ∈ s.visible relations)
    (htarget : r.targetTable ∈ origins s.hideLanding relations t)
    (hvisited : r.targetTable = t ∨ isStartTable r.targetTable = true) :
    r.sourceTable ∈ origins s.hideLanding relations t := by
  have hdirect := (mem_sourcesOf_iff_visible named).2 ⟨r, hr, rfl, rfl⟩
  exact SourceIndex.mem_closure_iff.2
    (.source (SourceIndex.mem_closure_iff.1 htarget) hvisited hdirect)

/-- An origin other than the table itself is the source of a relation to another origin. -/
theorem eq_or_exists_of_mem_origins (named : ∀ r ∈ relations, r.sourceTable ≠ "") {z : String}
    (hz : z ∈ origins s.hideLanding relations t) :
    z = t ∨ ∃ r ∈ s.visible relations,
      r.targetTable ∈ origins s.hideLanding relations t ∧ r.sourceTable = z := by
  cases SourceIndex.mem_closure_iff.1 hz with
  | start => exact Or.inl rfl
  | source upstream _ direct =>
      obtain ⟨r, hr, rfl, rfl⟩ := (mem_sourcesOf_iff_visible named).1 direct
      exact Or.inr ⟨r, hr, SourceIndex.mem_closure_iff.2 upstream, rfl⟩

/-- A relation to any origin has a relation to the table itself at the end of its way. -/
theorem exists_visible_to_table (named : ∀ r ∈ relations, r.sourceTable ≠ "") {r : Relation}
    (hr : r ∈ s.visible relations)
    (htarget : r.targetTable ∈ origins s.hideLanding relations t) :
    ∃ r' ∈ s.visible relations, r'.targetTable = t := by
  -- induct on the way to the target: each of its steps is itself a visible relation
  have hupstream := SourceIndex.mem_closure_iff.1 htarget
  generalize htable : r.targetTable = table at hupstream
  induction hupstream generalizing r with
  | start => exact ⟨r, hr, htable⟩
  | source upstream _ direct ih =>
      obtain ⟨r', hr', htarget', -⟩ := (mem_sourcesOf_iff_visible named).1 direct
      exact ih hr' (htarget' ▸ SourceIndex.mem_closure_iff.2 upstream) htarget'

theorem exists_pick_to_table (named : ∀ r ∈ relations, r.sourceTable ≠ "")
    (htable : s.table = .named t) (hpicked : s.pick none relations ≠ []) :
    ∃ r ∈ s.pick none relations, r.targetTable = t := by
  obtain ⟨r, hr⟩ := List.exists_mem_of_ne_nil _ hpicked
  obtain ⟨hvisible, htarget⟩ := (mem_pick_of_table htable).1 hr
  obtain ⟨r', hr', rfl⟩ := exists_visible_to_table named hvisible htarget
  exact ⟨r', (mem_pick_of_table htable).2
    ⟨hr', SourceIndex.mem_closure_iff.2 SourceIndex.Upstream.start⟩, rfl⟩

end Selection

namespace Graph

/-- A relation between named tables, and at field level between single fields, is drawn. -/
theorem isUsable_of_mem_pick {s : Selection} {level : Level} {relations : List Relation}
    (named : ∀ r ∈ relations, r.sourceTable ≠ "" ∧ r.targetTable ≠ "")
    (concrete : level = .fields →
      ∀ r ∈ relations, r.hasConcreteSource = true ∧ r.hasConcreteTarget = true)
    {r : Relation} (hr : r ∈ s.pick none relations) : r.isUsable level = true := by
  have hmem := (Selection.mem_of_mem_pick hr).1
  exact Relation.isUsable_iff.2 ⟨named r hmem, fun hlevel => concrete hlevel r hmem⟩

/-- If no relation is picked for a table, it has no other origins.  If there is one, the graph
has the origins of the table and the direct sources of those origins where the search stops. -/
theorem tables_of_chosen_table (s : Selection) (level : Level) (relations : List Relation)
    (t : String) (htable : s.table = .named t)
    (named : ∀ r ∈ relations, r.sourceTable ≠ "" ∧ r.targetTable ≠ "")
    (concrete : level = .fields →
      ∀ r ∈ relations, r.hasConcreteSource = true ∧ r.hasConcreteTarget = true) :
    (s.pick none relations = [] →
      ∀ z, z ∈ origins s.hideLanding relations t ↔ z = t) ∧
    (s.pick none relations ≠ [] →
      ∀ z, z ∈ (build level (s.pick none relations)).tables.map TableNode.table ↔
        z ∈ origins s.hideLanding relations t ∨
        ∃ leaf ∈ origins s.hideLanding relations t,
          leaf ≠ t ∧ isStartTable leaf = false ∧
          ∃ r ∈ s.visible relations, r.targetTable = leaf ∧ r.sourceTable = z) := by
  have hsources : ∀ r ∈ relations, r.sourceTable ≠ "" := fun r hr => (named r hr).1
  have hstart : t ∈ origins s.hideLanding relations t :=
    SourceIndex.mem_closure_iff.2 SourceIndex.Upstream.start
  constructor
  · intro hpicked z
    refine ⟨fun hz => ?_, fun hz => hz ▸ hstart⟩
    rcases Selection.eq_or_exists_of_mem_origins hsources hz with rfl | ⟨r, hr, htarget, -⟩
    · rfl
    · have hmem := (Selection.mem_pick_of_table htable).2 ⟨hr, htarget⟩
      rw [hpicked] at hmem
      contradiction
  · intro hpicked z
    rw [mem_tables_build_iff fun r hr => isUsable_of_mem_pick named concrete hr]
    constructor
    · rintro ⟨r, hr, hz⟩
      obtain ⟨hvisible, htarget⟩ := (Selection.mem_pick_of_table htable).1 hr
      rcases hz with rfl | rfl
      · -- the source is an origin as well, unless the search stops at the target
        by_cases hvisited : r.targetTable = t ∨ isStartTable r.targetTable = true
        · exact Or.inl (Selection.source_mem_origins hsources hvisible htarget hvisited)
        · rw [not_or, Bool.not_eq_true] at hvisited
          exact Or.inr ⟨_, htarget, hvisited.1, hvisited.2, r, hvisible, rfl, rfl⟩
      · exact Or.inl htarget
    · rintro (hz | ⟨leaf, hleaf, -, -, r, hr, rfl, rfl⟩)
      · rcases Selection.eq_or_exists_of_mem_origins hsources hz with
          rfl | ⟨r, hr, htarget, rfl⟩
        · obtain ⟨r, hr, htarget⟩ := Selection.exists_pick_to_table hsources htable hpicked
          exact ⟨r, hr, Or.inr htarget⟩
        · exact ⟨r, (Selection.mem_pick_of_table htable).2 ⟨hr, htarget⟩, Or.inl rfl⟩
      · exact ⟨r, (Selection.mem_pick_of_table htable).2 ⟨hr, hleaf⟩, Or.inl rfl⟩

/-- A chain of relations that passes a leaf, and a landing table beside it. -/
def chainWithLeaf : List Relation :=
  [.ofFields "s_bani.far" "id" "s_bani.near" "id",
   .ofFields "s_bani.near" "id" "s_bani.leaf" "id",
   .ofFields "s_bani.leaf" "id" "proceso.p" "id",
   .ofFields "lz.estatico" "id" "proceso.p" "id",
   .ofFields "proceso.p" "id" "resultados.r" "id"]

/-- A table at the end of the chain has been chosen, and landing tables are hidden. -/
def chainEnd : Selection :=
  { level := .fields, table := .named "resultados.r", hideLanding := true, ready := true }

/-- The table one step beyond the leaf is drawn, though it is no origin, and the table two steps
beyond is not. -/
theorem tables_of_chainEnd :
    ¬ "s_bani.near" ∈ origins true chainWithLeaf "resultados.r" ∧
    "s_bani.near" ∈
      (build .fields (chainEnd.pick none chainWithLeaf)).tables.map TableNode.table ∧
    ¬ "s_bani.far" ∈
      (build .fields (chainEnd.pick none chainWithLeaf)).tables.map TableNode.table := by
  have hchain := (tables_of_chosen_table chainEnd .fields chainWithLeaf "resultados.r" rfl
    (by decide +kernel) (by decide +kernel)).2 (by decide +kernel)
  refine ⟨by decide +kernel, (hchain _).2 (Or.inr ?_), ?_⟩
  · exact ⟨"s_bani.leaf", by decide +kernel, by decide +kernel, by decide +kernel,
      by decide +kernel⟩
  · rw [hchain]
    decide +kernel

end Graph

end Provenance
