import Mathlib.Algebra.BigOperators.Group.List.Basic
import Mathlib.Algebra.GroupWithZero.Nat
import Provenance.Proofs.Graph.Accumulation
import Provenance.Proofs.Graph.Identity

/-!
# The details count every edge once

The details of a table say how many relations end and start there, those of a field list them one
by one.  They are found by the id of the node and counted by comparing the ids at the ends of all
edges with it.  This module shows that nothing is counted twice and nothing is missed, whatever
the names are: taken over all nodes, both counts give the number of edges.

Main results:

- Theorems `Graph.describe_table` and `Graph.describe_field`: looking up a node finds this very
  node.
- Theorem `Graph.sum_length_filter_key`: groups by the end of an edge have as many edges as there
  are.
- Theorem `Graph.tally_arrivals` and `Graph.tally_departures`: the counts over all nodes of a level.
-/

namespace Provenance

namespace Details

/-- How many relations end at the node, according to its details. -/
def arrivals : Details → Nat
  | table _ _ _ incoming _ _ => incoming
  | field _ _ origins _ => origins.length
  | edge .. => 0
  | error .. => 0

/-- How many relations start at the node, according to its details. -/
def departures : Details → Nat
  | table _ _ _ _ outgoing _ => outgoing
  | field _ _ _ targets => targets.length
  | edge .. => 0
  | error .. => 0

end Details

namespace Graph

/-! ## Looking up nodes -/

section Describe

variable {g : Graph} (hg : g.WellFormed)

include hg

/-- Looking up a table finds this very table. -/
theorem describe_table {t : TableNode} (ht : t ∈ g.tables) :
    g.describe t.id = some (Details.ofTable g t) := by
  have hfound : g.table? t.id = some t := find?_key_of_mem hg.tables_nodup ht
  simp only [describe, hfound]

/-- Looking up a field finds this very field. -/
theorem describe_field {f : FieldNode} (hf : f ∈ g.fields) :
    g.describe f.id = some (Details.ofField g f) := by
  have htable : g.table? f.id = none := by
    rw [table?, List.find?_eq_none]
    intro t ht
    simpa using hg.table_ne_field t ht f hf
  have hfound : g.field? f.id = some f := find?_key_of_mem hg.fields_nodup hf
  simp only [describe, htable, hfound]

/-- The details of a node count the edges that end and start there. -/
theorem counts_of_mem_nodeIds {level : Level} {id : String} (hid : id ∈ g.nodeIds level) :
    ∃ details, g.describe id = some details ∧
      details.arrivals = (g.incoming id).length ∧
      details.departures = (g.outgoing id).length := by
  cases level with
  | tables =>
      obtain ⟨t, ht, rfl⟩ := List.mem_map.1 hid
      exact ⟨_, describe_table hg ht, rfl, rfl⟩
  | fields =>
      obtain ⟨f, hf, rfl⟩ := List.mem_map.1 hid
      exact ⟨_, describe_field hg hf, List.length_map _, List.length_map _⟩

end Describe

/-! ## Counting over all nodes -/

/-- A count in the details of the nodes with the given ids, summed up. -/
def tally (g : Graph) (count : Details → Nat) (ids : List String) : Nat :=
  (ids.map fun id => (g.describe id).elim 0 count).sum

/-- Groups by a key, with one group for each key, have as many items together as there are. -/
theorem sum_length_filter_key {α : Type} (key : α → String) {keys : List String}
    (hnodup : keys.Nodup) {xs : List α} (hcovered : ∀ x ∈ xs, key x ∈ keys) :
    (keys.map fun k => (xs.filter fun x => key x == k).length).sum = xs.length := by
  rw [← (flatMap_filter_key_perm key hnodup hcovered).length_eq, List.length_flatMap]

variable {level : Level} {relations : List Relation}

theorem nodup_nodeIds : ((build level relations).nodeIds level).Nodup := by
  have hg := wellFormed_build level relations
  cases level with
  | tables => exact hg.tables_nodup
  | fields => exact hg.fields_nodup

/-- Both ends of an edge are nodes. -/
theorem ends_mem_nodeIds {e : Edge} (he : e ∈ (build level relations).edges) :
    e.source ∈ (build level relations).nodeIds level ∧
      e.target ∈ (build level relations).nodeIds level := by
  obtain ⟨s, hs, t, ht, hsource, htarget⟩ := ends_of_mem_build he
  rw [hsource, htarget]
  exact ⟨id_mem_nodeIds hs, id_mem_nodeIds ht⟩

/-- A count of the edges at a node, by an end that is always a node, counts every edge once. -/
theorem tally_eq_length {count : Details → Nat} (nodeOf : Edge → String)
    (hnode : ∀ e ∈ (build level relations).edges,
      nodeOf e ∈ (build level relations).nodeIds level)
    (hcount : ∀ id ∈ (build level relations).nodeIds level,
      ((build level relations).describe id).elim 0 count =
        ((build level relations).edges.filter fun e => nodeOf e == id).length) :
    (build level relations).tally count ((build level relations).nodeIds level) =
      (build level relations).edges.length := by
  unfold tally
  rw [List.map_congr_left hcount]
  exact sum_length_filter_key nodeOf nodup_nodeIds hnode

/-- Over all nodes, the details count every edge once where it ends. -/
theorem tally_arrivals :
    (build level relations).tally Details.arrivals ((build level relations).nodeIds level) =
      (build level relations).edges.length := by
  refine tally_eq_length Edge.target (fun e he => (ends_mem_nodeIds he).2) ?_
  intro id hid
  obtain ⟨details, hdetails, harrivals, -⟩ :=
    counts_of_mem_nodeIds (wellFormed_build level relations) hid
  rw [hdetails]
  exact harrivals

/-- Over all nodes, the details count every edge once where it starts. -/
theorem tally_departures :
    (build level relations).tally Details.departures ((build level relations).nodeIds level) =
      (build level relations).edges.length := by
  refine tally_eq_length Edge.source (fun e he => (ends_mem_nodeIds he).1) ?_
  intro id hid
  obtain ⟨details, hdetails, -, hdepartures⟩ :=
    counts_of_mem_nodeIds (wellFormed_build level relations) hid
  rw [hdetails]
  exact hdepartures

/-! ## Columns -/

/-- The columns that the details of a table list are those that the table has, in order and each of
them once. -/
theorem columns_perm_of_mem_build {t : TableNode} (ht : t ∈ (build level relations).tables) :
    (Names.ofList t.columns).toList.Perm t.columns := by
  rw [List.perm_ext_iff_of_nodup (Names.nodup_of_increasing (Names.increasing _))
    (nodup_columns ht)]
  intro c
  exact Names.mem_ofList

/-- The details account for every edge once.  At both levels every table is found by its id, and
its details list its columns in order, each of them once.  At field level every field is found by
its id as well.  Over all tables of the table level both the incoming and the outgoing relations
add up to the edges, and so do the origins and the targets over all fields of the field level. -/
theorem details_account_for_edges (relations : List Relation) :
    (∀ level, ∀ t ∈ (build level relations).tables, ∃ incoming outgoing columns,
      (build level relations).describe t.id =
        some (.table t.table t.zone t.kind incoming outgoing columns) ∧
      columns.Perm t.columns ∧ columns.Pairwise (· < ·) ∧
      ∀ c, c ∈ columns ↔
        ∃ e ∈ ends level relations, e.table = t.table ∧ e.column = some c) ∧
    (∀ f ∈ (build .fields relations).fields, ∃ origins targets,
      (build .fields relations).describe f.id =
        some (.field f.table f.field origins targets)) ∧
    ((build .tables relations).tally Details.arrivals
        ((build .tables relations).tables.map TableNode.id) =
          (build .tables relations).edges.length ∧
      (build .tables relations).tally Details.departures
        ((build .tables relations).tables.map TableNode.id) =
          (build .tables relations).edges.length) ∧
    (build .fields relations).tally Details.arrivals
        ((build .fields relations).fields.map FieldNode.id) =
          (build .fields relations).edges.length ∧
      (build .fields relations).tally Details.departures
        ((build .fields relations).fields.map FieldNode.id) =
          (build .fields relations).edges.length := by
  refine ⟨?_, ?_, ⟨tally_arrivals, tally_departures⟩, tally_arrivals, tally_departures⟩
  · intro level t ht
    have hperm := columns_perm_of_mem_build ht
    refine ⟨_, _, _, describe_table (wellFormed_build level relations) ht, hperm,
      Names.increasing _, ?_⟩
    intro c
    rw [hperm.mem_iff, mem_columns_iff ht]
  · intro f hf
    exact ⟨_, _, describe_field (wellFormed_build .fields relations) hf⟩

/-- A relation between two fields whose ids are the same, and one from a field to itself. -/
def loopedRelations : List Relation :=
  [.ofFields "a" "b:c" "a:b" "c", .ofFields "a" "d" "a" "d"]

/-- Fields with the same id share a node, and an edge between them starts and ends there.  It is
counted once at each of its ends all the same. -/
theorem details_account_looped :
    (build .fields loopedRelations).fields.map FieldNode.id = ["column:a:b:c", "column:a:d"] ∧
    (build .fields loopedRelations).edges.length = 2 ∧
    (build .fields loopedRelations).tally Details.arrivals ["column:a:b:c", "column:a:d"] = 2 ∧
    ∃ origins targets, (build .fields loopedRelations).describe "column:a:b:c" =
      some (.field "a" "b:c" origins targets) := by
  have hids : (build .fields loopedRelations).fields.map FieldNode.id =
      ["column:a:b:c", "column:a:d"] := by
    decide +kernel
  have hedges : (build .fields loopedRelations).edges.length = 2 := by
    decide +kernel
  have hshared : FieldNode.ofField "a" "b:c" ∈ (build .fields loopedRelations).fields := by
    decide +kernel
  obtain ⟨-, hfields, -, harrivals, -⟩ := details_account_for_edges loopedRelations
  rw [hids, hedges] at harrivals
  exact ⟨hids, hedges, harrivals, hfields _ hshared⟩

end Graph

end Provenance
