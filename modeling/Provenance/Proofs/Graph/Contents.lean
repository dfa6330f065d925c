import Provenance.Proofs.Graph.Build

/-!
# What nodes and edges hold

While a graph is built, a table is given the columns of one end after the other, and an edge
the texts of one relation after the other.  This module says what they hold in the end, in
terms of all ends and all relations at once.

Main results:

- Theorem `Graph.mem_columns_iff`: a table has the columns that ends of relations add to it.
- Theorem `Graph.nodup_columns`: no column is listed twice.
- Theorem `Graph.exists_eq_foldl_absorb`: an edge is what its own relations, one after the other,
  make of the edge of the first one.
- Theorem `Graph.texts_of_mem_build`: an edge has the texts of its own relations, and of their
  queries the first ones.
-/

namespace Provenance

/-! ## One step after the other -/

namespace TableNode

/-- A column is added to those that a table has. -/
theorem mem_columns_addColumn {n : TableNode} {column c : String} :
    c ∈ (n.addColumn column).columns ↔ c ∈ n.columns ∨ column = c := by
  unfold addColumn
  split
  · rename_i hmem
    constructor
    · exact Or.inl
    · rintro (hc | rfl)
      · exact hc
      · exact hmem
  · simp [eq_comm]

/-- A column that is listed already is not listed again. -/
theorem nodup_columns_addColumn {n : TableNode} (h : n.columns.Nodup) (column : String) :
    (n.addColumn column).columns.Nodup := by
  unfold addColumn
  split
  · exact h
  · rename_i hmem
    rw [List.nodup_append]
    refine ⟨h, by simp, ?_⟩
    intro c hc d hd
    rw [List.mem_singleton.1 hd]
    rintro rfl
    exact hmem hc

end TableNode

namespace Edge

/-- Relations that are absorbed one after the other add all their texts to the sets, and their
queries one by one to the list. -/
theorem foldl_absorb (e : Edge) (relations : List Relation) :
    relations.foldl absorb e =
      { e with
        transformations := (relations.filterMap fun r => meaningful? r.transformation).foldl
          Names.insert e.transformations
        recommendations := (relations.filterMap fun r => meaningful? r.recommendation).foldl
          Names.insert e.recommendations
        queries := relations.foldl (fun queries r => addQuery queries r.query) e.queries } := by
  induction relations generalizing e with
  | nil => rfl
  | cons r relations ih =>
      rw [List.foldl_cons, ih, absorb]
      cases htransformation : meaningful? r.transformation <;>
        cases hrecommendation : meaningful? r.recommendation <;>
        simp [addText, htransformation, hrecommendation]

/-- Of all queries the first ones are kept, as many as there is room for. -/
theorem foldl_addQuery (queries : List String) (h : queries.length ≤ maxQueries)
    (relations : List Relation) :
    relations.foldl (fun queries r => addQuery queries r.query) queries =
      (queries ++ relations.filterMap fun r => meaningful? r.query).take maxQueries := by
  induction relations generalizing queries with
  | nil => simp [List.take_of_length_le h]
  | cons r relations ih =>
      rw [List.foldl_cons]
      cases hquery : meaningful? r.query with
      | none =>
          have hsame : addQuery queries r.query = queries := by
            simp [addQuery, hquery]
          rw [hsame, ih queries h]
          simp only [List.filterMap_cons, hquery]
      | some q =>
          simp only [List.filterMap_cons, hquery]
          by_cases hroom : queries.length < maxQueries
          · have hlonger : addQuery queries r.query = queries ++ [q] := by
              simp [addQuery, hquery, hroom]
            have hlength : (queries ++ [q]).length ≤ maxQueries := by
              rw [List.length_append, List.length_singleton]
              omega
            rw [hlonger, ih (queries ++ [q]) hlength, List.append_assoc, List.singleton_append]
          · -- the list is full, so that neither this query nor a later one is kept
            have hfull : queries.length = maxQueries := by omega
            have hsame : addQuery queries r.query = queries := by
              simp [addQuery, hquery, hroom]
            rw [hsame, ih queries h, List.take_left' hfull, List.take_left' hfull]

end Edge

namespace Draft

/-- One more end adds its column to what the table has so far. -/
theorem mem_columns_growTable (e : Endpoint) (old : Option TableNode) (c : String) :
    c ∈ (growTable e old).columns ↔
      (∃ n, old = some n ∧ c ∈ n.columns) ∨ e.column = some c := by
  have hbefore : c ∈ (old.getD (TableNode.ofTable e.table)).columns ↔
      ∃ n, old = some n ∧ c ∈ n.columns := by
    cases old with
    | none => simp [TableNode.ofTable]
    | some n => simp
  unfold growTable
  split
  · rename_i column hcolumn
    rw [TableNode.mem_columns_addColumn, hbefore, hcolumn, Option.some.injEq]
  · rename_i hcolumn
    rw [hbefore, hcolumn]
    simp

theorem nodup_columns_growTable (e : Endpoint) {old : Option TableNode}
    (h : ∀ n, old = some n → n.columns.Nodup) : (growTable e old).columns.Nodup := by
  have hbefore : (old.getD (TableNode.ofTable e.table)).columns.Nodup := by
    cases old with
    | none => exact List.nodup_nil
    | some n => exact h n rfl
  unfold growTable
  split
  · exact TableNode.nodup_columns_addColumn hbefore _
  · exact hbefore

end Draft

/-! ## The finished graph -/

namespace Graph

variable {level : Level} {relations : List Relation}

/-- A node of the graph is the one collected at its id. -/
theorem find?_of_mem_tables {n : TableNode} (h : n ∈ (build level relations).tables) :
    (tableMap level relations).find? n.id = some n := by
  rw [tables_build] at h
  obtain ⟨x, hfind⟩ := NameMap.mem_values.1 h
  rwa [(find?_tableMap hfind).1]

/-- An edge of the graph is the one collected at its id. -/
theorem find?_of_mem_edges {e : Edge} (h : e ∈ (build level relations).edges) :
    (edgeMap level relations).find? e.id = some e := by
  rw [edges_build] at h
  obtain ⟨x, hfind⟩ := NameMap.mem_values.1 h
  rwa [(find?_edgeMap hfind).1]

/-- A table has the columns that ends of relations add to it. -/
theorem mem_columns_iff {n : TableNode} (h : n ∈ (build level relations).tables) {c : String} :
    c ∈ n.columns ↔ ∃ e ∈ ends level relations, e.table = n.table ∧ e.column = some c := by
  have hholds := NameMap.holds_alterAll (fun n c => c ∈ n.columns)
    (fun e c => e.column = some c) Draft.mem_columns_growTable (find?_of_mem_tables h) c
  rw [hholds, id_of_mem_build h]
  simp [tableId_inj]

/-- No column is listed twice. -/
theorem nodup_columns {n : TableNode} (h : n ∈ (build level relations).tables) :
    n.columns.Nodup := by
  refine NameMap.alterAll_induction (P := fun _ n => n.columns.Nodup) ?_ ?_ (by simp)
    (find?_of_mem_tables h)
  · intro e _
    exact Draft.nodup_columns_growTable e (by simp)
  · intro e _ old hold
    refine Draft.nodup_columns_growTable e ?_
    rintro n ⟨⟩
    exact hold

/-- The relations that form the edge with an id, in their order: they have a place in the graph of
the level, and their ends give this id. -/
def formers (level : Level) (relations : List Relation) (id : String) : List Relation :=
  relations.filter fun r => r.isUsable level && r.edgeId level == id

/-- The texts of one kind that the relations of an edge state, in the order of the relations. -/
def statedTexts (text : Relation → Option String) (level : Level) (relations : List Relation)
    (id : String) : List String :=
  (formers level relations id).filterMap fun r => meaningful? (text r)

/-- A text is stated by a relation that forms the edge. -/
theorem mem_statedTexts {text : Relation → Option String} {id t : String} :
    t ∈ statedTexts text level relations id ↔
      ∃ r ∈ relations, r.isUsable level = true ∧ r.edgeId level = id ∧
        meaningful? (text r) = some t := by
  simp [statedTexts, formers, and_assoc]

theorem foldl_some_absorb (e : Edge) (relations : List Relation) :
    relations.foldl (fun old r => some ((old.getD (Edge.ofRelation level r)).absorb r))
      (some e) = some (relations.foldl Edge.absorb e) := by
  induction relations generalizing e with
  | nil => rfl
  | cons r relations ih => exact ih (e.absorb r)

/-- An edge is what its own relations, one after the other, make of the edge of the first
one. -/
theorem exists_eq_foldl_absorb {e : Edge} (h : e ∈ (build level relations).edges) :
    ∃ first rest, formers level relations e.id = first :: rest ∧
      e = (first :: rest).foldl Edge.absorb (Edge.ofRelation level first) := by
  have hfind := find?_of_mem_edges h
  rw [edgeMap, NameMap.find?_alterAll, List.filter_filter, NameMap.find?_empty] at hfind
  have hformers : (relations.filter fun r => r.edgeId level == e.id && r.isUsable level) =
      formers level relations e.id := by
    unfold formers
    apply List.filter_congr
    intro r _
    exact Bool.and_comm _ _
  rw [hformers] at hfind
  cases hlist : formers level relations e.id with
  | nil => simp [hlist] at hfind
  | cons first rest =>
      rw [hlist, List.foldl_cons, foldl_some_absorb, Option.some.injEq] at hfind
      exact ⟨first, rest, rfl, hfind.symm⟩

/-- The texts of an edge are those of its relations, except that there is room for the first
queries only. -/
theorem texts_of_mem_build {e : Edge} (h : e ∈ (build level relations).edges) :
    e.transformations = .ofList (statedTexts Relation.transformation level relations e.id) ∧
      e.recommendations = .ofList (statedTexts Relation.recommendation level relations e.id) ∧
      e.queries = (statedTexts Relation.query level relations e.id).take maxQueries := by
  obtain ⟨first, rest, hformers, he⟩ := exists_eq_foldl_absorb h
  rw [Edge.foldl_absorb] at he
  have hqueries := Edge.foldl_addQuery [] (Nat.zero_le _) (first :: rest)
  unfold statedTexts
  rw [hformers]
  refine ⟨?_, ?_, ?_⟩
  · exact congrArg Edge.transformations he
  · exact congrArg Edge.recommendations he
  · exact (congrArg Edge.queries he).trans hqueries

/-- An edge has the transformations of all relations with its id. -/
theorem mem_transformations_iff {e : Edge} (h : e ∈ (build level relations).edges) {t : String} :
    t ∈ e.transformations ↔
      ∃ r ∈ relations, r.isUsable level = true ∧ r.edgeId level = e.id ∧
        meaningful? r.transformation = some t := by
  rw [(texts_of_mem_build h).1, Names.mem_ofList, mem_statedTexts]

/-- An edge has the recommendations of all relations with its id. -/
theorem mem_recommendations_iff {e : Edge} (h : e ∈ (build level relations).edges) {t : String} :
    t ∈ e.recommendations ↔
      ∃ r ∈ relations, r.isUsable level = true ∧ r.edgeId level = e.id ∧
        meaningful? r.recommendation = some t := by
  rw [(texts_of_mem_build h).2.1, Names.mem_ofList, mem_statedTexts]

end Graph

end Provenance
