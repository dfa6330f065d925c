import Provenance.Proofs.Graph.Contents
import Provenance.Proofs.Relation.Levels

/-!
# A graph accumulates its relations

Tables, fields and edges are collected side by side while the relations are run through.  Every
relation touches two tables, at field level two fields, and one edge; whatever it touches is made
if it is not there yet.  This module puts together what there is in the end: which edges there
are, between which nodes, and which texts each of them has taken from which relations.

Which edge a relation forms and which texts it states is spelled out here once more, without the
tests that are run while a graph is built: `Relation.Forms` and `Graph.Stated`.

Main results:

- Theorem `Relation.forms_iff`: a relation forms an edge if it has a place in the graph and its
  ends give the id of the edge.
- Theorem `Graph.stated_iff`: the texts of an edge that are kept are those that are stated.
- Theorem `Graph.id_mem_nodeIds`: both ends of a relation that has a place have their nodes.
- Theorem `Graph.mem_map_id_edges_iff`: there is an edge for every id that a relation forms.
- Definition `Graph.Accumulates`: all that can be said of a graph in terms of its relations.
-/

namespace Provenance

/-! ## What a relation says -/

/-- A relation forms the edge with an id in the graph of a level.  Its tables have names, and at
field level it starts and ends at a single field.  A field may have an empty name. -/
inductive Relation.Forms (r : Relation) : Level → String → Prop
  | tables (hsource : r.sourceTable ≠ "") (htarget : r.targetTable ≠ "") :
      Forms r .tables ("table:" ++ r.sourceTable ++ "->" ++ ("table:" ++ r.targetTable))
  | fields {field : String} (hsource : r.sourceTable ≠ "") (htarget : r.targetTable ≠ "")
      (hfield : r.sourceField = some field) (hfrom : field ≠ "*") (hto : r.targetField ≠ "*") :
      Forms r .fields ("column:" ++ r.sourceTable ++ ":" ++ field ++ "->" ++
        ("column:" ++ r.targetTable ++ ":" ++ r.targetField))

/-- The id of an edge between two fields. -/
theorem Relation.edgeId_fields {r : Relation} {field : String} (h : r.sourceField = some field) :
    r.edgeId .fields = "column:" ++ r.sourceTable ++ ":" ++ field ++ "->" ++
      ("column:" ++ r.targetTable ++ ":" ++ r.targetField) := by
  simp only [edgeId, sourceEnd, targetEnd, Endpoint.id, h]
  rfl

/-- The edge that a relation forms is found by the tests of the graph. -/
theorem Relation.forms_iff {r : Relation} {level : Level} {id : String} :
    r.Forms level id ↔ r.isUsable level = true ∧ r.edgeId level = id := by
  constructor
  · rintro (⟨hsource, htarget⟩ | ⟨hsource, htarget, hfield, hfrom, hto⟩)
    · exact ⟨isUsable_iff.2 ⟨⟨hsource, htarget⟩, nofun⟩, rfl⟩
    · refine ⟨isUsable_iff.2 ⟨⟨hsource, htarget⟩, fun _ => ?_⟩, edgeId_fields hfield⟩
      exact ⟨hasConcreteSource_iff.2 ⟨_, hfield, hfrom⟩, bne_iff_ne.2 hto⟩
  · rintro ⟨husable, rfl⟩
    obtain ⟨⟨hsource, htarget⟩, hconcrete⟩ := isUsable_iff.1 husable
    cases level with
    | tables => exact .tables hsource htarget
    | fields =>
        obtain ⟨hfrom, hto⟩ := hconcrete rfl
        obtain ⟨field, hfield, hfrom⟩ := hasConcreteSource_iff.1 hfrom
        rw [edgeId_fields hfield]
        exact .fields hsource htarget hfield hfrom (bne_iff_ne.1 hto)

/-- A text means something if there is more to it than blanks. -/
theorem meaningful?_eq_some_iff {text : Option String} {t : String} :
    meaningful? text = some t ↔ ∃ raw, text = some raw ∧ Text.Trims raw t ∧ t ≠ "" := by
  simp [meaningful?, Option.filter_eq_some_iff, Text.trim_eq_iff, ← and_assoc]

/-- A text means nothing if it is missing or blank. -/
theorem meaningful?_eq_none_iff {text : Option String} :
    meaningful? text = none ↔ ∀ raw, text = some raw → Text.Trims raw "" := by
  cases text <;> simp [meaningful?, ← Text.trim_eq_iff]

namespace Graph

/-- The texts of one kind that relations state for an edge, in the order of the relations.  Taken
are the texts of the relations that form the edge, without the blanks around them; a text that is
missing or blank is passed over. -/
inductive Stated (text : Relation → Option String) (level : Level) (id : String) :
    List Relation → List String → Prop
  | nil : Stated text level id [] []
  | other {r : Relation} {relations : List Relation} {texts : List String}
      (hother : ¬ r.Forms level id) (rest : Stated text level id relations texts) :
      Stated text level id (r :: relations) texts
  | silent {r : Relation} {relations : List Relation} {texts : List String}
      (hblank : ∀ raw, text r = some raw → Text.Trims raw "")
      (rest : Stated text level id relations texts) :
      Stated text level id (r :: relations) texts
  | said {r : Relation} {relations : List Relation} {texts : List String} {raw t : String}
      (hforms : r.Forms level id) (htext : text r = some raw) (htrims : Text.Trims raw t)
      (hne : t ≠ "") (rest : Stated text level id relations texts) :
      Stated text level id (r :: relations) (t :: texts)

section Stated

variable {text : Relation → Option String} {level : Level} {id : String} {r : Relation}
variable {relations : List Relation} {texts : List String}

/-- A relation that forms the edge stands in front of the later ones that do. -/
theorem formers_cons_of_forms (h : r.Forms level id) :
    formers level (r :: relations) id = r :: formers level relations id := by
  rw [Relation.forms_iff] at h
  simp [formers, h]

/-- A relation that forms another edge or none is passed over. -/
theorem formers_cons_of_not_forms (h : ¬ r.Forms level id) :
    formers level (r :: relations) id = formers level relations id := by
  rw [Relation.forms_iff] at h
  exact List.filter_cons_of_neg (by simpa using h)

/-- A relation whose text means nothing adds no text. -/
theorem statedTexts_cons_of_none (h : meaningful? (text r) = none) :
    statedTexts text level (r :: relations) id = statedTexts text level relations id := by
  by_cases hforms : r.Forms level id
  · simp only [statedTexts, formers_cons_of_forms hforms, List.filterMap_cons, h]
  · simp only [statedTexts, formers_cons_of_not_forms hforms]

/-- The texts of the relations of an edge, as far as they mean something, are the stated ones. -/
theorem stated_iff :
    Stated text level id relations texts ↔ texts = statedTexts text level relations id := by
  constructor
  · intro h
    induction h with
    | nil => rfl
    | other hother _ ih => simp only [statedTexts, formers_cons_of_not_forms hother, ih]
    | silent hblank _ ih => rw [statedTexts_cons_of_none (meaningful?_eq_none_iff.2 hblank), ih]
    | said hforms htext htrims hne _ ih =>
        have ht := meaningful?_eq_some_iff.2 ⟨_, htext, htrims, hne⟩
        simp only [statedTexts, formers_cons_of_forms hforms, List.filterMap_cons, ht, ih]
  · rintro rfl
    induction relations with
    | nil => exact .nil
    | cons r relations ih =>
        cases ht : meaningful? (text r) with
        | none =>
            rw [statedTexts_cons_of_none ht]
            exact .silent (meaningful?_eq_none_iff.1 ht) ih
        | some t =>
            by_cases hforms : r.Forms level id
            · obtain ⟨raw, htext, htrims, hne⟩ := meaningful?_eq_some_iff.1 ht
              simp only [statedTexts, formers_cons_of_forms hforms, List.filterMap_cons, ht]
              exact .said hforms htext htrims hne ih
            · simp only [statedTexts, formers_cons_of_not_forms hforms]
              exact .other hforms ih

/-- A set of all texts that mean something has the stated ones as its members. -/
theorem exists_stated {names : Names}
    (h : names = .ofList (statedTexts text level relations id)) :
    ∃ stated, Stated text level id relations stated ∧ ∀ t, t ∈ names ↔ t ∈ stated := by
  refine ⟨_, stated_iff.2 rfl, ?_⟩
  intro t
  rw [h, Names.mem_ofList]

end Stated

variable {level : Level} {relations : List Relation}

/-! ## Ends and edges -/

/-- The ids of the nodes that edges of a level join: tables or fields. -/
def nodeIds (g : Graph) : Level → List String
  | .tables => g.tables.map TableNode.id
  | .fields => g.fields.map FieldNode.id

/-- An end of a relation that has a place in the graph is a field at field level only. -/
theorem isSome_field_of_mem_ends {e : Endpoint} (he : e ∈ ends level relations) :
    e.field.isSome = true ↔ level = .fields := by
  obtain ⟨r, -, husable, hend⟩ := mem_ends.1 he
  cases level with
  | tables => rcases hend with rfl | rfl <;> simp [Relation.sourceEnd, Relation.targetEnd]
  | fields =>
      rcases hend with rfl | rfl
      · cases hfield : r.sourceField with
        | none => simp [Relation.isUsable, Relation.hasConcreteSource, hfield] at husable
        | some field => simp [Relation.sourceEnd, hfield]
      · simp [Relation.targetEnd]

/-- The end of a relation that has a place in the graph is the id of a node there. -/
theorem id_mem_nodeIds {e : Endpoint} (he : e ∈ ends level relations) :
    e.id ∈ (build level relations).nodeIds level := by
  have hlevel := isSome_field_of_mem_ends he
  cases hfield : e.field with
  | none =>
      cases level with
      | tables =>
          obtain ⟨n, hn, hname⟩ := List.mem_map.1 (mem_map_table_build.2 ⟨e, he, rfl⟩)
          refine List.mem_map.2 ⟨n, hn, ?_⟩
          rw [id_of_mem_build hn, hname]
          simp only [Endpoint.id, hfield]
      | fields => simp [hfield] at hlevel
  | some field =>
      cases level with
      | tables => simp [hfield] at hlevel
      | fields =>
          obtain ⟨f, hf, hid⟩ := exists_field_of_mem_ends he hfield
          refine List.mem_map.2 ⟨f, hf, ?_⟩
          simp only [hid, Endpoint.id, hfield]

/-- An edge starts and ends where one of its relations does. -/
theorem ends_of_mem_build {e : Edge} (h : e ∈ (build level relations).edges) :
    ∃ s ∈ ends level relations, ∃ t ∈ ends level relations,
      e.source = s.id ∧ e.target = t.id := by
  obtain ⟨r, hr, husable, hshape⟩ := withoutTexts_of_mem_build h
  refine ⟨r.sourceEnd level, mem_ends.2 ⟨r, hr, husable, Or.inl rfl⟩,
    r.targetEnd level, mem_ends.2 ⟨r, hr, husable, Or.inr rfl⟩, ?_, ?_⟩
  · exact congrArg Edge.source hshape
  · exact congrArg Edge.target hshape

/-- There is an edge for every id that a relation forms. -/
theorem mem_map_id_edges_iff {id : String} :
    id ∈ (build level relations).edges.map Edge.id ↔ ∃ r ∈ relations, r.Forms level id := by
  rw [List.mem_map]
  constructor
  · rintro ⟨e, he, rfl⟩
    obtain ⟨r, hr, husable, hshape⟩ := withoutTexts_of_mem_build he
    exact ⟨r, hr, Relation.forms_iff.2 ⟨husable, (congrArg Edge.id hshape).symm⟩⟩
  · rintro ⟨r, hr, hforms⟩
    obtain ⟨husable, rfl⟩ := Relation.forms_iff.1 hforms
    exact exists_edge_of_isUsable hr husable

/-! ## The whole graph -/

/-- A graph accumulates relations at a level: its nodes and edges are listed in the order of their
ids, no edge and no field hangs in the air, there is an edge for every id that a relation forms,
and it has all transformations, all recommendations and the first three queries that the relations
state for it. -/
structure Accumulates (g : Graph) (level : Level) (relations : List Relation) : Prop where
  tables_increasing : (g.tables.map TableNode.id).Pairwise (· < ·)
  fields_increasing : (g.fields.map FieldNode.id).Pairwise (· < ·)
  edges_increasing : (g.edges.map Edge.id).Pairwise (· < ·)
  ends_present : ∀ e ∈ g.edges, e.source ∈ g.nodeIds level ∧ e.target ∈ g.nodeIds level
  parent_present : ∀ f ∈ g.fields, f.parent ∈ g.tables.map TableNode.id
  mem_edges : ∀ id, id ∈ g.edges.map Edge.id ↔ ∃ r ∈ relations, r.Forms level id
  transformations : ∀ e ∈ g.edges, ∃ stated,
    Stated Relation.transformation level e.id relations stated ∧
      ∀ t, t ∈ e.transformations ↔ t ∈ stated
  recommendations : ∀ e ∈ g.edges, ∃ stated,
    Stated Relation.recommendation level e.id relations stated ∧
      ∀ t, t ∈ e.recommendations ↔ t ∈ stated
  queries : ∀ e ∈ g.edges, ∃ stated,
    Stated Relation.query level e.id relations stated ∧ e.queries = stated.take 3

/-- The graph of a list of relations accumulates exactly these relations. -/
theorem accumulates_build (level : Level) (relations : List Relation) :
    (build level relations).Accumulates level relations where
  tables_increasing := tableIds_increasing
  fields_increasing := fieldIds_increasing
  edges_increasing := edgeIds_increasing
  ends_present := by
    intro e he
    obtain ⟨s, hs, t, ht, hsource, htarget⟩ := ends_of_mem_build he
    rw [hsource, htarget]
    exact ⟨id_mem_nodeIds hs, id_mem_nodeIds ht⟩
  parent_present := by
    intro f hf
    exact List.mem_map.2 (exists_parent_of_mem_build hf)
  mem_edges := fun _ => mem_map_id_edges_iff
  transformations := fun _ he => exists_stated (texts_of_mem_build he).1
  recommendations := fun _ he => exists_stated (texts_of_mem_build he).2.1
  queries := fun _ he => ⟨_, stated_iff.2 rfl, (texts_of_mem_build he).2.2⟩

/-- Five relations between two tables, with padded, blank, missing and repeated texts and with four
queries, and one relation that ends at another table. -/
def paddedTexts : List Relation :=
  [⟨"s_bani.a", "proceso.p", some "x", "y", some "  sum ", some "\tcheck", some " SELECT 1 "⟩,
   ⟨"s_bani.a", "proceso.p", none, "*", some "copy", some "   ", some "SELECT 1"⟩,
   ⟨"s_bani.a", "proceso.q", none, "*", some "other", some "other", some "other"⟩,
   ⟨"s_bani.a", "proceso.p", none, "*", none, none, some "\n"⟩,
   ⟨"s_bani.a", "proceso.p", none, "*", some "sum", some "check  first", some "SELECT 2"⟩,
   ⟨"s_bani.a", "proceso.p", none, "*", some "", none, some "SELECT 3"⟩]

/-- The edge between the two tables has each text once and trimmed, and of the queries the first
three, with the repeated one. -/
theorem accumulates_build_paddedTexts :
    ∃ e ∈ (build .tables paddedTexts).edges, e.id = "table:s_bani.a->table:proceso.p" ∧
      (∀ t, t ∈ e.transformations ↔ t = "sum" ∨ t = "copy") ∧
      (∀ t, t ∈ e.recommendations ↔ t = "check" ∨ t = "check  first") ∧
      e.queries = ["SELECT 1", "SELECT 1", "SELECT 2"] := by
  have h := accumulates_build .tables paddedTexts
  have hid : "table:s_bani.a->table:proceso.p" ∈ (build .tables paddedTexts).edges.map Edge.id :=
    (h.mem_edges _).2 ⟨_, List.mem_cons_self, .tables (by decide) (by decide)⟩
  obtain ⟨e, he, hid⟩ := List.mem_map.1 hid
  obtain ⟨transformations, htransformations, hmem⟩ := h.transformations e he
  obtain ⟨recommendations, hrecommendations, hmem'⟩ := h.recommendations e he
  obtain ⟨queries, hqueries, htake⟩ := h.queries e he
  rw [stated_iff, hid] at htransformations hrecommendations hqueries
  have htransformations : transformations = ["sum", "copy", "sum"] :=
    htransformations.trans (by decide +kernel)
  have hrecommendations : recommendations = ["check", "check  first"] :=
    hrecommendations.trans (by decide +kernel)
  have hqueries : queries = ["SELECT 1", "SELECT 1", "SELECT 2", "SELECT 3"] :=
    hqueries.trans (by decide +kernel)
  refine ⟨e, he, hid, ?_, ?_, ?_⟩
  · intro t
    rw [hmem, htransformations]
    grind
  · intro t
    rw [hmem', hrecommendations]
    grind
  · rw [htake, hqueries]
    rfl

end Graph

end Provenance
