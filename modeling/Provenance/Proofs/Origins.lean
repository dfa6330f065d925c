import Mathlib.Logic.Relation
import Provenance.Origins

/-!
# The origins of a table are the tables upstream of it

The search for the origins of a table keeps a set of found tables and a stack of pending
ones.  This module shows that the search comes to an end on every index, with cycles or
without, and that the tables it finds are the ones at the end of a chain of relations
whose inner tables are start tables.

Main results:

- Theorem `SourceIndex.mem_sourcesOf_build`: the index of sources holds what the relations
  say.
- Theorem `SourceIndex.visits_search`: the bound on the number of visits is never what
  ends a search.
- Theorem `SourceIndex.mem_closure_iff`: a table is found exactly if it is upstream of the
  start.
- Theorem `SourceIndex.Upstream.exists_chain`: a table is upstream of the start only if a
  chain of relations leads there.
-/

namespace Provenance

namespace SourceIndex

/-! ## What an index holds -/

/-- A relation adds its source to those of its target, and changes no other table. -/
theorem mem_sourcesOf_add {index : SourceIndex} {r : Relation} {table source : String} :
    source ∈ (index.add r).sourcesOf table ↔
      (table = r.targetTable ∧ source = r.sourceTable) ∨ source ∈ index.sourcesOf table := by
  unfold sourcesOf add
  rw [NameMap.find?_alter]
  by_cases htable : table = r.targetTable
  · subst htable
    simp
  · simp [htable]

/-- The sources of a table are those of all relations that lead to it. -/
theorem mem_sourcesOf_foldl_add {index : SourceIndex} {relations : List Relation}
    {table source : String} :
    source ∈ (relations.foldl add index).sourcesOf table ↔
      (∃ r ∈ relations, r.targetTable = table ∧ r.sourceTable = source) ∨
        source ∈ index.sourcesOf table := by
  induction relations generalizing index with
  | nil => simp
  | cons r relations ih =>
      rw [List.foldl_cons, ih, mem_sourcesOf_add]
      grind

@[simp]
theorem not_mem_sourcesOf_empty {table source : String} : ¬ source ∈ empty.sourcesOf table := by
  simp [sourcesOf, empty]

/-- A relation counts if its source has a name and is not hidden. -/
theorem counts_eq_true {hideLanding : Bool} {r : Relation} :
    counts hideLanding r = true ↔
      ¬ (hideLanding = true ∧ isLanding r.sourceTable = true) ∧ r.sourceTable ≠ "" := by
  cases hideLanding <;> simp [counts]

/-- A table has the sources of those relations to it that count. -/
theorem mem_sourcesOf_build {hideLanding : Bool} {relations : List Relation}
    {table source : String} :
    source ∈ (build hideLanding relations).sourcesOf table ↔
      ∃ r ∈ relations, counts hideLanding r = true ∧ r.targetTable = table ∧
        r.sourceTable = source := by
  unfold build
  rw [mem_sourcesOf_foldl_add]
  simp [and_assoc]

/-- Every source of a table is one of all sources. -/
theorem mem_allSources {index : SourceIndex} {table source : String}
    (h : source ∈ index.sourcesOf table) : source ∈ index.allSources := by
  cases hfind : index.sources.find? table with
  | none => simp [sourcesOf, hfind] at h
  | some names =>
      have hsource : source ∈ names := by
        simpa [sourcesOf, hfind] using h
      obtain ⟨before, after, hentries, -⟩ := List.lookup_eq_some_iff.1 hfind
      have hnames : names ∈ index.sources.values := by
        simp [NameMap.values, hentries]
      exact List.mem_flatMap.2 ⟨names, hnames, hsource⟩

/-! ## Meeting sources -/

/-- A source that is met is found. -/
@[simp]
theorem mem_found_meet {s : Search} {source z : String} :
    z ∈ (s.meet source).found ↔ z = source ∨ z ∈ s.found := by
  unfold Search.meet
  split <;> rename_i hfound
  · constructor
    · exact Or.inr
    · rintro (rfl | hz)
      · exact hfound
      · exact hz
  · exact Names.mem_insert

/-- A start table that is met for the first time has to be visited. -/
theorem mem_pending_meet {s : Search} {source z : String} :
    z ∈ (s.meet source).pending ↔
      (z = source ∧ ¬ source ∈ s.found ∧ isStartTable source = true) ∨ z ∈ s.pending := by
  unfold Search.meet
  split <;> rename_i hfound
  · simp [hfound]
  · by_cases hstart : isStartTable source = true
    · simp [hfound, hstart]
    · simp [hstart]

/-- After a list of sources has been met, these sources are found beside what was found
before. -/
theorem mem_found_foldl_meet {s : Search} {sources : List String} {z : String} :
    z ∈ (sources.foldl Search.meet s).found ↔ z ∈ sources ∨ z ∈ s.found := by
  induction sources generalizing s with
  | nil => simp
  | cons source sources ih =>
      rw [List.foldl_cons, ih, mem_found_meet, List.mem_cons]
      grind

/-- After a list of sources has been met, its new start tables are pending beside what was
pending before. -/
theorem mem_pending_foldl_meet {s : Search} {sources : List String} {z : String} :
    z ∈ (sources.foldl Search.meet s).pending ↔
      (z ∈ sources ∧ ¬ z ∈ s.found ∧ isStartTable z = true) ∨ z ∈ s.pending := by
  induction sources generalizing s with
  | nil => simp
  | cons source sources ih =>
      rw [List.foldl_cons, ih, mem_pending_meet, mem_found_meet, List.mem_cons]
      grind

/-! ## A search comes to an end -/

/-- How many sources of the index a search has not found yet. -/
def unmet (index : SourceIndex) (found : Names) : Nat :=
  index.allSources.countP fun z => !found.contains z

theorem unmet_le_length (index : SourceIndex) (found : Names) :
    index.unmet found ≤ index.allSources.length :=
  List.countP_le_length

/-- Every new source that is found leaves fewer to find. -/
theorem unmet_insert_lt {index : SourceIndex} {found : Names} {source : String}
    (hmem : source ∈ index.allSources) (hnew : ¬ source ∈ found) :
    index.unmet (found.insert source) < index.unmet found := by
  have hle (xs : List String) :
      (xs.countP fun z => !(found.insert source).contains z) ≤
        xs.countP fun z => !found.contains z := by
    apply List.countP_mono_left
    intro z _ hz
    simp only [Bool.not_eq_true', Names.contains_eq_false, Names.mem_insert, not_or] at hz ⊢
    exact hz.2
  -- The new source counts before it is found and not afterwards; nothing else comes to count.
  obtain ⟨before, after, hsplit⟩ := List.append_of_mem hmem
  have hafterwards : (found.insert source).contains source = true := by simp
  have hpreviously : found.contains source = false := by simpa using hnew
  have hbefore := hle before
  have hafter := hle after
  simp only [unmet, hsplit, List.countP_append, List.countP_cons, hafterwards, hpreviously,
    Bool.not_true, Bool.not_false, Bool.false_eq_true, if_true, if_false]
  omega

/-- What is left to do in a search: sources to find and tables to visit. -/
def Search.remaining (index : SourceIndex) (s : Search) : Nat :=
  index.unmet s.found + s.pending.length

/-- Meeting a source does not add to what is left to do. -/
theorem remaining_meet_le {index : SourceIndex} {s : Search} {source : String}
    (h : source ∈ index.allSources) :
    (s.meet source).remaining index ≤ s.remaining index := by
  unfold Search.meet Search.remaining
  split <;> rename_i hfound
  · exact Nat.le_refl _
  · have hlt : index.unmet (s.found.insert source) < index.unmet s.found :=
      unmet_insert_lt h hfound
    by_cases hstart : isStartTable source = true
    · simp only [hstart, if_true, List.length_cons]
      omega
    · simp only [hstart, Bool.false_eq_true, if_false]
      omega

/-- Meeting all sources of a table does not add to what is left to do. -/
theorem remaining_foldl_meet_le {index : SourceIndex} {s : Search} {sources : List String}
    (h : ∀ source ∈ sources, source ∈ index.allSources) :
    (sources.foldl Search.meet s).remaining index ≤ s.remaining index := by
  induction sources generalizing s with
  | nil => exact Nat.le_refl _
  | cons source sources ih =>
      have htail : ∀ z ∈ sources, z ∈ index.allSources :=
        fun z hz => h z (List.mem_cons_of_mem source hz)
      calc
        ((source :: sources).foldl Search.meet s).remaining index ≤
          (s.meet source).remaining index := ih htail
        _ ≤ s.remaining index := remaining_meet_le (h source List.mem_cons_self)

/-- What one visit does: the table visited is no longer pending, its sources are found, the
new start tables among them become pending, and less is left to do. -/
theorem visit?_eq_some {index : SourceIndex} {s s' : Search} (h : s.visit? index = some s') :
    ∃ table rest, s.pending = table :: rest ∧
      (∀ z, z ∈ s'.found ↔ z ∈ index.sourcesOf table ∨ z ∈ s.found) ∧
      (∀ z, z ∈ s'.pending ↔
        (z ∈ index.sourcesOf table ∧ ¬ z ∈ s.found ∧ isStartTable z = true) ∨ z ∈ rest) ∧
      s'.remaining index < s.remaining index := by
  unfold Search.visit? at h
  split at h
  · contradiction
  · rename_i table rest hpending
    cases h
    refine ⟨table, rest, hpending, ?_, ?_, ?_⟩
    · intro z
      exact mem_found_foldl_meet
    · intro z
      exact mem_pending_foldl_meet
    · have hall : ∀ source ∈ (index.sourcesOf table).toList, source ∈ index.allSources := by
        intro source hsource
        exact mem_allSources (Names.mem_def.2 hsource)
      have hle := remaining_foldl_meet_le (s := ⟨s.found, rest⟩) hall
      have hlt : (⟨s.found, rest⟩ : Search).remaining index < s.remaining index := by
        simp [Search.remaining, hpending]
      exact Nat.lt_of_le_of_lt hle hlt

/-- A search ends when nothing is pending. -/
theorem visit?_eq_none_iff {index : SourceIndex} {s : Search} :
    s.visit? index = none ↔ s.pending = [] := by
  unfold Search.visit?
  split <;> simp_all

/-- A search leads to another one by visits. -/
def Visits (index : SourceIndex) : Search → Search → Prop :=
  Relation.ReflTransGen fun s s' => s.visit? index = some s'

/-- A search that may make as many visits as there is left to do makes visits until nothing
is pending. -/
theorem visits_search {index : SourceIndex} {visits : Nat} {s : Search}
    (h : s.remaining index ≤ visits) :
    index.Visits s (index.search visits s) ∧ (index.search visits s).visit? index = none := by
  induction visits generalizing s with
  | zero =>
      have hpending : s.pending = [] := by
        apply List.eq_nil_of_length_eq_zero
        unfold Search.remaining at h
        omega
      exact ⟨Relation.ReflTransGen.refl, visit?_eq_none_iff.2 hpending⟩
  | succ visits ih =>
      cases hvisit : s.visit? index with
      | none =>
          simp only [search, hvisit]
          exact ⟨Relation.ReflTransGen.refl, trivial⟩
      | some s' =>
          obtain ⟨-, -, -, -, -, hless⟩ := visit?_eq_some hvisit
          obtain ⟨hvisits, hend⟩ := ih (s := s') (by omega)
          simp only [search, hvisit]
          exact ⟨Relation.ReflTransGen.head hvisit hvisits, hend⟩

/-- In the beginning all sources are left to find and one table is left to visit. -/
theorem remaining_begin_le (index : SourceIndex) (start : String) :
    (Search.begin start).remaining index ≤ index.allSources.length + 1 :=
  Nat.add_le_add_right (unmet_le_length index _) 1

/-! ## What a search finds -/

/-- The tables upstream of a start: the start itself, and the sources of every upstream
table that is the start or a start table. -/
inductive Upstream (index : SourceIndex) (start : String) : String → Prop
  | start : Upstream index start start
  | source {table source : String} (upstream : Upstream index start table)
      (expanded : table = start ∨ isStartTable table = true)
      (direct : source ∈ index.sourcesOf table) : Upstream index start source

/-- What holds of every search under way.  A found table whose sources belong to the result
is still pending, or its sources have been found. -/
structure Search.Invariant (index : SourceIndex) (start : String) (s : Search) : Prop where
  start_found : start ∈ s.found
  sound : ∀ z ∈ s.found, index.Upstream start z
  pending_found : ∀ z ∈ s.pending, z ∈ s.found
  pending_expanded : ∀ z ∈ s.pending, z = start ∨ isStartTable z = true
  complete : ∀ z ∈ s.found, z = start ∨ isStartTable z = true →
    z ∈ s.pending ∨ ∀ source ∈ index.sourcesOf z, source ∈ s.found

/-- The invariant holds when a search begins. -/
theorem invariant_begin (index : SourceIndex) (start : String) :
    (Search.begin start).Invariant index start where
  start_found := by simp [Search.begin]
  sound := by
    intro z hz
    have hstart : z = start := by simpa [Search.begin] using hz
    subst hstart
    exact Upstream.start
  pending_found := by simp [Search.begin]
  pending_expanded := by simp [Search.begin]
  complete := by simp [Search.begin]

/-- A visit keeps the invariant. -/
theorem invariant_visit {index : SourceIndex} {start : String} {s s' : Search}
    (inv : s.Invariant index start) (h : s.visit? index = some s') :
    s'.Invariant index start := by
  obtain ⟨table, rest, hpending, hfound', hpending', -⟩ := visit?_eq_some h
  have htable : table ∈ s.pending := by simp [hpending]
  have hrest : ∀ z ∈ rest, z ∈ s.pending := by
    intro z hz
    simp [hpending, hz]
  have hsource : ∀ z ∈ index.sourcesOf table, index.Upstream start z := by
    intro z hz
    have hupstream := inv.sound table (inv.pending_found table htable)
    exact hupstream.source (inv.pending_expanded table htable) hz
  refine ⟨?_, ?_, ?_, ?_, ?_⟩
  · exact (hfound' start).2 (Or.inr inv.start_found)
  · intro z hz
    rcases (hfound' z).1 hz with hz | hz
    · exact hsource z hz
    · exact inv.sound z hz
  · intro z hz
    rcases (hpending' z).1 hz with ⟨hz, -, -⟩ | hz
    · exact (hfound' z).2 (Or.inl hz)
    · exact (hfound' z).2 (Or.inr (inv.pending_found z (hrest z hz)))
  · intro z hz
    rcases (hpending' z).1 hz with ⟨-, -, hz⟩ | hz
    · exact Or.inr hz
    · exact inv.pending_expanded z (hrest z hz)
  · intro z hz hexpanded
    by_cases hold : z ∈ s.found
    · rcases inv.complete z hold hexpanded with hz | hz
      · rw [hpending, List.mem_cons] at hz
        rcases hz with rfl | hz
        · -- The table visited: this is where its sources are found.
          exact Or.inr fun source hsource => (hfound' source).2 (Or.inl hsource)
        · exact Or.inl ((hpending' z).2 (Or.inr hz))
      · exact Or.inr fun source hsource => (hfound' source).2 (Or.inr (hz source hsource))
    · have hnew : z ∈ index.sourcesOf table := ((hfound' z).1 hz).resolve_right hold
      have hstart : isStartTable z = true := by
        apply hexpanded.resolve_left
        rintro rfl
        exact hold inv.start_found
      exact Or.inl ((hpending' z).2 (Or.inl ⟨hnew, hold, hstart⟩))

/-- Visits keep the invariant. -/
theorem invariant_visits {index : SourceIndex} {start : String} {s s' : Search}
    (inv : s.Invariant index start) (h : index.Visits s s') : s'.Invariant index start := by
  induction h with
  | refl => exact inv
  | tail _ hvisit ih => exact invariant_visit ih hvisit

/-- When nothing is pending any more, exactly the upstream tables have been found. -/
theorem Search.Invariant.mem_found_iff {index : SourceIndex} {start : String} {s : Search}
    (inv : s.Invariant index start) (hend : s.visit? index = none) {z : String} :
    z ∈ s.found ↔ index.Upstream start z := by
  constructor
  · exact inv.sound z
  · intro hz
    induction hz with
    | start => exact inv.start_found
    | source _ hexpanded hdirect ih =>
        rcases inv.complete _ ih hexpanded with hpending | hsources
        · rw [visit?_eq_none_iff.1 hend] at hpending
          contradiction
        · exact hsources _ hdirect

/-- The search for a closure comes to an end by itself. -/
theorem visits_closure (index : SourceIndex) (start : String) :
    ∃ s, index.Visits (Search.begin start) s ∧ s.visit? index = none ∧
      s.found = index.closure start := by
  obtain ⟨hvisits, hend⟩ := visits_search (remaining_begin_le index start)
  exact ⟨_, hvisits, hend, rfl⟩

/-- The closure of a table consists of the tables upstream of it. -/
theorem mem_closure_iff {index : SourceIndex} {start z : String} :
    z ∈ index.closure start ↔ index.Upstream start z := by
  obtain ⟨s, hvisits, hend, hfound⟩ := visits_closure index start
  rw [← hfound]
  exact (invariant_visits (invariant_begin index start) hvisits).mem_found_iff hend

end SourceIndex

/-! ## Chains of relations -/

/-- Tables `t 0, …, t n` of which each is a source of the one before.  A source has a name
and is no landing table if those are hidden, and all tables between the first and the last
one are start tables. -/
structure SourceChain (hideLanding : Bool) (relations : List Relation) (n : Nat)
    (t : Nat → String) : Prop where
  related : ∀ i < n, ∃ r ∈ relations, r.targetTable = t i ∧ r.sourceTable = t (i + 1)
  named : ∀ i < n, t (i + 1) ≠ ""
  shown : ∀ i < n, ¬ (hideLanding = true ∧ isLanding (t (i + 1)) = true)
  through : ∀ i, 0 < i → i < n → isStartTable (t i) = true

namespace SourceChain

variable {hideLanding : Bool} {relations : List Relation} {n : Nat} {t : Nat → String}

/-- A chain of one table. -/
theorem nil (table : String) : SourceChain hideLanding relations 0 fun _ => table := by
  constructor <;> intros <;> omega

/-- The tables `t 0, …, t n` followed by another one. -/
def extend (t : Nat → String) (n : Nat) (source : String) : Nat → String :=
  fun i => if i ≤ n then t i else source

theorem extend_of_le {i : Nat} {source : String} (hi : i ≤ n) : extend t n source i = t i :=
  if_pos hi

@[simp]
theorem extend_succ {source : String} : extend t n source (n + 1) = source :=
  if_neg (Nat.not_succ_le_self n)

/-- A chain is longer by every source of its last table, if this one is the only table or a
start table. -/
theorem snoc {source : String} (chain : SourceChain hideLanding relations n t)
    (hlast : n = 0 ∨ isStartTable (t n) = true)
    (hsource : source ∈ (SourceIndex.build hideLanding relations).sourcesOf (t n)) :
    SourceChain hideLanding relations (n + 1) (extend t n source) := by
  obtain ⟨r, hr, hcounts, htarget, rfl⟩ := SourceIndex.mem_sourcesOf_build.1 hsource
  obtain ⟨hshown, hnamed⟩ := SourceIndex.counts_eq_true.1 hcounts
  -- Each part of the longer chain is an old one below `n` and speaks of the new source at `n`.
  refine ⟨?_, ?_, ?_, ?_⟩
  · intro i hi
    rcases Nat.lt_succ_iff_lt_or_eq.1 hi with hlt | rfl
    · rw [extend_of_le (Nat.le_of_lt hlt), extend_of_le hlt]
      exact chain.related i hlt
    · rw [extend_of_le (Nat.le_refl i), extend_succ]
      exact ⟨r, hr, htarget, rfl⟩
  · intro i hi
    rcases Nat.lt_succ_iff_lt_or_eq.1 hi with hlt | rfl
    · rw [extend_of_le hlt]
      exact chain.named i hlt
    · rw [extend_succ]
      exact hnamed
  · intro i hi
    rcases Nat.lt_succ_iff_lt_or_eq.1 hi with hlt | rfl
    · rw [extend_of_le hlt]
      exact chain.shown i hlt
    · rw [extend_succ]
      exact hshown
  · intro i hpos hi
    rw [extend_of_le (Nat.le_of_lt_succ hi)]
    rcases Nat.lt_succ_iff_lt_or_eq.1 hi with hlt | rfl
    · exact chain.through i hpos hlt
    · exact hlast.resolve_left (Nat.ne_of_gt hpos)

/-- Every table of a chain is upstream of the first one. -/
theorem upstream (chain : SourceChain hideLanding relations n t) {i : Nat} (hi : i ≤ n) :
    (SourceIndex.build hideLanding relations).Upstream (t 0) (t i) := by
  induction i with
  | zero => exact SourceIndex.Upstream.start
  | succ i ih =>
      obtain ⟨r, hr, htarget, hsource⟩ := chain.related i hi
      have hcounts : SourceIndex.counts hideLanding r = true := by
        rw [SourceIndex.counts_eq_true, hsource]
        exact ⟨chain.shown i hi, chain.named i hi⟩
      have hexpanded : t i = t 0 ∨ isStartTable (t i) = true := by
        rcases Nat.eq_zero_or_pos i with rfl | hpos
        · exact Or.inl rfl
        · exact Or.inr (chain.through i hpos hi)
      exact (ih (Nat.le_of_succ_le hi)).source hexpanded
        (SourceIndex.mem_sourcesOf_build.2 ⟨r, hr, hcounts, htarget, hsource⟩)

end SourceChain

/-- Every upstream table ends a chain, which is that of the start alone or begins with the
start. -/
theorem SourceIndex.Upstream.exists_chain {hideLanding : Bool} {relations : List Relation}
    {start z : String} (h : (SourceIndex.build hideLanding relations).Upstream start z) :
    ∃ n t, t 0 = start ∧ t n = z ∧ SourceChain hideLanding relations n t := by
  induction h with
  | start => exact ⟨0, fun _ => start, rfl, rfl, SourceChain.nil start⟩
  | @source table source _ hexpanded hdirect ih =>
      rcases hexpanded with rfl | hstart
      · -- The start need not be a start table, so a chain that comes back to it begins anew.
        exact ⟨1, SourceChain.extend (fun _ => table) 0 source, rfl, rfl,
          (SourceChain.nil table).snoc (Or.inl rfl) hdirect⟩
      · obtain ⟨n, t, hfirst, rfl, chain⟩ := ih
        exact ⟨n + 1, SourceChain.extend t n source, hfirst, SourceChain.extend_succ,
          chain.snoc (Or.inr hstart) hdirect⟩

/-- The search for the origins of a table comes to an end on every list of relations, and it
finds the table itself and the tables at the end of a chain of sources that begins with
it. -/
theorem visits_origins_and_mem_iff_chain (hideLanding : Bool) (relations : List Relation)
    (start : String) :
    (∃ s, (SourceIndex.build hideLanding relations).Visits (SourceIndex.Search.begin start) s ∧
      s.visit? (SourceIndex.build hideLanding relations) = none ∧
      s.found = origins hideLanding relations start) ∧
    ∀ z, z ∈ origins hideLanding relations start ↔
      z = start ∨
        ∃ n t, 1 ≤ n ∧ t 0 = start ∧ t n = z ∧ SourceChain hideLanding relations n t := by
  refine ⟨SourceIndex.visits_closure _ start, ?_⟩
  intro z
  rw [origins, SourceIndex.mem_closure_iff]
  constructor
  · intro hz
    obtain ⟨n, t, hfirst, hlast, chain⟩ := hz.exists_chain
    rcases Nat.eq_zero_or_pos n with rfl | hpos
    · exact Or.inl (hlast.symm.trans hfirst)
    · exact Or.inr ⟨n, t, hpos, hfirst, hlast, chain⟩
  · rintro (rfl | ⟨n, t, -, rfl, rfl, chain⟩)
    · exact SourceIndex.Upstream.start
    · exact chain.upstream (Nat.le_refl n)

end Provenance
