import Provenance.Proofs.Names
import Provenance.Zone

/-!
# Zones that relations lead to

The zone of a table is told by how its name begins, the kind of a zone by how the name of the zone
begins, and whether a table is a start table again by how its own name begins.  This module shows
that the three agree.  It then says what the zones of a list of relations hold, which are
collected one target after the other, and in which order they are listed.

Main results:

- Theorem `isStartTable_iff_kind`: a table is a start table exactly if its zone is one of results
  or processes.
- Theorem `ZoneIndex.exists_get?_build_iff`: there is a zone for every target that has one.
- Theorems `ZoneIndex.mem_destinations_iff` and `ZoneIndex.mem_startTables_iff`: which tables
  and which start tables a zone has.
- Theorem `ZoneIndex.startTables_eq`: all tables of a zone are start tables, or none is.
- Theorems `ZoneKind.order_lt_iff` and `ZoneKind.column_eq_iff`: which kind is listed before which
  one, and which kind is drawn in which column.
- Theorems `ZoneIndex.count_ordered` and `ZoneIndex.ordered_increasing`: zones are listed once,
  by kind and then by name.
-/

namespace Provenance

/-! ## Kinds of zones -/

namespace ZoneKind

/-- The kinds in the order of lists: the start tables first, then where their data comes from. -/
def listed : List ZoneKind :=
  [.results, .process, .stagingArea, .landingStatic, .landingFunction, .other]

/-- One kind is listed before another one. -/
def Before (a b : ZoneKind) : Prop := [a, b].Sublist listed

instance (a b : ZoneKind) : Decidable (a.Before b) :=
  inferInstanceAs (Decidable ([a, b].Sublist listed))

/-- The places of two kinds are in the order in which the kinds are listed. -/
theorem order_lt_iff {a b : ZoneKind} : a.order < b.order ↔ a.Before b := by
  cases a <;> cases b <;> decide

/-- No two kinds have the same place. -/
theorem order_inj {a b : ZoneKind} : a.order = b.order ↔ a = b := by
  cases a <;> cases b <;> decide

/-- Staging areas stand on the left, results on the right, and all else in the center. -/
theorem column_eq_iff {kind : ZoneKind} {column : Column} :
    kind.column = column ↔
      (column = .left ↔ kind = .stagingArea) ∧ (column = .right ↔ kind = .results) := by
  cases kind <;> cases column <;> decide

end ZoneKind

/-! ## Names of zones and tables -/

theorem Text.startsWith_iff {s start : String} :
    startsWith s start = true ↔ start.toList <+: s.toList :=
  List.isPrefixOf_iff_prefix

/-- Two texts do not both begin a third one, unless one of them begins the other. -/
theorem Text.not_startsWith_of_startsWith {s start other : String}
    (hapart : ¬ start.toList <+: other.toList ∧ ¬ other.toList <+: start.toList)
    (h : startsWith s start = true) : startsWith s other = false := by
  apply Bool.eq_false_iff.2
  intro hother
  rw [startsWith_iff] at h hother
  rcases List.prefix_or_prefix_of_prefix h hother with hprefix | hprefix
  · exact hapart.1 hprefix
  · exact hapart.2 hprefix

/-- A text without a dot begins a name exactly if it begins the part before the first dot. -/
theorem Text.startsWith_beforeDot {s start : String} (hdot : '.' ∉ start.toList) :
    startsWith (String.ofList (s.toList.takeWhile fun c => c != '.')) start =
      startsWith s start := by
  apply Bool.eq_iff_iff.2
  rw [startsWith_iff, startsWith_iff, String.toList_ofList]
  constructor
  · intro h
    exact h.trans (List.takeWhile_prefix _)
  · rintro ⟨rest, hrest⟩
    have hbefore : ∀ c ∈ start.toList, (c != '.') = true := by
      intro c hc
      apply bne_iff_ne.2
      rintro rfl
      exact hdot hc
    rw [← hrest, List.takeWhile_append_of_pos hbefore]
    exact List.prefix_append _ _

/-- Landing tables are no start tables. -/
theorem isStartTable_of_isLanding {table : String} (h : isLanding table = true) :
    isStartTable table = false := by
  unfold isLanding at h
  unfold isStartTable
  rw [Bool.or_eq_true] at h
  rw [Bool.or_eq_false_iff]
  rcases h with h | h <;> constructor <;>
    exact Text.not_startsWith_of_startsWith (by decide) h

/-- Only a table without a name has no zone. -/
theorem zoneOf?_eq_none_iff {table : String} : zoneOf? table = none ↔ table = "" := by
  unfold zoneOf?
  split
  · rename_i hempty
    simpa using hempty
  · rename_i hnamed
    have hne : table ≠ "" := by simpa using hnamed
    split
    · simp [hne]
    · split <;> simp [hne]

/-- The zone of a landing table is one of the landing zones, and the zone of any other table is the
part of its name before the first dot. -/
theorem zoneOf?_eq_some_cases {table zone : String} (h : zoneOf? table = some zone) :
    (isLanding table = true ∧ (zone = landingStaticZone ∨ zone = landingFunctionZone)) ∨
      zone = String.ofList (table.toList.takeWhile fun c => c != '.') := by
  unfold zoneOf? at h
  split at h
  · contradiction
  · split at h
    · rename_i hstatic
      cases h
      exact Or.inl ⟨by simp [isLanding, hstatic], Or.inl rfl⟩
    · split at h
      · rename_i hfunction
        cases h
        exact Or.inl ⟨by simp [isLanding, hfunction], Or.inr rfl⟩
      · cases h
        exact Or.inr rfl

/-- A zone is one of results or processes exactly if its name begins like a start table. -/
theorem ZoneKind.ofZone_isStart_iff {zone : String} :
    ofZone zone = .results ∨ ofZone zone = .process ↔ isStartTable zone = true := by
  unfold ofZone isStartTable
  by_cases hresults : Text.startsWith zone resultsStem = true
  · simp [hresults]
  · by_cases hprocess : Text.startsWith zone processStem = true
    · simp [hresults, hprocess]
    · grind

/-- A table is a start table exactly if its zone is one of results or processes. -/
theorem isStartTable_iff_kind {table zone : String} (h : zoneOf? table = some zone) :
    isStartTable table = true ↔
      ZoneKind.ofZone zone = .results ∨ ZoneKind.ofZone zone = .process := by
  rw [ZoneKind.ofZone_isStart_iff]
  rcases zoneOf?_eq_some_cases h with ⟨hlanding, rfl | rfl⟩ | rfl
  · rw [isStartTable_of_isLanding hlanding]
    decide
  · rw [isStartTable_of_isLanding hlanding]
    decide
  · unfold isStartTable
    rw [Text.startsWith_beforeDot (by decide), Text.startsWith_beforeDot (by decide)]

/-! ## What the zones hold -/

namespace ZoneIndex

/-- The targets that have a zone, with their zones. -/
def targets (relations : List Relation) : List (String × String) :=
  relations.filterMap fun r => (zoneOf? r.targetTable).map fun zone => (zone, r.targetTable)

theorem mem_targets {relations : List Relation} {zone table : String} :
    (zone, table) ∈ targets relations ↔
      (∃ r ∈ relations, r.targetTable = table) ∧ zoneOf? table = some zone := by
  simp only [targets, List.mem_filterMap, Option.map_eq_some_iff, Prod.mk.injEq]
  grind

/-- A zone after one more target. -/
def growZone (target : String × String) (old : Option ZoneInfo) : ZoneInfo :=
  (old.getD (ZoneInfo.ofZone target.1)).addTable target.2

theorem zones_foldl_addTarget (index : ZoneIndex) (relations : List Relation) :
    (relations.foldl (fun index r => index.addTarget r.targetTable) index).zones =
      index.zones.alterAll Prod.fst growZone (targets relations) := by
  induction relations generalizing index with
  | nil => rfl
  | cons r relations ih =>
      rw [List.foldl_cons, ih]
      cases hzone : zoneOf? r.targetTable with
      | none => simp [targets, addTarget, hzone]
      | some zone =>
          simp only [targets, addTarget, hzone, List.filterMap_cons, Option.map_some]
          rfl

/-- The zones of a list of relations are collected from the targets. -/
theorem zones_build (relations : List Relation) :
    (build relations).zones = NameMap.empty.alterAll Prod.fst growZone (targets relations) :=
  zones_foldl_addTarget empty relations

/-- A zone gets the table that a relation leads to. -/
theorem mem_destinations_addTable {info : ZoneInfo} {table t : String} :
    t ∈ (info.addTable table).destinations ↔ t ∈ info.destinations ∨ t = table := by
  simp [ZoneInfo.addTable, or_comm]

/-- A zone gets the table that a relation leads to as a start table, if it is one. -/
theorem mem_startTables_addTable {info : ZoneInfo} {table t : String} :
    t ∈ (info.addTable table).startTables ↔
      t ∈ info.startTables ∨ (t = table ∧ isStartTable table = true) := by
  unfold ZoneInfo.addTable
  by_cases hstart : isStartTable table = true
  · simp [hstart, or_comm]
  · simp [hstart]

variable {relations : List Relation} {zone : String} {info : ZoneInfo}

theorem find?_zones (h : (build relations).get? zone = some info) :
    (NameMap.empty.alterAll Prod.fst growZone (targets relations)).find? zone = some info := by
  rwa [← zones_build]

/-- There is a zone for every target that has one. -/
theorem exists_get?_build_iff :
    (∃ info, (build relations).get? zone = some info) ↔
      ∃ r ∈ relations, zoneOf? r.targetTable = some zone := by
  unfold get?
  rw [← NameMap.mem_names, zones_build, NameMap.mem_names_alterAll]
  constructor
  · rintro (hempty | ⟨⟨zone, table⟩, htarget, rfl⟩)
    · exact absurd hempty Names.not_mem_empty
    · rcases mem_targets.1 htarget with ⟨⟨r, hr, rfl⟩, hzone⟩
      exact ⟨r, hr, hzone⟩
  · rintro ⟨r, hr, hzone⟩
    exact Or.inr ⟨(zone, r.targetTable), mem_targets.2 ⟨⟨r, hr, rfl⟩, hzone⟩, rfl⟩

/-- A zone is known by its name and has the kind of it. -/
theorem name_and_kind (h : (build relations).get? zone = some info) :
    info.zone = zone ∧ info.kind = ZoneKind.ofZone zone := by
  refine NameMap.alterAll_induction
    (P := fun zone info => info.zone = zone ∧ info.kind = ZoneKind.ofZone zone) ?_ ?_ (by simp)
    (find?_zones h)
  · intro target _
    exact ⟨rfl, rfl⟩
  · intro target _ old hold
    exact hold

/-- The tables of a zone are the targets that lie in it. -/
theorem mem_destinations_iff (h : (build relations).get? zone = some info) {table : String} :
    table ∈ info.destinations ↔
      (∃ r ∈ relations, r.targetTable = table) ∧ zoneOf? table = some zone := by
  have hstep : ∀ (target : String × String) (old : Option ZoneInfo) (t : String),
      t ∈ (growZone target old).destinations ↔
        (∃ info, old = some info ∧ t ∈ info.destinations) ∨ t = target.2 := by
    intro target old t
    rw [growZone, mem_destinations_addTable]
    cases old <;> simp [ZoneInfo.ofZone]
  have hholds := NameMap.holds_alterAll (fun info t => t ∈ info.destinations)
    (fun target t => t = target.2) hstep (find?_zones h) table
  rw [hholds, ← mem_targets]
  simp

/-- The start tables of a zone are the start tables among its tables. -/
theorem mem_startTables_iff (h : (build relations).get? zone = some info) {table : String} :
    table ∈ info.startTables ↔ table ∈ info.destinations ∧ isStartTable table = true := by
  have hstep : ∀ (target : String × String) (old : Option ZoneInfo) (t : String),
      t ∈ (growZone target old).startTables ↔
        (∃ info, old = some info ∧ t ∈ info.startTables) ∨
          (t = target.2 ∧ isStartTable target.2 = true) := by
    intro target old t
    rw [growZone, mem_startTables_addTable]
    cases old <;> simp [ZoneInfo.ofZone]
  have hholds := NameMap.holds_alterAll (fun info t => t ∈ info.startTables)
    (fun target t => t = target.2 ∧ isStartTable target.2 = true) hstep (find?_zones h) table
  rw [hholds, mem_destinations_iff h, ← mem_targets]
  simp only [NameMap.find?_empty, reduceCtorEq, false_and, exists_false, false_or]
  grind

/-- All tables of a zone are start tables if it is one of results or processes, and none is
otherwise. -/
theorem startTables_eq (h : (build relations).get? zone = some info) :
    info.startTables =
      if info.kind = .results ∨ info.kind = .process then info.destinations
      else Names.empty := by
  have hkind : ∀ table ∈ info.destinations,
      (isStartTable table = true ↔ info.kind = .results ∨ info.kind = .process) := by
    intro table htable
    rw [(name_and_kind h).2]
    exact isStartTable_iff_kind ((mem_destinations_iff h).1 htable).2
  apply Names.ext
  intro table
  rw [mem_startTables_iff h]
  split
  · rename_i hstart
    constructor
    · exact fun htable => htable.1
    · intro htable
      exact ⟨htable, (hkind table htable).2 hstart⟩
  · rename_i hstart
    constructor
    · rintro ⟨htable, hisStart⟩
      exact absurd ((hkind table htable).1 hisStart) hstart
    · intro hempty
      exact absurd hempty Names.not_mem_empty

/-- A zone has at least the target that it was made for. -/
theorem exists_mem_destinations (h : (build relations).get? zone = some info) :
    ∃ table, table ∈ info.destinations := by
  rcases exists_get?_build_iff.1 ⟨info, h⟩ with ⟨r, hr, hzone⟩
  exact ⟨r.targetTable, (mem_destinations_iff h).2 ⟨⟨r, hr, rfl⟩, hzone⟩⟩

/-! ## Start tables -/

/-- Whatever is listed as a start table of a zone is a start table. -/
def Proper (index : ZoneIndex) : Prop :=
  ∀ zone info, index.get? zone = some info →
    ∀ table ∈ info.startTables, isStartTable table = true

/-- The start tables of a zone are start tables. -/
theorem proper_build (relations : List Relation) : (build relations).Proper := by
  intro zone info h table htable
  exact ((mem_startTables_iff h).1 htable).2

/-! ## The order of lists -/

/-- By kind and then by name, as the zones are compared while they are sorted. -/
theorem precedes_iff {a b : ZoneInfo} :
    precedes a b = true ↔
      a.kind.order < b.kind.order ∨ (a.kind.order = b.kind.order ∧ a.zone ≤ b.zone) := by
  simp [precedes]

/-- The order of lists is transitive. -/
theorem precedes_trans (a b c : ZoneInfo) (hab : precedes a b = true)
    (hbc : precedes b c = true) : precedes a c = true := by
  rw [precedes_iff] at hab hbc ⊢
  rcases hab with hab | ⟨hab, hname⟩
  · rcases hbc with hbc | ⟨hbc, -⟩ <;> omega
  · rcases hbc with hbc | ⟨hbc, hname'⟩
    · omega
    · exact Or.inr ⟨hab.trans hbc, String.le_trans hname hname'⟩

/-- Of any two zones one comes first in lists. -/
theorem precedes_total (a b : ZoneInfo) : (precedes a b || precedes b a) = true := by
  rw [Bool.or_eq_true, precedes_iff, precedes_iff]
  rcases Nat.lt_trichotomy a.kind.order b.kind.order with hlt | heq | hgt
  · exact Or.inl (Or.inl hlt)
  · rcases String.le_total a.zone b.zone with hname | hname
    · exact Or.inl (Or.inr ⟨heq, hname⟩)
    · exact Or.inr (Or.inr ⟨heq.symm, hname⟩)
  · exact Or.inr (Or.inl hgt)

theorem ordered_perm (index : ZoneIndex) : index.ordered.Perm index.zones.values :=
  List.mergeSort_perm _ _

/-- The zones listed are those that there are. -/
theorem mem_ordered_iff :
    info ∈ (build relations).ordered ↔ (build relations).get? info.zone = some info := by
  rw [(ordered_perm _).mem_iff, NameMap.mem_values]
  constructor
  · rintro ⟨zone, hfind⟩
    rwa [(name_and_kind hfind).1]
  · intro hfind
    exact ⟨info.zone, hfind⟩

/-- No two zones in a list have the same name. -/
theorem ordered_pairwise_ne : (build relations).ordered.Pairwise fun a b => a.zone ≠ b.zone := by
  have hnames := NameMap.increasing_map_values (m := (build relations).zones)
    (f := ZoneInfo.zone) fun zone info hfind => (name_and_kind hfind).1
  have hnodup : ((build relations).ordered.map ZoneInfo.zone).Nodup := by
    rw [((ordered_perm _).map ZoneInfo.zone).nodup_iff]
    exact Names.nodup_of_increasing hnames
  exact List.pairwise_map.1 hnodup

/-- Every zone that there is is listed once. -/
theorem count_ordered (h : (build relations).get? zone = some info) :
    (build relations).ordered.count info = 1 := by
  have hnodup : (build relations).ordered.Nodup := by
    refine ordered_pairwise_ne.imp ?_
    rintro a b hne rfl
    exact hne rfl
  have hmem : info ∈ (build relations).ordered := by
    rw [mem_ordered_iff, (name_and_kind h).1]
    exact h
  rw [hnodup.count, if_pos hmem]

/-- Zones are listed by kind, then by name. -/
theorem ordered_increasing :
    (build relations).ordered.Pairwise fun a b =>
      a.kind.Before b.kind ∨ (a.kind = b.kind ∧ a.zone < b.zone) := by
  have hsorted := List.pairwise_mergeSort precedes_trans precedes_total
    (build relations).zones.values
  refine (hsorted.and ordered_pairwise_ne).imp ?_
  rintro a b ⟨hprecedes, hne⟩
  rcases precedes_iff.1 hprecedes with hlt | ⟨heq, hname⟩
  · exact Or.inl (ZoneKind.order_lt_iff.1 hlt)
  · exact Or.inr ⟨ZoneKind.order_inj.1 heq, Std.lt_of_le_of_ne hname hne⟩

end ZoneIndex

end Provenance
