import Provenance.Proofs.Zones
import Provenance.Selection

/-!
# Selections that fit

A selection is matched with the zones that there are, and it opens the gate to the graph.  This
module says what a selection is like after it has been matched, which choices keep it so, and
what the gate depends on.

Main results:

- Theorem `Selection.synced_eq_self_iff`: matching leaves a selection alone exactly if it fits
  the zones.
- Theorem `Selection.fits_synced`: after matching, a selection fits.
- Theorem `Selection.fits_selectTable`: a table that the selectors offer fits.
- Theorem `Selection.isGated_iff`: the gate is closed exactly if neither a zone nor a table is
  chosen.
-/

namespace Provenance

namespace Selection

/-! ## What matching leaves alone -/

/-- Matching the table with a zone changes nothing but the table and the flag to show all. -/
theorem syncTable_frame (info : Option ZoneInfo) (s : Selection) :
    ∃ table showAll, syncTable info s = { s with table := table, showAll := showAll } := by
  unfold syncTable
  split
  · exact ⟨_, _, rfl⟩
  · split
    · exact ⟨_, _, rfl⟩
    · split
      · exact ⟨_, _, rfl⟩
      · split
        · exact ⟨_, _, rfl⟩
        · exact ⟨_, _, rfl⟩

/-- Matching a selection with zones changes the zone, the table and whether all tables are
shown. -/
theorem synced_frame (s : Selection) (zones : ZoneIndex) :
    ∃ zone table showAll,
      s.synced zones = { s with zone := zone, table := table, showAll := showAll } := by
  obtain ⟨table, showAll, h⟩ :=
    syncTable_frame ((syncZone zones s.zone).name?.bind zones.get?)
      { s with zone := syncZone zones s.zone }
  exact ⟨syncZone zones s.zone, table, showAll, h⟩

@[simp]
theorem level_synced (s : Selection) (zones : ZoneIndex) :
    (s.synced zones).level = s.level := by
  obtain ⟨_, _, _, h⟩ := s.synced_frame zones
  rw [h]

@[simp]
theorem hideLanding_synced (s : Selection) (zones : ZoneIndex) :
    (s.synced zones).hideLanding = s.hideLanding := by
  obtain ⟨_, _, _, h⟩ := s.synced_frame zones
  rw [h]

@[simp]
theorem ready_synced (s : Selection) (zones : ZoneIndex) :
    (s.synced zones).ready = s.ready := by
  obtain ⟨_, _, _, h⟩ := s.synced_frame zones
  rw [h]

/-! ## Selections and zones -/

/-- A selection fits a zone: if the zone has start tables, then all of them are shown or one of
them is chosen, and otherwise there is no table. -/
structure FitsZone (s : Selection) (info : ZoneInfo) : Prop where
  noStartTable : info.startTables.isEmpty = true → s.table = .all ∧ s.showAll = false
  allShown : info.startTables.isEmpty = false → s.showAll = true → s.table = .all
  oneChosen : info.startTables.isEmpty = false → s.showAll = false →
    ∃ table ∈ info.startTables, s.table = .named table

/-- A selection fits the zones that there are: without a zone there is no table, and a zone is
one of those that there are and fits. -/
structure Fits (s : Selection) (zones : ZoneIndex) : Prop where
  noZone : s.zone = .all → s.table = .all ∧ s.showAll = false
  known : ∀ zone, s.zone = .named zone → ∃ info, zones.get? zone = some info ∧ s.FitsZone info

/-- A table that has been matched with a zone is one that the zone offers. -/
theorem fitsZone_syncTable (info : ZoneInfo) (s : Selection) :
    (syncTable (some info) s).FitsZone info := by
  simp only [syncTable]
  split
  · rename_i hempty
    constructor <;> simp [hempty]
  · rename_i hnonempty
    split
    · rename_i hshowAll
      constructor <;> simp [hnonempty, hshowAll]
    · rename_i hone
      split
      · rename_i hchosen
        obtain ⟨table, htable, hmem⟩ := (Option.any_eq_true _ _).1 hchosen
        constructor
        · simp [hnonempty]
        · simp [hone]
        · exact fun _ _ =>
            ⟨table, Names.contains_eq_true.1 hmem, Choice.name?_eq_some.1 htable⟩
      · obtain ⟨first, hfirst⟩ := Names.exists_first? (Bool.eq_false_iff.2 hnonempty)
        constructor
        · simp [hnonempty]
        · simp [hone]
        · exact fun _ _ => ⟨first, Names.mem_of_first? hfirst, by simp [hfirst, Choice.ofName?]⟩

/-- A selection that fits a zone stays as it is. -/
theorem syncTable_of_fitsZone {s : Selection} {info : ZoneInfo} (h : s.FitsZone info) :
    syncTable (some info) s = s := by
  simp only [syncTable]
  split
  · rename_i hempty
    obtain ⟨htable, hshowAll⟩ := h.noStartTable hempty
    rw [← htable, ← hshowAll]
  · rename_i hnonempty
    have hnonempty' := Bool.eq_false_iff.2 hnonempty
    split
    · rename_i hshowAll
      rw [← h.allShown hnonempty' hshowAll]
    · rename_i hone
      obtain ⟨table, hmem, htable⟩ := h.oneChosen hnonempty' (Bool.eq_false_iff.2 hone)
      rw [if_pos]
      simpa [htable, Choice.name?] using hmem

/-- Matching leaves no zone, or one that there is. -/
theorem syncZone_cases (zones : ZoneIndex) (zone : Choice) :
    syncZone zones zone = .all ∨
      ∃ name info, syncZone zones zone = .named name ∧ zones.get? name = some info := by
  have hknown {name : String} (h : zones.contains name = true) :
      ∃ info, zones.get? name = some info :=
    Option.isSome_iff_exists.1 h
  cases zone with
  | all => exact Or.inl rfl
  | named name =>
      simp only [syncZone, Choice.name?]
      split
      · rename_i hcontains
        obtain ⟨info, hinfo⟩ := hknown hcontains
        exact Or.inr ⟨name, info, rfl, hinfo⟩
      · cases hfirst : zones.first? with
        | none => exact Or.inl rfl
        | some first =>
            obtain ⟨info, hinfo⟩ := hknown (NameMap.contains_of_firstName? hfirst)
            exact Or.inr ⟨first, info, rfl, hinfo⟩

/-- Without a zone, matching removes the table. -/
theorem synced_of_all {s : Selection} {zones : ZoneIndex} (h : syncZone zones s.zone = .all) :
    s.synced zones = { s with zone := .all, table := .all, showAll := false } := by
  simp only [synced, h, Choice.name?, Option.bind_none, syncTable]

/-- With a zone that there is, matching looks at its start tables. -/
theorem synced_of_named {s : Selection} {zones : ZoneIndex} {zone : String} {info : ZoneInfo}
    (h : syncZone zones s.zone = .named zone) (hinfo : zones.get? zone = some info) :
    s.synced zones = syncTable (some info) { s with zone := .named zone } := by
  simp only [synced, h, Choice.name?, Option.bind_some, hinfo]

@[simp]
theorem zone_syncTable (info : Option ZoneInfo) (s : Selection) :
    (syncTable info s).zone = s.zone := by
  obtain ⟨_, _, h⟩ := syncTable_frame info s
  rw [h]

/-- After matching, a selection fits the zones. -/
theorem fits_synced (s : Selection) (zones : ZoneIndex) : (s.synced zones).Fits zones := by
  rcases syncZone_cases zones s.zone with hall | ⟨name, info, hname, hinfo⟩
  · rw [synced_of_all hall]
    constructor <;> simp
  · rw [synced_of_named hname hinfo]
    constructor
    · simp
    · intro zone hzone
      rw [zone_syncTable, Choice.named.injEq] at hzone
      exact ⟨info, hzone ▸ hinfo, fitsZone_syncTable info _⟩

/-- Matching leaves a selection alone exactly if it fits the zones. -/
theorem synced_eq_self_iff {s : Selection} {zones : ZoneIndex} :
    s.synced zones = s ↔ s.Fits zones := by
  constructor
  · intro h
    rw [← h]
    exact fits_synced s zones
  · intro h
    cases hzone : s.zone with
    | all =>
        obtain ⟨htable, hshowAll⟩ := h.noZone hzone
        rw [synced_of_all (by rw [hzone]; rfl)]
        obtain ⟨_, _, _, _⟩ := s
        simp_all
    | named zone =>
        obtain ⟨info, hinfo, hfits⟩ := h.known zone hzone
        have hsync : syncZone zones s.zone = .named zone := by
          have hcontains : zones.contains zone = true :=
            Option.isSome_iff_exists.2 ⟨info, hinfo⟩
          simp [hzone, syncZone, Choice.name?, hcontains]
        rw [synced_of_named hsync hinfo, ← hzone]
        exact syncTable_of_fitsZone hfits

/-- How tables are arranged has nothing to do with the zones. -/
theorem fits_setLayout {s : Selection} {zones : ZoneIndex} (h : s.Fits zones)
    (layout : LayoutMode) : (s.apply (.setLayout layout)).Fits zones where
  noZone := h.noZone
  known := by
    intro zone hzone
    obtain ⟨info, hinfo, hfits⟩ := h.known zone hzone
    exact ⟨info, hinfo, hfits.noStartTable, hfits.allShown, hfits.oneChosen⟩

/-! ## What the selectors offer -/

end Selection

/-- Whether the selectors let the user act: zones and tables are taken from their lists, and
tables or all tables can be asked for only while their control is switched on. -/
def Selectors.Offers (o : Selectors) : Action → Prop
  | .selectZone zone => ∃ entry ∈ o.zones, zone = Choice.ofValue entry.value
  | .selectTable table =>
    o.tablesEnabled = true ∧ ∃ entry ∈ o.tables, table = Choice.ofValue entry.value
  | .setShowAll _ => o.showAllEnabled = true
  | .setLevel _ | .setHideLanding _ | .setLayout _ => True

instance (o : Selectors) : DecidablePred o.Offers
  | .selectZone zone =>
    inferInstanceAs (Decidable (∃ entry ∈ o.zones, zone = Choice.ofValue entry.value))
  | .selectTable table =>
    inferInstanceAs (Decidable (o.tablesEnabled = true ∧
      ∃ entry ∈ o.tables, table = Choice.ofValue entry.value))
  | .setShowAll _ => inferInstanceAs (Decidable (o.showAllEnabled = true))
  | .setLevel _ | .setHideLanding _ | .setLayout _ => isTrue trivial

/-- Tables can be chosen only in a zone with start tables, of which not all are shown; the list
then has these start tables. -/
theorem Selectors.tables_build {s : Selection} {zones : ZoneIndex}
    (h : (build s zones).tablesEnabled = true) :
    s.showAll = false ∧ ∃ zone info, s.zone = .named zone ∧ zones.get? zone = some info ∧
      info.startTables.isEmpty = false ∧
      (build s zones).tables = info.startTables.toList.map fun t => ⟨t, t⟩ := by
  unfold build at h ⊢
  dsimp only at h ⊢
  cases hinfo : s.zone.name?.bind zones.get? with
  | none => simp [hinfo] at h
  | some info =>
      obtain ⟨zone, hname, hget⟩ := Option.bind_eq_some_iff.1 hinfo
      have hzone := Choice.name?_eq_some.1 hname
      simp only [hinfo] at h ⊢
      split at h
      · contradiction
      · rename_i hnonempty
        rw [if_neg hnonempty]
        exact ⟨by simpa using h, zone, info, hzone, hget, Bool.eq_false_iff.2 hnonempty, rfl⟩

/-- The value of a start table chooses this table. -/
theorem Choice.ofValue_of_isStartTable {table : String} (h : isStartTable table = true) :
    Choice.ofValue table = .named table := by
  have hempty : ¬ table.isEmpty = true := by
    intro he
    rw [String.isEmpty_iff.1 he] at h
    exact absurd h (by decide)
  have hall : ¬ table = allValue := by
    rintro rfl
    exact absurd h (by decide)
  simp [Choice.ofValue, hempty, hall]

namespace Selection

/-- A table that the selectors offer fits the zones. -/
theorem fits_selectTable {s : Selection} {zones : ZoneIndex} (proper : zones.Proper)
    {table : Choice} (hoffers : (Selectors.build s zones).Offers (.selectTable table)) :
    (s.apply (.selectTable table)).Fits zones := by
  obtain ⟨henabled, entry, hentry, rfl⟩ := hoffers
  obtain ⟨hone, zone, info, hzone, hinfo, hnonempty, htables⟩ := Selectors.tables_build henabled
  rw [htables] at hentry
  obtain ⟨start, hstart, rfl⟩ := List.mem_map.1 hentry
  have hchoice := Choice.ofValue_of_isStartTable (proper zone info hinfo start hstart)
  constructor
  · intro hall
    rw [apply, hzone] at hall
    contradiction
  · intro other hother
    rw [apply, hzone, Choice.named.injEq] at hother
    refine ⟨info, hother ▸ hinfo, ?_⟩
    constructor
    · simp [hnonempty]
    · simp [apply, hone]
    · exact fun _ _ => ⟨start, hstart, hchoice⟩

/-! ## The gate -/

/-- The gate agrees with what is chosen: it has been opened if there is a zone or a table, and
all tables are shown only within a zone. -/
structure GateAgrees (s : Selection) : Prop where
  opened : s.ready = false → s.zone = .all ∧ s.table = .all
  withinZone : s.zone = .all → s.showAll = false

/-- The gate is closed exactly if neither a zone nor a table is chosen. -/
theorem isGated_iff {s : Selection} (h : s.GateAgrees) :
    s.isGated = true ↔ s.zone = .all ∧ s.table = .all := by
  constructor
  · intro hgated
    simp only [isGated, Bool.or_eq_true, Bool.not_eq_true', Bool.and_eq_true] at hgated
    rcases hgated with hready | ⟨⟨hzone, htable⟩, -⟩
    · exact h.opened hready
    · exact ⟨Choice.isAll_eq_true.1 hzone, Choice.isAll_eq_true.1 htable⟩
  · rintro ⟨hzone, htable⟩
    simp [isGated, hzone, htable, Choice.isAll, h.withinZone hzone]

/-- After a reset nothing is chosen, and the gate says so. -/
theorem gateAgrees_reset (s : Selection) : s.reset.GateAgrees where
  opened := fun _ => ⟨rfl, rfl⟩
  withinZone := fun _ => rfl

/-- Matching makes the gate agree, if only it has been opened for the zone. -/
theorem gateAgrees_synced {s : Selection} (h : s.ready = false → s.zone = .all)
    (zones : ZoneIndex) : (s.synced zones).GateAgrees where
  opened := by
    intro hready
    rw [ready_synced] at hready
    have hzone : syncZone zones s.zone = .all := by
      rw [h hready]
      rfl
    rw [synced_of_all hzone]
    exact ⟨rfl, rfl⟩
  withinZone := fun hzone => ((fits_synced s zones).noZone hzone).2

/-- Every action opens the gate for the zone that is chosen after it.  The table may be an
older one, as long as it has not been matched with the zone. -/
theorem zone_apply_of_not_ready {s : Selection} (h : s.GateAgrees) {action : Action}
    (hready : (s.apply action).ready = false) : (s.apply action).zone = .all := by
  cases action with
  | setLevel level => rfl
  | selectZone zone => simpa [apply] using hready
  | selectTable table =>
      simp only [apply, Bool.or_eq_false_iff, Bool.not_eq_false'] at hready
      exact Choice.isAll_eq_true.1 hready.2
  | setShowAll on =>
      simp only [apply, Bool.or_eq_false_iff, Bool.not_eq_false'] at hready
      exact Choice.isAll_eq_true.1 hready.2
  | setHideLanding on => exact (h.opened hready).1
  | setLayout layout => exact (h.opened hready).1

/-- The actions after which nothing is matched keep the gate in agreement by themselves. -/
theorem gateAgrees_apply_of_not_requiresSync {s : Selection} (h : s.GateAgrees)
    {action : Action} (hsync : action.requiresSync = false) : (s.apply action).GateAgrees := by
  cases action with
  | selectTable table =>
      refine ⟨?_, h.withinZone⟩
      intro hready
      simp only [apply, Bool.or_eq_false_iff, Bool.not_eq_false',
        Choice.isAll_eq_true] at hready
      exact ⟨hready.2, hready.1⟩
  | setLayout layout => exact ⟨h.opened, h.withinZone⟩
  | _ => simp [Action.requiresSync] at hsync

/-! ## What is picked -/

theorem shows_eq_true {s : Selection} {r : Relation} :
    s.shows r = true ↔ ¬ (s.hideLanding = true ∧ isLanding r.sourceTable = true) := by
  cases hhide : s.hideLanding <;> simp [shows, hhide]

/-- Whatever is selected, the relations to show are taken from those that may be shown. -/
theorem pick_sublist (s : Selection) (index : Option SourceIndex) (relations : List Relation) :
    (s.pick index relations).Sublist (s.visible relations) := by
  unfold pick
  split <;> exact List.filter_sublist

/-- What is picked is one of the relations, and it is shown. -/
theorem mem_of_mem_pick {s : Selection} {index : Option SourceIndex} {relations : List Relation}
    {r : Relation} (h : r ∈ s.pick index relations) : r ∈ relations ∧ s.shows r = true :=
  List.mem_filter.1 ((s.pick_sublist index relations).subset h)

end Selection

end Provenance
