import Provenance.Proofs.Selection

/-!
# Zones offered and relations shown

The zone selector offers the zones of the relations that may be shown, and it knows the start
tables of each of them.  Which relations are shown once a zone is chosen is decided elsewhere,
relation by relation.  This module shows that the two agree: the zones divide the relations that
are shown without a choice among themselves, and a zone has the start tables that are offered for
it.

Main results:

- Theorem `Selection.narrow_inZone`: choosing a zone keeps the relations into this zone.
- Theorem `Selection.narrow_everywhere_perm`: all zones together show what is shown without a
  choice.
- Theorem `Selection.targets_narrow_inZone`: a zone shows the relations into its start tables.
-/

namespace Provenance

namespace Selection

/-- The selection with all zones and all tables chosen. -/
def everywhere (s : Selection) : Selection := { s with zone := .all, table := .all }

/-- The selection with one zone and all tables chosen. -/
def inZone (s : Selection) (zone : String) : Selection :=
  { s with zone := .named zone, table := .all }

variable (s : Selection) (index : Option SourceIndex) (relations : List Relation)

/-! ## Relations into one zone -/

theorem narrow_everywhere :
    s.everywhere.narrow false index relations =
      (s.visible relations).filter fun r => isStartTable r.targetTable :=
  rfl

/-- Choosing a zone keeps the relations into this zone of all that are shown without a
choice. -/
theorem narrow_inZone (zone : String) :
    (s.inZone zone).narrow false index relations =
      (s.everywhere.narrow false index relations).filter fun r =>
        zoneOf? r.targetTable == some zone := by
  rw [narrow_everywhere, List.filter_filter]
  rfl

variable {s index relations}

theorem mem_narrow_inZone {zone : String} {r : Relation} :
    r ∈ (s.inZone zone).narrow false index relations ↔
      r ∈ s.visible relations ∧ isStartTable r.targetTable = true ∧
        zoneOf? r.targetTable = some zone := by
  rw [narrow_inZone, List.mem_filter, narrow_everywhere, List.mem_filter]
  simp [and_assoc]

/-- A start table lies in one of the zones. -/
theorem exists_zone_of_isStartTable {table : String} (h : isStartTable table = true) :
    ∃ zone, zoneOf? table = some zone := by
  apply Option.ne_none_iff_exists'.1
  intro hnone
  rw [zoneOf?_eq_none_iff.1 hnone] at h
  exact absurd h (by decide)

/-- All zones together show what is shown without a choice, and every relation as often. -/
theorem narrow_everywhere_perm :
    ((ZoneIndex.build (s.visible relations)).ordered.flatMap fun info =>
        (s.inZone info.zone).narrow false index relations).Perm
      (s.everywhere.narrow false index relations) := by
  have hnodup : ((ZoneIndex.build (s.visible relations)).ordered.map
      fun info => some info.zone).Nodup := by
    apply List.pairwise_map.2
    refine ZoneIndex.ordered_pairwise_ne.imp ?_
    intro a b hne heq
    exact hne (Option.some.inj heq)
  have hcovered : ∀ r ∈ s.everywhere.narrow false index relations,
      zoneOf? r.targetTable ∈ (ZoneIndex.build (s.visible relations)).ordered.map
        fun info => some info.zone := by
    intro r hr
    rw [narrow_everywhere, List.mem_filter] at hr
    rcases exists_zone_of_isStartTable hr.2 with ⟨zone, hzone⟩
    rcases ZoneIndex.exists_get?_build_iff.2 ⟨r, hr.1, hzone⟩ with ⟨info, hinfo⟩
    have hname := (ZoneIndex.name_and_kind hinfo).1
    rw [hzone, ← hname]
    exact List.mem_map.2 ⟨info, ZoneIndex.mem_ordered_iff.2 (hname ▸ hinfo), rfl⟩
  have hgroups := flatMap_filter_key_perm (fun r : Relation => zoneOf? r.targetTable) hnodup
    hcovered
  rw [List.flatMap_map] at hgroups
  simpa only [narrow_inZone] using hgroups

/-- The targets of the relations shown for a zone are the start tables that it is known for. -/
theorem targets_narrow_inZone {zone : String} {info : ZoneInfo}
    (h : (ZoneIndex.build (s.visible relations)).get? zone = some info) :
    Names.ofList (((s.inZone zone).narrow false index relations).map Relation.targetTable) =
      info.startTables := by
  apply Names.ext
  intro table
  rw [Names.mem_ofList, List.mem_map, ZoneIndex.mem_startTables_iff h,
    ZoneIndex.mem_destinations_iff h]
  constructor
  · rintro ⟨r, hr, rfl⟩
    rcases mem_narrow_inZone.1 hr with ⟨hvisible, hstart, hzone⟩
    exact ⟨⟨⟨r, hvisible, rfl⟩, hzone⟩, hstart⟩
  · rintro ⟨⟨⟨r, hvisible, rfl⟩, hzone⟩, hstart⟩
    exact ⟨r, mem_narrow_inZone.2 ⟨hvisible, hstart, hzone⟩, rfl⟩

/-! ## The selector and the relations shown -/

/-- Zones agree with the relations shown.

- Every target with a name is a table of exactly one zone, namely its own, and no zone is empty.
- The start tables of a zone are all its tables if it is one of results or processes, and none
  otherwise.
- The relations shown without a choice are divided among the zones: each zone keeps some of them
  in their order, no two zones keep the same one, and none is left out or doubled.
- A zone shows exactly the relations into its start tables.
- The list of zones has each zone once: results, processes, staging areas, static landing zones,
  landing functions and all else, and the zones of one kind in the order of their names. -/
structure AgreesWith (s : Selection) (index : Option SourceIndex) (relations : List Relation)
    (zones : ZoneIndex) : Prop where
  described : ∀ zone info, zones.get? zone = some info →
    info.zone = zone ∧ info.kind = ZoneKind.ofZone zone
  own_zone : ∀ r ∈ s.narrow true index relations, r.targetTable ≠ "" →
    ∃ zone, zoneOf? r.targetTable = some zone ∧
      ∀ other, (∃ info, zones.get? other = some info ∧ r.targetTable ∈ info.destinations) ↔
        other = zone
  inhabited : ∀ zone info, zones.get? zone = some info → info.destinations ≠ Names.empty
  startTables : ∀ zone info, zones.get? zone = some info →
    info.startTables =
      if info.kind = .results ∨ info.kind = .process then info.destinations
      else Names.empty
  in_order : ∀ zone, ((s.inZone zone).narrow false index relations).Sublist
    (s.everywhere.narrow false index relations)
  apart : ∀ zone other, zone ≠ other →
    ∀ r ∈ (s.inZone zone).narrow false index relations,
      r ∉ (s.inZone other).narrow false index relations
  together : (zones.ordered.flatMap fun info =>
      (s.inZone info.zone).narrow false index relations).Perm
    (s.everywhere.narrow false index relations)
  targets : ∀ zone info, zones.get? zone = some info →
    Names.ofList (((s.inZone zone).narrow false index relations).map Relation.targetTable) =
      info.startTables
  listed_once : ∀ zone info, zones.get? zone = some info → zones.ordered.count info = 1
  listed_known : ∀ info ∈ zones.ordered, zones.get? info.zone = some info
  increasing : zones.ordered.Pairwise fun a b =>
    a.kind.Before b.kind ∨ (a.kind = b.kind ∧ a.zone < b.zone)

/-- The zones of the relations that may be shown agree with the relations shown. -/
theorem agreesWith_build (s : Selection) (index : Option SourceIndex)
    (relations : List Relation) :
    s.AgreesWith index relations (ZoneIndex.build (s.narrow true index relations)) where
  described := fun _ _ hinfo => ZoneIndex.name_and_kind hinfo
  own_zone := by
    intro r hr hnamed
    have hzone : zoneOf? r.targetTable ≠ none := fun hnone =>
      hnamed (zoneOf?_eq_none_iff.1 hnone)
    rcases Option.ne_none_iff_exists'.1 hzone with ⟨zone, hzone⟩
    refine ⟨zone, hzone, fun other => ⟨?_, ?_⟩⟩
    · rintro ⟨info, hinfo, hmem⟩
      have hother := ((ZoneIndex.mem_destinations_iff hinfo).1 hmem).2
      rw [hzone, Option.some.injEq] at hother
      exact hother.symm
    · rintro rfl
      rcases ZoneIndex.exists_get?_build_iff.2 ⟨r, hr, hzone⟩ with ⟨info, hinfo⟩
      exact ⟨info, hinfo, (ZoneIndex.mem_destinations_iff hinfo).2 ⟨⟨r, hr, rfl⟩, hzone⟩⟩
  inhabited := by
    intro zone info hinfo hempty
    rcases ZoneIndex.exists_mem_destinations hinfo with ⟨table, htable⟩
    rw [hempty] at htable
    exact Names.not_mem_empty htable
  startTables := fun _ _ hinfo => ZoneIndex.startTables_eq hinfo
  in_order := by
    intro zone
    rw [narrow_inZone]
    exact List.filter_sublist
  apart := by
    intro zone other hne r hr hr'
    have hzone := (mem_narrow_inZone.1 hr).2.2
    have hother := (mem_narrow_inZone.1 hr').2.2
    rw [hzone, Option.some.injEq] at hother
    exact hne hother
  together := narrow_everywhere_perm
  targets := fun _ _ hinfo => targets_narrow_inZone hinfo
  listed_once := fun _ _ hinfo => ZoneIndex.count_ordered hinfo
  listed_known := fun _ hinfo => ZoneIndex.mem_ordered_iff.1 hinfo
  increasing := ZoneIndex.ordered_increasing

end Selection

end Provenance
