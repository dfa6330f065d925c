import Provenance.Proofs.Names
import Provenance.Proofs.Origins
import Provenance.Proofs.Relation.Kept
import Provenance.Proofs.Selection

/-!
# Picking relations a second time

The relations to show for a chosen table are found by a search among all relations.  If the search
is made again among the relations that it has kept, it has fewer relations to look at.  This
module shows that it never looks at one that was thrown away, so that picking relations from
those picked changes nothing.  It also shows that hiding landing tables is the same as having no
relations that start there: the rule stands once with the relations that may be shown and once
with the index of sources, and both mean the same.

Main results:

- Theorem `SourceIndex.Upstream.agree`: the tables upstream of a start depend only on the sources
  of the tables upstream of it.
- Theorem `origins_eq_of_kept`: the origins of a table stay the same when relations are dropped
  that do not lead to any of them.
- Theorem `Selection.pick_eq_filter`: whatever is selected, relations are picked one by one.
- Theorem `Selection.wants_narrow`: what is wanted among the relations kept is what was wanted
  among all.
-/

namespace Provenance

/-! ## Searching among fewer relations -/

/-- Tables upstream of a start stay upstream of it in every index that has the same sources for
the tables upstream. -/
theorem SourceIndex.Upstream.agree {index other : SourceIndex} {start z : String}
    (hagree : ∀ table, index.Upstream start table →
      ∀ source ∈ index.sourcesOf table, source ∈ other.sourcesOf table)
    (hz : index.Upstream start z) : other.Upstream start z := by
  induction hz with
  | start => exact Upstream.start
  | source upstream expanded direct ih =>
      exact Upstream.source ih expanded (hagree _ upstream _ direct)

/-- The origins of a table stay the same when relations are dropped, as long as those that count
and lead to an origin are kept. -/
theorem origins_eq_of_kept {hideLanding : Bool} {relations kept : List Relation} {start : String}
    (hsub : ∀ r ∈ kept, r ∈ relations)
    (hkept : ∀ r ∈ relations, SourceIndex.counts hideLanding r = true →
      r.targetTable ∈ origins hideLanding relations start → r ∈ kept) :
    origins hideLanding kept start = origins hideLanding relations start := by
  apply Names.ext
  intro z
  rw [origins, origins, SourceIndex.mem_closure_iff, SourceIndex.mem_closure_iff]
  constructor
  · apply SourceIndex.Upstream.agree
    intro table _ source hsource
    rw [SourceIndex.mem_sourcesOf_build] at hsource ⊢
    rcases hsource with ⟨r, hr, hcounts, hends⟩
    exact ⟨r, hsub r hr, hcounts, hends⟩
  · apply SourceIndex.Upstream.agree
    intro table hupstream source hsource
    rw [SourceIndex.mem_sourcesOf_build] at hsource ⊢
    rcases hsource with ⟨r, hr, hcounts, rfl, rfl⟩
    have htarget := SourceIndex.mem_closure_iff.2 hupstream
    exact ⟨r, hkept r hr hcounts htarget, hcounts, rfl, rfl⟩

/-- Hiding landing tables is having no relations that start there. -/
theorem SourceIndex.build_true (relations : List Relation) :
    build true relations = build false (relations.filter fun r => !isLanding r.sourceTable) := by
  unfold build
  rw [List.filter_filter]
  congr 2
  funext r
  simp [counts, Bool.and_comm]

namespace Selection

variable (s : Selection) (relations : List Relation)

/-! ## What is wanted of a relation -/

/-- Whether a selection wants a relation among others, provided that it may be shown: it leads to
an origin of the chosen table, to a start table of the chosen zone, or to any start table. -/
def wants (r : Relation) : Bool :=
  match s.table, s.zone with
  | .named table, _ => (origins s.hideLanding relations table).contains r.targetTable
  | .all, .named zone => zoneOf? r.targetTable == some zone && isStartTable r.targetTable
  | .all, .all => isStartTable r.targetTable

/-- Whatever is selected, the relations wanted are picked from those that may be shown. -/
theorem pick_eq_filter :
    s.pick none relations = (s.visible relations).filter (s.wants relations) := by
  change s.pick none relations = (s.visible relations).filter fun r => s.wants relations r
  unfold pick wants
  cases s.table <;> cases s.zone <;> rfl

/-- A relation that counts for the search may be shown. -/
theorem shows_of_counts {r : Relation} (h : SourceIndex.counts s.hideLanding r = true) :
    s.shows r = true :=
  shows_eq_true.2 (SourceIndex.counts_eq_true.1 h).1

theorem visible_sublist : (s.visible relations).Sublist relations :=
  List.filter_sublist

/-- Hiding landing tables a second time hides nothing more. -/
@[simp]
theorem visible_visible : s.visible (s.visible relations) = s.visible relations := by
  simp [visible, List.filter_filter]

/-- What is picked may be shown. -/
theorem visible_pick : s.visible (s.pick none relations) = s.pick none relations := by
  apply List.filter_eq_self.2
  intro r hr
  exact (mem_of_mem_pick hr).2

/-- Narrowing leaves out relations and keeps the order of the others. -/
theorem narrow_sublist (skipZone : Bool) :
    (s.narrow skipZone none relations).Sublist relations := by
  cases skipZone with
  | true => exact s.visible_sublist relations
  | false => exact (s.pick_sublist none relations).trans (s.visible_sublist relations)

variable {s relations}

/-- The search for the origins of the chosen table never looks at a relation that is dropped. -/
theorem origins_narrow (skipZone : Bool) {table : String} (htable : s.table = .named table) :
    origins s.hideLanding (s.narrow skipZone none relations) table =
      origins s.hideLanding relations table := by
  apply origins_eq_of_kept
  · intro r hr
    exact (s.narrow_sublist relations skipZone).subset hr
  · intro r hr hcounts htarget
    have hvisible : r ∈ s.visible relations := List.mem_filter.2 ⟨hr, s.shows_of_counts hcounts⟩
    cases skipZone with
    | true => exact hvisible
    | false =>
        have hwants : s.wants relations r = true := by
          simpa [wants, htable] using htarget
        change r ∈ s.pick none relations
        rw [pick_eq_filter]
        exact List.mem_filter.2 ⟨hvisible, hwants⟩

/-- What is wanted among the relations kept is what was wanted among all. -/
theorem wants_narrow (skipZone : Bool) :
    s.wants (s.narrow skipZone none relations) = s.wants relations := by
  funext r
  cases htable : s.table with
  | all => cases hzone : s.zone <;> simp only [wants, htable, hzone]
  | named table => simp only [wants, htable, origins_narrow skipZone htable]

/-- Picking from what was picked leaves out nothing more. -/
theorem pick_pick : s.pick none (s.pick none relations) = s.pick none relations := by
  have hwants : s.wants (s.pick none relations) = s.wants relations :=
    wants_narrow (s := s) false
  rw [pick_eq_filter, visible_pick, hwants]
  apply List.filter_eq_self.2
  intro r hr
  rw [pick_eq_filter] at hr
  exact (List.mem_filter.1 hr).2

/-! ## Hiding landing tables -/

theorem visible_of_hideLanding (h : s.hideLanding = true) :
    s.visible relations = relations.filter fun r => !isLanding r.sourceTable := by
  apply List.filter_congr
  intro r _
  simp [shows, h]

theorem visible_of_not_hideLanding (h : s.hideLanding = false) :
    s.visible relations = relations := by
  simp [visible, shows, h]

/-- Hiding landing tables is picking from the relations that do not start there. -/
theorem narrow_hideLanding (s : Selection) (skipZone : Bool) (relations : List Relation) :
    { s with hideLanding := true }.narrow skipZone none relations =
      { s with hideLanding := false }.narrow skipZone none
        (relations.filter fun r => !isLanding r.sourceTable) := by
  have hwants : { s with hideLanding := true }.wants relations =
      { s with hideLanding := false }.wants
        (relations.filter fun r => !isLanding r.sourceTable) := by
    funext r
    simp only [wants, origins, SourceIndex.build_true]
  cases skipZone with
  | true =>
      change visible _ _ = visible _ _
      rw [visible_of_hideLanding rfl, visible_of_not_hideLanding rfl]
  | false =>
      change pick _ none _ = pick _ none _
      rw [pick_eq_filter, pick_eq_filter, hwants, visible_of_hideLanding rfl,
        visible_of_not_hideLanding rfl]

/-- Picking relations is stable.  The relations are kept in their order; from those kept, all are
kept again, and the chosen table has the same origins among them as among all relations; and
hiding landing tables is the same as having no relations that start there. -/
theorem narrow_stable (s : Selection) (skipZone : Bool) (relations : List Relation) :
    (s.narrow skipZone none relations).Sublist relations ∧
    s.narrow skipZone none (s.narrow skipZone none relations) =
      s.narrow skipZone none relations ∧
    (∀ table, s.table = .named table →
      origins s.hideLanding (s.narrow skipZone none relations) table =
        origins s.hideLanding relations table) ∧
    { s with hideLanding := true }.narrow skipZone none relations =
      { s with hideLanding := false }.narrow skipZone none
        (relations.filter fun r => !isLanding r.sourceTable) := by
  refine ⟨s.narrow_sublist relations skipZone, ?_, ?_, s.narrow_hideLanding skipZone relations⟩
  · cases skipZone with
    | true => exact s.visible_visible relations
    | false => exact pick_pick
  · intro table htable
    exact origins_narrow skipZone htable

/-- Two tables that feed each other, a landing table that feeds one of them, and a relation that
has nothing to do with them. -/
def cycleAndBystander : List Relation :=
  [.ofFields "proceso.p" "id" "resultados.r" "id",
   .ofFields "resultados.r" "id" "proceso.p" "id",
   .ofFields "lz.estatico" "id" "proceso.p" "id",
   .ofFields "s_bani.a" "id" "proceso.q" "id"]

/-- A table of the cycle has been chosen, and landing tables are hidden. -/
def onCycle : Selection := { table := .named "resultados.r", hideLanding := true, ready := true }

/-- Two of the four relations are dropped, and the origins are still those of all four. -/
theorem narrow_stable_onCycle :
    (onCycle.narrow false none cycleAndBystander).length = 2 ∧
    origins true (onCycle.narrow false none cycleAndBystander) "resultados.r" =
      origins true cycleAndBystander "resultados.r" ∧
    (origins true cycleAndBystander "resultados.r").toList = ["proceso.p", "resultados.r"] :=
  ⟨by decide +kernel,
    (narrow_stable onCycle false cycleAndBystander).2.2.1 "resultados.r" rfl,
    by decide +kernel⟩

end Selection

end Provenance
