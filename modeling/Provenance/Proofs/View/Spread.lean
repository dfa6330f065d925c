import Mathlib.Algebra.BigOperators.Group.List.Basic
import Mathlib.Algebra.Order.Field.Basic
import Mathlib.Data.List.Pairwise
import Mathlib.Order.Bounds.Basic
import Mathlib.Tactic.Linarith
import Mathlib.Tactic.NormNum.OfScientific
import Mathlib.Tactic.Ring
import Provenance.Proofs.Layout.Packing
import Provenance.View.Spread

/-!
# Spreading by the least factor

Tables that have settled too close to each other are spread apart about their centroid.  One
factor is computed from all pairs of tables: it is raised for every pair that is not apart yet, to
what the pair needs in one direction or the other, and it is bounded.  A pair whose centres
coincide cannot be separated by any factor.  This module shows that the factor is the least one
that separates all pairs, up to the bound.

Main results:

- Theorem `atLeast_pairFactor`: what one pair contributes to the factor.
- Theorem `spreadFactor_iff`: what is said of every pair is said of the factor.
- Theorem `isSome_spreadFactor`: there is such a factor unless none separates some pair.
- Theorem `find?_separate`: spreading scales about the centroid.
- Theorem `separatedAt_of_scaled`: scaling by a factor that separates does separate.
- Theorem `packTables_disjoint`: boxes packed around separated centres do not overlap.
- Theorem `least_or_none`: the factor is the least one that separates, up to the bound.
-/

namespace Provenance

variable {K : Type} [ExactScalar K] {m : LayoutMetrics K} {g : Graph}
  {centers : NameMap (Point K)}

theorem tableMargin_eq : (tableMargin : K) = 40 := by
  norm_num [tableMargin]

theorem maxSpread_eq : (maxSpread : K) = 25 := by
  norm_num [maxSpread]

/-! ## Pairs of tables -/

namespace Placed

/-- Two tables keep the margin, beside or above each other, when all distances are multiplied by
a factor. -/
@[mk_iff]
inductive ApartAt (m : LayoutMetrics K) (d : K) (a b : Placed K) : Prop
  | beside (h : m.tableWidth + 40 ≤ |a.center.x - b.center.x| * d)
  | above (h : (a.height + b.height) / 2 + 40 ≤ |a.center.y - b.center.y| * d)

/-- No factor separates two tables: their centres coincide, and they need room in both
directions. -/
structure Stuck (m : LayoutMetrics K) (a b : Placed K) : Prop where
  center : a.center = b.center
  width : 0 < m.tableWidth + 40
  height : 0 < (a.height + b.height) / 2 + 40

variable {d : K} {a b : Placed K}

/-- Tables that are apart stay apart when distances grow. -/
theorem ApartAt.of_one_le (h : a.ApartAt m 1 b) (hd : 1 ≤ d) : a.ApartAt m d b := by
  cases h with
  | beside hx =>
      rw [mul_one] at hx
      exact .beside (hx.trans (le_mul_of_one_le_right (abs_nonneg _) hd))
  | above hy =>
      rw [mul_one] at hy
      exact .above (hy.trans (le_mul_of_one_le_right (abs_nonneg _) hd))

end Placed

/-! ## Factors -/

/-- A factor is no less than another one, where a missing one is larger than every factor. -/
def AtLeast (d : K) (factor : Option K) : Prop := ∃ f, factor = some f ∧ f ≤ d

section Factors

variable {d : K} {factor factor' : Option K}

@[simp]
theorem atLeast_some {f : K} : AtLeast d (some f) ↔ f ≤ d := by
  simp [AtLeast]

/-- No factor is as large as a missing one. -/
@[simp]
theorem not_atLeast_none : ¬ AtLeast d none := by
  simp [AtLeast]

/-- What is no less than the smaller of two factors is no less than one of them. -/
theorem atLeast_smallerFactor :
    AtLeast d (smallerFactor factor factor') ↔ AtLeast d factor ∨ AtLeast d factor' := by
  cases factor <;> cases factor' <;> simp [smallerFactor, ExactScalar.smaller_eq]

/-- What is no less than the larger of two factors is no less than both. -/
theorem atLeast_largerFactor :
    AtLeast d (largerFactor factor factor') ↔ AtLeast d factor ∧ AtLeast d factor' := by
  cases factor <;> cases factor' <;> simp [largerFactor, ExactScalar.larger_eq]

/-- A distance that is too short is stretched to what is needed, and not further. -/
theorem atLeast_stretch? {need distance : K} (hdistance : 0 ≤ distance) (hlt : distance < need) :
    AtLeast d (stretch? need distance) ↔ need ≤ distance * d := by
  unfold stretch?
  rw [ExactScalar.zero_eq]
  rcases hdistance.lt_or_eq with hpos | hzero
  · rw [if_pos ⟨hpos, hlt⟩, atLeast_some, div_le_iff₀' hpos]
  · rw [← hzero] at hlt ⊢
    simp [not_le.2 hlt]

/-- A pair of tables raises the factor to what separates it. -/
theorem atLeast_pairFactor (hd : 1 ≤ d) (a b : Placed K) :
    AtLeast d (pairFactor m a b factor) ↔ AtLeast d factor ∧ a.ApartAt m d b := by
  unfold pairFactor
  simp only [tableMargin_eq, ExactScalar.magnitude_eq, ExactScalar.two_eq]
  split
  · rename_i hapart
    have hstays : a.ApartAt m d b := by
      apply Placed.ApartAt.of_one_le _ hd
      simpa only [Placed.apartAt_iff, mul_one] using hapart
    simp only [hstays, and_true]
  · rename_i hclose
    rw [not_or, not_le, not_le] at hclose
    rw [atLeast_largerFactor, atLeast_smallerFactor, atLeast_stretch? (abs_nonneg _) hclose.1,
      atLeast_stretch? (abs_nonneg _) hclose.2, Placed.apartAt_iff]

/-- The smaller of two factors exists if one of them does. -/
theorem isSome_smallerFactor :
    (smallerFactor factor factor').isSome ↔ factor.isSome ∨ factor'.isSome := by
  cases factor <;> cases factor' <;> simp [smallerFactor]

/-- The larger of two factors exists if both of them do. -/
theorem isSome_largerFactor :
    (largerFactor factor factor').isSome ↔ factor.isSome ∧ factor'.isSome := by
  cases factor <;> cases factor' <;> simp [largerFactor]

/-- A pair of tables leaves no factor only if none separates it. -/
theorem isSome_pairFactor (a b : Placed K) :
    (pairFactor m a b factor).isSome ↔ factor.isSome ∧ ¬ a.Stuck m b := by
  unfold pairFactor
  simp only [tableMargin_eq, ExactScalar.magnitude_eq, ExactScalar.two_eq]
  split
  · rename_i hapart
    have hfree : ¬ a.Stuck m b := by
      rintro ⟨hcenter, hwidth, hheight⟩
      simp only [hcenter, sub_self, abs_zero] at hapart
      rcases hapart with hx | hy
      · exact absurd hwidth (not_lt.2 hx)
      · exact absurd hheight (not_lt.2 hy)
    simp only [hfree, not_false_eq_true, and_true]
  · rename_i hclose
    rw [not_or, not_le, not_le] at hclose
    have hwidth := (abs_nonneg _).trans_lt hclose.1
    have hheight := (abs_nonneg _).trans_lt hclose.2
    -- both directions need room, so that only the same centre is in the way
    have hstuck : ¬ a.Stuck m b ↔
        0 < |a.center.x - b.center.x| ∨ 0 < |a.center.y - b.center.y| := by
      rw [abs_pos, abs_pos, sub_ne_zero, sub_ne_zero, ← not_and_or, not_iff_not]
      constructor
      · rintro ⟨hcenter, -, -⟩
        exact ⟨congrArg Point.x hcenter, congrArg Point.y hcenter⟩
      · rintro ⟨hx, hy⟩
        refine ⟨?_, hwidth, hheight⟩
        rw [show a.center = ⟨a.center.x, a.center.y⟩ from rfl, hx, hy]
    rw [isSome_largerFactor, isSome_smallerFactor, hstuck]
    simp [stretch?, ExactScalar.zero_eq, hclose.1, hclose.2]

/-- If every pair of tables adds a condition of its own to what holds of a factor, then one table
and those after it add the conditions of their pairs. -/
theorem foldl_pairFactor_iff {P : Option K → Prop} {R : Placed K → Placed K → Prop}
    (hpair : ∀ a b factor, P (pairFactor m a b factor) ↔ P factor ∧ R a b)
    (a : Placed K) (rest : List (Placed K)) (factor : Option K) :
    P (rest.foldl (fun f b => pairFactor m a b f) factor) ↔ P factor ∧ ∀ b ∈ rest, R a b := by
  induction rest generalizing factor with
  | nil => simp
  | cons b rest ih => rw [List.foldl_cons, ih, hpair, List.forall_mem_cons, and_assoc]

/-- All tables together add the conditions of all pairs. -/
theorem spreadFactor_iff {P : Option K → Prop} {R : Placed K → Placed K → Prop}
    (hpair : ∀ a b factor, P (pairFactor m a b factor) ↔ P factor ∧ R a b)
    (factor : Option K) (placed : List (Placed K)) :
    P (spreadFactor m factor placed) ↔ P factor ∧ placed.Pairwise R := by
  induction placed generalizing factor with
  | nil => simp [spreadFactor]
  | cons a rest ih =>
      calc
        P (spreadFactor m factor (a :: rest)) ↔
            P (rest.foldl (fun f b => pairFactor m a b f) factor) ∧ rest.Pairwise R := ih _
        _ ↔ P factor ∧ (a :: rest).Pairwise R := by
          rw [foldl_pairFactor_iff hpair, List.pairwise_cons, and_assoc]

end Factors

/-! ## Factors that separate -/

/-- All pairs of tables keep the margin when the distances between their centres are multiplied by
a factor. -/
def SeparatedAt (m : LayoutMetrics K) (g : Graph) (centers : NameMap (Point K)) (d : K) : Prop :=
  g.tables.Pairwise fun t t' => ∀ c c', centers.find? t.id = some c →
    centers.find? t'.id = some c' →
    Placed.ApartAt m d ⟨c, m.tableHeight (g.rowCount t)⟩ ⟨c', m.tableHeight (g.rowCount t')⟩

/-- The factors from one on that separate all pairs of tables. -/
def spreadFactors (m : LayoutMetrics K) (g : Graph) (centers : NameMap (Point K)) : Set K :=
  {d | 1 ≤ d ∧ SeparatedAt m g centers d}

/-- There are two tables that no factor separates. -/
def SomeStuck (m : LayoutMetrics K) (g : Graph) (centers : NameMap (Point K)) : Prop :=
  ∃ t t' c c', [t, t'].Sublist g.tables ∧ centers.find? t.id = some c ∧
    centers.find? t'.id = some c' ∧
    Placed.Stuck m ⟨c, m.tableHeight (g.rowCount t)⟩ ⟨c', m.tableHeight (g.rowCount t')⟩

/-- Pairs of placed tables are pairs of tables that have a centre. -/
theorem pairwise_placedTables {R : Placed K → Placed K → Prop} :
    (placedTables m g centers).Pairwise R ↔
      g.tables.Pairwise fun t t' => ∀ c c', centers.find? t.id = some c →
        centers.find? t'.id = some c' →
        R ⟨c, m.tableHeight (g.rowCount t)⟩ ⟨c', m.tableHeight (g.rowCount t')⟩ := by
  unfold placedTables
  rw [List.pairwise_filterMap]
  simp only [Option.map_eq_some_iff, forall_exists_index, and_imp]
  constructor <;> refine List.Pairwise.imp ?_
  · intro t t' h c c' hc hc'
    exact h _ c hc rfl _ c' hc' rfl
  · rintro t t' h _ c hc rfl _ c' hc' rfl
    exact h c c' hc hc'

/-- The factors that separate are those from the computed one on. -/
theorem mem_spreadFactors {d : K} :
    d ∈ spreadFactors m g centers ↔
      1 ≤ d ∧ AtLeast d (spreadFactor m (some 1.0) (placedTables m g centers)) := by
  refine and_congr_right fun hd => ?_
  have hspread := spreadFactor_iff (P := AtLeast d)
    (fun a b _ => atLeast_pairFactor (m := m) hd a b) (some 1.0) (placedTables m g centers)
  have hone : AtLeast d (some (1.0 : K)) := by
    rw [atLeast_some, ExactScalar.one_eq]
    exact hd
  rw [hspread, pairwise_placedTables]
  simp only [hone, true_and, SeparatedAt]

/-- There is a factor unless none separates some pair of tables. -/
theorem isSome_spreadFactor :
    (spreadFactor m (some 1.0) (placedTables m g centers)).isSome ↔
      ¬ SomeStuck m g centers := by
  have hspread := spreadFactor_iff (P := fun factor => factor.isSome = true)
    (fun a b _ => isSome_pairFactor (m := m) a b) (some 1.0) (placedTables m g centers)
  rw [hspread, pairwise_placedTables, List.pairwise_iff_forall_sublist]
  simp only [Option.isSome_some, true_and]
  constructor
  · rintro h ⟨t, t', c, c', hpair, hc, hc', hstuck⟩
    exact h hpair c c' hc hc' hstuck
  · intro h t t' hpair c c' hc hc' hstuck
    exact h ⟨t, t', c, c', hpair, hc, hc', hstuck⟩

/-! ## Scaling about the centroid -/

/-- The average of all centres. -/
def centroid (centers : NameMap (Point K)) : Point K where
  x := (centers.values.map Point.x).sum / centers.values.length
  y := (centers.values.map Point.y).sum / centers.values.length

/-- A point moved away from another one by a factor. -/
def Point.scaledFrom (origin : Point K) (f : K) (p : Point K) : Point K where
  x := origin.x + (p.x - origin.x) * f
  y := origin.y + (p.y - origin.y) * f

/-- The factor one moves no point. -/
theorem Point.scaledFrom_one (origin p : Point K) : origin.scaledFrom 1 p = p := by
  simp [scaledFrom]

/-- The mean of some numbers is their sum divided by how many they are. -/
theorem mean_eq (xs : List K) : Scalar.mean xs = xs.sum / xs.length := by
  have hsum : Scalar.sum xs = xs.sum := by
    rw [Scalar.sum, ExactScalar.zero_eq, List.sum_eq_foldl]
  rw [Scalar.mean, hsum]
  rfl

/-- Every centre is moved away from the average of all centres. -/
theorem find?_scaleAbout (f : K) (centers : NameMap (Point K)) (id : String) :
    (scaleAbout f centers).find? id =
      (centers.find? id).map ((centroid centers).scaledFrom f) := by
  unfold scaleAbout
  rw [NameMap.find?_mapValues, mean_eq, mean_eq, List.length_map, List.length_map]
  rfl

/-- The computed factor, but no more than the bound. -/
def cappedFactor (m : LayoutMetrics K) (placed : List (Placed K)) : K :=
  (spreadFactor m (some 1.0) placed).elim 25 fun f => min f 25

/-- Centres are moved only if there are two of them and the factor is more than one. -/
theorem separate_eq :
    separate m g centers =
      if (placedTables m g centers).length < 2 then centers
      else if cappedFactor m (placedTables m g centers) ≤ 1 then centers
      else scaleAbout (cappedFactor m (placedTables m g centers)) centers := by
  unfold separate cappedFactor
  dsimp only
  cases spreadFactor m (some 1.0) (placedTables m g centers) with
  | none =>
      simp only [Option.elim_none, maxSpread_eq, ExactScalar.one_eq]
      rfl
  | some f =>
      simp only [Option.elim_some, maxSpread_eq, ExactScalar.one_eq, ExactScalar.smaller_eq]
      rfl

/-- A single table needs no spreading. -/
theorem cappedFactor_of_length {placed : List (Placed K)} (h : placed.length < 2) :
    cappedFactor m placed ≤ 1 := by
  have hfactor : spreadFactor m (some 1.0) placed = some 1.0 := by
    match placed, h with
    | [], _ => rfl
    | [_], _ => rfl
  rw [cappedFactor, hfactor, Option.elim_some, ExactScalar.one_eq]
  exact min_le_left _ _

/-- Spreading scales all centres about their centroid by one factor, which is at least one. -/
theorem find?_separate (m : LayoutMetrics K) (g : Graph) (centers : NameMap (Point K))
    (id : String) :
    (separate m g centers).find? id = (centers.find? id).map
      ((centroid centers).scaledFrom (max 1 (cappedFactor m (placedTables m g centers)))) := by
  by_cases hstays : cappedFactor m (placedTables m g centers) ≤ 1
  · -- nothing moves, which is to scale by one
    have hsame : separate m g centers = centers := by
      rw [separate_eq, if_pos hstays, ite_self]
    rw [hsame, max_eq_left hstays, funext (Point.scaledFrom_one _), Option.map_id']
  · have hmany : ¬ (placedTables m g centers).length < 2 :=
      fun hfew => hstays (cappedFactor_of_length hfew)
    rw [separate_eq, if_neg hmany, if_neg hstays, max_eq_right (le_of_not_ge hstays)]
    exact find?_scaleAbout _ centers id

/-- Scaling by a factor multiplies all distances. -/
theorem Point.abs_sub_scaledFrom (origin p q : Point K) {f : K} (hf : 0 ≤ f) :
    |(origin.scaledFrom f p).x - (origin.scaledFrom f q).x| = |p.x - q.x| * f ∧
      |(origin.scaledFrom f p).y - (origin.scaledFrom f q).y| = |p.y - q.y| * f := by
  have hscaled (o a b : K) : |o + (a - o) * f - (o + (b - o) * f)| = |a - b| * f := by
    calc
      |o + (a - o) * f - (o + (b - o) * f)| = |(a - b) * f| := by
        congr 1
        ring
      _ = |a - b| * f := by
        rw [abs_mul, abs_of_nonneg hf]
  exact ⟨hscaled _ _ _, hscaled _ _ _⟩

/-- Scaling by a factor that separates does separate. -/
theorem separatedAt_of_scaled {spread : NameMap (Point K)} {origin : Point K} {f : K} (hf : 0 ≤ f)
    (hspread : ∀ id, spread.find? id = (centers.find? id).map (origin.scaledFrom f))
    (h : SeparatedAt m g centers f) : SeparatedAt m g spread 1 := by
  unfold SeparatedAt at h ⊢
  refine h.imp ?_
  intro t t' hpair c c' hc hc'
  rw [hspread, Option.map_eq_some_iff] at hc hc'
  obtain ⟨p, hp, rfl⟩ := hc
  obtain ⟨p', hp', rfl⟩ := hc'
  obtain ⟨hx, hy⟩ := origin.abs_sub_scaledFrom p p' hf
  have hapart := hpair p p' hp hp'
  rw [Placed.apartAt_iff] at hapart ⊢
  rwa [hx, hy, mul_one, mul_one]

/-! ## Packed tables -/

/-- Boxes around centres that keep the margin do not overlap. -/
theorem boxAround_disjoint {t t' : TableNode} {c c' : Point K}
    (h : Placed.ApartAt m 1 ⟨c, m.tableHeight (g.rowCount t)⟩
      ⟨c', m.tableHeight (g.rowCount t')⟩) :
    ((boxAround m g t c).area m).Disjoint ((boxAround m g t' c').area m) := by
  cases h with
  | beside hx =>
      rw [mul_one] at hx
      rcases le_abs.1 hx with hright | hleft
      · refine (Area.disjoint_of_leftOf ?_).symm
        simp only [TableBox.area, boxAround]
        linarith
      · refine Area.disjoint_of_leftOf ?_
        simp only [TableBox.area, boxAround]
        linarith
  | above hy =>
      rw [mul_one] at hy
      rcases le_abs.1 hy with hbelow | habove
      · refine (Area.disjoint_of_above ?_).symm
        simp only [TableBox.area, boxAround, TableBox.bottom, ExactScalar.two_eq]
        linarith
      · refine Area.disjoint_of_above ?_
        simp only [TableBox.area, boxAround, TableBox.bottom, ExactScalar.two_eq]
        linarith

/-- Tables packed around separated centres do not overlap. -/
theorem packTables_disjoint (h : SeparatedAt m g centers 1) :
    (packTables m g centers).Pairwise fun a b => (a.area m).Disjoint (b.area m) := by
  unfold packTables
  rw [List.pairwise_filterMap]
  unfold SeparatedAt at h
  refine h.imp ?_
  intro t t' hpair b hb b' hb'
  obtain ⟨c, hc, rfl⟩ := Option.map_eq_some_iff.1 hb
  obtain ⟨c', hc', rfl⟩ := Option.map_eq_some_iff.1 hb'
  exact boxAround_disjoint (hpair c c' hc hc')

/-! ## The least factor -/

/-- No factor separates all tables exactly if none separates some pair of them. -/
theorem spreadFactors_eq_empty_iff :
    spreadFactors m g centers = ∅ ↔ SomeStuck m g centers := by
  rw [← not_iff_not, ← isSome_spreadFactor, Option.isSome_iff_exists, ← Ne,
    ← Set.nonempty_iff_ne_empty]
  constructor
  · rintro ⟨d, hd⟩
    obtain ⟨f, hfactor, -⟩ := (mem_spreadFactors.1 hd).2
    exact ⟨f, hfactor⟩
  · rintro ⟨f, hfactor⟩
    refine ⟨max 1 f, mem_spreadFactors.2 ⟨le_max_left _ _, ?_⟩⟩
    rw [hfactor, atLeast_some]
    exact le_max_right _ _

/-- The factor by which tables are spread is the least one that separates them, up to the bound;
if there is none, it is the bound. -/
theorem least_or_none (m : LayoutMetrics K) (g : Graph) (centers : NameMap (Point K)) :
    (∃ d, IsLeast (spreadFactors m g centers) d ∧
      max 1 (cappedFactor m (placedTables m g centers)) = min d 25) ∨
    (spreadFactors m g centers = ∅ ∧
      max 1 (cappedFactor m (placedTables m g centers)) = 25) := by
  have hbound : (1 : K) ≤ 25 := by norm_num
  unfold cappedFactor
  cases hfactor : spreadFactor m (some 1.0) (placedTables m g centers) with
  | none =>
      right
      refine ⟨Set.eq_empty_iff_forall_notMem.2 fun d hd => ?_, max_eq_right hbound⟩
      rw [mem_spreadFactors, hfactor] at hd
      exact not_atLeast_none hd.2
  | some f =>
      left
      have hmem (d : K) : d ∈ spreadFactors m g centers ↔ max 1 f ≤ d := by
        rw [mem_spreadFactors, hfactor, atLeast_some, max_le_iff]
      refine ⟨max 1 f, ⟨(hmem _).2 le_rfl, fun d hd => (hmem d).1 hd⟩, ?_⟩
      rw [Option.elim_some, max_min_distrib_left, max_eq_right hbound]

/-- Tables are spread about the centroid of their centres by one factor between 1 and 25.  It is
the least factor that separates all pairs of tables, or 25 if this is less or no factor separates
them, which happens exactly if two tables that need room have the same centre.  If 25 is enough,
all pairs are separated afterwards, and the boxes packed around the new centres do not overlap,
whatever the signs of their sizes are. -/
theorem separate_by_least_factor (m : LayoutMetrics K) (g : Graph)
    (centers : NameMap (Point K)) :
    ∃ f : K, 1 ≤ f ∧ f ≤ 25 ∧
      (∀ id, (separate m g centers).find? id =
        (centers.find? id).map ((centroid centers).scaledFrom f)) ∧
      ((∃ d, IsLeast (spreadFactors m g centers) d ∧ f = min d 25) ∨
        (spreadFactors m g centers = ∅ ∧ f = 25)) ∧
      (spreadFactors m g centers = ∅ ↔ SomeStuck m g centers) ∧
      ∀ d ∈ spreadFactors m g centers, d ≤ 25 →
        SeparatedAt m g (separate m g centers) 1 ∧
        (packTables m g (separate m g centers)).Pairwise
          fun a b => (a.area m).Disjoint (b.area m) := by
  have hleast := least_or_none m g centers
  have hscaled := find?_separate m g centers
  have hone := le_max_left 1 (cappedFactor m (placedTables m g centers))
  generalize max 1 (cappedFactor m (placedTables m g centers)) = f at hleast hscaled hone
  refine ⟨f, hone, ?_, hscaled, hleast, spreadFactors_eq_empty_iff, ?_⟩
  · rcases hleast with ⟨d, -, hf⟩ | ⟨-, hf⟩
    · exact hf ▸ min_le_right d 25
    · exact hf.le
  · intro d hd hbound
    have hfactor : f ∈ spreadFactors m g centers := by
      rcases hleast with ⟨e, he, hf⟩ | ⟨hempty, -⟩
      · -- the least factor is no more than the given one, so that it is not cut off
        rw [hf, min_eq_left ((he.2 hd).trans hbound)]
        exact he.1
      · exact absurd (hempty ▸ hd) (Set.notMem_empty d)
    have hseparated := separatedAt_of_scaled (zero_le_one.trans hone) hscaled hfactor.2
    exact ⟨hseparated, packTables_disjoint hseparated⟩

/-- Two tables side by side, half as far from each other as they should be. -/
def tooClose : NameMap (Point ℚ) where
  entries := [("table:proceso.p", ⟨0, 0⟩), ("table:s_bani.a", ⟨170, 0⟩)]
  increasing := by decide

/-- The tables are spread by the factor 2. -/
theorem separate_tooClose :
    letI := ExactScalar.rational fun _ _ => 0
    let m : LayoutMetrics ℚ := LayoutMetrics.standard
    let g := Graph.build .tables [.ofFields "s_bani.a" "*" "proceso.p" "*"]
    IsLeast (spreadFactors m g tooClose) 2 ∧
    (separate m g tooClose).find? "table:proceso.p" = some ⟨-85, 0⟩ ∧
    (separate m g tooClose).find? "table:s_bani.a" = some ⟨255, 0⟩ ∧
    (packTables m g (separate m g tooClose)).Pairwise
      fun a b => (a.area m).Disjoint (b.area m) := by
  let := ExactScalar.rational fun _ _ => 0
  intro m g
  have htables : g.tables =
      [⟨"table:proceso.p", "proceso.p", "proceso", .process, ["(*)"]⟩,
       ⟨"table:s_bani.a", "s_bani.a", "s_bani", .stagingArea, []⟩] := by
    decide +kernel
  have hfields : g.fields = [] := by decide +kernel
  have hp : tooClose.find? "table:proceso.p" = some ⟨0, 0⟩ := rfl
  have ha : tooClose.find? "table:s_bani.a" = some ⟨170, 0⟩ := rfl
  have hseparated (d : ℚ) : SeparatedAt m g tooClose d ↔ 2 ≤ d := by
    have hneed : SeparatedAt m g tooClose d ↔ 340 ≤ 170 * d := by
      norm_num [SeparatedAt, Placed.apartAt_iff, htables, hp, ha, Graph.rowCount, Graph.children,
        hfields, m, LayoutMetrics.standard, LayoutMetrics.tableHeight, ExactScalar.ofCount_eq]
    rw [hneed]
    constructor <;> intro h <;> linarith
  have hleast : IsLeast (spreadFactors m g tooClose) 2 := by
    refine ⟨⟨by norm_num, (hseparated 2).2 le_rfl⟩, ?_⟩
    rintro d ⟨-, hd⟩
    exact (hseparated d).1 hd
  have hcentroid : centroid tooClose = ⟨85, 0⟩ := by
    norm_num [centroid, tooClose, NameMap.values]
  obtain ⟨f, -, -, hscaled, hfactor, -, hapart⟩ := separate_by_least_factor m g tooClose
  have hf : f = 2 := by
    rcases hfactor with ⟨d, hd, rfl⟩ | ⟨hempty, -⟩
    · rw [hd.unique hleast]
      norm_num
    · exact absurd (hempty ▸ hleast.1) (Set.notMem_empty 2)
  refine ⟨hleast, ?_, ?_, (hapart 2 hleast.1 (by norm_num)).2⟩
  · rw [hscaled, hp, hcentroid, hf]
    norm_num [Point.scaledFrom]
  · rw [hscaled, ha, hcentroid, hf]
    norm_num [Point.scaledFrom]

end Provenance
