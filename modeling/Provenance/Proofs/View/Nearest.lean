import Mathlib.Algebra.Order.Field.Basic
import Mathlib.Data.List.MinMax
import Mathlib.Order.Bounds.Basic
import Mathlib.Tactic.FieldSimp
import Mathlib.Tactic.Linarith
import Mathlib.Tactic.NormNum.OfScientific
import Mathlib.Tactic.Ring
import Provenance.Proofs.View.Fit
import Provenance.Proofs.View.Segments

/-!
# The nearest edge

The pointer picks an edge if it is within reach of its segment.  The distance of a point from a
segment is computed by dropping a perpendicular onto the line and going back to the segment if its
foot lies beyond an end.  Distances are compared in the drawing, where the reach is divided by the
zoom.  This module shows that on the screen the edge that is picked is the nearest one of all, and
that there is none within reach if none is picked.

Main results:

- Theorem `Segment.isLeast_distance`: the distance from a segment is the least one from any of its
  points.
- Theorem `View.isLeast_screenDistances`: on the screen it is multiplied by the zoom.
- Theorem `View.foldl_nearer`: keeping the nearer edge finds the first one of the nearest.
- Theorems `View.edgeAt?_eq_some` and `View.edgeAt?_eq_none_iff`: which edge is picked in the
  drawing.
-/

namespace Provenance

/-! ## Edges within reach -/

namespace View

section Reach

variable {K : Type} [ExactScalar K] {s : Setting K} {v : View K}

/-- Keeping the nearer one of two edges finds the first one of the nearest. -/
theorem foldl_nearer (cs : List (Candidate K)) :
    cs.foldl nearer none = cs.argmin Candidate.distance := by
  have hstep : nearer (α := K) = List.argAux fun b c => b.distance < c.distance := by
    funext best c
    cases best <;> rfl
  rw [hstep]
  rfl

/-- What comes before the first one of the nearest is further away. -/
theorem exists_append_of_argmin {cs : List (Candidate K)} {c : Candidate K}
    (h : cs.argmin Candidate.distance = some c) :
    ∃ before after, cs = before ++ c :: after ∧ ∀ c' ∈ before, c.distance < c'.distance := by
  classical
  obtain ⟨before, after, rfl, hnot⟩ := List.eq_append_cons_of_mem (List.argmin_mem h)
  refine ⟨before, after, rfl, fun c' hc' => ?_⟩
  by_contra hle
  have hindex := List.index_of_argmin h (List.mem_append_left _ hc') (not_lt.1 hle)
  have hlt : List.idxOf c' before < before.length := List.idxOf_lt_length_of_mem hc'
  rw [List.idxOf_append_of_notMem hnot, List.idxOf_append_of_mem hc'] at hindex
  omega

/-- An edge within reach, with its distance. -/
def candidate? (s : Setting K) (v : View K) (tolerance : K) (q : Point K) (e : Edge) :
    Option (Candidate K) :=
  match v.edgeDistance? s q e with
  | some d => if d ≤ tolerance then some ⟨d, e⟩ else none
  | none => none

theorem candidate?_eq_some {tolerance : K} {q : Point K} {e : Edge} {c : Candidate K} :
    v.candidate? s tolerance q e = some c ↔
      c.edge = e ∧ v.edgeDistance? s q e = some c.distance ∧ c.distance ≤ tolerance := by
  unfold candidate?
  cases v.edgeDistance? s q e with
  | none => simp
  | some d =>
      obtain ⟨d', e'⟩ := c
      by_cases hd : d ≤ tolerance
      · simp only [if_pos hd, Option.some.injEq, Candidate.mk.injEq]
        constructor
        · rintro ⟨rfl, rfl⟩
          exact ⟨rfl, rfl, hd⟩
        · rintro ⟨rfl, rfl, -⟩
          exact ⟨rfl, rfl⟩
      · simp only [if_neg hd, Option.some.injEq, false_iff, reduceCtorEq]
        rintro ⟨-, rfl, hle⟩
        exact hd hle

theorem mem_edgesWithin {tolerance : K} {q : Point K} {c : Candidate K} :
    c ∈ v.edgesWithin s tolerance q ↔
      c.edge ∈ v.graph.edges ∧ v.edgeDistance? s q c.edge = some c.distance ∧
        c.distance ≤ tolerance := by
  have hmem : c ∈ v.edgesWithin s tolerance q ↔
      ∃ e ∈ v.graph.edges, v.candidate? s tolerance q e = some c := List.mem_filterMap
  simp only [hmem, candidate?_eq_some]
  constructor
  · rintro ⟨e, he, rfl, hfound⟩
    exact ⟨he, hfound⟩
  · rintro ⟨he, hfound⟩
    exact ⟨c.edge, he, rfl, hfound⟩

variable {scaled : ScaledValues K} {p : Point K}

/-- No edge is picked exactly if all that are drawn are out of reach. -/
theorem edgeAt?_eq_none_iff :
    v.edgeAt? s scaled p = none ↔ ∀ e ∈ v.graph.edges, ∀ d,
      v.edgeDistance? s (v.toGraph p) e = some d → scaled.edgeHitTolerance < d := by
  rw [edgeAt?, foldl_nearer, Option.map_eq_none_iff, List.argmin_eq_none,
    List.eq_nil_iff_forall_not_mem]
  constructor
  · intro hnone e he d hd
    by_contra hle
    exact hnone ⟨d, e⟩ (mem_edgesWithin.2 ⟨he, hd, not_lt.1 hle⟩)
  · intro hfar c hc
    obtain ⟨he, hd, hle⟩ := mem_edgesWithin.1 hc
    exact absurd (hfar c.edge he c.distance hd) (not_lt.2 hle)

/-- The edge that is picked is drawn and within reach, no drawn edge is nearer, and those before
it are further away. -/
theorem edgeAt?_eq_some {e : Edge} (h : v.edgeAt? s scaled p = some e) :
    ∃ before after d, v.graph.edges = before ++ e :: after ∧
      v.edgeDistance? s (v.toGraph p) e = some d ∧ d ≤ scaled.edgeHitTolerance ∧
      (∀ e' ∈ v.graph.edges, ∀ d', v.edgeDistance? s (v.toGraph p) e' = some d' → d ≤ d') ∧
      ∀ e' ∈ before, ∀ d', v.edgeDistance? s (v.toGraph p) e' = some d' → d < d' := by
  rw [edgeAt?, foldl_nearer, Option.map_eq_some_iff] at h
  obtain ⟨c, hc, rfl⟩ := h
  obtain ⟨hmem, hdistance, hreach⟩ := mem_edgesWithin.1 (List.argmin_mem hc)
  obtain ⟨cs, cs', hsplit, hbefore⟩ := exists_append_of_argmin hc
  -- the edges before the one that is picked are those of the candidates before it, and others
  -- that are no candidates
  obtain ⟨edges, rest, hedges, hcs, hrest⟩ := List.filterMap_eq_append_iff.1 hsplit
  obtain ⟨skipped, e, after, rfl, hskipped, hfound, -⟩ := List.filterMap_eq_cons_iff.1 hrest
  obtain ⟨rfl, -, -⟩ := candidate?_eq_some.1 hfound
  refine ⟨edges ++ skipped, after, c.distance, by rw [hedges, List.append_assoc], hdistance,
    hreach, ?_, ?_⟩
  · intro e' he' d' hd'
    by_cases hle : d' ≤ scaled.edgeHitTolerance
    · have hcandidate : ⟨d', e'⟩ ∈ v.edgesWithin s scaled.edgeHitTolerance (v.toGraph p) :=
        mem_edgesWithin.2 ⟨he', hd', hle⟩
      exact List.le_of_mem_argmin hcandidate hc
    · exact hreach.trans (not_le.1 hle).le
  · intro e' he' d' hd'
    by_cases hle : d' ≤ scaled.edgeHitTolerance
    · have hcandidate : v.candidate? s scaled.edgeHitTolerance (v.toGraph p) e' = some ⟨d', e'⟩ :=
        candidate?_eq_some.2 ⟨rfl, hd', hle⟩
      rcases List.mem_append.1 he' with hin | hin
      · exact hbefore _ (hcs ▸ List.mem_filterMap.2 ⟨e', hin, hcandidate⟩)
      · exact absurd ((hskipped e' hin).symm.trans hcandidate) (by simp)
    · exact hreach.trans_lt (not_le.1 hle)

end Reach

end View

variable {K : Type} [EuclideanScalar K]

/-! ## The distance from a segment -/

theorem Scalar.clampUnit_mem (c : K) : 0 ≤ Scalar.clampUnit c ∧ Scalar.clampUnit c ≤ 1 := by
  simp only [Scalar.clampUnit, ExactScalar.zero_eq, ExactScalar.one_eq]
  split_ifs with hlow hhigh
  · exact ⟨le_rfl, zero_le_one⟩
  · exact ⟨zero_le_one, le_rfl⟩
  · exact ⟨not_lt.1 hlow, not_lt.1 hhigh⟩

/-- Of all numbers between zero and one, clamping chooses the one that is closest. -/
theorem Scalar.abs_clampUnit_sub_le (c : K) {t : K} (ht : 0 ≤ t) (ht' : t ≤ 1) :
    |Scalar.clampUnit c - c| ≤ |t - c| := by
  simp only [Scalar.clampUnit, ExactScalar.zero_eq, ExactScalar.one_eq]
  split_ifs with hlow hhigh
  · rw [abs_of_pos (by linarith), abs_of_pos (by linarith)]
    linarith
  · rw [abs_of_neg (by linarith), abs_of_neg (by linarith)]
    linarith
  · rw [sub_self, abs_zero]
    exact abs_nonneg _

/-- The distance between two points. -/
def Point.distance (p q : Point K) : K := Scalar.length (p.x - q.x) (p.y - q.y)

namespace Segment

/-- The point of a segment after some part of the way. -/
def along (segment : Segment K) (t : K) : Point K where
  x := segment.start.x + t * (segment.stop.x - segment.start.x)
  y := segment.start.y + t * (segment.stop.y - segment.start.y)

/-- How far along the segment the foot of the perpendicular from a point lies, but not beyond an
end. -/
def foot (segment : Segment K) (p : Point K) : K :=
  let dx := segment.stop.x - segment.start.x
  let dy := segment.stop.y - segment.start.y
  if dx * dx + dy * dy = 0 then 0
  else Scalar.clampUnit
    (((p.x - segment.start.x) * dx + (p.y - segment.start.y) * dy) / (dx * dx + dy * dy))

theorem distance_eq (segment : Segment K) (p : Point K) :
    segment.distance p = p.distance (segment.along (segment.foot p)) := by
  simp only [distance, foot, ExactScalar.zero_eq, beq_iff_eq]
  rfl

theorem foot_mem (segment : Segment K) (p : Point K) :
    0 ≤ segment.foot p ∧ segment.foot p ≤ 1 := by
  simp only [foot]
  split_ifs
  · exact ⟨le_rfl, zero_le_one⟩
  · exact Scalar.clampUnit_mem _

/-- Completing the square: beyond the distance from the line, what counts is how far along the
line a point lies from the foot of the perpendicular. -/
theorem mul_self_along {dx dy wx wy c : K} (hc : wx * dx + wy * dy = c * (dx * dx + dy * dy))
    (t : K) :
    (wx - t * dx) * (wx - t * dx) + (wy - t * dy) * (wy - t * dy) =
      wx * wx + wy * wy - c * c * (dx * dx + dy * dy) +
        (dx * dx + dy * dy) * ((t - c) * (t - c)) := by
  calc
    (wx - t * dx) * (wx - t * dx) + (wy - t * dy) * (wy - t * dy) =
        wx * wx + wy * wy - 2 * t * (wx * dx + wy * dy) + t * t * (dx * dx + dy * dy) := by
      ring
    _ = wx * wx + wy * wy - c * c * (dx * dx + dy * dy) +
        (dx * dx + dy * dy) * ((t - c) * (t - c)) := by
      rw [hc]
      ring

/-- No point of a segment is nearer than the foot. -/
theorem distance_foot_le (segment : Segment K) (p : Point K) {t : K} (ht : 0 ≤ t)
    (ht' : t ≤ 1) :
    p.distance (segment.along (segment.foot p)) ≤ p.distance (segment.along t) := by
  simp only [Point.distance, along, foot]
  generalize segment.stop.x - segment.start.x = dx
  generalize segment.stop.y - segment.start.y = dy
  rw [EuclideanScalar.length_le_length, ← sub_sub, ← sub_sub, ← sub_sub, ← sub_sub]
  generalize p.x - segment.start.x = wx
  generalize p.y - segment.start.y = wy
  split_ifs with hzero
  · -- the segment is a point
    obtain ⟨rfl, rfl⟩ := mul_self_add_mul_self_eq_zero.1 hzero
    simp only [mul_zero, le_refl]
  · have hc : wx * dx + wy * dy =
        (wx * dx + wy * dy) / (dx * dx + dy * dy) * (dx * dx + dy * dy) :=
      (div_mul_cancel₀ _ hzero).symm
    have hpart := Scalar.abs_clampUnit_sub_le
      ((wx * dx + wy * dy) / (dx * dx + dy * dy)) ht ht'
    have hlength : 0 ≤ dx * dx + dy * dy := add_nonneg (mul_self_nonneg dx) (mul_self_nonneg dy)
    rw [mul_self_along hc, mul_self_along hc]
    exact add_le_add le_rfl (mul_le_mul_of_nonneg_left (abs_le_iff_mul_self_le.1 hpart) hlength)

/-- The computed distance is the least one from any point of the segment. -/
theorem isLeast_distance (segment : Segment K) (p : Point K) :
    IsLeast {d | ∃ t, 0 ≤ t ∧ t ≤ 1 ∧ p.distance (segment.along t) = d} (segment.distance p) := by
  rw [distance_eq]
  constructor
  · obtain ⟨hlow, hhigh⟩ := segment.foot_mem p
    exact ⟨segment.foot p, hlow, hhigh, rfl⟩
  · rintro d ⟨t, ht, ht', rfl⟩
    exact segment.distance_foot_le p ht ht'

end Segment

/-! ## On the screen -/

/-- The reach of the pointer in the drawing, at some zoom. -/
theorem ScaledValues.edgeHitTolerance_of_ofZoom? {config : ScaleConfig K} {k : K}
    {scaled : ScaledValues K} (h : ScaledValues.ofZoom? config k = some scaled) :
    scaled.edgeHitTolerance = config.edgeHitTolerance / k := by
  simp only [ScaledValues.ofZoom?, ScaleBehavior.sizeAt?, Option.bind_eq_bind, Option.bind_some,
    Option.pure_def, Option.bind_eq_some_iff, Option.some.injEq] at h
  obtain ⟨size, -, rfl⟩ := h
  rfl

namespace View

variable {s : Setting K} {v : View K}

/-- The distances on the screen between a point of the screen and the points of a segment of the
drawing. -/
def screenDistances (v : View K) (p : Point K) (segment : Segment K) : Set K :=
  {d | ∃ t, 0 ≤ t ∧ t ≤ 1 ∧ p.distance (v.toScreen (segment.along t)) = d}

/-- The zoom multiplies distances. -/
theorem distance_toScreen (hk : 0 < v.transform.k) (p q : Point K) :
    p.distance (v.toScreen q) = (v.toGraph p).distance q * v.transform.k := by
  have hcoordinate (a b c : K) :
      a - (b * v.transform.k + c) = ((a - c) / v.transform.k - b) * v.transform.k := by
    rw [sub_mul, div_mul_cancel₀ _ hk.ne']
    ring
  simp only [Point.distance, toScreen, toGraph, hcoordinate]
  exact EuclideanScalar.length_scale hk.le _ _

/-- The least distance on the screen is the computed one, multiplied by the zoom. -/
theorem isLeast_screenDistances (hk : 0 < v.transform.k) (p : Point K) (segment : Segment K) :
    IsLeast (v.screenDistances p segment) (segment.distance (v.toGraph p) * v.transform.k) := by
  obtain ⟨⟨t, ht, ht', hfoot⟩, hleast⟩ := segment.isLeast_distance (v.toGraph p)
  constructor
  · refine ⟨t, ht, ht', ?_⟩
    rw [distance_toScreen hk, hfoot]
  · rintro d ⟨t, ht, ht', rfl⟩
    rw [distance_toScreen hk]
    exact mul_le_mul_of_nonneg_right (hleast ⟨t, ht, ht', rfl⟩) hk.le

/-- Edges of a graph of relations that do not come before an edge have a greater id. -/
theorem eq_or_id_lt_of_append {level : Level} {relations : List Relation} {before after : List Edge}
    {e e' : Edge} (hedges : (Graph.build level relations).edges = before ++ e :: after)
    (he' : e' ∈ (Graph.build level relations).edges) (hnot : e' ∉ before) :
    e' = e ∨ e.id < e'.id := by
  have hids : ((Graph.build level relations).edges.map Edge.id).Pairwise (· < ·) :=
    Graph.edgeIds_increasing
  rw [List.pairwise_map, hedges, List.pairwise_append, List.pairwise_cons] at hids
  rw [hedges, List.mem_append, List.mem_cons] at he'
  rcases he' with hbefore | rfl | hafter
  · exact absurd hbefore hnot
  · exact Or.inl rfl
  · exact Or.inr (hids.2.1.1 e' hafter)

theorem edgeDistance?_eq {q : Point K} {e : Edge} {segment : Segment K}
    (h : v.edgeSegment? s e = some segment) :
    v.edgeDistance? s q e = some (segment.distance q) := by
  simp only [edgeDistance?, h, Option.map_some]

/-- The edge that is picked at a point of the screen has a segment, and on the screen the least
distance of the point from it is at most the reach in pixels.  No drawn edge has a point that is
nearer, and the edges before it in the graph have no point that is as near; so in a graph of
relations it is the first one by id among the nearest.  If no edge is picked, all points of all
drawn edges are further away than the reach. -/
theorem edgeAt?_nearest (s : Setting K) (v : View K) (hk : 0 < v.transform.k)
    (scaled : ScaledValues K) (hscaled : ScaledValues.ofZoom? s.scale v.transform.k = some scaled)
    (p : Point K) :
    (∀ e, v.edgeAt? s scaled p = some e → ∃ before after segment d,
      v.graph.edges = before ++ e :: after ∧ v.edgeSegment? s e = some segment ∧
      IsLeast (v.screenDistances p segment) d ∧ d ≤ s.scale.edgeHitTolerance ∧
      ∀ e' ∈ v.graph.edges, ∀ segment', v.edgeSegment? s e' = some segment' →
        ∀ d' ∈ v.screenDistances p segment', d ≤ d' ∧ (e' ∈ before → d < d') ∧
          ∀ level relations, v.graph = Graph.build level relations → d' = d →
            e' = e ∨ e.id < e'.id) ∧
    (v.edgeAt? s scaled p = none →
      ∀ e ∈ v.graph.edges, ∀ segment, v.edgeSegment? s e = some segment →
        ∀ d ∈ v.screenDistances p segment, s.scale.edgeHitTolerance < d) := by
  have hreach := ScaledValues.edgeHitTolerance_of_ofZoom? hscaled
  constructor
  · intro e he
    obtain ⟨before, after, d, hedges, hdistance, hle, hleast, hfirst⟩ := edgeAt?_eq_some he
    obtain ⟨segment, hsegment, rfl⟩ := Option.map_eq_some_iff.1 hdistance
    rw [hreach, le_div_iff₀ hk] at hle
    refine ⟨before, after, segment, _, hedges, hsegment, isLeast_screenDistances hk p segment,
      hle, ?_⟩
    intro e' he' segment' hsegment' d' hd'
    have hd' := (isLeast_screenDistances hk p segment').2 hd'
    have hnearest := hleast e' he' _ (edgeDistance?_eq hsegment')
    have hfurther (hin : e' ∈ before) : segment.distance (v.toGraph p) * v.transform.k < d' :=
      (mul_lt_mul_of_pos_right (hfirst e' hin _ (edgeDistance?_eq hsegment')) hk).trans_le hd'
    refine ⟨(mul_le_mul_of_nonneg_right hnearest hk.le).trans hd', hfurther, ?_⟩
    intro level relations hgraph hequal
    rw [hgraph] at hedges he'
    exact eq_or_id_lt_of_append hedges he' fun hin => (hfurther hin).ne' hequal
  · intro hnone e he segment hsegment d hd
    have hfar := edgeAt?_eq_none_iff.1 hnone e he _ (edgeDistance?_eq hsegment)
    rw [hreach, div_lt_iff₀ hk] at hfar
    exact hfar.trans_le ((isLeast_screenDistances hk p segment).2 hd)

/-- Two tables side by side at zoom 2, with an edge between them: five pixels below the edge it is
picked, six pixels below it is not. -/
theorem edgeAt?_sideBySide :
    letI := EuclideanScalar.real
    let s : Setting ℝ := ⟨.standard, .standard, 80, fun _ _ _ => .empty⟩
    let g := Graph.build .tables [.ofFields "s_bani.a" "x" "resultados.b" "y"]
    let v : View ℝ :=
      { unarranged g .freeFlow 1500 900 with
        tables := [⟨"table:resultados.b", 1000, 0, 100⟩, ⟨"table:s_bani.a", 0, 0, 100⟩]
        transform := ⟨0, 0, 2⟩ }
    ∃ scaled, ScaledValues.ofZoom? s.scale v.transform.k = some scaled ∧
      (v.edgeAt? s scaled ⟨800, 105⟩).isSome ∧ v.edgeAt? s scaled ⟨800, 106⟩ = none := by
  let := EuclideanScalar.real
  intro s g v
  have hk : (0 : ℝ) < v.transform.k := by norm_num [v]
  have hallowed : s.scale.Allows v.transform.k := by
    constructor <;> norm_num [s, v, ScaleConfig.standard]
  obtain ⟨scaled, hscaled⟩ :=
    Option.isSome_iff_exists.1 (ScaleConfig.ordered_standard.isSome_ofZoom? hallowed)
  have hends : ∀ e ∈ g.edges, e.source = "table:s_bani.a" ∧ e.target = "table:resultados.b" := by
    decide +kernel
  have hfields : g.fields = [] := by decide +kernel
  have hbox (b : TableBox ℝ) (hb : v.tableBox? b.id = some b) :
      v.extent? s b.id = some (tableExtent s b) := by
    have hfield : v.graph.field? b.id = none := by
      rw [Graph.field?, show v.graph.fields = [] from hfields, List.find?_nil]
    rw [extent?, hfield, hb]
    rfl
  have hsource := hbox ⟨"table:s_bani.a", 0, 0, 100⟩ rfl
  have htarget := hbox ⟨"table:resultados.b", 1000, 0, 100⟩ rfl
  have hsegment : ∀ e ∈ g.edges, v.edgeSegment? s e = some ⟨⟨150, 50⟩, ⟨850, 50⟩⟩ := by
    intro e he
    obtain ⟨hstart, hstop⟩ := hends e he
    have hlength : (1 : ℝ) < Scalar.length (700 : ℝ) 0 :=
      lt_of_lt_of_le (by norm_num) (EuclideanScalar.abs_fst_le_length (700 : ℝ) 0)
    simp only [edgeSegment?, hstart, hstop, hsource, htarget]
    norm_num [segmentBetween?, Extent.clip, Extent.reach_eq, Segment.length, hlength, tableExtent,
      TableBox.center, s, LayoutMetrics.standard]
  refine ⟨scaled, hscaled, ?_, ?_⟩
  · obtain ⟨-, hnone⟩ := edgeAt?_nearest s v hk scaled hscaled ⟨800, 105⟩
    obtain ⟨e, he⟩ := List.exists_mem_of_ne_nil g.edges (by decide +kernel)
    rw [Option.isSome_iff_ne_none]
    intro hpick
    -- the point of the segment that lies above the pointer is exactly within reach
    have hnear : (5 : ℝ) ∈ v.screenDistances ⟨800, 105⟩ ⟨⟨150, 50⟩, ⟨850, 50⟩⟩ := by
      refine ⟨5 / 14, by norm_num, by norm_num, ?_⟩
      have hlength : Scalar.length (0 : ℝ) 5 = 5 := by
        rw [EuclideanScalar.length_zero_left, abs_of_pos (by norm_num)]
      norm_num [Point.distance, toScreen, Segment.along, v, hlength]
    have hfar : s.scale.edgeHitTolerance < 5 := hnone hpick e he _ (hsegment e he) 5 hnear
    norm_num [s, ScaleConfig.standard] at hfar
  · obtain ⟨hsome, -⟩ := edgeAt?_nearest s v hk scaled hscaled ⟨800, 106⟩
    rw [Option.eq_none_iff_forall_ne_some]
    intro e hpick
    obtain ⟨before, after, segment, d, hedges, hfound, ⟨⟨t, -, -, hd⟩, -⟩, hreach, -⟩ :=
      hsome e hpick
    have he : e ∈ g.edges := (show g.edges = _ from hedges) ▸ by simp
    obtain rfl : _ = segment := Option.some.inj ((hsegment e he).symm.trans hfound)
    have hfar : (6 : ℝ) ≤ d := by
      rw [← hd]
      refine le_trans ?_ (EuclideanScalar.abs_snd_le_length _ _)
      norm_num [toScreen, Segment.along, v]
    norm_num [s, ScaleConfig.standard] at hreach
    linarith

end View

end Provenance
