import Mathlib.Algebra.Order.Field.Basic
import Mathlib.Data.List.Find
import Mathlib.Data.List.Flatten
import Mathlib.Tactic.Linarith
import Mathlib.Tactic.NormNum.OfScientific
import Mathlib.Tactic.Ring
import Provenance.Proofs.Layout.Packing
import Provenance.Proofs.View.Nearest
import Provenance.Proofs.View.Zoom

/-!
# The pointer picks what is on top

A picture is painted from back to front: edges, then the boxes of tables, then those of fields.
The pointer asks in the opposite order, and it computes the boxes in its own way: around centres
instead of from corners, and tables from the list of boxes, whether or not they are in the graph.
This module shows that both agree for every view that can come about: the pointer picks the box
that has been painted last over the point it is at, and otherwise an edge that has been painted.

Main results:

- Definition `View.Reachable`: the views that can come about.
- Theorem `View.known_of_reachable`: all of their boxes are those of tables in the graph.
- Theorem `Viewer.showsReachable_run`: a viewer shows no others.
- Theorem `View.exists_picture`: a picture shows the painted boxes, in order, and all edges.
- Theorem `View.paintEdge_ne_nil`: an edge that has a segment is painted.
- Theorem `View.hitTest_topmost`: the pointer picks the last painted box that it is in, or an edge.
-/

namespace Provenance

/-! ## Views that can come about -/

namespace View

section Reach

variable {α : Type} [Scalar α]

/-- The views that come about from a graph on a canvas, by arranging and fitting them, and by what
the pointer and the wheel do. -/
inductive Reachable (s : Setting α) : View α → Prop
  | new (g : Graph) (layout : LayoutMode) (width height : α) :
      Reachable s (ofGraph s g layout width height).view
  | after {v : View α} (h : Reachable s v) (call : ViewCall α) : Reachable s (v.after s call)
  | fit {v : View α} (h : Reachable s v) : Reachable s (v.fit s).view

/-- Every box is that of a table in the graph. -/
def Known (v : View α) : Prop := ∀ b ∈ v.tables, ∃ t ∈ v.graph.tables, t.id = b.id

variable {s : Setting α} {v : View α}

omit [Scalar α] in
/-- Whether all boxes are known can be seen from the places of a view. -/
theorem Known.samePlaces {w : View α} (h : v.Known) (same : v.SamePlaces w) : w.Known := by
  have htables : w.tables = v.tables := congrArg Geometry.tables same.geometry
  unfold Known
  rw [htables, same.graph]
  exact h

/-- In columns a box is made for tables of the graph only. -/
theorem known_applyColumns (s : Setting α) (v : View α) : (v.applyColumns s).Known := by
  intro b hb
  obtain ⟨t, ht, hid, -⟩ := mem_stackBands hb
  exact ⟨t, ht, hid.symm⟩

/-- Fitting moves no box. -/
theorem tables_fit (s : Setting α) (v : View α) : (v.fit s).view.tables = v.tables := by
  unfold fit
  split
  · rfl
  · dsimp only
    split <;> rfl

/-- Fitting a view keeps its boxes known. -/
theorem known_fit (s : Setting α) (h : v.Known) : (v.fit s).view.Known := by
  unfold Known
  rw [tables_fit, graph_fit]
  exact h

/-- When a view is arranged, boxes are made for tables of the graph only. -/
theorem known_relayout (s : Setting α) (v : View α) : (v.relayout s).view.Known := by
  unfold relayout
  cases v.layout with
  | columns => exact known_applyColumns s v
  | freeFlow =>
      refine known_fit s ?_
      intro b hb
      obtain ⟨t, ht, c, -, rfl⟩ := mem_packTables.1 hb
      exact ⟨t, ht, rfl⟩

/-- Going back to the transform of the layout keeps the boxes known. -/
theorem known_resetView (h : v.Known) : (v.resetView s).view.Known := by
  unfold resetView
  cases v.layout with
  | columns => exact known_applyColumns s v
  | freeFlow => exact known_fit s h

/-- A new size of the canvas keeps the boxes known. -/
theorem known_resize (h : v.Known) (width height : α) : (v.resize s width height).Known := by
  unfold resize
  dsimp only
  cases v.layout with
  | columns => exact known_applyColumns s _
  | freeFlow => exact h

/-- One call keeps all boxes known. -/
theorem known_after (h : v.Known) (call : ViewCall α) : (v.after s call).Known := by
  cases call with
  | setLayout layout => exact known_relayout s _
  | relayout => exact known_relayout s v
  | resetView => exact known_resetView h
  | resize width height => exact known_resize h width height
  | press p => exact h
  | move p => exact h.samePlaces (samePlaces_move s v p)
  | release p => exact h.samePlaces (samePlaces_release s v p)
  | leave => exact h
  | wheel delta p => exact h.samePlaces (samePlaces_wheel s v delta p)

/-- In every view that comes about, all boxes are those of tables in the graph. -/
theorem known_of_reachable (h : v.Reachable s) : v.Known := by
  induction h with
  | new g layout width height => exact known_relayout s _
  | after _ call ih => exact known_after ih call
  | fit _ ih => exact known_fit s ih

end Reach

end View

/-! ## What a viewer shows -/

namespace Viewer

variable {α : Type} [Scalar α] {s : Setting α} {v : Viewer α}

/-- If a view is shown, it is one that can come about. -/
def ShowsReachable (s : Setting α) (v : Viewer α) : Prop :=
  ∀ w, v.view = some w → w.Reachable s

/-- A reaction that leads to views that can come about leaves the viewer with one. -/
theorem showsReachable_react (h : v.ShowsReachable s) {f : View α → View α × Reaction}
    (hf : ∀ w, w.Reachable s → (f w).1.Reachable s) : (v.react f).1.ShowsReachable s := by
  unfold react
  cases hview : v.view with
  | none => exact h
  | some w =>
      rintro _ ⟨⟩
      exact hf w (h w hview)

/-- After an event a viewer shows a view that can come about, if it did before. -/
theorem showsReachable_step (h : v.ShowsReachable s) (event : ViewerEvent α) :
    (v.step s event).1.ShowsReachable s := by
  cases event with
  | present scene =>
      cases scene with
      | none => rintro w ⟨⟩
      | some scene =>
          rintro _ ⟨⟩
          exact .new scene.graph scene.layout v.width v.height
  | arrange layout =>
      refine showsReachable_react h fun w hw => ?_
      dsimp only
      split
      · exact hw.after .resetView
      · exact hw.after (.setLayout layout)
  | resize width height =>
      intro w hw
      obtain ⟨w, hview, rfl⟩ := Option.map_eq_some_iff.1 hw
      exact (h w hview).after (.resize width height)
  | press p => exact showsReachable_react h fun w hw => hw.after (.press p)
  | move p => exact showsReachable_react h fun w hw => hw.after (.move p)
  | release p => exact showsReachable_react h fun w hw => hw.after (.release p)
  | leave => exact showsReachable_react h fun w hw => hw.after .leave
  | wheel delta p => exact showsReachable_react h fun w hw => hw.after (.wheel delta p)

/-- Whatever happens to a viewer, it shows views that can come about. -/
theorem showsReachable_run (h : v.ShowsReachable s) (events : List (ViewerEvent α)) :
    (v.run s events).ShowsReachable s := by
  induction events generalizing v with
  | nil => exact h
  | cons event events ih => exact ih (showsReachable_step h event)

/-- In the beginning no view is shown. -/
theorem showsReachable_initial (s : Setting α) : (initial : Viewer α).ShowsReachable s := by
  rintro w ⟨⟩

end Viewer

/-! ## Painted boxes -/

section Boxes

variable {α : Type} [Scalar α]

/-- A box as it is painted: the id of its table or field, and its rectangle. -/
structure PaintedBox (α : Type) where
  id : String
  rect : Rect α

namespace View

/-- The boxes of tables, from back to front. -/
def tableBoxes (s : Setting α) (v : View α) : List (PaintedBox α) :=
  v.paintedTables.map fun (b, _) => ⟨b.id, tableRect s b⟩

/-- The boxes of fields, from back to front. -/
def fieldBoxes (s : Setting α) (v : View α) : List (PaintedBox α) :=
  v.paintedFields.map fun (p, f) => ⟨f.id, fieldRect s p⟩

/-- All boxes, from back to front. -/
def paintedBoxes (s : Setting α) (v : View α) : List (PaintedBox α) :=
  v.tableBoxes s ++ v.fieldBoxes s

end View

/-- The rectangle that an instruction fills. -/
def Stroke.filled? : Stroke α → Option (Rect α)
  | .fillRect rect => some rect
  | _ => none

/-- The rectangle that an instruction draws the border of. -/
def Stroke.border? : Stroke α → Option (Rect α)
  | .strokeRect rect => some rect
  | _ => none

namespace View

variable {s : Setting α} {v : View α} {scaled : ScaledValues α}

/-- The background of the bands has no borders. -/
theorem filterMap_border?_paintBands : (v.paintBands s).filterMap Stroke.border? = [] := by
  unfold paintBands
  split <;> rfl

/-- Edges have no borders. -/
theorem filterMap_border?_paintEdge (e : Edge) :
    (v.paintEdge s scaled e).filterMap Stroke.border? = [] := by
  unfold paintEdge
  split
  · rfl
  · unfold paintArrow
    dsimp only
    split <;> rfl

/-- The columns that are listed in a table have no borders. -/
theorem filterMap_border?_paintColumns (b : TableBox α) (t : TableNode) :
    (paintColumns s b t).filterMap Stroke.border? = [] := by
  unfold paintColumns
  rw [List.filterMap_cons_none rfl, List.filterMap_cons_none rfl, List.filterMap_eq_nil_iff,
    List.forall_mem_map]
  exact fun _ _ => rfl

/-- A table has one border, that of its box. -/
theorem filterMap_border?_paintTable (b : TableBox α) (t : TableNode) :
    (v.paintTable s scaled b t).filterMap Stroke.border? = [tableRect s b] := by
  unfold paintTable
  dsimp only
  rw [List.filterMap_append]
  cases v.graph.level with
  | tables =>
      dsimp only
      rw [filterMap_border?_paintColumns]
      rfl
  | fields => rfl

/-- The borders of fields are those of their boxes, from back to front. -/
theorem filterMap_border?_paintFields :
    (v.paintFields s scaled).filterMap Stroke.border? =
      (v.fieldBoxes s).map PaintedBox.rect := by
  unfold paintFields fieldBoxes
  rw [List.filterMap_append, List.filterMap_flatMap, List.map_map, List.map_eq_flatMap]
  rfl

/-- A tooltip has no border. -/
theorem filterMap_border?_paintTooltip (measure : String → Option α) :
    (v.paintTooltip s measure).filterMap Stroke.border? = [] := by
  unfold paintTooltip
  split <;> rfl

/-- The borders of tables are those of their boxes, from back to front. -/
theorem filterMap_border?_tables :
    (v.paintedTables.flatMap fun (b, t) => v.paintTable s scaled b t).filterMap Stroke.border? =
      (v.tableBoxes s).map PaintedBox.rect := by
  unfold tableBoxes
  rw [List.filterMap_flatMap, List.map_map, List.map_eq_flatMap]
  congr 1
  funext ⟨b, t⟩
  exact filterMap_border?_paintTable b t

/-- The boxes of tables are filled from back to front. -/
theorem sublist_filled?_tables :
    ((v.tableBoxes s).map PaintedBox.rect).Sublist
      ((v.paintedTables.flatMap fun (b, t) => v.paintTable s scaled b t).filterMap
        Stroke.filled?) := by
  unfold tableBoxes
  rw [List.filterMap_flatMap, List.map_map, List.map_eq_flatMap]
  refine List.Sublist.flatMap_right _ fun (b, t) _ => ?_
  exact List.singleton_sublist.2 (List.mem_filterMap.2 ⟨.fillRect _, by simp [paintTable], rfl⟩)

/-- The boxes of fields are filled from back to front. -/
theorem sublist_filled?_paintFields :
    ((v.fieldBoxes s).map PaintedBox.rect).Sublist
      ((v.paintFields s scaled).filterMap Stroke.filled?) := by
  unfold paintFields fieldBoxes
  rw [List.filterMap_append, List.filterMap_flatMap, List.map_map, List.map_eq_flatMap]
  refine List.Sublist.trans ?_ (List.sublist_append_right _ _)
  refine List.Sublist.flatMap_right _ fun (p, f) _ => ?_
  exact List.singleton_sublist.2 (List.mem_filterMap.2 ⟨.fillRect _, by simp [paintField], rfl⟩)

/-- What a picture shows of a view: it draws the borders of the painted boxes and of nothing else,
it fills the boxes in the same order, and it has the arrows of all edges. -/
structure Shows (s : Setting α) (v : View α) (scaled : ScaledValues α) (picture : Picture α) :
    Prop where
  borders : picture.filterMap Stroke.border? = (v.paintedBoxes s).map PaintedBox.rect
  filled : ((v.paintedBoxes s).map PaintedBox.rect).Sublist (picture.filterMap Stroke.filled?)
  edges : v.graph.edges.flatMap (v.paintEdge s scaled) <:+: picture

/-- The picture of a view shows it. -/
theorem exists_picture (h : ScaledValues.ofZoom? s.scale v.transform.k = some scaled)
    (measure : String → Option α) :
    ∃ picture, v.picture? s measure = some picture ∧ v.Shows s scaled picture := by
  refine ⟨_, by rw [picture?, h]; rfl, ?_⟩
  have hedges :
      (v.graph.edges.flatMap (v.paintEdge s scaled)).filterMap Stroke.border? = [] := by
    rw [List.filterMap_flatMap, List.flatMap_eq_nil_iff]
    exact fun e _ => filterMap_border?_paintEdge e
  constructor
  case borders =>
    simp only [List.filterMap_append, filterMap_border?_paintBands, hedges,
      filterMap_border?_tables, filterMap_border?_paintFields, filterMap_border?_paintTooltip,
      paintedBoxes, List.map_append]
    simp only [List.filterMap_cons, List.filterMap_nil, Stroke.border?, List.nil_append,
      List.append_nil]
  case filled =>
    simp only [List.filterMap_append, paintedBoxes, List.map_append]
    refine List.Sublist.trans ?_ (List.sublist_append_left _ _)
    refine List.Sublist.trans ?_ (List.sublist_append_left _ _)
    refine List.Sublist.append ?_ sublist_filled?_paintFields
    exact List.Sublist.trans sublist_filled?_tables (List.sublist_append_right _ _)
  case edges =>
    simp only [List.append_assoc]
    exact (List.infix_append' _ _ _).trans (List.suffix_append _ _).isInfix

end View

end Boxes

/-! ## The box on top -/

section Exact

variable {K : Type} [ExactScalar K]

/-- The points of a rectangle, with its border. -/
def Rect.area (r : Rect K) : Area K where
  left := r.left
  right := r.left + r.width
  top := r.top
  bottom := r.top + r.height

/-- The box of a table is painted where the pointer finds it. -/
theorem area_tableRect (s : Setting K) (b : TableBox K) :
    (View.tableRect s b).area = (View.tableExtent s b).area := by
  rw [area_tableExtent]
  have hright : b.x - s.metrics.tableWidth / 2 + s.metrics.tableWidth =
      b.x + s.metrics.tableWidth / 2 := by ring
  simp only [View.tableRect, Rect.area, TableBox.area, TableBox.bottom, ExactScalar.two_eq, hright]

/-- The box of a field is painted where the pointer finds it. -/
theorem area_fieldRect (s : Setting K) (p : Point K) :
    (View.fieldRect s p).area = (View.fieldExtent s p).area := by
  have hright : p.x - s.metrics.fieldWidth / 2 + s.metrics.fieldWidth =
      p.x + s.metrics.fieldWidth / 2 := by ring
  have hbottom : p.y - s.metrics.rowHeight / 2 + s.metrics.rowHeight =
      p.y + s.metrics.rowHeight / 2 := by ring
  simp only [View.fieldRect, View.fieldExtent, Rect.area, Extent.area, ExactScalar.two_eq, hright,
    hbottom]

/-- A box is on top at a point if it is the last one that the point lies in. -/
def OnTop (boxes : List (PaintedBox K)) (q : Point K) (box : PaintedBox K) : Prop :=
  box.rect.area.Holds q ∧ ∃ before after, boxes = before ++ box :: after ∧
    ∀ b ∈ after, ¬ b.rect.area.Holds q

/-- A point that lies in no box. -/
def Uncovered (boxes : List (PaintedBox K)) (q : Point K) : Prop :=
  ∀ b ∈ boxes, ¬ b.rect.area.Holds q

variable {boxes above below : List (PaintedBox K)} {q : Point K} {box : PaintedBox K}

/-- A box on top stays on top of whatever is painted before. -/
theorem OnTop.append_left (h : OnTop above q box) : OnTop (below ++ above) q box := by
  obtain ⟨hbox, before, after, rfl, hafter⟩ := h
  exact ⟨hbox, below ++ before, after, (List.append_assoc _ _ _).symm, hafter⟩

/-- A box on top stays on top if nothing that is painted later covers the point. -/
theorem OnTop.append_right (h : OnTop below q box) (habove : Uncovered above q) :
    OnTop (below ++ above) q box := by
  obtain ⟨hbox, before, after, rfl, hafter⟩ := h
  refine ⟨hbox, before, after ++ above, by simp only [List.append_assoc, List.cons_append], ?_⟩
  intro b hb
  exact (List.mem_append.1 hb).elim (hafter b) (habove b)

/-- A point that is covered neither before nor after is not covered. -/
theorem Uncovered.append (hbelow : Uncovered below q) (habove : Uncovered above q) :
    Uncovered (below ++ above) q :=
  fun b hb => (List.mem_append.1 hb).elim (hbelow b) (habove b)

section Search

variable {β : Type} {nodes : List β} {box? : β → Option (PaintedBox K)} {hit : β → Bool}

/-- A search through the nodes from the last one finds that whose box is on top, if the nodes that
are hit are those whose box holds the point. -/
theorem onTop_of_find?
    (hhit : ∀ n ∈ nodes, hit n = true ↔ ∃ b, box? n = some b ∧ b.rect.area.Holds q) {n : β}
    (h : nodes.reverse.find? hit = some n) :
    ∃ b, box? n = some b ∧ OnTop (nodes.filterMap box?) q b := by
  obtain ⟨hn, later, earlier, hnodes, hlater⟩ := List.find?_eq_some_iff_append.1 h
  rw [List.reverse_eq_iff, List.reverse_append, List.reverse_cons, List.append_assoc,
    List.singleton_append] at hnodes
  subst hnodes
  obtain ⟨b, hb, hq⟩ := (hhit n (by simp)).1 hn
  refine ⟨b, hb, hq, earlier.reverse.filterMap box?, later.reverse.filterMap box?, ?_, ?_⟩
  · rw [List.filterMap_append, List.filterMap_cons_some hb]
  · intro c hc hcq
    obtain ⟨m, hm, hmc⟩ := List.mem_filterMap.1 hc
    have hmiss := hlater m (List.mem_reverse.1 hm)
    rw [(hhit m (by simp [hm])).2 ⟨c, hmc, hcq⟩] at hmiss
    exact absurd hmiss (by decide)

/-- If no node is hit, the boxes of the nodes leave the point uncovered. -/
theorem uncovered_of_find?
    (hhit : ∀ n ∈ nodes, hit n = true ↔ ∃ b, box? n = some b ∧ b.rect.area.Holds q)
    (h : nodes.reverse.find? hit = none) : Uncovered (nodes.filterMap box?) q := by
  intro b hb hq
  obtain ⟨n, hn, hnb⟩ := List.mem_filterMap.1 hb
  exact List.find?_eq_none.1 h n (List.mem_reverse.2 hn) ((hhit n hn).2 ⟨b, hnb, hq⟩)

end Search

namespace View

variable {s : Setting K} {v : View K}

/-- The boxes of tables are those of the layout, as far as the graph knows their tables. -/
theorem tableBoxes_eq (s : Setting K) (v : View K) :
    v.tableBoxes s =
      v.tables.filterMap fun b => (v.graph.table? b.id).map fun _ => ⟨b.id, tableRect s b⟩ := by
  unfold tableBoxes paintedTables
  rw [List.map_filterMap]
  simp only [Option.map_map]
  rfl

/-- The boxes of fields are made from the fields of the graph that have a place. -/
theorem fieldBoxes_eq (s : Setting K) (v : View K) :
    v.fieldBoxes s =
      v.graph.fields.filterMap fun f =>
        (v.positions.find? f.id).map fun p => ⟨f.id, fieldRect s p⟩ := by
  unfold fieldBoxes paintedFields
  rw [List.map_filterMap]
  simp only [Option.map_map]
  rfl

/-- A table is hit where its painted box is. -/
theorem contains_tableExtent_iff (h : v.Known) (q : Point K) {b : TableBox K}
    (hb : b ∈ v.tables) :
    (tableExtent s b).contains q = true ↔
      ∃ box : PaintedBox K, ((v.graph.table? b.id).map fun _ => ⟨b.id, tableRect s b⟩) =
        some box ∧ box.rect.area.Holds q := by
  obtain ⟨t, ht, hid⟩ := h b hb
  have hsome : (v.graph.table? b.id).isSome := List.find?_isSome.2 ⟨t, ht, beq_iff_eq.2 hid⟩
  obtain ⟨found, hfound⟩ := Option.isSome_iff_exists.1 hsome
  rw [Extent.contains_iff, ← area_tableRect, hfound]
  simp only [Option.map_some, Option.some.injEq, exists_eq_left']

/-- A field is hit where its painted box is; one that has no place is neither painted nor hit. -/
theorem any_contains_extent?_iff (q : Point K) {f : FieldNode} (hf : f ∈ v.graph.fields) :
    ((v.extent? s f.id).any fun e => e.contains q) = true ↔
      ∃ box : PaintedBox K,
        ((v.positions.find? f.id).map fun p => ⟨f.id, fieldRect s p⟩) = some box ∧
          box.rect.area.Holds q := by
  rw [extent?_field hf]
  cases v.positions.find? f.id with
  | none => simp
  | some p =>
      simp only [Option.map_some, Option.any_some, Extent.contains_iff, ← area_fieldRect,
        Option.some.injEq, exists_eq_left']

/-- A field at the point is hit before anything else. -/
theorem hitTest_field {scaled : ScaledValues K} {p : Point K} {f : FieldNode}
    (h : v.fieldAt? s (v.toGraph p) = some f) : v.hitTest s scaled p = some f.id := by
  simp only [hitTest, h]

/-- A table at the point is hit if there is no field. -/
theorem hitTest_table {scaled : ScaledValues K} {p : Point K} {b : TableBox K}
    (hnone : v.fieldAt? s (v.toGraph p) = none) (h : v.tableAt? s (v.toGraph p) = some b) :
    v.hitTest s scaled p = some b.id := by
  simp only [hitTest, hnone, h]

/-- The pointer picks the box on top, and an edge only where there is no box. -/
theorem hitTest_onTop_or_edge (h : v.Known) (scaled : ScaledValues K) (p : Point K) :
    (∃ box, OnTop (v.paintedBoxes s) (v.toGraph p) box ∧ v.hitTest s scaled p = some box.id) ∨
      Uncovered (v.paintedBoxes s) (v.toGraph p) ∧
        v.hitTest s scaled p = (v.edgeAt? s scaled p).map Edge.id := by
  have htable (b) (hb : b ∈ v.tables) := contains_tableExtent_iff (s := s) h (v.toGraph p) hb
  have hfield (f) (hf : f ∈ v.graph.fields) := any_contains_extent?_iff (s := s) (v.toGraph p) hf
  unfold paintedBoxes
  rw [tableBoxes_eq, fieldBoxes_eq]
  cases hf : v.fieldAt? s (v.toGraph p) with
  | some f =>
      obtain ⟨box, hbox, hontop⟩ := onTop_of_find? hfield hf
      obtain ⟨c, -, rfl⟩ := Option.map_eq_some_iff.1 hbox
      exact .inl ⟨_, hontop.append_left, hitTest_field hf⟩
  | none =>
      have hfields := uncovered_of_find? hfield hf
      cases hb : v.tableAt? s (v.toGraph p) with
      | some b =>
          obtain ⟨box, hbox, hontop⟩ := onTop_of_find? htable hb
          obtain ⟨t, -, rfl⟩ := Option.map_eq_some_iff.1 hbox
          exact .inl ⟨_, hontop.append_right hfields, hitTest_table hf hb⟩
      | none =>
          refine .inr ⟨(uncovered_of_find? htable hb).append hfields, ?_⟩
          simp only [hitTest, hf, hb]

/-- An edge that is drawn at all is longer than one unit. -/
theorem one_lt_length_of_edgeSegment? {e : Edge} {segment : Segment K}
    (h : v.edgeSegment? s e = some segment) : 1 < segment.length := by
  obtain ⟨a, -, hb⟩ := Option.bind_eq_some_iff.1 h
  obtain ⟨b, -, hsegment⟩ := Option.bind_eq_some_iff.1 hb
  obtain ⟨hlong, hsome⟩ := Option.ite_none_right_eq_some.1 hsegment
  obtain rfl := Option.some.inj hsome
  rwa [ExactScalar.one_eq] at hlong

/-- An edge that has a segment is painted, as the segment is long enough to have a direction. -/
theorem paintEdge_ne_nil {e : Edge} {segment : Segment K} (scaled : ScaledValues K)
    (h : v.edgeSegment? s e = some segment) : v.paintEdge s scaled e ≠ [] := by
  have hdirection : ¬ segment.length < 0.001 := by
    have hlong := one_lt_length_of_edgeSegment? h
    have hsmall : (0.001 : K) < 1 := by norm_num
    exact (hsmall.trans hlong).not_gt
  have harrow (color : Color) (width arrowSize : K) :
      paintArrow segment color width arrowSize ≠ [] := by
    unfold paintArrow
    unfold Segment.length at hdirection
    dsimp only
    rw [if_neg hdirection]
    exact List.cons_ne_nil _ _
  simp only [paintEdge, h]
  exact harrow _ _ _

/-- In every view that can come about, a point of the screen picks the box that has been painted
last over it, that of a table or of a field.  Where there is no box it picks an edge, one that is
painted, and it picks nothing only if all painted edges are out of reach.  At the sizes for its
zoom the view has a picture: the painted boxes are those of which it draws the borders, in the order
in which it fills them. -/
theorem hitTest_topmost {s : Setting K} {v : View K} (h : v.Reachable s)
    (scaled : ScaledValues K) (p : Point K) :
    ((∃ box, OnTop (v.paintedBoxes s) (v.toGraph p) box ∧ v.hitTest s scaled p = some box.id) ∨
      Uncovered (v.paintedBoxes s) (v.toGraph p) ∧
        v.hitTest s scaled p = (v.edgeAt? s scaled p).map Edge.id) ∧
    (∀ e, v.edgeAt? s scaled p = some e →
      e ∈ v.graph.edges ∧ v.paintEdge s scaled e ≠ [] ∧
        ∃ d ≤ scaled.edgeHitTolerance, v.edgeDistance? s (v.toGraph p) e = some d) ∧
    (v.edgeAt? s scaled p = none ↔ ∀ e ∈ v.graph.edges, ∀ d,
      v.edgeDistance? s (v.toGraph p) e = some d → scaled.edgeHitTolerance < d) ∧
    (ScaledValues.ofZoom? s.scale v.transform.k = some scaled →
      ∀ measure, ∃ picture, v.picture? s measure = some picture ∧ v.Shows s scaled picture) := by
  refine ⟨hitTest_onTop_or_edge (known_of_reachable h) scaled p, ?_, edgeAt?_eq_none_iff,
    exists_picture⟩
  intro e he
  obtain ⟨before, after, d, hedges, hd, hreach, -⟩ := edgeAt?_eq_some he
  obtain ⟨segment, hsegment, -⟩ := Option.map_eq_some_iff.1 hd
  have hmem : e ∈ v.graph.edges := by rw [hedges]; exact List.mem_append_cons_self
  exact ⟨hmem, paintEdge_ne_nil scaled hsegment, d, hreach, hd⟩

/-- All tables of a graph at one place. -/
def onePlace (g : Graph) (_ _ : ℚ) : NameMap (Point ℚ) :=
  NameMap.ofList (g.tables.map fun t => (t.id, ⟨0, 0⟩))

/-- Two tables at one place, shown by a viewer, cannot be spread apart, so that they and their
fields cover each other: the field painted last is on top, and above the fields it is the table
painted last. -/
theorem hitTest_onePlace :
    letI := ExactScalar.rational fun _ _ => 0
    let s : Setting ℚ := ⟨.standard, .standard, 80, onePlace⟩
    let g := Graph.build .fields [.ofFields "s_bani.a" "x" "resultados.b" "y"]
    let v := (ofGraph s g .freeFlow 1200 800).view
    let events := [.resize 1200 800, .present (some ⟨g, .freeFlow, 1, 1⟩)]
    (Viewer.initial.run s events).view = some v ∧
    (v.paintedBoxes s).map PaintedBox.id =
      ["table:resultados.b", "table:s_bani.a", "column:resultados.b:y", "column:s_bani.a:x"] ∧
    (∃ box, OnTop (v.paintedBoxes s) (v.toGraph ⟨600, 480⟩) box ∧ box.id = "column:s_bani.a:x") ∧
    ∃ box, OnTop (v.paintedBoxes s) (v.toGraph ⟨600, 300⟩) box ∧ box.id = "table:s_bani.a" := by
  let := ExactScalar.rational fun _ _ => 0
  intro s g v events
  let scaled : ScaledValues ℚ := ⟨1, 1, 1⟩
  have hview : (Viewer.initial.run s events).view = some v := rfl
  have hreach := Viewer.showsReachable_run (Viewer.showsReachable_initial s) events v hview
  have hedges : ∀ e ∈ v.graph.edges, (v.edgeSegment? s e).isNone := by decide +kernel
  have hpick (p : Point ℚ) (id : String) (hhit : v.hitTest s scaled p = some id) :
      ∃ box, OnTop (v.paintedBoxes s) (v.toGraph p) box ∧ box.id = id := by
    obtain ⟨⟨box, hbox, hid⟩ | ⟨-, hedge⟩, hpainted, -⟩ := hitTest_topmost hreach scaled p
    · exact ⟨box, hbox, Option.some.inj (hid.symm.trans hhit)⟩
    · rw [hedge] at hhit
      obtain ⟨e, he, -⟩ := Option.map_eq_some_iff.1 hhit
      obtain ⟨hmem, hpaint, -⟩ := hpainted e he
      have hnone := Option.isNone_iff_eq_none.1 (hedges e hmem)
      exact absurd (by simp only [paintEdge, hnone]) hpaint
  exact ⟨hview, by decide +kernel, hpick ⟨600, 480⟩ _ (by decide +kernel),
    hpick ⟨600, 300⟩ _ (by decide +kernel)⟩

end View

end Exact

end Provenance
