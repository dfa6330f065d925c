import Provenance.View.Interact

/-!
# Columns do not remember

In columns the geometry of a view follows from the graph and from the width of the canvas.  A
view gets there on many ways: it is built, resized, switched between layouts, dragged and zoomed.
This module shows that none of these ways leaves a trace in the geometry of a view in columns,
and that bands are shown in columns and nowhere else.  Nothing is assumed of the numbers, so
doubles are covered.

Main results:

- Theorem `View.request_after`: a call changes what it asks for, and nothing else of what the view
  was asked for.
- Theorem `View.settled_after`: one call keeps the geometry that belongs to the layout.
- Theorem `View.columns_forget_history`: after any calls a view in columns has the geometry of a
  new view, and after a call that arranges it in columns also the transform.
-/

namespace Provenance

/-- What is placed in the drawing. -/
structure Geometry (α : Type) where
  bands : Option (Bands α)
  tables : List (TableBox α)
  positions : NameMap (Point α)
  contentHeight : α

/-- Something that is done to a view: by its owner, by the pointer, or by the wheel. -/
inductive ViewCall (α : Type) where
  | setLayout (layout : LayoutMode)
  | relayout
  | resetView
  | resize (width height : α)
  | press (p : Point α)
  | move (p : Point α)
  | release (p : Point α)
  | leave
  | wheel (delta : α) (p : Point α)

/-- The calls that arrange a view in columns: the choice of columns, whatever the layout was, and
in columns also the calls that keep the layout and start anew. -/
inductive ViewCall.ArrangesColumns {α : Type} (layout : LayoutMode) : ViewCall α → Prop
  | setLayout : ArrangesColumns layout (.setLayout .columns)
  | relayout (h : layout = .columns) : ArrangesColumns layout .relayout
  | resetView (h : layout = .columns) : ArrangesColumns layout .resetView

/-- What a view is asked to show: a graph, in a layout, on a canvas of some size. -/
structure Request (α : Type) where
  graph : Graph
  layout : LayoutMode
  width : α
  height : α

namespace Request

variable {α : Type}

/-- What is asked for after a call. -/
def after (r : Request α) : ViewCall α → Request α
  | .setLayout layout => { r with layout := layout }
  | .resize width height => { r with width := width, height := height }
  | _ => r

/-- What is asked for after one call after the other. -/
def afterAll (r : Request α) (calls : List (ViewCall α)) : Request α := calls.foldl after r

/-- No call asks for another graph. -/
theorem graph_after (r : Request α) (call : ViewCall α) : (r.after call).graph = r.graph := by
  cases call <;> rfl

end Request

variable {α : Type} [Scalar α]

/-- The geometry of a layout in columns. -/
def ColumnLayout.geometry (l : ColumnLayout α) : Geometry α :=
  ⟨some l.bands, l.tables, l.positions, l.height⟩

namespace View

variable {s : Setting α} {v : View α}

/-- The geometry of a view. -/
def geometry (v : View α) : Geometry α := ⟨v.bands, v.tables, v.positions, v.contentHeight⟩

/-- What a view has been asked to show. -/
def request (v : View α) : Request α := ⟨v.graph, v.layout, v.width, v.height⟩

/-- The view after a call. -/
def after (s : Setting α) (v : View α) : ViewCall α → View α
  | .setLayout layout => (v.setLayout s layout).view
  | .relayout => (v.relayout s).view
  | .resetView => (v.resetView s).view
  | .resize width height => v.resize s width height
  | .press p => v.press p
  | .move p => (v.move s p).1
  | .release p => (v.release s p).1
  | .leave => v.leave
  | .wheel delta p => (v.wheel s delta p).view

/-- The view after one call after the other. -/
def afterAll (s : Setting α) (v : View α) (calls : List (ViewCall α)) : View α :=
  calls.foldl (after s) v

/-! ## What stays -/

/-- Two views that were asked for the same, with the same geometry. -/
structure SamePlaces (v w : View α) : Prop where
  request : w.request = v.request
  geometry : w.geometry = v.geometry

omit [Scalar α] in
/-- Views with the same places show the same graph. -/
theorem SamePlaces.graph {w : View α} (same : v.SamePlaces w) : w.graph = v.graph :=
  congrArg Request.graph same.request

/-- A move of the pointer moves nothing in the drawing. -/
theorem samePlaces_move (s : Setting α) (v : View α) (p : Point α) :
    v.SamePlaces (v.move s p).1 := by
  unfold move
  dsimp only
  split
  · exact ⟨rfl, rfl⟩
  · split <;> exact ⟨rfl, rfl⟩

/-- A release of the pointer moves nothing in the drawing. -/
theorem samePlaces_release (s : Setting α) (v : View α) (p : Point α) :
    v.SamePlaces (v.release s p).1 := by
  unfold release
  dsimp only
  split
  · split <;> exact ⟨rfl, rfl⟩
  · exact ⟨rfl, rfl⟩

/-- A turn of the wheel moves nothing in the drawing. -/
theorem samePlaces_wheel (s : Setting α) (v : View α) (delta : α) (p : Point α) :
    v.SamePlaces (v.wheel s delta p).view := by
  unfold wheel
  split <;> exact ⟨rfl, rfl⟩

/-- Fitting moves nothing in the drawing.  It may set the height of the drawing to the height of
the canvas, so that only the bands are mentioned. -/
theorem fit_frame (s : Setting α) (v : View α) :
    (v.fit s).view.request = v.request ∧ (v.fit s).view.bands = v.bands := by
  unfold fit
  split
  · exact ⟨rfl, rfl⟩
  · dsimp only
    split <;> exact ⟨rfl, rfl⟩

/-- Fitting keeps the graph. -/
theorem graph_fit (s : Setting α) (v : View α) : (v.fit s).view.graph = v.graph :=
  congrArg Request.graph (fit_frame s v).1

/-! ## What a view was asked for -/

/-- Arranging a view does not change what it was asked for. -/
theorem request_relayout (s : Setting α) (v : View α) :
    (v.relayout s).view.request = v.request := by
  unfold relayout
  cases v.layout with
  | columns => rfl
  | freeFlow => exact (fit_frame s _).1

/-- A call changes what it asks for, and nothing else of what the view was asked for. -/
theorem request_after (s : Setting α) (v : View α) (call : ViewCall α) :
    (v.after s call).request = v.request.after call := by
  cases call with
  | setLayout layout => exact request_relayout s _
  | relayout => exact request_relayout s v
  | resetView =>
      simp only [after, resetView]
      cases v.layout with
      | columns => rfl
      | freeFlow => exact (fit_frame s v).1
  | resize width height =>
      simp only [after, resize]
      split <;> rfl
  | press p => rfl
  | move p => exact (samePlaces_move s v p).request
  | release p => exact (samePlaces_release s v p).request
  | leave => rfl
  | wheel delta p => exact (samePlaces_wheel s v delta p).request

/-- What a view was asked for follows from the calls alone. -/
theorem request_afterAll (s : Setting α) (v : View α) (calls : List (ViewCall α)) :
    (v.afterAll s calls).request = v.request.afterAll calls := by
  induction calls generalizing v with
  | nil => rfl
  | cons call calls ih =>
      calc ((v.after s call).afterAll s calls).request
        _ = (v.after s call).request.afterAll calls := ih (v.after s call)
        _ = (v.request.after call).afterAll calls := by rw [request_after]

/-- Arranging a view keeps its graph. -/
theorem graph_relayout (s : Setting α) (v : View α) : (v.relayout s).view.graph = v.graph :=
  congrArg Request.graph (request_relayout s v)

/-- A call keeps the graph of a view. -/
theorem graph_after (s : Setting α) (v : View α) (call : ViewCall α) :
    (v.after s call).graph = v.graph :=
  calc (v.after s call).request.graph
    _ = (v.request.after call).graph := by rw [request_after]
    _ = v.request.graph := v.request.graph_after call

/-- Calls keep the graph of a view. -/
theorem graph_afterAll (s : Setting α) (v : View α) (calls : List (ViewCall α)) :
    (v.afterAll s calls).graph = v.graph := by
  induction calls generalizing v with
  | nil => rfl
  | cons call calls ih => exact (ih (v.after s call)).trans (graph_after s v call)

/-! ## The geometry that belongs to a layout -/

/-- The geometry is the one that belongs to the layout: in columns it is computed from the graph
and the width, and in free flow there are no bands. -/
structure Settled (s : Setting α) (v : View α) : Prop where
  columns : v.layout = .columns →
    v.geometry = (columnLayout s.metrics v.graph v.width true).geometry
  freeFlow : v.layout = .freeFlow → v.bands = none

/-- Whether a view is settled can be seen from its places. -/
theorem Settled.samePlaces {w : View α} (h : v.Settled s) (same : v.SamePlaces w) :
    w.Settled s := by
  have hlayout : w.layout = v.layout := congrArg Request.layout same.request
  have hwidth : w.width = v.width := congrArg Request.width same.request
  have hbands : w.bands = v.bands := congrArg Geometry.bands same.geometry
  constructor
  · rw [hlayout, same.geometry, same.graph, hwidth]
    exact h.columns
  · rw [hlayout, hbands]
    exact h.freeFlow

/-- A view in columns is settled by the geometry of its columns. -/
theorem settled_of_columns (h : v.layout = .columns)
    (hgeometry : v.geometry = (columnLayout s.metrics v.graph v.width true).geometry) :
    v.Settled s where
  columns := fun _ => hgeometry
  freeFlow := by
    intro hfree
    rw [h] at hfree
    contradiction

/-- A view in free flow is settled if it has no bands. -/
theorem settled_of_freeFlow (h : v.layout = .freeFlow) (hbands : v.bands = none) :
    v.Settled s where
  columns := by
    intro hcolumns
    rw [h] at hcolumns
    contradiction
  freeFlow := fun _ => hbands

/-- Arranging in columns settles a view in columns. -/
theorem settled_applyColumns (s : Setting α) (h : v.layout = .columns) :
    (v.applyColumns s).Settled s :=
  settled_of_columns h rfl

/-- Fitting a view in free flow that has no bands. -/
theorem settled_fit (s : Setting α) (h : v.layout = .freeFlow) (hbands : v.bands = none) :
    (v.fit s).view.Settled s := by
  obtain ⟨hrequest, hkept⟩ := fit_frame s v
  have hlayout : (v.fit s).view.layout = v.layout := congrArg Request.layout hrequest
  exact settled_of_freeFlow (hlayout.trans h) (hkept.trans hbands)

/-- A view that has been arranged needs no history to be settled. -/
theorem settled_relayout (s : Setting α) (v : View α) : (v.relayout s).view.Settled s := by
  unfold relayout
  cases hlayout : v.layout with
  | columns => exact settled_applyColumns s hlayout
  | freeFlow => exact settled_fit s hlayout rfl

/-- Going back to the transform of the layout leaves a view settled. -/
theorem settled_resetView (h : v.Settled s) : (v.resetView s).view.Settled s := by
  unfold resetView
  cases hlayout : v.layout with
  | columns => exact settled_applyColumns s hlayout
  | freeFlow => exact settled_fit s hlayout (h.freeFlow hlayout)

/-- A new size of the canvas leaves a view settled, though only columns are arranged anew. -/
theorem settled_resize (h : v.Settled s) (width height : α) :
    (v.resize s width height).Settled s := by
  unfold resize
  dsimp only
  split
  · rename_i hlayout
    exact settled_applyColumns s hlayout
  · rename_i hlayout
    exact settled_of_freeFlow hlayout (h.freeFlow hlayout)

/-- One call keeps the geometry that belongs to the layout. -/
theorem settled_after (h : v.Settled s) (call : ViewCall α) : (v.after s call).Settled s := by
  cases call with
  | setLayout layout => exact settled_relayout s _
  | relayout => exact settled_relayout s v
  | resetView => exact settled_resetView h
  | resize width height => exact settled_resize h width height
  | press p => exact h.samePlaces ⟨rfl, rfl⟩
  | move p => exact h.samePlaces (samePlaces_move s v p)
  | release p => exact h.samePlaces (samePlaces_release s v p)
  | leave => exact h.samePlaces ⟨rfl, rfl⟩
  | wheel delta p => exact h.samePlaces (samePlaces_wheel s v delta p)

/-- Calls keep the geometry that belongs to the layout. -/
theorem settled_afterAll (h : v.Settled s) (calls : List (ViewCall α)) :
    (v.afterAll s calls).Settled s := by
  induction calls generalizing v with
  | nil => exact h
  | cons call calls ih => exact ih (settled_after h call)

/-- A settled view has bands in columns and nowhere else. -/
theorem Settled.isSome_bands_iff (h : v.Settled s) :
    v.bands.isSome ↔ v.layout = .columns := by
  cases hlayout : v.layout with
  | columns =>
      have hbands : v.bands = _ := congrArg Geometry.bands (h.columns hlayout)
      simp [hbands, ColumnLayout.geometry]
  | freeFlow => simp [h.freeFlow hlayout]

/-! ## Views arranged in columns -/

/-- All calls that arrange a view in columns do the same. -/
theorem after_of_arrangesColumns {call : ViewCall α} (h : call.ArrangesColumns v.layout) :
    v.after s call = applyColumns s { v with layout := .columns } := by
  have hsame (hlayout : v.layout = .columns) : ({ v with layout := .columns } : View α) = v := by
    rw [← hlayout]
  cases h with
  | setLayout => rfl
  | relayout hlayout => simp only [after, relayout, hlayout, hsame]
  | resetView hlayout => simp only [after, resetView, hlayout, hsame]

/-- A view in columns does not remember how it came to be.  What it was asked for follows from the
calls.  After any calls there are bands in columns and nowhere else, and in columns the geometry is
the one that the graph gives for the present width.  A call that arranges the view in columns
leaves it with the layout, the geometry and the transform of a new view of the same size. -/
theorem columns_forget_history (s : Setting α) (g : Graph) (layout : LayoutMode)
    (width height : α) (calls : List (ViewCall α)) :
    let v := (ofGraph s g layout width height).view.afterAll s calls
    v.request = (⟨g, layout, width, height⟩ : Request α).afterAll calls ∧
    (v.bands.isSome ↔ v.layout = .columns) ∧
    (v.layout = .columns → v.geometry = (columnLayout s.metrics g v.width true).geometry) ∧
    ∀ call, call.ArrangesColumns v.layout →
      let w := v.after s call
      let new := (ofGraph s g .columns v.width v.height).view
      w.request = ⟨g, .columns, v.width, v.height⟩ ∧
      w.transform = Transform.identity ∧ w.transform = new.transform ∧
      w.geometry = new.geometry := by
  intro v
  have hrequest : v.request = (⟨g, layout, width, height⟩ : Request α).afterAll calls := by
    rw [request_afterAll, ofGraph, request_relayout]
    rfl
  have hgraph : v.graph = g := by
    rw [graph_afterAll]
    exact graph_relayout s _
  have hsettled : v.Settled s := settled_afterAll (settled_relayout s _) calls
  refine ⟨hrequest, hsettled.isSome_bands_iff, ?_, ?_⟩
  · intro hcolumns
    rw [← hgraph]
    exact hsettled.columns hcolumns
  · intro call hcall w new
    have hw : w = applyColumns s { v with layout := .columns } := after_of_arrangesColumns hcall
    have hnew : new.geometry = (columnLayout s.metrics g v.width true).geometry := rfl
    rw [hw, hnew, ← hgraph]
    exact ⟨rfl, rfl, rfl, rfl⟩

/-- A canvas that is resized, switched to free flow, zoomed, and resized again. -/
def detour : List (ViewCall Float) :=
  [.resize 900 500, .setLayout .freeFlow, .wheel 1 ⟨30, 40⟩, .resize 640 480]

/-- After the detour there are no bands.  The switch back to columns brings the bands, and with
them the geometry and the transform that a new view has at the last size. -/
theorem columns_forget_detour :
    let s : Setting Float := ⟨.standard, .standard, 80, fun _ _ _ => .empty⟩
    let g := Graph.build .tables [⟨"s_bani.a", "proceso.p", none, "y", none, none, none⟩]
    let v := (ofGraph s g .columns 1200 800).view.afterAll s detour
    let w := v.after s (.setLayout .columns)
    v.request = ⟨g, .freeFlow, 640, 480⟩ ∧ v.bands = none ∧
    w.request = ⟨g, .columns, 640, 480⟩ ∧ w.transform = Transform.identity ∧
    w.geometry = (columnLayout s.metrics g 640 true).geometry := by
  intro s g v w
  obtain ⟨hrequest, hbands, -, harranged⟩ := columns_forget_history s g .columns 1200 800 detour
  have hlayout : v.layout = .freeFlow := congrArg Request.layout hrequest
  have hwidth : v.width = 640 := congrArg Request.width hrequest
  have hheight : v.height = 480 := congrArg Request.height hrequest
  obtain ⟨hw, htransform, -, hgeometry⟩ := harranged (.setLayout .columns) .setLayout
  refine ⟨hrequest, ?_, ?_, htransform, ?_⟩
  · rw [← Option.not_isSome_iff_eq_none, hbands, show v.layout = _ from hlayout]
    decide
  · rw [show w.request = _ from hw, hwidth, hheight]
  · rw [show w.geometry = _ from hgeometry, hwidth]
    rfl

end View

end Provenance
