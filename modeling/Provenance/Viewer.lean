import Provenance.Session
import Provenance.View.Interact

/-!
# Viewers

A viewer is a canvas of some size that shows at most one view.  Everything that happens to it is
an event: a scene to show, a layout to arrange it in, a new size, and what the pointer and the
wheel do.
-/

namespace Provenance

/-- A canvas and what it shows. -/
structure Viewer (α : Type) where
  width : α
  height : α
  view : Option (View α)

/-- Something that happens to a viewer. -/
inductive ViewerEvent (α : Type) where
  | present (scene : Option Scene)
  | arrange (layout : LayoutMode)
  | resize (width height : α)
  | press (p : Point α)
  | move (p : Point α)
  | release (p : Point α)
  | leave
  | wheel (delta : α) (p : Point α)

namespace Viewer

variable {α : Type} [Scalar α]

/-- An empty viewer of the size that is taken when no other is known. -/
def initial : Viewer α := ⟨800.0, 600.0, none⟩

/-- Let something happen to the view, if there is one. -/
def react (v : Viewer α) (f : View α → View α × Reaction) : Viewer α × Reaction :=
  match v.view with
  | none => (v, {})
  | some w =>
    let (w, reaction) := f w
    ({ v with view := some w }, reaction)

/-- Change the view, if there is one. -/
def change (v : Viewer α) (f : View α → Change α) : Viewer α × Reaction :=
  v.react fun w =>
    let changed := f w
    (changed.view, { refused := changed.refused })

/-- Show a scene, or nothing. -/
def present (s : Setting α) (v : Viewer α) : Option Scene → Viewer α × Reaction
  | none => ({ v with view := none }, {})
  | some scene =>
    let shown := View.ofGraph s scene.graph scene.layout v.width v.height
    ({ v with view := some shown.view }, { refused := shown.refused })

/-- Arrange the view in a layout; a view that is in this layout already goes back to its first
transform. -/
def arrange (s : Setting α) (v : Viewer α) (layout : LayoutMode) : Viewer α × Reaction :=
  v.change fun w => if w.layout = layout then w.resetView s else w.setLayout s layout

/-- Take another size. -/
def resize (s : Setting α) (v : Viewer α) (width height : α) : Viewer α :=
  { width := width, height := height, view := v.view.map fun w => w.resize s width height }

/-- Let something happen. -/
def step (s : Setting α) (v : Viewer α) : ViewerEvent α → Viewer α × Reaction
  | .present scene => v.present s scene
  | .arrange layout => v.arrange s layout
  | .resize width height => (v.resize s width height, {})
  | .press p => v.react fun w => (w.press p, {})
  | .move p => v.react fun w => w.move s p
  | .release p => v.react fun w => w.release s p
  | .leave => v.react fun w => (w.leave, {})
  | .wheel delta p => v.change fun w => w.wheel s delta p

end Viewer

end Provenance
