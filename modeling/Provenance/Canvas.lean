import Provenance.Journal
import Provenance.Paint.Picture
import Provenance.View.Force
import Provenance.Viewer

/-!
# Canvases

A canvas is a viewer on a page.  It takes its size from the element around it, follows the pointer
while it is attached to the page, and draws a picture on every frame once it has a context to draw
with.
-/

namespace Provenance

/-- What a page offers to a canvas.  `corner` is the top left corner of the canvas on the page,
and `charWidth` the width of a character, if texts can be measured. -/
structure Host where
  hasWindow : Bool
  hasContext : Bool
  setsCursor : Bool
  charWidth : Option Float
  corner : Point Float

/-- The width of a text. -/
def Host.measure (h : Host) (s : String) : Option Float :=
  h.charWidth.map fun w => w * Float.ofNat s.length

/-- A size in whole pixels. -/
structure PixelSize where
  width : Nat
  height : Nat
  deriving DecidableEq

/-- The size that a canvas takes inside an element of some width and height: a standard one if
there is no such element or if it is empty. -/
def PixelSize.inside : Option (Int × Int) → PixelSize
  | some (width, height) =>
    if 0 < width ∧ 0 < height then ⟨width.toNat, height.toNat⟩ else ⟨800, 600⟩
  | none => ⟨800, 600⟩

/-- A viewer on a page.  A live canvas has a context to draw with; it draws every frame and
follows the size of the element around it.  `prevented` counts the turns of the wheel that were
kept from scrolling the page. -/
structure Canvas where
  host : Host
  setting : Setting Float
  viewer : Viewer Float
  parent : Option (Int × Int)
  attached : Bool
  live : Bool
  size : PixelSize
  cursor : Option Cursor
  prevented : Nat

/-- Something that happens to a canvas.  Points are points of the page. -/
inductive CanvasEvent where
  | press (p : Point Float)
  | move (p : Point Float)
  | release (p : Point Float)
  | leave
  | wheel (delta : Float) (p : Point Float)
  | resize (parent : Option (Int × Int))
  | frame
  | detach

/-- What a canvas gives back: a picture, lines for the journal, a selection made by a click, and
whether something was refused on the way. -/
structure CanvasReply where
  picture : Picture Float := []
  journal : Journal := []
  selected : Option (Option String) := none
  refused : Bool := false

/-- What of a scene has to be shown again. -/
structure Refresh where
  scene : Bool
  layout : Bool
  deriving DecidableEq

namespace Refresh

/-- Nothing. -/
def nothing : Refresh := ⟨false, false⟩

/-- Everything. -/
def everything : Refresh := ⟨true, true⟩

/-- What either of two asks for. -/
def merge (a b : Refresh) : Refresh := ⟨a.scene || b.scene, a.layout || b.layout⟩

end Refresh

namespace Canvas

/-- A canvas that is not live yet. -/
def initial (host : Host) (setting : Setting Float) (parent : Option (Int × Int)) : Canvas where
  host := host
  setting := setting
  viewer := Viewer.initial
  parent := parent
  attached := true
  live := false
  size := ⟨0, 0⟩
  cursor := none
  prevented := 0

/-! ## Size -/

/-- Let the viewer take the size of the canvas. -/
def fitViewer (c : Canvas) : Canvas :=
  { c with
    viewer := c.viewer.resize c.setting (Float.ofNat c.size.width) (Float.ofNat c.size.height) }

/-- Let the canvas take the size of the element around it. -/
def fitParent (c : Canvas) : Canvas := { c with size := PixelSize.inside c.parent }

/-- Make the canvas live, if the page offers a context. -/
def attach (c : Canvas) : Canvas × Journal :=
  if c.attached && c.host.hasWindow then
    let c := c.fitParent
    if c.host.hasContext then ({ c.fitViewer with live := true }, [])
    else (c, [JournalLine.noContext])
  else (c, [])

/-! ## Scenes -/

/-- Show a scene, or nothing. -/
def present (c : Canvas) (scene : Option Scene) : Canvas × CanvasReply :=
  let (viewer, reaction) := c.viewer.present c.setting scene
  ({ c with viewer := viewer },
    { journal := scene.toList.map fun s => JournalLine.drawing s.graph
      refused := reaction.refused })

/-- Arrange the scene in a layout. -/
def arrange (c : Canvas) (layout : LayoutMode) : Canvas × CanvasReply :=
  let (viewer, reaction) := c.viewer.arrange c.setting layout
  ({ c with viewer := viewer }, { refused := reaction.refused })

/-- Show again what has changed: first the scene, then its layout. -/
def refresh (c : Canvas) (what : Refresh) (scene : Option Scene) (layout : LayoutMode) :
    Canvas × CanvasReply :=
  let (c, first) := if what.scene then c.present scene else (c, {})
  let (c, second) := if what.layout then c.arrange layout else (c, {})
  (c, { journal := first.journal ++ second.journal, refused := first.refused || second.refused })

/-- A canvas on a page that shows a scene. -/
def mount (host : Host) (setting : Setting Float) (parent : Option (Int × Int))
    (scene : Option Scene) (layout : LayoutMode) : Canvas × CanvasReply :=
  let (c, journal) := (initial host setting parent).attach
  let (c, reply) := c.refresh .everything scene layout
  (c, { reply with journal := journal ++ reply.journal })

/-! ## Events -/

/-- The point of an attached canvas at a point of the page. -/
def toLocal? (c : Canvas) (p : Point Float) : Option (Point Float) :=
  if c.attached then some ⟨p.x - c.host.corner.x, p.y - c.host.corner.y⟩ else none

/-- What an event means to the viewer. -/
def viewerEvent? (c : Canvas) : CanvasEvent → Option (ViewerEvent Float)
  | .press p => (c.toLocal? p).map .press
  | .move p => (c.toLocal? p).map .move
  | .release p => (c.toLocal? p).map .release
  | .wheel delta p => (c.toLocal? p).map (.wheel delta)
  | .leave => some .leave
  | _ => none

/-- Set the shape of the pointer, if the page can do so. -/
def setCursor (c : Canvas) : Option Cursor → Canvas × Journal
  | none => (c, [])
  | some cursor =>
    if c.host.setsCursor then ({ c with cursor := some cursor }, [])
    else (c, [JournalLine.noCursor])

/-- Pass an event on to the viewer. -/
def notify (c : Canvas) (event : CanvasEvent) : Canvas × CanvasReply :=
  match c.viewerEvent? event with
  | none => (c, {})
  | some e =>
    let (viewer, reaction) := c.viewer.step c.setting e
    let (c, journal) := { c with viewer := viewer }.setCursor reaction.cursor
    (c, { journal := journal, selected := reaction.selected, refused := reaction.refused })

/-- The picture of what the canvas shows, unless bounds of a size are out of order. -/
def picture? (c : Canvas) : Option (Picture Float) :=
  match c.viewer.view with
  | some v => v.picture? c.setting c.host.measure
  | none => some (blankPicture c.viewer.width c.viewer.height)

/-- Draw a frame, if the canvas is live. -/
def draw (c : Canvas) : CanvasReply :=
  if c.live then
    match c.picture? with
    | some picture => { picture := picture }
    | none => { refused := true }
  else {}

/-- Let something happen. -/
def step (c : Canvas) : CanvasEvent → Canvas × CanvasReply
  | .resize parent =>
    let c := { c with parent := parent }
    (if c.live then c.fitParent.fitViewer else c, {})
  | .frame => (c, c.draw)
  | .detach => ({ c with attached := false }, {})
  | .wheel delta p => notify { c with prevented := c.prevented + 1 } (.wheel delta p)
  | event => c.notify event

end Canvas

end Provenance
