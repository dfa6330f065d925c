import Provenance.Scalar

/-!
# Sizes that depend on the zoom

Boxes belong to the drawing and grow with the zoom.  Strokes, arrow heads and the reach of the
pointer belong to the screen: their size in the drawing is divided by the zoom, so that it stays
the same on the screen or within bounds.
-/

namespace Provenance

/-- How a size in the drawing follows the zoom. -/
inductive ScaleBehavior (α : Type) where
  /-- The size on the screen is fixed. -/
  | screen
  /-- The size on the screen stays between two bounds. -/
  | clamped (minScreen maxScreen : α)

/-- Bounds of the zoom, and sizes that depend on it. -/
structure ScaleConfig (α : Type) where
  minZoom : α
  maxZoom : α
  arrowSize : α
  arrowBehavior : ScaleBehavior α
  edgeHitTolerance : α
  tableFontPx : α
  fieldFontPx : α
  tooltipFontPx : α

/-- Sizes in the drawing at one zoom. -/
structure ScaledValues (α : Type) where
  arrowSize : α
  edgeHitTolerance : α
  pixel : α

variable {α : Type} [Scalar α]

/-- The size in the drawing at zoom `k`, unless the bounds are out of order. -/
def ScaleBehavior.sizeAt? (behavior : ScaleBehavior α) (base k : α) : Option α :=
  match behavior with
  | screen => some (base / k)
  | clamped minScreen maxScreen => Scalar.clamp? (minScreen / k) (maxScreen / k) base

namespace ScaleConfig

/-- The sizes to begin with. -/
def standard : ScaleConfig α where
  minZoom := 0.1
  maxZoom := 4.0
  arrowSize := 10.0
  arrowBehavior := .clamped 4.0 18.0
  edgeHitTolerance := 5.0
  tableFontPx := 13.0
  fieldFontPx := 11.0
  tooltipFontPx := 12.0

/-- The nearest zoom within the bounds, unless the bounds are out of order. -/
def clampZoom? (config : ScaleConfig α) (k : α) : Option α :=
  Scalar.clamp? config.minZoom config.maxZoom k

end ScaleConfig

/-- The sizes at zoom `k`, unless bounds are out of order. -/
def ScaledValues.ofZoom? (config : ScaleConfig α) (k : α) : Option (ScaledValues α) := do
  let arrowSize ← config.arrowBehavior.sizeAt? config.arrowSize k
  let edgeHitTolerance ← ScaleBehavior.screen.sizeAt? config.edgeHitTolerance k
  return ⟨arrowSize, edgeHitTolerance, 1.0 / k⟩

end Provenance
