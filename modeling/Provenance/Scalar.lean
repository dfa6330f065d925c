/-!
# Coordinates

Positions, sizes and zoom factors are numbers of some type of scalars.  The viewer runs on
doubles; the laws of the geometry are stated for exact numbers.  A scalar type provides
arithmetic, comparison, the larger and the smaller of two numbers, and the length of a vector.

Among doubles a value that is not a number never is the larger or the smaller one of two.
-/

namespace Provenance

/-- Numbers to compute coordinates with. -/
class Scalar (α : Type) extends
    Add α, Sub α, Mul α, Div α, Neg α, LE α, LT α, BEq α, OfScientific α where
  /-- The scalar of a count. -/
  ofCount : Nat → α
  /-- Comparisons are decidable. -/
  decidableLE : DecidableLE α
  /-- Strict comparisons are decidable. -/
  decidableLT : DecidableLT α
  /-- The larger one of two numbers. -/
  larger : α → α → α
  /-- The smaller one of two numbers. -/
  smaller : α → α → α
  /-- The absolute value. -/
  magnitude : α → α
  /-- The length of a vector. -/
  length : α → α → α

namespace Scalar

instance {α : Type} [Scalar α] : DecidableLE α := Scalar.decidableLE

instance {α : Type} [Scalar α] : DecidableLT α := Scalar.decidableLT

section

variable {α : Type} [Scalar α]

/-- The nearest number between two bounds, if the bounds are in order. -/
def clamp? (low high x : α) : Option α :=
  if low ≤ high then some (if x < low then low else if high < x then high else x) else none

/-- The nearest number between zero and one. -/
def clampUnit (x : α) : α := if x < 0.0 then 0.0 else if 1.0 < x then 1.0 else x

/-- The sum of a list of numbers, from left to right. -/
def sum (xs : List α) : α := xs.foldl (· + ·) 0.0

/-- The average of a list of numbers. -/
def mean (xs : List α) : α := sum xs / ofCount xs.length

end

/-! ## Doubles -/

/-- The larger one of two doubles. -/
def floatLarger (a b : Float) : Float := if a.isNaN then b else if a < b then b else a

/-- The smaller one of two doubles. -/
def floatSmaller (a b : Float) : Float := if a.isNaN then b else if b < a then b else a

/-- The length of a vector with components `0 ≤ b ≤ a` of moderate size.  The square root of the
sum of squares is corrected once by its residue, which is computed without cancellation. -/
def correctedLength (a b : Float) : Float :=
  let h := (a * a + b * b).sqrt
  if h ≤ 2.0 * b then
    let delta := h - b
    h - (a * (2.0 * delta - a) + (delta - 2.0 * (a - b)) * delta) / (2.0 * h)
  else
    let delta := h - a
    h - (2.0 * delta * (a - 2.0 * b) + ((4.0 * delta - b) * b + delta * delta)) / (2.0 * h)

/-- The length of a vector of doubles.  Components that are very large or very small are scaled
first, and a component that is negligible beside the other one only rounds. -/
def floatLength (x y : Float) : Float :=
  if x.isInf || y.isInf then Float.ofScientific 1 false 400
  else if x.isNaN || y.isNaN then x + y
  else
    let x := x.abs
    let y := y.abs
    let a := if x < y then y else x
    let b := if x < y then x else y
    let scale := Float.scaleB 1.0 (-600)
    let negligible := Float.scaleB 1.0 (-54)
    if Float.scaleB 1.0 511 < a then
      if b ≤ a * negligible then a + b else correctedLength (a * scale) (b * scale) / scale
    else if b < Float.scaleB 1.0 (-459) then
      if b / negligible ≤ a then a + b else correctedLength (a / scale) (b / scale) * scale
    else if b ≤ a * negligible then a + b
    else correctedLength a b

instance : Scalar Float where
  ofCount := Float.ofNat
  decidableLE := inferInstance
  decidableLT := inferInstance
  larger := floatLarger
  smaller := floatSmaller
  magnitude := Float.abs
  length := floatLength

end Scalar

end Provenance
