import Provenance.Layout.Columns

/-!
# Spreading tables apart

Centres of tables are scaled about their centroid until the tables keep a margin between them.
One factor serves all pairs: the least one that separates every pair in one direction, up to a
bound.
-/

namespace Provenance

variable {α : Type} [Scalar α]

/-- Tables are not spread by more than this factor. -/
def maxSpread : α := 25.0

/-- The margin between two tables. -/
def tableMargin : α := 40.0

/-- The centre of a table and its height. -/
structure Placed (α : Type) where
  center : Point α
  height : α

/-- The factor that stretches a distance to what is needed; there is none for a distance that is
zero. -/
def stretch? (need distance : α) : Option α :=
  if 0.0 < distance ∧ distance < need then some (need / distance) else none

/-- The smaller one of two factors, where a missing one is larger than every other. -/
def smallerFactor : Option α → Option α → Option α
  | some a, some b => some (Scalar.smaller a b)
  | some a, none => some a
  | none, b => b

/-- The larger one of two factors, where a missing one is larger than every other. -/
def largerFactor : Option α → Option α → Option α
  | some a, some b => some (Scalar.larger a b)
  | _, _ => none

/-- The least factor that separates two tables, or no factor if none does; separate tables need
none. -/
def pairFactor (m : LayoutMetrics α) (a b : Placed α) (factor : Option α) : Option α :=
  let needX := m.tableWidth + tableMargin
  let needY := (a.height + b.height) / 2.0 + tableMargin
  let dx := Scalar.magnitude (a.center.x - b.center.x)
  let dy := Scalar.magnitude (a.center.y - b.center.y)
  if needX ≤ dx ∨ needY ≤ dy then factor
  else largerFactor factor (smallerFactor (stretch? needX dx) (stretch? needY dy))

/-- The least factor from one on that separates every pair. -/
def spreadFactor (m : LayoutMetrics α) : (factor : Option α) → List (Placed α) → Option α
  | factor, [] => factor
  | factor, a :: rest => spreadFactor m (rest.foldl (fun f b => pairFactor m a b f) factor) rest

/-- The tables that have a centre, with their heights. -/
def placedTables (m : LayoutMetrics α) (g : Graph) (centers : NameMap (Point α)) :
    List (Placed α) :=
  g.tables.filterMap fun t => (centers.find? t.id).map fun c => ⟨c, m.tableHeight (g.rowCount t)⟩

/-- Scale centres about their centroid. -/
def scaleAbout (factor : α) (centers : NameMap (Point α)) : NameMap (Point α) :=
  let cx := Scalar.mean (centers.values.map Point.x)
  let cy := Scalar.mean (centers.values.map Point.y)
  centers.mapValues fun p => ⟨cx + (p.x - cx) * factor, cy + (p.y - cy) * factor⟩

/-- Spread tables apart. -/
def separate (m : LayoutMetrics α) (g : Graph) (centers : NameMap (Point α)) : NameMap (Point α) :=
  let placed := placedTables m g centers
  if placed.length < 2 then centers
  else
    let factor := match spreadFactor m (some 1.0) placed with
      | some f => Scalar.smaller f maxSpread
      | none => maxSpread
    if factor ≤ 1.0 then centers else scaleAbout factor centers

end Provenance
