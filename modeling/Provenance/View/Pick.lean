import Provenance.View.Basic

/-!
# What lies under the pointer

Edges join the borders of two boxes along the line between their centres.  The pointer picks the
box drawn last among those it is in, and otherwise the nearest edge within reach.
-/

namespace Provenance

/-- A box around a centre. -/
structure Extent (α : Type) where
  center : Point α
  halfWidth : α
  halfHeight : α

/-- A straight line between two points. -/
structure Segment (α : Type) where
  start : Point α
  stop : Point α

variable {α : Type} [Scalar α]

namespace Extent

/-- Whether a point lies in the box or on its border. -/
def contains (e : Extent α) (p : Point α) : Bool :=
  decide (Scalar.magnitude (p.x - e.center.x) ≤ e.halfWidth) &&
    decide (Scalar.magnitude (p.y - e.center.y) ≤ e.halfHeight)

/-- How much of the way from the centre along `dx`, `dy` lies in the box, at most all of it. -/
def reach (e : Extent α) (dx dy : α) : α :=
  let tx := e.halfWidth / Scalar.magnitude dx
  let ty := e.halfHeight / Scalar.magnitude dy
  if dx == 0.0 then Scalar.smaller ty 1.0
  else if dy == 0.0 then Scalar.smaller tx 1.0
  else Scalar.smaller (Scalar.smaller tx ty) 1.0

/-- Where the way from the centre toward a point leaves the box. -/
def clip (e : Extent α) (toward : Point α) : Point α :=
  let dx := toward.x - e.center.x
  let dy := toward.y - e.center.y
  if dx == 0.0 && dy == 0.0 then e.center
  else
    let t := e.reach dx dy
    ⟨e.center.x + dx * t, e.center.y + dy * t⟩

end Extent

namespace Segment

/-- The length of a segment. -/
def length (s : Segment α) : α := Scalar.length (s.stop.x - s.start.x) (s.stop.y - s.start.y)

/-- The distance of a point from a segment. -/
def distance (s : Segment α) (p : Point α) : α :=
  let dx := s.stop.x - s.start.x
  let dy := s.stop.y - s.start.y
  let len2 := dx * dx + dy * dy
  let t := if len2 == 0.0 then 0.0
    else Scalar.clampUnit (((p.x - s.start.x) * dx + (p.y - s.start.y) * dy) / len2)
  Scalar.length (p.x - (s.start.x + t * dx)) (p.y - (s.start.y + t * dy))

end Segment

namespace View

/-- The box of a table. -/
def tableExtent (s : Setting α) (b : TableBox α) : Extent α :=
  ⟨b.center, s.metrics.tableWidth / 2.0, b.height / 2.0⟩

/-- The box of a field. -/
def fieldExtent (s : Setting α) (center : Point α) : Extent α :=
  ⟨center, s.metrics.fieldWidth / 2.0, s.metrics.rowHeight / 2.0⟩

/-- The box of a node. -/
def extent? (s : Setting α) (v : View α) (id : String) : Option (Extent α) :=
  if (v.graph.field? id).isSome then (v.positions.find? id).map (fieldExtent s)
  else (v.tableBox? id).map (tableExtent s)

/-- The segment of an edge between two boxes; an edge that is not longer than one unit is not
drawn. -/
def segmentBetween? (a b : Extent α) : Option (Segment α) :=
  let segment : Segment α := ⟨a.clip b.center, b.clip a.center⟩
  if 1.0 < segment.length then some segment else none

/-- The segment of an edge. -/
def edgeSegment? (s : Setting α) (v : View α) (e : Edge) : Option (Segment α) := do
  let a ← v.extent? s e.source
  let b ← v.extent? s e.target
  segmentBetween? a b

/-- The distance of a drawn edge from a point of the drawing. -/
def edgeDistance? (s : Setting α) (v : View α) (p : Point α) (e : Edge) : Option α :=
  (v.edgeSegment? s e).map fun segment => segment.distance p

/-- An edge within reach. -/
structure Candidate (α : Type) where
  distance : α
  edge : Edge

/-- The nearer one of two edges; the earlier one if they are equally near. -/
def nearer (best : Option (Candidate α)) (c : Candidate α) : Option (Candidate α) :=
  match best with
  | none => some c
  | some b => if c.distance < b.distance then some c else some b

/-- The edges within reach of a point of the drawing. -/
def edgesWithin (s : Setting α) (v : View α) (tolerance : α) (p : Point α) : List (Candidate α) :=
  v.graph.edges.filterMap fun e =>
    match v.edgeDistance? s p e with
    | some d => if d ≤ tolerance then some ⟨d, e⟩ else none
    | none => none

/-- The nearest edge within reach of a point of the screen. -/
def edgeAt? (s : Setting α) (v : View α) (scaled : ScaledValues α) (p : Point α) : Option Edge :=
  ((v.edgesWithin s scaled.edgeHitTolerance (v.toGraph p)).foldl nearer none).map Candidate.edge

/-- The last field that a point of the drawing lies in. -/
def fieldAt? (s : Setting α) (v : View α) (p : Point α) : Option FieldNode :=
  v.graph.fields.reverse.find? fun f => (v.extent? s f.id).any fun e => e.contains p

/-- The last table that a point of the drawing lies in. -/
def tableAt? (s : Setting α) (v : View α) (p : Point α) : Option (TableBox α) :=
  v.tables.reverse.find? fun b => (tableExtent s b).contains p

/-- What a point of the screen picks: a field, a table, or an edge. -/
def hitTest (s : Setting α) (v : View α) (scaled : ScaledValues α) (p : Point α) : Option String :=
  let q := v.toGraph p
  match v.fieldAt? s q with
  | some f => some f.id
  | none =>
    match v.tableAt? s q with
    | some b => some b.id
    | none => (v.edgeAt? s scaled p).map Edge.id

end View

end Provenance
