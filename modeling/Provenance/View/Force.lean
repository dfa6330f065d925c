import Provenance.Settings
import Provenance.View.Basic

/-!
# Force simulation

In free flow tables find their places by a simulation in single precision.  Tables repel each
other like charges and related tables are pulled together like springs.  Tables start on a circle
and move in small steps, one table after the other; a table that moves later sees the tables moved
before it.
-/

namespace Provenance

namespace Force

/-- A vector in single precision. -/
structure Vec where
  x : Float32
  y : Float32

namespace Vec

/-- The zero vector. -/
def zero : Vec := ⟨0.0, 0.0⟩

instance : Inhabited Vec := ⟨zero⟩

/-- The sum of two vectors. -/
def add (a b : Vec) : Vec := ⟨a.x + b.x, a.y + b.y⟩

/-- The difference of two vectors. -/
def sub (a b : Vec) : Vec := ⟨a.x - b.x, a.y - b.y⟩

/-- A multiple of a vector. -/
def scale (a : Vec) (s : Float32) : Vec := ⟨a.x * s, a.y * s⟩

/-- The opposite vector. -/
def neg (a : Vec) : Vec := ⟨-a.x, -a.y⟩

/-- The length of a vector, but one for the zero vector. -/
def span (a : Vec) : Float32 :=
  if a.x == 0.0 && a.y == 0.0 then 1.0 else (a.x * a.x + a.y * a.y).sqrt

end Vec

/-- A table in the simulation. -/
structure Body where
  position : Vec
  velocity : Vec
  acceleration : Vec
  mass : Float32

instance : Inhabited Body := ⟨⟨.zero, .zero, .zero, 0.0⟩⟩

/-- Bodies, and for every body the bodies it is tied to in the order in which they pull. -/
structure World where
  bodies : Array Body
  ties : Array (List Nat)

/-- A number between two bounds; what is no number gives way to a bound. -/
def limit (bound x : Float32) : Float32 :=
  let low := if x.isNaN then -bound else if x < -bound then -bound else x
  if low.isNaN then bound else if bound < low then bound else low

/-- Let a force act on a body during a step. -/
def Body.push (c : ForceSettings) (b : Body) (force : Vec) : Body :=
  let dt := c.timeStep
  { b with
    acceleration :=
      b.acceleration.add ⟨limit c.maxForce force.x * dt, limit c.maxForce force.y * dt⟩ }

/-- The pull of a body on a tied one: it grows with the distance. -/
def pull (c : ForceSettings) (a b : Body) : Vec :=
  let way := b.position.sub a.position
  let d := way.span
  let unit : Vec := ⟨way.x / d, way.y / d⟩
  unit.scale (1.0 * c.spring * d * 0.5)

/-- The push of a body on another one: it falls with the square of the distance. -/
def repel (c : ForceSettings) (a b : Body) : Vec :=
  let way := b.position.sub a.position
  let d := way.span
  let unit : Vec := ⟨way.x / d, way.y / d⟩
  unit.scale (-c.charge * ((a.mass * b.mass) / (d * d)))

/-- Move a body by what has acted on it. -/
def Body.move (c : ForceSettings) (b : Body) : Body :=
  let dt := c.timeStep
  let speed := fun (v a : Float32) => (v + a * dt * c.nodeSpeed) * c.damping
  let velocity : Vec := ⟨speed b.velocity.x b.acceleration.x, speed b.velocity.y b.acceleration.y⟩
  { b with
    velocity := velocity
    position := b.position.add (velocity.scale dt)
    acceleration := .zero }

/-- The body with a number. -/
def bodyOf (bodies : Array Body) (i : Nat) : Body := bodies.getD i default

/-- Let body `j` and body `i` repel each other. -/
def repelPair (c : ForceSettings) (i : Nat) (bodies : Array Body) (j : Nat) : Array Body :=
  let force := repel c (bodyOf bodies i) (bodyOf bodies j)
  (bodies.modify i fun b => b.push c force).modify j fun b => b.push c force.neg

/-- Let everything act on body `i`, and move it. -/
def stepBody (c : ForceSettings) (ties : Array (List Nat)) (bodies : Array Body) (i : Nat) :
    Array Body :=
  let pulled := (ties.getD i []).foldl (fun (bs : Array Body) j =>
    let force := pull c (bodyOf bs i) (bodyOf bs j)
    bs.modify i fun b => b.push c force) bodies
  let later := (List.range bodies.size).drop (i + 1)
  (later.foldl (repelPair c i) pulled).modify i fun b => b.move c

/-- One step of the simulation. -/
def World.step (c : ForceSettings) (w : World) : World :=
  { w with bodies := (List.range w.bodies.size).foldl (stepBody c w.ties) w.bodies }

/-- Several steps of the simulation. -/
def World.run (c : ForceSettings) : (steps : Nat) → World → World
  | 0, w => w
  | steps + 1, w => World.run c steps (w.step c)

/-! ## From graphs to bodies -/

/-- The angle of half a turn in radians. -/
def pi : Float := 3.141592653589793

/-- The table that a node belongs to. -/
def ownerOf (g : Graph) (node : String) : String :=
  match g.field? node with
  | some f => f.parent
  | none => node

/-- A pair of tables in the order of their ids, source first. -/
def pairBefore (a b : String × String) : Bool :=
  decide (a.1 < b.1) || (a.1 == b.1 && decide (a.2 ≤ b.2))

/-- The pairs of different tables that edges join, in order and each once. -/
def relatedPairs (g : Graph) : List (String × String) :=
  let pairs := (g.edges.map fun e => (ownerOf g e.source, ownerOf g e.target)).filter fun p =>
    p.1 != p.2
  (pairs.mergeSort pairBefore).eraseDups

/-- Ties between bodies: each unordered pair once, newest first. -/
def tiesOf (g : Graph) : List (Nat × Nat) :=
  let index := fun (id : String) => g.tables.findIdx? fun t => t.id == id
  (relatedPairs g).foldl (fun ties (source, target) =>
    match index source, index target with
    | some a, some b =>
      if ties.contains (a, b) || ties.contains (b, a) then ties else (a, b) :: ties
    | _, _ => ties) []

/-- The bodies that body `i` is tied to: those tied from it, then those tied to it. -/
def tiedTo (ties : List (Nat × Nat)) (i : Nat) : List Nat :=
  (ties.filter fun t => t.1 == i).map Prod.snd ++ (ties.filter fun t => t.2 == i).map Prod.fst

/-- The body of a table at its place on the circle. -/
def bodyAt (count : Nat) (width height : Float) (i : Nat) (t : TableNode) : Body :=
  let n := Float.ofNat count
  let radius := 40.0 * n.sqrt * 4.0
  let angle := Float.ofNat i * 2.0 * pi / n
  { position :=
      ⟨(width / 2.0 + radius * angle.cos).toFloat32, (height / 2.0 + radius * angle.sin).toFloat32⟩
    velocity := .zero
    acceleration := .zero
    mass := 10.0 + Float32.ofNat (max t.columns.length 1) }

/-- The world of a graph on a canvas. -/
def World.ofGraph (g : Graph) (width height : Float) : World :=
  let count := max g.tables.length 1
  let ties := tiesOf g
  { bodies := (g.tables.zipIdx.map fun (t, i) => bodyAt count width height i t).toArray
    ties := ((List.range g.tables.length).map (tiedTo ties)).toArray }

/-- The centres of the tables of a graph after the simulation. -/
def settle (c : ForceSettings) (g : Graph) (width height : Float) : NameMap (Point Float) :=
  let w := (World.ofGraph g width height).run c c.iterations
  NameMap.ofList (g.tables.zip w.bodies.toList |>.map fun (t, b) =>
    (t.id, ⟨b.position.x.toFloat, b.position.y.toFloat⟩))

end Force

/-- What a view is laid out with, where tables settle by the simulation. -/
def Setting.ofForce (metrics : LayoutMetrics Float) (force : ForceSettings)
    (scale : ScaleConfig Float) : Setting Float where
  metrics := metrics
  scale := scale
  fitPadding := force.fitPadding
  settle := Force.settle force

end Provenance
