import Provenance.Layout.Metrics
import Provenance.Text.Blank

/-!
# Settings

The page that hosts the viewer may hold a configuration: where the documents are, the layout
metrics, and the constants of the force simulation.  What is missing keeps its standard value.  A
malformed configuration is ignored as a whole.
-/

namespace Provenance

/-- Where the documents are. -/
structure DataSources where
  tablesUrl : String := "../json/datos-objetivo.json"
  fieldsUrl : String := "../json/datos-objetivo-campos.json"
  deriving DecidableEq, Inhabited

/-- Constants of the force simulation, and the room left around a fitted drawing. -/
structure ForceSettings where
  iterations : Nat := 300
  timeStep : Float32 := 0.016
  charge : Float32 := 2000.0
  spring : Float32 := 0.02
  maxForce : Float32 := 280.0
  nodeSpeed : Float32 := 7000.0
  damping : Float32 := 0.9
  fitPadding : Float := 80.0

/-- All settings. -/
structure Settings where
  data : DataSources := {}
  layout : LayoutMetrics Float := LayoutMetrics.standard
  force : ForceSettings := {}

instance : Inhabited Settings := ⟨{}⟩

namespace DataSources

/-- How sources stand in a configuration. -/
def shape : Json.Shape String where
  wanted := "struct DataSources"
  names := ["tables_url", "fields_url"]
  value := fun _ _ cs => Json.readStringOnly cs

/-- Read sources. -/
def read (depth : Nat) (cs : List Char) : Except Json.Stop (DataSources × List Char) := do
  let (slots, rest) ← shape.read depth cs
  let standard : DataSources := {}
  return (⟨(slots.getD 0 none).getD standard.tablesUrl,
    (slots.getD 1 none).getD standard.fieldsUrl⟩, rest)

end DataSources

namespace ForceSettings

/-- The value of one constant. -/
inductive Constant where
  | count (n : Nat)
  | single (x : Float32)
  | double (x : Float)

/-- The names of the constants in a configuration, in order. -/
def attributeNames : List String :=
  ["iterations", "time_step", "force_charge", "force_spring", "force_max", "node_speed",
   "damping_factor", "fit_padding"]

/-- Read the constant at an index: a count first, a double last, and singles between them. -/
def readConstant (index : Nat) (cs : List Char) : Except Json.Stop (Constant × List Char) :=
  if index = 0 then do
    let (n, rest) ← Json.readCount cs
    return (.count n, rest)
  else if index = 7 then do
    let (x, rest) ← Json.readFloat cs
    return (.double x, rest)
  else do
    let (x, rest) ← Json.readFloat32 cs
    return (.single x, rest)

/-- How the constants stand in a configuration. -/
def shape : Json.Shape Constant where
  wanted := "struct ForceSettings"
  names := attributeNames
  value := fun _ index cs => readConstant index cs

/-- The settings with one constant set. -/
def set (s : ForceSettings) : Nat → Constant → ForceSettings
  | 0, .count n => { s with iterations := n }
  | 1, .single x => { s with timeStep := x }
  | 2, .single x => { s with charge := x }
  | 3, .single x => { s with spring := x }
  | 4, .single x => { s with maxForce := x }
  | 5, .single x => { s with nodeSpeed := x }
  | 6, .single x => { s with damping := x }
  | 7, .double x => { s with fitPadding := x }
  | _, _ => s

/-- The settings of a configuration. -/
def ofSlots (slots : Json.Slots Constant) : ForceSettings :=
  slots.zipIdx.foldl (fun s (slot, i) => match slot with
    | some c => s.set i c
    | none => s) {}

/-- Read the constants. -/
def read (depth : Nat) (cs : List Char) : Except Json.Stop (ForceSettings × List Char) := do
  let (slots, rest) ← shape.read depth cs
  return (ofSlots slots, rest)

end ForceSettings

namespace Settings

/-- A part of the configuration. -/
inductive Part where
  | data (value : DataSources)
  | layout (value : LayoutMetrics Float)
  | force (value : ForceSettings)

/-- Read the part at an index. -/
def readPart (depth index : Nat) (cs : List Char) : Except Json.Stop (Part × List Char) :=
  if index = 0 then do
    let (x, rest) ← DataSources.read depth cs
    return (.data x, rest)
  else if index = 1 then do
    let (x, rest) ← LayoutMetrics.read depth cs
    return (.layout x, rest)
  else do
    let (x, rest) ← ForceSettings.read depth cs
    return (.force x, rest)

/-- How settings stand in a configuration. -/
def shape : Json.Shape Part where
  wanted := "struct LineageConfig"
  names := ["data", "layout", "force"]
  value := readPart

/-- The settings with one part set. -/
def set (s : Settings) : Part → Settings
  | .data x => { s with data := x }
  | .layout x => { s with layout := x }
  | .force x => { s with force := x }

/-- Read settings. -/
def read (depth : Nat) (cs : List Char) : Except Json.Stop (Settings × List Char) := do
  let (slots, rest) ← shape.read depth cs
  return ((slots.filterMap id).foldl set {}, rest)

/-- Read a configuration. -/
def parse (text : String) : Except Json.Fault Settings := Json.readText (read Json.depthLimit) text

/-- The settings of a configuration; standard ones if it is malformed. -/
def ofText (text : String) : Settings :=
  match parse text with
  | .ok settings => settings
  | .error _ => {}

end Settings

end Provenance
