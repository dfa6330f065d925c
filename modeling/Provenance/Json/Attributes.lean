import Provenance.Json.Reader

/-!
# Attribute lists

A record of known attributes is written as an object with the attributes by name, or as an array
with the attributes in order.  Attributes may be missing.  In an object unknown names are passed
over and a known name may stand only once; an array may be shorter than the attribute list, but
not longer.
-/

namespace Provenance.Json

/-- How a record is read: what to call it when something else stands in its place, the names of
its attributes in order, and a reader for the value of the attribute at an index. -/
structure Shape (α : Type) where
  wanted : String
  names : List String
  value : (depth : Nat) → (index : Nat) → List Char → Except Stop (α × List Char)

/-- The attribute values found so far, by index. -/
abbrev Slots (α : Type) := List (Option α)

/-- Read what stands in place of something wanted, and report it. -/
def refuse {α : Type} (wanted : String) (cs : List Char) : Except Stop α := do
  let kind := fun found rest => stopHere (.wrongKind found wanted) rest
  match cs with
  | [] => stopNext .endInValue []
  | 'n' :: rest => do
    let (_, rest) ← readLetters ['u', 'l', 'l'] rest
    kind .null rest
  | 't' :: rest => do
    let (_, rest) ← readLetters ['r', 'u', 'e'] rest
    kind (.bool true) rest
  | 'f' :: rest => do
    let (_, rest) ← readLetters ['a', 'l', 's', 'e'] rest
    kind (.bool false) rest
  | '"' :: rest => do
    let (s, rest) ← readString rest
    kind (.text s) rest
  | '[' :: rest => kind .list ('[' :: rest)
  | '\x7b' :: rest => kind .object ('\x7b' :: rest)
  | c :: rest =>
    if startsNumber c then do
      let (n, rest) ← readNumber (c :: rest)
      kind (.number n) rest
    else stopNext .missingValue (c :: rest)

namespace Shape

variable {α : Type}

/-- No attribute found yet. -/
def noSlots (shape : Shape α) : Slots α := shape.names.map fun _ => none

/-- After the last attribute of an array only the closing bracket may follow. -/
def closeArray (cs : List Char) : Except Stop (List Char) :=
  match skipSpace cs with
  | [] => stopNext .endInList []
  | ']' :: rest => .ok rest
  | ',' :: rest =>
    match skipSpace rest with
    | ']' :: more => stopNext .trailingComma (']' :: more)
    | more => stopNext .trailingCharacters more
  | rest => stopNext .trailingCharacters rest

/-- Read the attributes from `index` on from an array; `missing` of them are left to fill. -/
def readInOrder (shape : Shape α) (depth : Nat) (index : Nat) (next : Except Stop Continuation) :
    (missing : Nat) → List Char → Except Stop (Slots α × List Char)
  | 0, cs => do
    let rest ← closeArray cs
    return ([], rest)
  | missing + 1, _ => do
    match ← next with
    | .closed rest => return (List.replicate (missing + 1) none, rest)
    | .another rest =>
      let (x, rest) ← shape.value depth index rest
      let (xs, rest) ← readInOrder shape depth (index + 1) (nextItem rest) missing rest
      return (some x :: xs, rest)

/-- A repeated name is reported after white space and a closing brace right behind it. -/
def refuseRepeated {β : Type} (name : String) (cs : List Char) : Except Stop β :=
  match skipSpace cs with
  | '\x7d' :: rest => stopHere (.repeatedField name) rest
  | rest => stopHere (.repeatedField name) rest

/-- Read one field of an object. -/
def readField (shape : Shape α) (depth : Nat) (slots : Slots α) (name : String) (cs : List Char) :
    Except Stop (Slots α × List Char) := do
  match shape.names.idxOf? name with
  | none =>
    let cs ← readColon cs
    let (_, cs) ← skipValue cs
    return (slots, cs)
  | some index =>
    if (slots.getD index none).isSome then refuseRepeated name cs
    else
      let cs ← readColon cs
      let (x, cs) ← shape.value depth index cs
      return (slots.set index (some x), cs)

/-- Read a record. -/
def read (shape : Shape α) (depth : Nat) (cs : List Char) : Except Stop (Slots α × List Char) :=
  match skipSpace cs with
  | [] => stopNext .endInValue []
  | '[' :: rest =>
    if depth ≤ 1 then stopNext .tooDeep ('[' :: rest)
    else shape.readInOrder (depth - 1) 0 (firstItem rest) shape.names.length rest
  | '\x7b' :: rest =>
    if depth ≤ 1 then stopNext .tooDeep ('\x7b' :: rest)
    else readObject (shape.readField (depth - 1)) shape.noSlots rest
  | rest => refuse shape.wanted rest

end Shape

/-! ## Common attribute values -/

/-- Read a value, where null means that there is none. -/
def readOptional (depth : Nat) (cs : List Char) : Except Stop (Option Json × List Char) := do
  let (value, rest) ← readValue depth cs
  match value with
  | null => return (none, rest)
  | value => return (some value, rest)

/-- Read a string and nothing else. -/
def readStringOnly (cs : List Char) : Except Stop (String × List Char) :=
  match skipSpace cs with
  | '"' :: rest => readString rest
  | rest => refuse "a string" rest

/-- Read a number and nothing else. -/
def readNumberOnly (wanted : String) (cs : List Char) : Except Stop (Number × List Char) :=
  match skipSpace cs with
  | [] => stopNext .endInValue []
  | c :: rest => if startsNumber c then readNumber (c :: rest) else refuse wanted (c :: rest)

/-- A number as a double. -/
def Number.toFloat : Number → Float
  | int z => Float.ofInt z
  | real x => x

/-- A number as a single. -/
def Number.toFloat32 : Number → Float32
  | int z => Float32.ofInt z
  | real x => x.toFloat32

/-- Read a double. -/
def readFloat (cs : List Char) : Except Stop (Float × List Char) := do
  let (n, rest) ← readNumberOnly "f64" cs
  return (n.toFloat, rest)

/-- Read a single. -/
def readFloat32 (cs : List Char) : Except Stop (Float32 × List Char) := do
  let (n, rest) ← readNumberOnly "f32" cs
  return (n.toFloat32, rest)

/-- Read a count: an integer that is not negative. -/
def readCount (cs : List Char) : Except Stop (Nat × List Char) := do
  let (n, rest) ← readNumberOnly "usize" cs
  match n with
  | .int (.ofNat n) => return (n, rest)
  | .int z => stopHere (.wrongValue (.number (.int z)) "usize") rest
  | .real x => stopHere (.wrongKind (.number (.real x)) "usize") rest

end Provenance.Json
