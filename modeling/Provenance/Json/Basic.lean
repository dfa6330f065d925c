import Provenance.Decimal.Shortest

/-!
# JSON values and their compact text

Documents are JSON.  An integer between `-2 ^ 63` and `2 ^ 64 - 1` is kept exactly, every other
number is a double.  The fields of an object are kept in the order of their names, each name once.

The compact text of a value has no blanks.  Strings escape only what has to be escaped; a number
that is not an integer always shows a decimal point or a signed exponent, so no such text can be
mistaken for an integer.
-/

namespace Provenance

/-- A JSON number. -/
inductive Json.Number where
  | int (value : Int)
  | real (value : Float)

/-- A JSON value. -/
inductive Json where
  | null
  | bool (value : Bool)
  | num (value : Json.Number)
  | str (value : String)
  | arr (items : List Json)
  | obj (fields : List (String × Json))

namespace Json

instance : Inhabited Json := ⟨null⟩

/-! ## Fields of an object -/

/-- Set a field in a list ordered by name; an earlier value of the same name is replaced. -/
def putField (name : String) (value : Json) : List (String × Json) → List (String × Json)
  | [] => [(name, value)]
  | (other, old) :: rest =>
    if name < other then (name, value) :: (other, old) :: rest
    else if name = other then (name, value) :: rest
    else (other, old) :: putField name value rest

/-- The value of a field, if the value is an object that has it. -/
def field? (name : String) : Json → Option Json
  | obj fields => fields.lookup name
  | _ => none

/-- The text of a string value. -/
def text? : Json → Option String
  | str s => some s
  | _ => none

/-! ## Compact text -/

/-- Positional notation is used for powers of ten from `-5` up to `15`. -/
def positionalPowers (power : Int) : Bool := decide (-5 ≤ power) && decide (power < 16)

/-- Digits of a number that is not an integer: positional with at least one decimal, or
scientific. -/
def realDigits (d : Decimal.Digits) : List Char :=
  if d.digits = 0 then ['0', '.', '0']
  else if positionalPowers d.power then
    if d.exponent < 0 then d.positional else d.positional ++ ['.', '0']
  else d.scientific

/-- The text of a double; there is none for infinities and for what is no number.  Of two equally
near decimals the one with an even last digit is taken. -/
def realText (x : Float) : List Char :=
  match Decimal.Binary.ofFloat x with
  | .finite negative mantissa exponent =>
    (if negative then ['-'] else []) ++ realDigits (Decimal.shortest .even mantissa exponent)
  | _ => ['n', 'u', 'l', 'l']

/-- The text of an integer. -/
def intText : Int → List Char
  | .ofNat n => Nat.toDigits 10 n
  | .negSucc n => '-' :: Nat.toDigits 10 (n + 1)

/-- The text of a number. -/
def Number.text : Number → List Char
  | int z => intText z
  | real x => realText x

/-- One character inside a string. -/
def escapeChar (c : Char) : List Char :=
  if c = '"' then ['\\', '"']
  else if c = '\\' then ['\\', '\\']
  else if c = '\x08' then ['\\', 'b']
  else if c = '\x0c' then ['\\', 'f']
  else if c = '\n' then ['\\', 'n']
  else if c = '\r' then ['\\', 'r']
  else if c = '\t' then ['\\', 't']
  else if c.toNat < 0x20 then
    ['\\', 'u', '0', '0', Nat.digitChar (c.toNat / 16), Nat.digitChar (c.toNat % 16)]
  else [c]

/-- A string between its quotes. -/
def stringText (s : String) : List Char := '"' :: s.toList.flatMap escapeChar ++ ['"']

/-- Texts with a comma between any two. -/
def commaSeparated : List (List Char) → List Char
  | [] => []
  | [t] => t
  | t :: ts => t ++ ',' :: commaSeparated ts

mutual

/-- The compact text of a value, as characters. -/
def chars : Json → List Char
  | null => ['n', 'u', 'l', 'l']
  | bool true => ['t', 'r', 'u', 'e']
  | bool false => ['f', 'a', 'l', 's', 'e']
  | num n => n.text
  | str s => stringText s
  | arr items => '[' :: commaSeparated (itemChars items) ++ [']']
  | obj fields => '\x7b' :: commaSeparated (fieldChars fields) ++ ['\x7d']

/-- The compact texts of the items of an array. -/
def itemChars : List Json → List (List Char)
  | [] => []
  | item :: items => item.chars :: itemChars items

/-- The compact texts of the fields of an object. -/
def fieldChars : List (String × Json) → List (List Char)
  | [] => []
  | (name, value) :: fields => (stringText name ++ ':' :: value.chars) :: fieldChars fields

end

/-- The compact text of a value. -/
def compact (j : Json) : String := String.ofList j.chars

end Json

end Provenance
