import Provenance.Json.Reader

/-!
# JSON as it is written

A value can be written in many ways: with blanks between the tokens, with escapes in strings,
with fractions and exponents in numbers, with names in any order.  A `Tree` is one way to write a
value.  It has a text, and every JSON text comes from a tree in this way.  It also has a value,
unless a string has half a surrogate pair, which stands for no character, or a number is too large
for a double.

Main definitions:

- `Piece`, `Numeral`, `Tree`: strings, numbers and values as they are written.
- `Tree.chars`: the text of a tree.
- `Tree.value?`: the value of a tree.
- `Tree.depth`: how many brackets are open at once.
-/

namespace Provenance.Json

/-! ## Blanks -/

/-- A blank between two tokens. -/
inductive Blank where
  | space
  | tab
  | newline
  | carriageReturn

def Blank.char : Blank → Char
  | space => ' '
  | tab => '\t'
  | newline => '\n'
  | carriageReturn => '\r'

/-- Any number of blanks. -/
abbrev Gap := List Blank

def Gap.chars (g : Gap) : List Char := g.map Blank.char

/-! ## Strings -/

/-- An escape of one letter. -/
inductive Escape where
  | quote
  | backslash
  | slash
  | backspace
  | formFeed
  | newline
  | carriageReturn
  | tab

namespace Escape

/-- The letter that is written after the backslash. -/
def letter : Escape → Char
  | quote => '"'
  | backslash => '\\'
  | slash => '/'
  | backspace => 'b'
  | formFeed => 'f'
  | newline => 'n'
  | carriageReturn => 'r'
  | tab => 't'

/-- The character that the escape stands for. -/
def meaning : Escape → Char
  | quote => '"'
  | backslash => '\\'
  | slash => '/'
  | backspace => '\x08'
  | formFeed => '\x0c'
  | newline => '\n'
  | carriageReturn => '\r'
  | tab => '\t'

end Escape

/-- A hexadecimal digit, with a small or a capital letter. -/
structure HexDigit where
  value : Fin 16
  capital : Bool

def HexDigit.char (d : HexDigit) : Char :=
  if d.capital then (Nat.digitChar d.value).toUpper else Nat.digitChar d.value

/-- A code unit of sixteen bits, given by four digits. -/
structure CodeUnit where
  first : HexDigit
  second : HexDigit
  third : HexDigit
  fourth : HexDigit

namespace CodeUnit

def value (u : CodeUnit) : Nat :=
  ((u.first.value.val * 16 + u.second.value.val) * 16 + u.third.value.val) * 16 +
    u.fourth.value.val

/-- The four digits. -/
def digits (u : CodeUnit) : List Char :=
  [u.first.char, u.second.char, u.third.char, u.fourth.char]

/-- The character that two halves of a surrogate pair stand for. -/
def pair (lead trail : CodeUnit) : Char :=
  Char.ofNat ((lead.value - 0xd800) * 0x400 + (trail.value - 0xdc00) + 0x10000)

end CodeUnit

/-- A piece of a string: a character that stands for itself, or an escape. -/
inductive Piece where
  | plain (c : Char) (visible : 0x20 ≤ c.toNat) (notQuote : c ≠ '"') (notBackslash : c ≠ '\\')
  | escape (e : Escape)
  | unit (u : CodeUnit)

namespace Piece

def chars : Piece → List Char
  | plain c _ _ _ => [c]
  | escape e => ['\\', e.letter]
  | unit u => '\\' :: 'u' :: u.digits

/-- The characters that pieces stand for.  There are none if half a surrogate pair stands
alone. -/
def decode? : List Piece → Option (List Char)
  | [] => some []
  | plain c _ _ _ :: pieces => (decode? pieces).map (c :: ·)
  | escape e :: pieces => (decode? pieces).map (e.meaning :: ·)
  | unit u :: pieces =>
    if isTrailing u.value then none
    else if isLeading u.value then
      match pieces with
      | unit v :: pieces =>
        if isTrailing v.value then (decode? pieces).map (u.pair v :: ·) else none
      | _ => none
    else (decode? pieces).map (Char.ofNat u.value :: ·)

/-- The string that pieces stand for. -/
def text? (pieces : List Piece) : Option String := (decode? pieces).map String.ofList

end Piece

/-- A string between its quotes, with the quotes. -/
def quotedChars (pieces : List Piece) : List Char := '"' :: pieces.flatMap Piece.chars ++ ['"']

/-! ## Numbers -/

/-- A decimal digit. -/
abbrev Digit := Fin 10

def digitChars (digits : List Digit) : List Char := digits.map fun d => Nat.digitChar d.val

/-- The number that digits stand for, after digits that stand for `start`. -/
def digitsValue (start : Nat) (digits : List Digit) : Nat :=
  digits.foldl (fun value d => value * 10 + d.val) start

/-- The sign of an exponent, if there is one. -/
inductive ExponentSign where
  | unwritten
  | plus
  | minus
  deriving DecidableEq

def ExponentSign.chars : ExponentSign → List Char
  | unwritten => []
  | plus => ['+']
  | minus => ['-']

/-- The exponent of a number. -/
structure Exponent where
  capital : Bool
  sign : ExponentSign
  first : Digit
  others : List Digit

namespace Exponent

def chars (e : Exponent) : List Char :=
  (if e.capital then 'E' else 'e') :: e.sign.chars ++ digitChars (e.first :: e.others)

/-- The exponent without its sign. -/
def magnitude (e : Exponent) : Nat := digitsValue e.first.val e.others

/-- Whether the number gets smaller by the exponent. -/
def down (e : Exponent) : Bool := e.sign == .minus

end Exponent

/-- The text of an exponent that may be left out. -/
def exponentChars : Option Exponent → List Char
  | none => []
  | some e => e.chars

/-- The digits after the point, if there is one. -/
def fractionDigits : Option (Digit × List Digit) → List Digit
  | none => []
  | some (first, others) => first :: others

/-- The point and the digits after it. -/
def fractionChars : Option (Digit × List Digit) → List Char
  | none => []
  | some (first, others) => '.' :: digitChars (first :: others)

/-- The double of a significand that an exponent is written after.  An exponent that is beyond the
limit makes the number zero, or too large. -/
def Significand.raised? (s : Significand) : Option Exponent → Option Float
  | none => s.toFloat?
  | some e =>
    if e.magnitude ≤ exponentLimit then
      Significand.toFloat?
        ⟨s.digits, if e.down then s.exponent - e.magnitude else s.exponent + e.magnitude⟩
    else if s.digits ≠ 0 ∧ ¬ e.down then none
    else some 0.0

/-- A number.  Before the point there is one digit, or several that do not begin with zero; after
the point there is at least one digit. -/
structure Numeral where
  negative : Bool
  first : Digit
  others : List Digit
  proper : first = 0 → others = []
  fraction : Option (Digit × List Digit)
  exponent : Option Exponent

namespace Numeral

/-- The text of a number without its sign. -/
def unsignedChars (n : Numeral) : List Char :=
  digitChars (n.first :: n.others) ++ (fractionChars n.fraction ++ exponentChars n.exponent)

def chars (n : Numeral) : List Char :=
  if n.negative then '-' :: n.unsignedChars else n.unsignedChars

/-- The number before the point. -/
def whole (n : Numeral) : Nat := digitsValue n.first.val n.others

/-- As many of the digits as fit into 64 bits, with the power of ten they stand at. -/
def significand (n : Numeral) : Significand :=
  (Significand.whole ⟨n.first.val, 0⟩ false (digitChars n.others)).fraction
    (digitChars (fractionDigits n.fraction))

/-- The double of a number that is not a small integer: its significand times its power of ten.
There is none if the product is not finite. -/
def double? (n : Numeral) : Option Float := n.significand.raised? n.exponent

/-- The number that a numeral stands for.  Integers are exact as long as they fit into 64 bits. -/
def number? (n : Numeral) : Option Number :=
  if n.fraction.isNone ∧ n.exponent.isNone ∧ n.whole ≤ significandLimit then
    some (wholeNumber n.negative n.whole)
  else n.double?.map fun f => .real (signed n.negative f)

end Numeral

/-! ## Values -/

/-- Something with blanks around it. -/
structure Padded (α : Type) where
  before : Gap
  content : α
  after : Gap

/-- A member of an object, with blanks before and after its name and its value. -/
structure Member (α : Type) where
  beforeName : Gap
  name : List Piece
  afterName : Gap
  beforeValue : Gap
  value : α
  afterValue : Gap

/-- A value as it is written.  Inside brackets that hold nothing there may be blanks. -/
inductive Tree where
  | null
  | bool (value : Bool)
  | number (numeral : Numeral)
  | string (pieces : List Piece)
  | array (inner : Gap) (items : List (Padded Tree))
  | object (inner : Gap) (members : List (Member Tree))

/-- The text of something with blanks around it. -/
def Padded.chars {α : Type} (content : α → List Char) (p : Padded α) : List Char :=
  p.before.chars ++ (content p.content ++ p.after.chars)

namespace Member

variable {α : Type}

/-- The text of a member from the end of its name to the end of its value. -/
def tailChars (value : α → List Char) (m : Member α) : List Char :=
  m.afterName.chars ++ ':' :: (m.beforeValue.chars ++ value m.value)

/-- The text of a member. -/
def chars (value : α → List Char) (m : Member α) : List Char :=
  m.beforeName.chars ++ (quotedChars m.name ++ (m.tailChars value ++ m.afterValue.chars))

end Member

namespace Tree

mutual

/-- The text of a tree. -/
def chars : Tree → List Char
  | null => ['n', 'u', 'l', 'l']
  | bool true => ['t', 'r', 'u', 'e']
  | bool false => ['f', 'a', 'l', 's', 'e']
  | number n => n.chars
  | string pieces => quotedChars pieces
  | array inner items => '[' :: (inner.chars ++ commaSeparated (itemChars items) ++ [']'])
  | object inner members =>
    '\x7b' :: (inner.chars ++ commaSeparated (memberChars members) ++ ['\x7d'])

/-- The texts of the items of an array. -/
def itemChars : List (Padded Tree) → List (List Char)
  | [] => []
  | ⟨before, tree, after⟩ :: items =>
    (before.chars ++ (tree.chars ++ after.chars)) :: itemChars items

/-- The texts of the members of an object. -/
def memberChars : List (Member Tree) → List (List Char)
  | [] => []
  | ⟨beforeName, name, afterName, beforeValue, value, afterValue⟩ :: members =>
    (beforeName.chars ++ (quotedChars name ++
      (afterName.chars ++ ':' :: (beforeValue.chars ++ value.chars) ++ afterValue.chars))) ::
      memberChars members

end

mutual

/-- How many brackets of a tree are open at once. -/
def depth : Tree → Nat
  | null => 0
  | bool _ => 0
  | number _ => 0
  | string _ => 0
  | array _ items => itemsDepth items + 1
  | object _ members => membersDepth members + 1

def itemsDepth : List (Padded Tree) → Nat
  | [] => 0
  | ⟨_, tree, _⟩ :: items => max tree.depth (itemsDepth items)

def membersDepth : List (Member Tree) → Nat
  | [] => 0
  | ⟨_, _, _, _, value, _⟩ :: members => max value.depth (membersDepth members)

end

mutual

/-- The value of a tree.  Of two members of one name the later one counts. -/
def value? : Tree → Option Json
  | null => some .null
  | bool b => some (.bool b)
  | number n => n.number?.map .num
  | string pieces => (Piece.text? pieces).map .str
  | array _ items => (itemValues? items).map .arr
  | object _ members =>
    (memberValues? members).map fun fields =>
      .obj (fields.foldl (fun sofar (name, value) => putField name value sofar) [])

def itemValues? : List (Padded Tree) → Option (List Json)
  | [] => some []
  | ⟨_, tree, _⟩ :: items => do
    let value ← tree.value?
    let values ← itemValues? items
    return value :: values

/-- The members in the order in which they are written. -/
def memberValues? : List (Member Tree) → Option (List (String × Json))
  | [] => some []
  | ⟨_, name, _, _, value, _⟩ :: members => do
    let name ← Piece.text? name
    let value ← value.value?
    let fields ← memberValues? members
    return (name, value) :: fields

end

end Tree

end Provenance.Json
