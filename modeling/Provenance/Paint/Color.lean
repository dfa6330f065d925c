import Provenance.Decimal.Shortest
import Provenance.Json.Reader
import Provenance.Scalar

/-!
# Colours

A colour has three channels and an opacity.  It is written as six hexadecimal digits, or with its
opacity when that is visibly below one.
-/

namespace Provenance

/-- Red, green, blue and opacity. -/
structure Color where
  red : UInt8
  green : UInt8
  blue : UInt8
  alpha : Float

namespace Color

/-- An opaque colour. -/
def rgb (red green blue : UInt8) : Color := ⟨red, green, blue, 1.0⟩

/-- The middle grey that stands for anything unreadable. -/
def fallback : UInt8 := 128

/-- The value of two characters as a channel: two hexadecimal digits, or a plus and one digit. -/
def channel? (a b : Char) : Option UInt8 :=
  if a = '+' then (Json.hexValue? b).map Nat.toUInt8
  else do
    let high ← Json.hexValue? a
    let low ← Json.hexValue? b
    return (high * 16 + low).toUInt8

/-- Where characters of a text begin, counted in bytes. -/
def charStarts (start : Nat) : List Char → List Nat
  | [] => [start]
  | c :: cs => start :: charStarts (start + c.utf8Size) cs

/-- The characters between two bytes, if both are the start of a character. -/
def byteSlice? (cs : List Char) (first last : Nat) : Option (List Char) :=
  let starts := charStarts 0 cs
  if starts.contains first && starts.contains last then
    some ((cs.zip starts).filterMap fun (c, i) => if first ≤ i ∧ i < last then some c else none)
  else none

/-- The channel written in two bytes of a text; middle grey if they are not a channel. -/
def channelAt (cs : List Char) (first : Nat) : UInt8 :=
  match byteSlice? cs first (first + 2) with
  | some [a, b] => (channel? a b).getD fallback
  | _ => fallback

/-- The colour of a hash and six hexadecimal digits.  A channel that cannot be read is middle
grey, and so is every text of another length. -/
def hex (text : String) : Color :=
  let cs := text.toList
  match cs with
  | '#' :: _ =>
    if Json.byteCount cs = 7 then rgb (channelAt cs 1) (channelAt cs 3) (channelAt cs 5)
    else rgb fallback fallback fallback
  | _ => rgb fallback fallback fallback

/-- The same colour with another opacity. -/
def withAlpha (c : Color) (alpha : Float) : Color := { c with alpha := alpha }

/-- A channel in two hexadecimal digits. -/
def channelText (n : UInt8) : List Char :=
  [Nat.digitChar (n.toNat / 16), Nat.digitChar (n.toNat % 16)]

/-- A colour in a style sheet. -/
def css (c : Color) : String :=
  if (c.alpha - 1.0).abs < 0.001 then
    String.ofList ('#' :: channelText c.red ++ channelText c.green ++ channelText c.blue)
  else
    "rgba(" ++ toString c.red.toNat ++ ", " ++ toString c.green.toNat ++ ", " ++
      toString c.blue.toNat ++ ", " ++ Decimal.plain c.alpha ++ ")"

end Color

end Provenance
