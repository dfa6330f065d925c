/-!
# What a double stands for

A double is not a number, an infinity, or `mantissa * 2 ^ exponent` with a sign.  Decimal texts
are computed from this exact value in natural numbers, never in floating point.
-/

namespace Provenance.Decimal

/-- The exact value of a double. -/
inductive Binary where
  | notANumber
  | infinite (negative : Bool)
  | finite (negative : Bool) (mantissa : Nat) (exponent : Int)
  deriving DecidableEq, Repr

namespace Binary

/-- Read sign, exponent and fraction off the bits of a double. -/
def ofBits (bits : UInt64) : Binary :=
  let n := bits.toNat
  let negative := decide (Nat.pow 2 63 ≤ n)
  let biased : Nat := n / Nat.pow 2 52 % 2048
  let fraction : Nat := n % Nat.pow 2 52
  if biased = 2047 then
    if fraction = 0 then infinite negative else notANumber
  else if biased = 0 then finite negative fraction (-1074)
  else finite negative (Nat.pow 2 52 + fraction) ((biased : Int) - 1075)

/-- The exact value of a double. -/
def ofFloat (x : Float) : Binary := ofBits x.toBits

end Binary

/-- A nonnegative quotient of natural numbers, rounded to the nearest integer; a half goes to the
even neighbour. -/
def roundDiv (num den : Nat) : Nat :=
  let q := num / den
  let twice := 2 * (num % den)
  if twice < den then q
  else if twice = den then q + q % 2
  else q + 1

/-- A natural number in decimal digits, filled with zeros in front up to a width. -/
def padded (width n : Nat) : List Char :=
  let digits := Nat.toDigits 10 n
  List.replicate (width - digits.length) '0' ++ digits

end Provenance.Decimal
