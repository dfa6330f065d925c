import Provenance.Decimal.Binary

/-!
# The fewest digits that read back

Many decimals round to the same double.  The text of a double is the one with the fewest digits
among them, and of those the nearest to the exact value.  The search goes over decimal grids of
increasing fineness and tests the two grid points around the value.  Each format says which of two
decimals is taken that are equally near.
-/

namespace Provenance.Decimal

/-- Which of two equally near neighbours is taken. -/
inductive Tie where
  | up
  | even
  deriving DecidableEq, Repr

/-- Whether `k + 1` is taken if it is as near as `k`. -/
def Tie.takesNext (tie : Tie) (k : Nat) : Bool :=
  match tie with
  | up => true
  | even => k % 2 == 1

/-- The decimal `digits * 10 ^ exponent`. -/
structure Digits where
  digits : Nat
  exponent : Int
  deriving DecidableEq, Repr

/-- The reals that round to one double, all in units of `1 / den`: the value itself and both
ends. -/
structure RoundingInterval where
  low : Nat
  value : Nat
  high : Nat
  den : Nat
  endsIncluded : Bool

namespace RoundingInterval

/-- The interval of a positive double.  Below a power of two the neighbour is half as far away. -/
def ofBinary (mantissa : Nat) (exponent : Int) : RoundingInterval :=
  let below := if mantissa = Nat.pow 2 52 ∧ exponent ≠ -1074 then 1 else 2
  let up := (exponent - 2).toNat
  let down := (2 - exponent).toNat
  { low := (4 * mantissa - below) * Nat.pow 2 up
    value := 4 * mantissa * Nat.pow 2 up
    high := (4 * mantissa + 2) * Nat.pow 2 up
    den := Nat.pow 2 down
    endsIncluded := mantissa % 2 = 0 }

/-- The same interval in units of `10 ^ exponent`. -/
def inUnits (i : RoundingInterval) (exponent : Int) : RoundingInterval :=
  let grow := Nat.pow 10 (-exponent).toNat
  { low := i.low * grow
    value := i.value * grow
    high := i.high * grow
    den := i.den * Nat.pow 10 exponent.toNat
    endsIncluded := i.endsIncluded }

/-- Whether an integral number of units lies in the interval. -/
def holds (i : RoundingInterval) (k : Nat) : Bool :=
  if i.endsIncluded then decide (i.low ≤ k * i.den) && decide (k * i.den ≤ i.high)
  else decide (i.low < k * i.den) && decide (k * i.den < i.high)

/-- Whether the value is nearer to `k + 1` than to `k`, where `k` is its integral part. -/
def nearsNext (i : RoundingInterval) (tie : Tie) (k : Nat) : Bool :=
  let twice := 2 * (i.value % i.den)
  decide (i.den < twice) || (twice == i.den && tie.takesNext k)

/-- The integer in the interval that is nearest to the value, if one of its two neighbours is. -/
def nearest? (i : RoundingInterval) (tie : Tie) : Option Nat :=
  let k := i.value / i.den
  match i.holds k, i.holds (k + 1) with
  | true, true => some (if i.nearsNext tie k then k + 1 else k)
  | true, false => some k
  | false, true => some (k + 1)
  | false, false => none

/-- How many steps a value below one has to be multiplied by ten to reach one; `fuel` bounds the
search. -/
def leadingZeros (value den : Nat) : (fuel : Nat) → Nat
  | 0 => 0
  | fuel + 1 => if den ≤ value then 0 else leadingZeros (value * 10) den fuel + 1

/-- The exponent `e` with `10 ^ (e - 1) ≤ value < 10 ^ e`. -/
def magnitude (i : RoundingInterval) : Int :=
  if i.den ≤ i.value then ((Nat.toDigits 10 (i.value / i.den)).length : Int)
  else 1 - (leadingZeros i.value i.den 400 : Int)

/-- Try one more digit until a grid point lies in the interval. -/
def search (i : RoundingInterval) (tie : Tie) (magnitude : Int) : (count tries : Nat) → Digits
  | count, 0 =>
    ⟨(i.inUnits (magnitude - count)).value / (i.inUnits (magnitude - count)).den,
      magnitude - count⟩
  | count, tries + 1 =>
    match (i.inUnits (magnitude - count)).nearest? tie with
    | some k => ⟨k, magnitude - count⟩
    | none => search i tie magnitude (count + 1) tries

end RoundingInterval

/-- Drop the zeros at the end of the digits; a double has at most seventeen. -/
def Digits.dropZeros (d : Digits) : (fuel : Nat) → Digits
  | 0 => d
  | fuel + 1 =>
    if d.digits ≠ 0 ∧ d.digits % 10 = 0 then
      Digits.dropZeros ⟨d.digits / 10, d.exponent + 1⟩ fuel
    else d

/-- The fewest digits of the double `mantissa * 2 ^ exponent`. -/
def shortest (tie : Tie) (mantissa : Nat) (exponent : Int) : Digits :=
  if mantissa = 0 then ⟨0, 0⟩
  else
    let interval := RoundingInterval.ofBinary mantissa exponent
    (interval.search tie interval.magnitude 1 17).dropZeros 17

/-! ## Layouts -/

/-- Digits written positionally, without an exponent.  A value below one has a zero before the
point. -/
def Digits.positional (d : Digits) : List Char :=
  let text := Nat.toDigits 10 d.digits
  match d.exponent with
  | .ofNat e => if d.digits = 0 then ['0'] else text ++ List.replicate e '0'
  | .negSucc e =>
    let filled := List.replicate (e + 2 - text.length) '0' ++ text
    let whole := filled.length - (e + 1)
    filled.take whole ++ '.' :: filled.drop whole

/-- Digits in scientific notation: one digit before the point, and an exponent that always has a
sign. -/
def Digits.scientific (d : Digits) : List Char :=
  let text := Nat.toDigits 10 d.digits
  let power : Int := d.exponent + text.length - 1
  let fraction := match text.drop 1 with
    | [] => []
    | rest => '.' :: rest
  text.take 1 ++ fraction ++ 'e' :: (if power < 0 then '-' else '+') :: Nat.toDigits 10 power.natAbs

/-- The power of ten of the first digit. -/
def Digits.power (d : Digits) : Int := d.exponent + (Nat.toDigits 10 d.digits).length - 1

/-- A double without an exponent and without a needless fraction: `1`, `0.25`, `-0`.  The larger
one of two equally near decimals is taken. -/
def plain (x : Float) : String :=
  match Binary.ofFloat x with
  | .notANumber => "NaN"
  | .infinite negative => if negative then "-inf" else "inf"
  | .finite negative mantissa exponent =>
    String.ofList ((if negative then ['-'] else []) ++ (shortest .up mantissa exponent).positional)

end Provenance.Decimal
