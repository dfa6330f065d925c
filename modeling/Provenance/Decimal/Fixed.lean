import Provenance.Decimal.Binary

/-!
# Decimals with a fixed number of places

Measurements are reported with a fixed number of decimals: the exact value of the double, rounded
once.
-/

namespace Provenance.Decimal

/-- The value `mantissa * 2 ^ exponent` in units of `10 ^ -places`, rounded to the nearest unit. -/
def scaled (places mantissa : Nat) (exponent : Int) : Nat :=
  match exponent with
  | .ofNat e => mantissa * Nat.pow 2 e * Nat.pow 10 places
  | .negSucc e => roundDiv (mantissa * Nat.pow 10 places) (Nat.pow 2 (e + 1))

/-- A double with exactly `places` decimals.  A value that rounds to zero has no sign. -/
def fixed (places : Nat) (x : Float) : String :=
  match Binary.ofFloat x with
  | .notANumber => "nan"
  | .infinite negative => if negative then "-inf" else "inf"
  | .finite negative mantissa exponent =>
    let units := scaled places mantissa exponent
    let sign := if negative && units != 0 then ['-'] else []
    let whole := Nat.toDigits 10 (units / Nat.pow 10 places)
    String.ofList (sign ++ whole ++ '.' :: padded places (units % Nat.pow 10 places))

end Provenance.Decimal
