import SceneGraph.Binary

/-!
The shortest decimal that identifies a binary value. A decimal identifies a value when it lies
among the reals that round to it; `shortest` searches the decimal grids from coarse to fine and
takes the closest point of the first grid that has one. All comparisons are between naturals.
-/
namespace SceneGraph

/-- The number `digits * 10 ^ exponent`. -/
structure Decimal where
  digits : Nat
  exponent : Int
deriving DecidableEq, Repr

namespace Decimal
open SceneGraph.Binary

inductive Tie where
  | even
  | up
deriving DecidableEq, Repr

/-- Compares `digits * 10 ^ tens` with `significand * 2 ^ twos`. -/
def compareScaled (digits : Nat) (tens : Int) (significand : Nat) (twos : Int) : Ordering :=
  compare (digits * Nat.pow 10 tens.toNat * Nat.pow 2 (-twos).toNat)
    (significand * Nat.pow 2 twos.toNat * Nat.pow 10 (-tens).toNat)

/-- Whether the value below `magnitude` is only half as far away as the one above. -/
def narrowBelow (format : Format) (magnitude : Magnitude) : Bool :=
  magnitude.significand == Nat.pow 2 (format.precision - 1) &&
    format.leastExponent < magnitude.exponent

/-- Whether a decimal lies among the reals that round to `magnitude`. The ends of the interval
belong to it when the significand is even. -/
def readsBack (format : Format) (magnitude : Magnitude) (decimal : Decimal) : Bool :=
  let center := 4 * magnitude.significand
  let low := if narrowBelow format magnitude then center - 1 else center - 2
  let closed := magnitude.significand % 2 == 0
  let below := compareScaled decimal.digits decimal.exponent low (magnitude.exponent - 2)
  let above := compareScaled decimal.digits decimal.exponent (center + 2) (magnitude.exponent - 2)
  (below == .gt || closed && below == .eq) && (above == .lt || closed && above == .eq)

/-- The least `k` with `magnitude < 10 ^ k`. The first candidate comes from the binary logarithm
and is at most one too small. -/
def decimalScale (magnitude : Magnitude) : Int :=
  let estimate := ((magnitude.significand.log2 : Int) + magnitude.exponent) * 30103 / 100000
  if compareScaled 1 estimate magnitude.significand magnitude.exponent == .gt then estimate
  else if compareScaled 1 (estimate + 1) magnitude.significand magnitude.exponent == .gt then
    estimate + 1
  else estimate + 2

/-- The point of the grid `10 ^ exponent` closest to `magnitude` among those that read back. -/
def gridPoint? (format : Format) (tie : Tie) (magnitude : Magnitude) (exponent : Int) :
    Option Decimal :=
  let numerator :=
    magnitude.significand * Nat.pow 2 magnitude.exponent.toNat * Nat.pow 10 (-exponent).toNat
  let denominator := Nat.pow 2 (-magnitude.exponent).toNat * Nat.pow 10 exponent.toNat
  let lower : Decimal := ⟨numerator / denominator, exponent⟩
  let upper : Decimal := ⟨numerator / denominator + 1, exponent⟩
  let upperCloser : Bool := match compare (2 * (numerator % denominator)) denominator with
    | .lt => false
    | .gt => true
    | .eq => tie == .up || lower.digits % 2 == 1
  match readsBack format magnitude lower, readsBack format magnitude upper with
  | true, true => some (bif upperCloser then upper else lower)
  | true, false => some lower
  | false, true => some upper
  | false, false => none

/-- Drops trailing zeros of the digits, at most `places` of them. -/
def stripZeros : (places : Nat) → Decimal → Decimal
  | 0, decimal => decimal
  | places + 1, decimal =>
      if decimal.digits % 10 = 0 then stripZeros places ⟨decimal.digits / 10, decimal.exponent + 1⟩
      else decimal

def exact (magnitude : Magnitude) : Decimal :=
  if 0 ≤ magnitude.exponent then ⟨magnitude.significand * Nat.pow 2 magnitude.exponent.toNat, 0⟩
  else ⟨magnitude.significand * Nat.pow 5 (-magnitude.exponent).toNat, magnitude.exponent⟩

/-- The decimal of fewest digits that reads back to a positive magnitude of the format; of those,
the closest. Seventeen digits suffice for both formats. -/
def shortest (format : Format) (tie : Tie) (magnitude : Magnitude) : Decimal :=
  let scale := decimalScale magnitude
  match (List.range 17).findSome? fun (count : Nat) =>
      gridPoint? format tie magnitude (scale - (count + 1)) with
  | some decimal => stripZeros 17 decimal
  | none => exact magnitude

end Decimal
end SceneGraph
