/-!
Binary floating-point numbers as exact numbers. A format is a significand width and an exponent
width; `decode` reads a bit pattern as a signed significand times a power of two, and `nearest`
rounds a quotient of naturals to the bit pattern of the closest value, ties to even. Conversion
between the two formats in use is `decode` followed by `nearest`, so every result is rounded once.
-/
namespace SceneGraph.Binary

/-- The two widths that fix a format; the significand counts its leading bit. -/
structure Format where
  precision : Nat
  exponentWidth : Nat
deriving DecidableEq, Repr

def single : Format := ⟨24, 8⟩

def double : Format := ⟨53, 11⟩

/-- The power of two that the last bit of the smallest values stands for. -/
def Format.leastExponent (format : Format) : Int :=
  3 - Nat.pow 2 (format.exponentWidth - 1) - format.precision

/-- The magnitude bits of infinity, one more than those of the largest finite value. -/
def Format.infinityBits (format : Format) : Nat :=
  (Nat.pow 2 format.exponentWidth - 1) * Nat.pow 2 (format.precision - 1)

def Format.signBit (format : Format) : Nat :=
  Nat.pow 2 (format.precision + format.exponentWidth - 1)

/-- A magnitude `significand * 2 ^ exponent`. -/
structure Magnitude where
  significand : Nat
  exponent : Int
deriving DecidableEq, Repr

inductive Datum where
  | nan
  | infinite (negative : Bool)
  | finite (negative : Bool) (magnitude : Magnitude)
deriving DecidableEq, Repr

def Format.decode (format : Format) (bits : Nat) : Datum :=
  let negative := decide (format.signBit ≤ bits)
  let size := bits % format.signBit
  let unit := Nat.pow 2 (format.precision - 1)
  if format.infinityBits < size then .nan
  else if size = format.infinityBits then .infinite negative
  else if size < unit then .finite negative ⟨size, format.leastExponent⟩
  else .finite negative ⟨unit + size % unit, format.leastExponent + (size / unit - 1 : Nat)⟩

/-- The quotient rounded to the nearest natural, ties to even. -/
def roundQuotient (numerator denominator : Nat) : Nat :=
  let quotient := numerator / denominator
  let twice := 2 * (numerator % denominator)
  if twice < denominator then quotient
  else if denominator < twice then quotient + 1
  else quotient + quotient % 2

/-- Whether `2 ^ exponent ≤ numerator / denominator`. -/
def reaches (numerator denominator : Nat) (exponent : Int) : Bool :=
  denominator * Nat.pow 2 exponent.toNat ≤ numerator * Nat.pow 2 (-exponent).toNat

/-- The magnitude bits of the value closest to `numerator / denominator`; a value of at least half
a unit beyond the largest finite one becomes infinite. The exponent field and the significand add
up, so a significand that rounds up to a power of two carries into the exponent. -/
def Format.nearest (format : Format) (numerator denominator : Nat) : Nat :=
  if numerator = 0 then 0
  else
    let estimate : Int := (numerator.log2 : Int) - denominator.log2
    let leading := if reaches numerator denominator estimate then estimate else estimate - 1
    let exponent := max (leading + 1 - format.precision) format.leastExponent
    let significand :=
      roundQuotient (numerator * Nat.pow 2 (-exponent).toNat)
        (denominator * Nat.pow 2 exponent.toNat)
    let bits :=
      (exponent - format.leastExponent).toNat * Nat.pow 2 (format.precision - 1) + significand
    min bits format.infinityBits

def Format.encode (format : Format) : Datum → Nat
  | .nan => format.infinityBits + Nat.pow 2 (format.precision - 2)
  | .infinite negative => (if negative then format.signBit else 0) + format.infinityBits
  | .finite negative ⟨significand, exponent⟩ =>
      (if negative then format.signBit else 0) +
        format.nearest (significand * Nat.pow 2 exponent.toNat) (Nat.pow 2 (-exponent).toNat)

def ofFloat (value : Float) : Datum := double.decode value.toBits.toNat

def ofFloat32 (value : Float32) : Datum := single.decode value.toBits.toNat

def toFloat (datum : Datum) : Float := Float.ofBits (double.encode datum).toUInt64

def toFloat32 (datum : Datum) : Float32 := Float32.ofBits (single.encode datum).toUInt32

def floatOfQuotient (negative : Bool) (numerator denominator : Nat) : Float :=
  Float.ofBits ((if negative then double.signBit else 0) +
    double.nearest numerator denominator).toUInt64

def float32OfQuotient (negative : Bool) (numerator denominator : Nat) : Float32 :=
  Float32.ofBits ((if negative then single.signBit else 0) +
    single.nearest numerator denominator).toUInt32

def floatOfInt (value : Int) : Float := floatOfQuotient (decide (value < 0)) value.natAbs 1

def float32OfInt (value : Int) : Float32 := float32OfQuotient (decide (value < 0)) value.natAbs 1

/-- A double by its bit pattern, which tells NaNs of different payload apart. -/
structure Double where
  bits : UInt64
deriving DecidableEq, Repr

namespace Double

def ofFloat (value : Float) : Double := ⟨value.toBits⟩

def toFloat (value : Double) : Float := Float.ofBits value.bits

def datum (value : Double) : Datum := double.decode value.bits.toNat

end Double

def narrow (value : Float) : Float32 := toFloat32 (ofFloat value)

def widen (value : Float32) : Float := toFloat (ofFloat32 value)

end SceneGraph.Binary
