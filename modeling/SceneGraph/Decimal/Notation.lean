import SceneGraph.Decimal.Shortest

/-!
How numbers are laid out as text. A `Layout` holds the decisions of one output format; the
digits come from `shortest`, or from rounding to a fixed number of places.
-/
namespace SceneGraph.Decimal
open SceneGraph.Binary

/-- The decisions of a number format. The exponent counted is that of the leading digit. -/
structure Layout where
  tie : Tie
  /-- The exponents written without an exponent part, from the first up to but not including the
  second; all of them when absent. -/
  positional : Option (Int × Int)
  /-- Whether an integral value in positional form ends in `.0`. -/
  pointZero : Bool

def zeros (count : Int) : String := String.ofList (List.replicate count.toNat '0')

def Layout.isPositional (layout : Layout) (leading : Int) : Bool :=
  match layout.positional with
  | none => true
  | some (first, limit) => decide (first ≤ leading) && decide (leading < limit)

/-- A positive decimal with the point after, inside or before its digits, or in scientific form
with a signed exponent. -/
def Layout.write (layout : Layout) (decimal : Decimal) : String :=
  let digits := (Nat.toDigits 10 decimal.digits)
  let leading := decimal.exponent + digits.length - 1
  if layout.isPositional leading then
    if 0 ≤ decimal.exponent then
      String.ofList digits ++ zeros decimal.exponent ++ (if layout.pointZero then ".0" else "")
    else if 0 ≤ leading then
      String.ofList (digits.take (leading.toNat + 1)) ++ "." ++
        String.ofList (digits.drop (leading.toNat + 1))
    else "0." ++ zeros (-leading - 1) ++ String.ofList digits
  else
    String.ofList (digits.take 1) ++
      (if digits.length = 1 then "" else "." ++ String.ofList (digits.drop 1)) ++
      "e" ++ (if leading < 0 then "-" else "+") ++ toString leading.natAbs

/-- The text of a finite number, or nothing for NaN and the infinities. -/
def Layout.render? (layout : Layout) (format : Format) : Datum → Option String
  | .finite negative magnitude =>
      let text :=
        if magnitude.significand = 0 then (if layout.pointZero then "0.0" else "0")
        else layout.write (shortest format layout.tie magnitude)
      some ((if negative then "-" else "") ++ text)
  | _ => none

/-- A magnitude with exactly `places` digits after the point, ties to even. -/
def fixedPlaces (places : Nat) (magnitude : Magnitude) : String :=
  let units := roundQuotient
    (magnitude.significand * Nat.pow 2 magnitude.exponent.toNat * Nat.pow 10 places)
    (Nat.pow 2 (-magnitude.exponent).toNat)
  let fraction := Nat.toDigits 10 (units % Nat.pow 10 places)
  toString (units / Nat.pow 10 places) ++ "." ++ zeros (places - fraction.length) ++
    String.ofList fraction

end SceneGraph.Decimal
