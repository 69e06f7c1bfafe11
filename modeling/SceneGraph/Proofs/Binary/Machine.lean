import SceneGraph.Proofs.Binary.Arithmetic

/-!
Doubles and singles as signed values. Machine numbers other than NaN are given by a sign and the
magnitude bits of a value; conversions and the operations in use round to the nearest value.
-/
namespace SceneGraph.Binary
open Float.Model (UnpackedFloat)

/-- The double is a signed value, or an infinity. -/
structure IsDouble (value : Float) (negative : Bool) (bits : Nat) : Prop where
  pattern : value.toBits.toNat = double.pattern negative bits
  bounded : bits ≤ double.infinityBits

/-- The single is a signed value, or an infinity. -/
structure IsSingle (value : Float32) (negative : Bool) (bits : Nat) : Prop where
  pattern : value.toBits.toNat = single.pattern negative bits
  bounded : bits ≤ single.infinityBits

theorem Represents.neg {format : Format} {negative : Bool} {bits : Nat} {unpacked : UnpackedFloat}
    (represents : Represents format negative bits unpacked) :
    Represents format (!negative) bits unpacked.neg := by
  have sign : -signOf negative = signOf (!negative) := by cases negative <;> rfl
  cases represents with
  | zero =>
    change Represents format (!negative) 0 (.zero (-signOf negative))
    rw [sign]
    exact .zero
  | finite positive fits normal inside =>
    change Represents format (!negative) _ (.finite (-signOf negative) _ _ positive)
    rw [sign]
    exact .finite positive fits normal inside
  | infinity =>
    change Represents format (!negative) format.infinityBits (.infinity (-signOf negative))
    rw [sign]
    exact .infinity

theorem Represents.isInf {format : Format} {negative : Bool} {bits : Nat}
    {unpacked : UnpackedFloat} (represents : Represents format negative bits unpacked)
    (nonzero : bits ≠ 0) (infinite : bits = format.infinityBits) : unpacked.isInf = true := by
  cases represents with
  | zero => exact absurd rfl nonzero
  | finite positive fits normal inside => exact absurd infinite inside.ne
  | infinity => rfl

theorem Represents.eq_zero_of_beq {format : Format} {negative : Bool} {bits : Nat}
    {unpacked : UnpackedFloat} (represents : Represents format negative bits unpacked)
    {sign : UnpackedFloat.Sign} (same : unpacked.beq (.zero sign) = true) : bits = 0 := by
  cases represents with
  | zero => rfl
  | finite => cases negative <;> cases same
  | infinity => cases negative <;> cases same

section Doubles
variable {value : Float} {negative : Bool} {bits : Nat}

theorem isDouble_ofBits (bounded : bits ≤ double.infinityBits) :
    IsDouble (Float.ofBits (double.pattern negative bits).toUInt64) negative bits where
  pattern := by
    have inside : double.pattern negative bits < 2 ^ 64 := by
      have last : double.infinityBits < 2 ^ 63 := by decide
      have sign : double.signBit = 2 ^ 63 := rfl
      unfold Format.pattern
      split <;> omega
    have same : (double.pattern negative bits).toUInt64.toBitVec.toNat =
        double.pattern negative bits := Nat.mod_eq_of_lt inside
    have represents : Represents (Format.ofModel .binary64) negative bits _ :=
      represents_unpack same bounded
    exact represents.toNat_pack (by decide)
  bounded := bounded

theorem isDouble_floatOfQuotient (negative : Bool) (numerator : Nat) {denominator : Nat}
    (positive : 0 < denominator) :
    IsDouble (floatOfQuotient negative numerator denominator) negative
      (double.nearest numerator denominator) :=
  isDouble_ofBits (double.nearest_quotient (by decide) numerator positive).bounded

namespace IsDouble

theorem represents (is : IsDouble value negative bits) :
    Represents (Format.ofModel .binary64) negative bits value.toModel.unpack :=
  represents_unpack is.pattern is.bounded

theorem datum (is : IsDouble value negative bits) (finite : bits < double.infinityBits) :
    (Double.ofFloat value).datum = .finite negative (double.magnitude bits) := by
  rw [Double.datum, Double.ofFloat, is.pattern]
  exact Format.decode_pattern (by decide) negative finite

theorem unique {otherBits : Nat} (is : IsDouble value negative bits)
    (other : IsDouble value negative otherBits) : bits = otherBits :=
  Nat.add_left_cancel (is.pattern.symm.trans other.pattern)

theorem neg (is : IsDouble value negative bits) : IsDouble (-value) (!negative) bits where
  pattern := is.represents.neg.toNat_pack (by decide)
  bounded := is.bounded

theorem isInf (is : IsDouble value negative bits) (infinite : bits = double.infinityBits) :
    value.isInf = true :=
  is.represents.isInf (infinite ▸ by decide) infinite

theorem eq_zero_of_beq (is : IsDouble value negative bits) (same : (value == 0.0) = true) :
    bits = 0 :=
  is.represents.eq_zero_of_beq same

section Operations
variable {first second : Float} {firstNegative secondNegative : Bool} {firstBits secondBits : Nat}
  (isFirst : IsDouble first firstNegative firstBits)
  (isSecond : IsDouble second secondNegative secondBits)
  (firstFinite : firstBits < double.infinityBits) (secondFinite : secondBits < double.infinityBits)
include isFirst isSecond firstFinite secondFinite

theorem mul : ∃ bits, IsDouble (first * second) (firstNegative ^^ secondNegative) bits ∧
    double.Nearest (double.value firstBits * double.value secondBits) bits := by
  obtain ⟨bits, pattern, nearest⟩ := rounded_mul (by decide)
    isFirst.represents isSecond.represents firstFinite secondFinite
  exact ⟨bits, ⟨pattern, nearest.bounded⟩, nearest⟩

theorem div (nonzero : secondBits ≠ 0) :
    ∃ bits, IsDouble (first / second) (firstNegative ^^ secondNegative) bits ∧
      double.Nearest (double.value firstBits / double.value secondBits) bits := by
  obtain ⟨bits, pattern, nearest⟩ := rounded_div (by decide)
    isFirst.represents isSecond.represents firstFinite secondFinite nonzero
  exact ⟨bits, ⟨pattern, nearest.bounded⟩, nearest⟩

end Operations
end IsDouble
end Doubles

theorem single_infinity : single.value single.infinityBits = 2 ^ 128 := by
  have magnitude : single.magnitude single.infinityBits = ⟨8388608, 105⟩ := by decide
  rw [Format.value, magnitude, Magnitude.value]
  norm_num

theorem single_midpoint_zero : single.midpoint 0 = 1 / 2 ^ 150 := by
  have magnitude : single.magnitude 1 = ⟨1, -149⟩ := by decide
  rw [Format.midpoint, Format.value_zero, Format.value, magnitude, Magnitude.value]
  norm_num

section Singles
variable {value other : Float32} {negative : Bool} {bits otherBits : Nat}

theorem isSingle_ofBits (bounded : bits ≤ single.infinityBits) :
    IsSingle (Float32.ofBits (single.pattern negative bits).toUInt32) negative bits where
  pattern := by
    have inside : single.pattern negative bits < 2 ^ 32 := by
      have last : single.infinityBits < 2 ^ 31 := by decide
      have sign : single.signBit = 2 ^ 31 := rfl
      unfold Format.pattern
      split <;> omega
    have same : (single.pattern negative bits).toUInt32.toBitVec.toNat =
        single.pattern negative bits := Nat.mod_eq_of_lt inside
    have represents : Represents (Format.ofModel .binary32) negative bits _ :=
      represents_unpack same bounded
    exact represents.toNat_pack (by decide)
  bounded := bounded

/-- A single is told by its sign and its magnitude bits. -/
theorem IsSingle.eq_iff (is : IsSingle value negative bits)
    (isOther : IsSingle other negative otherBits) : value = other ↔ bits = otherBits := by
  constructor
  · rintro rfl
    exact Nat.add_left_cancel (is.pattern.symm.trans isOther.pattern)
  · rintro rfl
    have same : value.toBits = other.toBits :=
      UInt32.toNat_inj.mp (is.pattern.trans isOther.pattern.symm)
    obtain ⟨⟨bits, valid⟩⟩ := value
    obtain ⟨⟨others, otherValid⟩⟩ := other
    change bits = others at same
    subst same
    rfl

theorem isSingle_float32OfQuotient (negative : Bool) (numerator : Nat) {denominator : Nat}
    (positive : 0 < denominator) :
    IsSingle (float32OfQuotient negative numerator denominator) negative
      (single.nearest numerator denominator) :=
  isSingle_ofBits (single.nearest_quotient (by decide) numerator positive).bounded

theorem isSingle_infinite (negative : Bool) :
    IsSingle (toFloat32 (.infinite negative)) negative single.infinityBits :=
  isSingle_ofBits le_rfl

/-- A finite number becomes the nearest single. -/
theorem exists_isSingle_toFloat32 (negative : Bool) (magnitude : Magnitude) :
    ∃ bits, IsSingle (toFloat32 (.finite negative magnitude)) negative bits ∧
      single.Nearest magnitude.value bits := by
  have positive : 0 < Nat.pow 2 (-magnitude.exponent).toNat := Nat.pow_pos (by decide)
  have nearest := single.nearest_quotient (by decide)
    (magnitude.significand * Nat.pow 2 magnitude.exponent.toNat) positive
  rw [scaled_integer 2] at nearest
  exact ⟨_, isSingle_ofBits nearest.bounded, nearest⟩

end Singles
end SceneGraph.Binary
