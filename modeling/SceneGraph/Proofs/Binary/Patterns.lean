import Mathlib.Tactic.Ring
import SceneGraph.Proofs.Binary.Rounding

/-!
Bit patterns of machine numbers. A pattern is a sign bit and the magnitude bits that number the
values of a format, infinity last. Packed and unpacked forms of machine numbers stand for each
other, so a pattern that is no NaN survives the way through a machine number. Of the NaNs only the
canonical one does, and no other is a machine number.
-/
namespace SceneGraph.Binary
open Float.Model (UnpackedFloat)
open Float.Model.UnpackedFloat (Sign packComponents unpackMantissa unpackExponent unpackSign)

namespace Format
variable {format : Format} {bits : Nat}

/-- The bits of a signed value, or of an infinity. -/
def pattern (format : Format) (negative : Bool) (bits : Nat) : Nat :=
  (if negative then format.signBit else 0) + bits

theorem signBit_eq (wide : 0 < format.precision) :
    format.signBit = Nat.pow 2 format.exponentWidth * format.unit := by
  have split : format.precision + format.exponentWidth - 1 =
      format.exponentWidth + (format.precision - 1) := by omega
  rw [signBit, split]
  exact Nat.pow_add 2 _ _

theorem infinityBits_add_unit (format : Format) :
    format.infinityBits + format.unit = Nat.pow 2 format.exponentWidth * format.unit := by
  have positive : 0 < Nat.pow 2 format.exponentWidth := Nat.pow_pos (by decide)
  rw [infinityBits, ← unit, ← Nat.succ_mul, Nat.succ_eq_add_one, Nat.sub_add_cancel positive]

theorem infinityBits_lt_signBit (wide : 0 < format.precision) :
    format.infinityBits < format.signBit := by
  have whole := format.infinityBits_add_unit
  rw [signBit_eq wide, ← whole]
  exact Nat.lt_add_of_pos_right format.unit_pos

theorem decode_pattern (wide : 0 < format.precision) (negative : Bool)
    (finite : bits < format.infinityBits) :
    format.decode (format.pattern negative bits) = .finite negative (format.magnitude bits) := by
  have inside : bits < format.signBit := finite.trans (infinityBits_lt_signBit wide)
  have sign : decide (format.signBit ≤ format.pattern negative bits) = negative := by
    cases negative <;> simp [pattern, inside]
  have size : format.pattern negative bits % format.signBit = bits := by
    cases negative <;> simp [pattern, Nat.mod_eq_of_lt inside]
  unfold decode magnitude
  dsimp only
  rw [sign, size, if_neg finite.not_gt, if_neg finite.ne, ← unit]
  split <;> rfl

end Format

/-! Machine formats -/

namespace Format
variable (model : Float.Model.Format)

/-- The widths of a machine format. -/
def ofModel : Format := ⟨model.mantissaBits, model.exponentBits⟩

theorem two_le_precision_ofModel : 2 ≤ (ofModel model).precision :=
  Nat.add_le_add_left model.hm 1

theorem mantissaBits_eq : model.mantissaBits = 1 + model.mantissaBitsWithoutImplicit := rfl

theorem unit_ofModel : (ofModel model).unit = 2 ^ model.mantissaBitsWithoutImplicit :=
  congrArg (Nat.pow 2) (Nat.add_sub_cancel_left 1 _)

theorem infinityBits_ofModel :
    (ofModel model).infinityBits =
      (2 ^ model.exponentBits - 1) * 2 ^ model.mantissaBitsWithoutImplicit :=
  congrArg _ (unit_ofModel model)

theorem signBit_ofModel :
    (ofModel model).signBit =
      2 ^ model.exponentBits * 2 ^ model.mantissaBitsWithoutImplicit := by
  rw [signBit_eq (by have := two_le_precision_ofModel model; omega), unit_ofModel]
  rfl

theorem leastExponent_ofModel :
    (ofModel model).leastExponent =
      1 - (model.exponentBias : Int) - model.mantissaBitsWithoutImplicit := by
  have positive : 1 ≤ 2 ^ (model.exponentBits - 1) := Nat.one_le_two_pow
  have power : ((Nat.pow 2 (model.exponentBits - 1) : Nat) : Int) =
      ((2 ^ (model.exponentBits - 1) : Nat) : Int) := rfl
  simp only [leastExponent, ofModel, Float.Model.Format.exponentBias, mantissaBits_eq, power]
  omega

end Format

open Format (ofModel)

def signOf (negative : Bool) : Sign := if negative then .negative else .positive

section Components
variable {model : Float.Model.Format} {negative : Bool} {bits : Nat}

theorem toNat_append {width tail : Nat} (front : BitVec width) (back : BitVec tail) :
    (front ++ back).toNat = front.toNat * 2 ^ tail + back.toNat := by
  rw [BitVec.toNat_append, ← Nat.shiftLeft_add_eq_or_of_lt back.isLt, Nat.shiftLeft_eq]

theorem toNat_packComponents (negative : Bool) (exponent : BitVec model.exponentBits)
    (mantissa : BitVec model.mantissaBitsWithoutImplicit) :
    (packComponents model (signOf negative) exponent mantissa).toNat =
      (ofModel model).pattern negative
        (exponent.toNat * (ofModel model).unit + mantissa.toNat) := by
  have sign : (signOf negative).toBitVec.toNat = if negative then 1 else 0 := by
    cases negative <;> rfl
  rw [packComponents, toNat_append, toNat_append, sign, Format.pattern, Format.signBit_ofModel,
    Format.unit_ofModel]
  cases negative
  · simp
  · simp only [if_true]
    ring

section Unpacked
variable {packed : BitVec model.numBits}
  (same : packed.toNat = (ofModel model).pattern negative bits)
  (inside : bits < (ofModel model).signBit)
include same

theorem toNat_unpackMantissa :
    (unpackMantissa packed).toNat = bits % (ofModel model).unit := by
  have width : model.mantissaBitsWithoutImplicit - 1 - 0 + 1 =
      model.mantissaBitsWithoutImplicit := by
    have := model.hm
    omega
  rw [unpackMantissa, BitVec.toNat_cast, BitVec.extractLsb_toNat, Nat.shiftRight_zero, width, same,
    Format.pattern, Format.signBit_ofModel, Format.unit_ofModel]
  cases negative <;> simp

include inside

theorem toNat_unpackExponent :
    (unpackExponent packed).toNat = bits / (ofModel model).unit := by
  have width : model.mantissaBitsWithoutImplicit + model.exponentBits - 1 -
      model.mantissaBitsWithoutImplicit + 1 = model.exponentBits := by
    have := model.he
    omega
  rw [Format.signBit_ofModel] at inside
  have small := Nat.div_lt_of_lt_mul (Nat.mul_comm _ _ ▸ inside)
  rw [unpackExponent, BitVec.toNat_cast, BitVec.extractLsb_toNat, Nat.shiftRight_eq_div_pow, width,
    same, Format.pattern, Format.signBit_ofModel, Format.unit_ofModel]
  cases negative
  · simp [Nat.mod_eq_of_lt small]
  · simp [Nat.mul_add_div, Nat.mul_comm (2 ^ model.exponentBits), Nat.mod_eq_of_lt small]

theorem ofBitVec_unpackSign : Sign.ofBitVec (unpackSign packed) = signOf negative := by
  have quotient : (unpackSign packed).toNat = if negative then 1 else 0 := by
    have power : (2 : Nat) ^ (model.mantissaBitsWithoutImplicit + model.exponentBits) =
        (ofModel model).signBit := by
      rw [Format.signBit_ofModel, ← Nat.pow_add, Nat.add_comm]
    have digit : (unpackSign packed).toNat = (packed.extractLsb _ _).toNat := rfl
    rw [digit, BitVec.extractLsb_toNat, Nat.shiftRight_eq_div_pow, power, same, Format.pattern]
    cases negative
    · simp [Nat.div_eq_of_lt inside]
    · simp [Nat.add_div_left, Nat.div_eq_of_lt inside, Nat.zero_lt_of_lt inside]
  cases negative
  · have zero : unpackSign packed = 0#1 := BitVec.eq_of_toNat_eq quotient
    rw [zero]
    rfl
  · have one : unpackSign packed = 1#1 := BitVec.eq_of_toNat_eq quotient
    rw [one]
    rfl

end Unpacked

end Components

/-- The unpacked form of a value of a format, or of an infinity. -/
inductive Represents (format : Format) (negative : Bool) : (bits : Nat) → UnpackedFloat → Prop
  | zero : Represents format negative 0 (.zero (signOf negative))
  | finite {shift significand : Nat} (positive : 0 < significand)
      (fits : significand < 2 * format.unit) (normal : shift = 0 ∨ format.unit ≤ significand)
      (inside : shift * format.unit + significand < format.infinityBits) :
      Represents format negative (shift * format.unit + significand)
        (.finite (signOf negative) significand (format.leastExponent + shift) positive)
  | infinity : Represents format negative format.infinityBits (.infinity (signOf negative))

theorem represents_finite {format : Format} {negative : Bool} {bits shift significand : Nat}
    {exponent : Int} (positive : 0 < significand) (fits : significand < 2 * format.unit)
    (normal : shift = 0 ∨ format.unit ≤ significand) (inside : bits < format.infinityBits)
    (number : bits = shift * format.unit + significand)
    (power : exponent = format.leastExponent + shift) :
    Represents format negative bits (.finite (signOf negative) significand exponent positive) := by
  subst number power
  exact .finite positive fits normal inside

section Packing
variable {model : Float.Model.Format} {negative : Bool} {bits : Nat}

theorem toNat_neg_one (model : Float.Model.Format) :
    (-1#(model.exponentBits)).toNat = 2 ^ model.exponentBits - 1 := by
  rw [BitVec.neg_one_eq_allOnes, BitVec.toNat_allOnes]

/-- A pattern is unpacked to the value that it numbers. -/
theorem represents_unpack {packed : BitVec model.numBits}
    (same : packed.toNat = (ofModel model).pattern negative bits)
    (bounded : bits ≤ (ofModel model).infinityBits) :
    Represents (ofModel model) negative bits (UnpackedFloat.unpack model packed) := by
  have wide : 0 < (ofModel model).precision := by
    have := Format.two_le_precision_ofModel model
    omega
  have inside := Nat.lt_of_le_of_lt bounded (Format.infinityBits_lt_signBit wide)
  have sign := ofBitVec_unpackSign same inside
  have mantissa := toNat_unpackMantissa same
  have exponent := toNat_unpackExponent same inside
  have positive := (ofModel model).unit_pos
  have small : (unpackMantissa packed).toNat < (ofModel model).unit :=
    mantissa ▸ Nat.mod_lt bits positive
  have number : bits = (unpackExponent packed).toNat * (ofModel model).unit +
      (unpackMantissa packed).toNat := by
    rw [mantissa, exponent, Nat.mul_comm]
    exact (Nat.div_add_mod _ _).symm
  have last := Format.infinityBits_ofModel model
  rw [← Format.unit_ofModel] at last
  have least := Format.leastExponent_ofModel model
  unfold UnpackedFloat.unpack
  dsimp only
  rw [sign]
  by_cases full : unpackExponent packed = -1#(model.exponentBits)
  · rw [full, toNat_neg_one, ← last] at number
    have zero : unpackMantissa packed = 0#_ := BitVec.eq_of_toNat_eq (by simp; omega)
    rw [if_pos full, if_pos zero, show bits = (ofModel model).infinityBits by omega]
    exact .infinity
  · have finite : bits < (ofModel model).infinityBits := by
      refine Nat.lt_of_le_of_ne bounded fun infinite => full (BitVec.eq_of_toNat_eq ?_)
      rw [toNat_neg_one, exponent, infinite, last, Nat.mul_div_cancel _ positive]
    rw [if_neg full]
    by_cases empty : unpackExponent packed = 0#(model.exponentBits)
    · rw [empty, BitVec.toNat_zero, Nat.zero_mul, Nat.zero_add] at number
      rw [if_pos empty]
      by_cases zero : unpackMantissa packed = 0#(model.mantissaBitsWithoutImplicit)
      · rw [dif_pos zero, number, zero, BitVec.toNat_zero]
        exact .zero
      · have nonzero : (unpackMantissa packed).toNat ≠ 0 :=
          fun none => zero (BitVec.eq_of_toNat_eq none)
        rw [dif_neg zero]
        refine represents_finite _ (by omega) (.inl rfl) finite (by omega) ?_
        rw [empty, least, BitVec.toNat_zero]
        omega
    · have nonzero : (unpackExponent packed).toNat ≠ 0 :=
        fun none => empty (BitVec.eq_of_toNat_eq none)
      have leading : (1#1 ++ unpackMantissa packed).toNat =
          (ofModel model).unit + (unpackMantissa packed).toNat := by
        rw [toNat_append, Format.unit_ofModel]
        simp
      obtain ⟨shift, next⟩ := Nat.exists_eq_succ_of_ne_zero nonzero
      rw [next, Nat.succ_mul] at number
      have grid : bits = shift * (ofModel model).unit +
          (1#1 ++ unpackMantissa packed).toNat := by omega
      rw [if_neg empty]
      refine represents_finite _ (by omega) (.inr (by omega)) finite grid ?_
      rw [least, next]
      omega

/-- Beyond infinity there are only NaNs. -/
theorem unpacked_beyond_infinity {packed : BitVec model.numBits}
    (same : packed.toNat = (ofModel model).pattern negative bits)
    (inside : bits < (ofModel model).signBit) (beyond : (ofModel model).infinityBits < bits) :
    unpackExponent packed = -1#(model.exponentBits) ∧
      unpackMantissa packed ≠ 0#(model.mantissaBitsWithoutImplicit) := by
  have exponent := toNat_unpackExponent same inside
  have last := Format.infinityBits_ofModel model
  rw [Format.signBit_ofModel] at inside
  rw [← Format.unit_ofModel] at last inside
  have full : bits / (ofModel model).unit = 2 ^ model.exponentBits - 1 := by
    refine Nat.div_eq_of_lt_le (last ▸ beyond.le) ?_
    rwa [Nat.sub_add_cancel Nat.one_le_two_pow]
  refine ⟨BitVec.eq_of_toNat_eq ?_, fun zero => ?_⟩
  · rw [toNat_neg_one, exponent, full]
  · have remainder := toNat_unpackMantissa same
    have whole := Nat.div_add_mod bits (ofModel model).unit
    rw [zero, BitVec.toNat_zero] at remainder
    rw [← remainder, full, Nat.mul_comm, ← last] at whole
    exact beyond.ne whole

theorem exists_pattern (packed : BitVec model.numBits) :
    ∃ negative bits, packed.toNat = (ofModel model).pattern negative bits ∧
      bits < (ofModel model).signBit := by
  have whole : 2 ^ model.numBits = 2 * (ofModel model).signBit := by
    rw [Format.signBit_ofModel, Nat.pow_add, Nat.pow_add, Nat.pow_one, Nat.mul_assoc]
  have bound : packed.toNat < 2 * (ofModel model).signBit := whole ▸ packed.isLt
  by_cases high : (ofModel model).signBit ≤ packed.toNat
  · refine ⟨true, packed.toNat - (ofModel model).signBit, ?_, by omega⟩
    exact (Nat.add_sub_cancel' high).symm
  · exact ⟨false, packed.toNat, (Nat.zero_add _).symm, by omega⟩

theorem toNat_packedInfinity (model : Float.Model.Format) (negative : Bool) :
    (UnpackedFloat.packedInfinity model (signOf negative)).toNat =
      (ofModel model).pattern negative (ofModel model).infinityBits := by
  rw [UnpackedFloat.packedInfinity, toNat_packComponents, toNat_neg_one, Format.unit_ofModel,
    Format.infinityBits_ofModel]
  rfl

theorem toNat_packedZero (model : Float.Model.Format) (negative : Bool) :
    (UnpackedFloat.packedZero model (signOf negative)).toNat =
      (ofModel model).pattern negative 0 := by
  rw [UnpackedFloat.packedZero, toNat_packComponents]
  simp

variable (wide : 2 ≤ model.exponentBits)
include wide

/-- A number on the grid of a format is packed to its pattern, or to infinity if it is too large. -/
theorem toNat_pack_finite {shift significand : Nat} (positive : 0 < significand)
    (fits : significand < 2 * (ofModel model).unit)
    (normal : shift = 0 ∨ (ofModel model).unit ≤ significand) :
    (UnpackedFloat.pack model (.finite (signOf negative) significand
      ((ofModel model).leastExponent + shift) positive)).toNat =
      (ofModel model).pattern negative
        (min (shift * (ofModel model).unit + significand)
          (ofModel model).infinityBits) := by
  have four : 4 ≤ 2 ^ model.exponentBits := Nat.pow_le_pow_right two_pos wide
  have biased : ((ofModel model).leastExponent + shift + model.exponentBias +
      model.mantissaBitsWithoutImplicit).toNat = shift + 1 := by
    rw [Format.leastExponent_ofModel]
    omega
  have leading : significand.log2 + 1 = model.mantissaBits ↔
      (ofModel model).unit ≤ significand := by
    have below := (Nat.log2_lt positive.ne').mpr
      (show significand < 2 ^ (model.mantissaBitsWithoutImplicit + 1) by
        rwa [Nat.pow_succ, Nat.mul_comm, ← Format.unit_ofModel])
    rw [Format.unit_ofModel, ← Nat.le_log2 positive.ne', Format.mantissaBits_eq]
    omega
  have last := Format.infinityBits_ofModel model
  rw [← Format.unit_ofModel] at last
  unfold UnpackedFloat.pack
  dsimp only
  rw [biased]
  split
  · rename_i large
    have scaled := Nat.mul_le_mul_right (ofModel model).unit
      (show 2 ^ model.exponentBits - 1 ≤ shift + 1 by omega)
    rw [← last, Nat.succ_mul] at scaled
    rw [toNat_packedInfinity, min_eq_right (by omega)]
  · rename_i finite
    have scaled := Nat.mul_le_mul_right (ofModel model).unit
      (show shift + 2 ≤ 2 ^ model.exponentBits - 1 by omega)
    rw [← last, Nat.add_mul] at scaled
    rw [min_eq_left (by omega)]
    split
    · rename_i full
      have normalized := leading.mp full
      have exponent : (BitVec.ofNat model.exponentBits (shift + 1)).toNat = shift + 1 := by
        rw [BitVec.toNat_ofNat, Nat.mod_eq_of_lt (by omega)]
      have mantissa : (BitVec.ofNat model.mantissaBitsWithoutImplicit significand).toNat =
          significand - (ofModel model).unit := by
        rw [BitVec.toNat_ofNat, ← Format.unit_ofModel, Nat.mod_eq_sub_mod normalized,
          Nat.mod_eq_of_lt (by omega)]
      rw [toNat_packComponents, exponent, mantissa, Nat.succ_mul, Nat.add_assoc,
        Nat.add_sub_cancel' normalized]
    · rename_i notFull
      have small := Nat.not_le.mp (mt leading.mpr notFull)
      have least : shift = 0 := normal.resolve_right (Nat.not_le.mpr small)
      have mantissa : (BitVec.ofNat model.mantissaBitsWithoutImplicit significand).toNat =
          significand := by
        rw [BitVec.toNat_ofNat, ← Format.unit_ofModel, Nat.mod_eq_of_lt small]
      rw [toNat_packComponents, mantissa, least]
      simp

/-- What stands for a value is packed to the pattern of the value. -/
theorem Represents.toNat_pack {unpacked : UnpackedFloat}
    (represents : Represents (ofModel model) negative bits unpacked) :
    (UnpackedFloat.pack model unpacked).toNat = (ofModel model).pattern negative bits := by
  cases represents with
  | zero => exact toNat_packedZero model negative
  | finite positive fits normal inside =>
    rw [toNat_pack_finite wide positive fits normal, min_eq_left inside.le]
  | infinity => exact toNat_packedInfinity model negative

/-- Patterns survive the way through an unpacked number if they have the one NaN that there is. -/
theorem pack_unpack {packed : BitVec model.numBits} (valid : model.Valid packed) :
    UnpackedFloat.pack model (UnpackedFloat.unpack model packed) = packed := by
  obtain ⟨negative, bits, same, inside⟩ := exists_pattern packed
  by_cases bounded : bits ≤ (ofModel model).infinityBits
  · exact BitVec.eq_of_toNat_eq
      (((represents_unpack same bounded).toNat_pack wide).trans same.symm)
  · obtain ⟨full, nonzero⟩ := unpacked_beyond_infinity same inside (Nat.not_le.mp bounded)
    unfold UnpackedFloat.unpack
    dsimp only
    rw [if_pos full, if_neg nonzero]
    exact (valid.eq_packedNaN full nonzero).symm

end Packing

/-- A machine number is the one that its bits stand for. -/
theorem Double.toFloat_ofFloat (value : Float) : (Double.ofFloat value).toFloat = value := by
  obtain ⟨⟨bits, valid⟩⟩ := value
  refine congrArg Float.ofModel ((Float.Model.mk.injEq _ _ _ _).mpr ?_)
  exact congrArg UInt64.ofBitVec (pack_unpack (by decide) valid)

end SceneGraph.Binary
