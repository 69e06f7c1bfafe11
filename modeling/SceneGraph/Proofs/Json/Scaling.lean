import Mathlib.Tactic.NormNum
import SceneGraph.Json.Scan
import SceneGraph.Proofs.Binary.Error
import SceneGraph.Proofs.Binary.Machine

/-!
Scaling by powers of ten in double arithmetic. The number, the power and their product or quotient
are rounded one after the other. If the first two are held exactly the result is the nearest double.
-/
namespace SceneGraph.Json
open Binary

/-! Natural numbers as doubles -/

theorem isDouble_integer (number : Int) :
    IsDouble (floatOfInt number) (decide (number < 0)) (double.nearest number.natAbs 1) :=
  isDouble_floatOfQuotient _ _ one_pos

theorem isDouble_natural (number : Nat) :
    IsDouble (floatOfInt number) false (double.nearest number 1) := by
  have is := isDouble_integer number
  rwa [decide_eq_false (Int.natCast_nonneg number).not_gt, Int.natAbs_natCast] at is

theorem nearest_natural (number : Nat) : double.Nearest number (double.nearest number 1) := by
  have nearest := double.nearest_quotient (by decide) number one_pos
  rwa [Nat.cast_one, div_one] at nearest

theorem double_one : double.value 4607182418800017408 = 1 := by
  have magnitude : double.magnitude 4607182418800017408 = ⟨4503599627370496, -52⟩ := by decide
  rw [Format.value, magnitude, Magnitude.value]
  norm_num

/-- Powers of ten up to the largest one in use are no larger than the largest double. -/
theorem power_le_last {count : Nat} (few : count ≤ 308) :
    (10 : ℚ) ^ count ≤ double.value (double.infinityBits - 1) := by
  have magnitude : double.magnitude (double.infinityBits - 1) = ⟨9007199254740991, 971⟩ := by
    decide
  have bound : (10 ^ 308 : Nat) ≤ 9007199254740991 * 2 ^ 971 := by decide +kernel
  have cast := Nat.cast_le (α := ℚ).mpr bound
  rw [Nat.cast_pow, Nat.cast_mul, Nat.cast_pow, Nat.cast_ofNat, Nat.cast_ofNat,
    Nat.cast_ofNat] at cast
  rw [Format.value, magnitude, Magnitude.value, zpow_ofNat]
  exact (pow_le_pow_right₀ (by norm_num) few).trans cast

theorem one_le_value {number : Nat} (positive : 0 < number) :
    1 ≤ double.value (double.nearest number 1) := by
  rw [← double_one]
  refine double.value_strictMono.monotone ((nearest_natural number).ge_of_ge (by decide) ?_)
  rw [double_one]
  exact_mod_cast positive

theorem nearest_lt_infinity {number count : Nat} (few : count ≤ 308)
    (bounded : number ≤ Nat.pow 10 count) : double.nearest number 1 < double.infinityBits := by
  have inside : 0 < double.infinityBits := by decide
  have power : ((Nat.pow 10 count : Nat) : ℚ) = 10 ^ count := Nat.cast_pow 10 count
  have last := (nearest_natural number).le_of_le
    ((Nat.cast_le.mpr bounded).trans (power.trans_le (power_le_last few)))
  omega

/-- A natural number is held exactly if it is a power of two times one that fits. -/
theorem value_natural {significand : Nat} (fits : significand ≤ 2 ^ 53) (shift : Nat)
    {count : Nat} (few : count ≤ 308) (bounded : significand * 2 ^ shift ≤ 10 ^ count) :
    double.value (double.nearest (significand * 2 ^ shift) 1) =
      (significand * 2 ^ shift : Nat) := by
  obtain ⟨bits, held⟩ := double.exists_value fits (shift + 1074)
  have exponent : double.leastExponent + ((shift + 1074 : Nat) : Int) = shift := by
    have least : double.leastExponent = -1074 := rfl
    omega
  rw [exponent, zpow_natCast] at held
  have number : ((significand * 2 ^ shift : Nat) : ℚ) = double.value bits := by
    rw [held]
    push_cast
    rfl
  have inside : bits ≤ double.infinityBits - 1 := by
    refine double.value_strictMono.le_iff_le.mp (number ▸ le_trans ?_ (power_le_last few))
    exact_mod_cast bounded
  rw [(nearest_natural _).eq_of_eq (by omega) number, number]

/-! Scaling by powers of ten -/

section Scaling
variable {value : Float} {bits count : Nat} (is : IsDouble value false bits)
  (finite : bits < double.infinityBits) (few : count ≤ 308)
include is finite few

theorem exists_product (isFinite : (value * floatOfInt (Nat.pow 10 count : Nat)).isInf = false) :
    ∃ scaled, IsDouble (value * floatOfInt (Nat.pow 10 count : Nat)) false scaled ∧
      scaled < double.infinityBits ∧
      double.Nearest (double.value bits * double.value (double.nearest (Nat.pow 10 count) 1))
        scaled := by
  obtain ⟨scaled, isScaled, nearest⟩ :=
    is.mul (isDouble_natural _) finite (nearest_lt_infinity few le_rfl)
  refine ⟨scaled, isScaled, Nat.lt_of_le_of_ne isScaled.bounded fun infinite => ?_, nearest⟩
  exact Bool.false_ne_true (isFinite.symm.trans (isScaled.isInf infinite))

theorem exists_quotient :
    ∃ scaled, IsDouble (value / floatOfInt (Nat.pow 10 count : Nat)) false scaled ∧
      scaled ≤ bits ∧
      double.Nearest (double.value bits / double.value (double.nearest (Nat.pow 10 count) 1))
        scaled := by
  have positive : 0 < Nat.pow 10 count := Nat.pow_pos (by decide)
  have large := one_le_value positive
  have nonzero : double.nearest (Nat.pow 10 count) 1 ≠ 0 := by
    intro zero
    rw [zero, Format.value_zero] at large
    exact absurd large (by norm_num)
  obtain ⟨scaled, isScaled, nearest⟩ :=
    is.div (isDouble_natural _) finite (nearest_lt_infinity few le_rfl) nonzero
  have smaller := div_le_self (double.value_nonneg bits) large
  exact ⟨scaled, isScaled, nearest.le_of_le smaller, nearest⟩

end Scaling

/-- Scaling that does not fail keeps a number finite and without a sign. -/
theorem isDouble_scaleByTen {value result : Float} {bits : Nat} {exponent : Int}
    (is : IsDouble value false bits) (finite : bits < double.infinityBits)
    (scaled : scaleByTen? value exponent = some result) :
    ∃ scaledBits, IsDouble result false scaledBits ∧ scaledBits < double.infinityBits := by
  fun_induction scaleByTen? value exponent generalizing bits with
  | case1 => cases scaled
  | case2 value exponent few power nonneg product =>
    rename_i notInfinite
    obtain rfl := Option.some.inj scaled
    obtain ⟨scaledBits, isScaled, inside, _⟩ :=
      exists_product is finite few (Bool.not_eq_true _ ▸ notInfinite)
    exact ⟨scaledBits, isScaled, inside⟩
  | case3 value exponent few power =>
    cases scaled
    obtain ⟨scaledBits, isScaled, smaller, _⟩ := exists_quotient is finite few
    exact ⟨scaledBits, isScaled, smaller.trans_lt finite⟩
  | case4 =>
    cases scaled
    exact ⟨bits, is, finite⟩
  | case5 => cases scaled
  | case6 value exponent many nonzero negative ih =>
    obtain ⟨quotient, isQuotient, smaller, _⟩ := exists_quotient is finite (Nat.le_refl 308)
    exact ih isQuotient (smaller.trans_lt finite) scaled

theorem value_word {word : Nat} (exact : word ≤ 2 ^ 53) :
    double.value (double.nearest word 1) = word := by
  have bounded : word * 2 ^ 0 ≤ 10 ^ 20 := by
    rw [pow_zero, mul_one]
    exact exact.trans (by decide)
  have held := value_natural exact 0 (by decide) bounded
  rwa [pow_zero, mul_one] at held

theorem value_power {count : Nat} (few : count ≤ 22) :
    double.value (double.nearest (Nat.pow 10 count) 1) = 10 ^ count := by
  have factors : Nat.pow 10 count = 5 ^ count * 2 ^ count := Nat.mul_pow 5 2 count
  have fits : 5 ^ count ≤ 2 ^ 53 := (Nat.pow_le_pow_right (by decide) few).trans (by decide)
  have held := value_natural fits count (few.trans (by decide)) factors.ge
  rw [← factors] at held
  rw [held]
  exact Nat.cast_pow 10 count

/-- A short number scaled by a small power of ten is rounded once. -/
theorem nearest_scaleByTen {word : Nat} (exact : word ≤ 2 ^ 53) {exponent : Int}
    (small : exponent.natAbs ≤ 22) {result : Float} {bits : Nat}
    (scaled : scaleByTen? (floatOfInt word) exponent = some result)
    (is : IsDouble result false bits) : double.Nearest (word * 10 ^ exponent) bits := by
  have few : exponent.natAbs ≤ 308 := small.trans (by decide)
  have bounded : word ≤ Nat.pow 10 20 := exact.trans (by decide)
  have finite := nearest_lt_infinity (by decide) bounded
  rw [scaleByTen?, if_pos few] at scaled
  dsimp only at scaled
  split at scaled
  · rename_i nonneg
    split at scaled
    · cases scaled
    · rename_i notInfinite
      obtain rfl := Option.some.inj scaled
      obtain ⟨_, isProduct, _, nearest⟩ := exists_product (isDouble_natural word) finite few
        (Bool.not_eq_true _ ▸ notInfinite)
      rw [value_word exact, value_power small] at nearest
      rw [is.unique isProduct, ← Int.natAbs_of_nonneg nonneg, zpow_natCast]
      exact nearest
  · rename_i negative
    obtain rfl := Option.some.inj scaled
    obtain ⟨_, isQuotient, _, nearest⟩ := exists_quotient (isDouble_natural word) finite few
    have opposite : -(exponent.natAbs : Int) = exponent := by omega
    rw [value_word exact, value_power small, div_eq_mul_inv, ← zpow_natCast, ← zpow_neg,
      opposite] at nearest
    rw [is.unique isQuotient]
    exact nearest

end SceneGraph.Json
