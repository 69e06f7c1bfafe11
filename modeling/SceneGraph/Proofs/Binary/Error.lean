import Mathlib.Tactic.NormNum
import SceneGraph.Proofs.Binary.Rounding

/-!
Errors of rounding. Neighbours are as far apart as the last bit of the smaller one counts: a share
of it when it has all its bits, and the least value otherwise. The nearest value is off by no more
than half of that.
-/
namespace SceneGraph.Binary

namespace Format
variable {format : Format} {number : ℚ} {bits : Nat}

theorem value_nonneg (format : Format) (bits : Nat) : 0 ≤ format.value bits :=
  format.value_zero ▸ format.value_strictMono.monotone (Nat.zero_le bits)

theorem Under.le_midpoint (under : format.Under bits number) : number ≤ format.midpoint bits := by
  rcases under with below | ⟨equal, _⟩
  · exact below.le
  · exact equal.le

theorem midpoint_le_of_not_under (above : ¬ format.Under bits number) :
    format.midpoint bits ≤ number :=
  not_lt.mp fun below => above (.inl below)

/-- The error that rounding to nearest can make: a share of the number, or half the least value. -/
def halfStep (format : Format) (number : ℚ) : ℚ :=
  max (number / (2 * format.unit)) (2 ^ format.leastExponent / 2)

theorem halfStep_nonneg (format : Format) (number : ℚ) : 0 ≤ format.halfStep number :=
  le_max_of_le_right (by positivity)

theorem midpoint_sub_le (reached : format.value bits ≤ number) :
    format.midpoint bits - format.value bits ≤ format.halfStep number := by
  obtain ⟨shift, significand, rfl, fits, normal⟩ := format.exists_grid bits
  rw [midpoint_grid fits normal]
  rw [value_grid fits.le normal] at reached ⊢
  have half : ((significand : ℚ) + 1 / 2) * 2 ^ (format.leastExponent + shift) -
      significand * 2 ^ (format.leastExponent + shift) =
        2 ^ (format.leastExponent + shift) / 2 := by ring
  rw [half]
  rcases normal with rfl | large
  · rw [Nat.cast_zero, add_zero]
    exact le_max_right _ _
  · have scale := two_zpow_pos (format.leastExponent + shift)
    have unit : (0 : ℚ) < format.unit := by exact_mod_cast format.unit_pos
    have share : (format.unit : ℚ) * 2 ^ (format.leastExponent + shift) ≤ number :=
      le_trans (mul_le_mul_of_nonneg_right (by exact_mod_cast large) scale.le) reached
    refine le_trans ?_ (le_max_left _ _)
    rw [div_le_div_iff₀ two_pos (by positivity)]
    linarith

theorem value_sub_le (reached : format.midpoint bits ≤ number) :
    format.value (bits + 1) - format.midpoint bits ≤ format.halfStep number := by
  have below := midpoint_sub_le ((format.value_lt_midpoint bits).le.trans reached)
  have middle : format.value (bits + 1) - format.midpoint bits =
      format.midpoint bits - format.value bits := by
    rw [midpoint]
    ring
  rwa [middle]

theorem Nearest.abs_sub_le (nearest : format.Nearest number bits)
    (finite : bits < format.infinityBits) (nonneg : 0 ≤ number) :
    |format.value bits - number| ≤ format.halfStep number := by
  rw [abs_sub_le_iff]
  constructor
  · cases bits with
    | zero =>
      rw [value_zero]
      exact (sub_nonpos.mpr nonneg).trans (format.halfStep_nonneg number)
    | succ before =>
      have reached := midpoint_le_of_not_under (nearest.above before rfl)
      linarith [value_sub_le reached]
  · rcases le_total (format.value bits) number with reached | above
    · linarith [midpoint_sub_le reached, (nearest.below finite).le_midpoint]
    · exact (sub_nonpos.mpr above).trans (format.halfStep_nonneg number)

end Format

/-- The largest share of a number by which rounding it to a double can change it. -/
def roundoff : ℚ := 1 / 2 ^ 53

/-- Half the least double. -/
def underflow : ℚ := 2 ^ (-1075 : Int)

/-- The value is off by at most so many roundoffs of the number, and an absolute error. -/
def Near (units absolute value number : ℚ) : Prop :=
  |value - number| ≤ units * roundoff * number + absolute

theorem roundoff_pos : 0 < roundoff := by norm_num [roundoff]

theorem underflow_pos : 0 < underflow := two_zpow_pos (-1075)

theorem underflow_le_roundoff : underflow ≤ roundoff := by
  have power : roundoff = 2 ^ (-53 : Int) := by norm_num [roundoff]
  rw [power]
  exact zpow_le_zpow_right₀ one_le_two (by decide)

section Errors
variable {units absolute value number power whole result : ℚ}

theorem Near.mono {more larger : ℚ} (near : Near units absolute value number)
    (nonneg : 0 ≤ number) (enough : units ≤ more) (wider : absolute ≤ larger) :
    Near more larger value number := by
  have positive := roundoff_pos
  refine le_trans near (add_le_add ?_ wider)
  gcongr

theorem Near.le (near : Near units absolute value number) :
    value ≤ (1 + units * roundoff) * number + absolute := by
  linarith [(abs_le.mp near).2]

theorem Near.product (nonneg : 0 ≤ number) (near : Near 1 0 value number)
    (wholeNonneg : 0 ≤ whole) (nearPower : Near 1 0 power whole)
    (rounded : Near 1 underflow result (value * power)) :
    Near (31 / 10) underflow result (number * whole) := by
  have positive := roundoff_pos
  have share := mul_nonneg positive.le nonneg
  have scale := mul_nonneg nonneg wholeNonneg
  unfold Near at *
  rw [one_mul, add_zero] at near nearPower
  rw [one_mul] at rounded
  have split : value * power - number * whole =
      (value - number) * (power - whole) + (value - number) * whole + number * (power - whole) := by
    ring
  have error : |value * power - number * whole| ≤
      (2 * roundoff + roundoff ^ 2) * (number * whole) := by
    rw [split]
    calc |(value - number) * (power - whole) + (value - number) * whole + number * (power - whole)|
        ≤ |value - number| * |power - whole| + |value - number| * whole +
            number * |power - whole| := by
          refine (abs_add_three _ _ _).trans ?_
          rw [abs_mul, abs_mul, abs_mul, abs_of_nonneg wholeNonneg, abs_of_nonneg nonneg]
      _ ≤ roundoff * number * (roundoff * whole) + roundoff * number * whole +
            number * (roundoff * whole) := by gcongr
      _ = (2 * roundoff + roundoff ^ 2) * (number * whole) := by ring
  have above : roundoff * (value * power) ≤
      roundoff * ((1 + 2 * roundoff + roundoff ^ 2) * (number * whole)) :=
    mul_le_mul_of_nonneg_left (by linarith [(abs_le.mp error).2]) positive.le
  have total : (3 * roundoff + 3 * roundoff ^ 2 + roundoff ^ 3) * (number * whole) ≤
      31 / 10 * roundoff * (number * whole) :=
    mul_le_mul_of_nonneg_right (by norm_num [roundoff]) scale
  have through := abs_sub_le result (value * power) (number * whole)
  linarith

theorem Near.quotient (unitsNonneg : 0 ≤ units) (absoluteNonneg : 0 ≤ absolute)
    (nonneg : 0 ≤ number) (near : Near units absolute value number) (wholePositive : 0 < whole)
    (nearPower : Near 1 0 power whole) (rounded : Near 1 underflow result (value / power)) :
    Near ((1 + 3 * roundoff) * (units + 1) + 1)
      ((1 + 3 * roundoff) * (absolute / whole) + underflow) result (number / whole) := by
  have positive := roundoff_pos
  unfold Near at *
  rw [one_mul, add_zero] at nearPower
  rw [one_mul] at rounded
  have least : (1 - roundoff) * whole ≤ power := by linarith [(abs_le.mp nearPower).1]
  have small : roundoff < 1 := by norm_num [roundoff]
  have powerPositive : 0 < power := lt_of_lt_of_le (mul_pos (by linarith) wholePositive) least
  have share : 0 ≤ number / whole := div_nonneg nonneg wholePositive.le
  have split : value / power - number / whole =
      ((value - number) + number / whole * (whole - power)) / power := by
    field_simp
    ring
  have error : |value / power - number / whole| ≤
      ((units + 1) * roundoff * number + absolute) / power := by
    rw [split, abs_div, abs_of_pos powerPositive]
    refine div_le_div_of_nonneg_right ?_ powerPositive.le
    calc |(value - number) + number / whole * (whole - power)|
        ≤ |value - number| + number / whole * |power - whole| := by
          refine (abs_add_le _ _).trans ?_
          rw [abs_mul, abs_of_nonneg share, abs_sub_comm whole]
      _ ≤ units * roundoff * number + absolute + number / whole * (roundoff * whole) := by gcongr
      _ = (units + 1) * roundoff * number + absolute := by
          field_simp
          ring
  have inflated : (1 + roundoff) * (((units + 1) * roundoff * number + absolute) / power) ≤
      (1 + 3 * roundoff) * (((units + 1) * roundoff * number + absolute) / whole) := by
    rw [← mul_div_assoc, ← mul_div_assoc, div_le_div_iff₀ powerPositive wholePositive,
      mul_right_comm, mul_right_comm (1 + 3 * roundoff)]
    refine mul_le_mul_of_nonneg_right ?_ (by positivity)
    calc (1 + roundoff) * whole ≤ (1 + 3 * roundoff) * ((1 - roundoff) * whole) := by
          rw [← mul_assoc]
          exact mul_le_mul_of_nonneg_right (by norm_num [roundoff]) wholePositive.le
      _ ≤ (1 + 3 * roundoff) * power := by gcongr
  have above : roundoff * (value / power) ≤ roundoff * (number / whole +
      ((units + 1) * roundoff * number + absolute) / power) :=
    mul_le_mul_of_nonneg_left (by linarith [(abs_le.mp error).2]) positive.le
  have through := abs_sub_le result (value / power) (number / whole)
  have shares : (1 + 3 * roundoff) * (((units + 1) * roundoff * number + absolute) / whole) =
      (1 + 3 * roundoff) * (units + 1) * roundoff * (number / whole) +
        (1 + 3 * roundoff) * (absolute / whole) := by
    ring
  linarith

end Errors

theorem two_mul_underflow : 2 * underflow = 2 ^ (-1074 : Int) := by
  have next : (-1074 : Int) = -1075 + 1 := by decide
  rw [next, two_zpow_succ, underflow]

theorem halfStep_double (number : ℚ) :
    double.halfStep number = max (roundoff * number) underflow := by
  have unit : 2 * (double.unit : ℚ) = 2 ^ 53 := by
    have exact : double.unit = 2 ^ 52 := rfl
    rw [exact]
    norm_num
  have least : double.leastExponent = -1074 := rfl
  rw [Format.halfStep, unit, least, ← two_mul_underflow, mul_div_cancel_left₀ _ two_ne_zero,
    roundoff, one_div_mul_eq_div]

theorem near_of_nearest {number : ℚ} {bits : Nat} (nearest : double.Nearest number bits)
    (finite : bits < double.infinityBits) (nonneg : 0 ≤ number) :
    Near 1 underflow (double.value bits) number := by
  have share := mul_nonneg roundoff_pos.le nonneg
  have error := nearest.abs_sub_le finite nonneg
  rw [halfStep_double] at error
  rw [Near, one_mul]
  exact error.trans (max_le_add_of_nonneg share underflow_pos.le)

end SceneGraph.Binary
