import SceneGraph.Proofs.Binary.Patterns

/-!
Machine arithmetic. A result is first computed to more bits than the format keeps, with two residual
bits that tell on which side of the middle between two integers the rest lies. Dropping bits keeps
that knowledge, so products and quotients are rounded once, to the nearest value.
-/
namespace SceneGraph.Binary
open Format (ofModel)
open Float.Model (UnpackedFloat totalExponent)
open Float.Model.UnpackedFloat (Sign Accuracy ExtendedMantissa accuracyOfFraction)

/-- Where a number lies: on an integer, in the middle between two, or strictly between those. -/
inductive Locates : ExtendedMantissa → ℚ → Prop
  | integer (mantissa : Nat) : Locates ⟨mantissa, false, false⟩ mantissa
  | low {mantissa : Nat} {number : ℚ} (above : mantissa < number)
      (below : number < mantissa + 1 / 2) : Locates ⟨mantissa, false, true⟩ number
  | middle (mantissa : Nat) : Locates ⟨mantissa, true, false⟩ (mantissa + 1 / 2)
  | high {mantissa : Nat} {number : ℚ} (above : mantissa + 1 / 2 < number)
      (below : number < mantissa + 1) : Locates ⟨mantissa, true, true⟩ number

theorem shiftRightOne_even (half : Nat) (roundBit stickyBit : Bool) :
    ExtendedMantissa.shiftRightOne ⟨2 * half, roundBit, stickyBit⟩ =
      ⟨half, false, roundBit || stickyBit⟩ := by
  simp [ExtendedMantissa.shiftRightOne]

theorem shiftRightOne_odd (half : Nat) (roundBit stickyBit : Bool) :
    ExtendedMantissa.shiftRightOne ⟨2 * half + 1, roundBit, stickyBit⟩ =
      ⟨half, true, roundBit || stickyBit⟩ := by
  have whole : (2 * half + 1) / 2 = half := by omega
  simp [ExtendedMantissa.shiftRightOne, whole]

namespace Locates
variable {extended : ExtendedMantissa} {number : ℚ}

theorem mantissa_le (located : Locates extended number) : (extended.mantissa : ℚ) ≤ number := by
  cases located <;> linarith

theorem lt_mantissa (located : Locates extended number) : number < extended.mantissa + 1 := by
  cases located <;> linarith

theorem roundsEven (located : Locates extended number) :
    RoundsEven number extended.roundedMantissa := by
  cases located with
  | integer mantissa => exact roundsEven_low le_rfl (lt_add_of_pos_right _ one_half_pos)
  | low above below => exact roundsEven_low above.le below
  | middle mantissa => exact roundsEven_middle mantissa
  | high above below => exact roundsEven_high above below

theorem shiftRightOne (located : Locates extended number) :
    Locates extended.shiftRightOne (number / 2) := by
  have even (half : Nat) : ((2 * half : Nat) : ℚ) = 2 * half := by push_cast; rfl
  have odd (half : Nat) : ((2 * half + 1 : Nat) : ℚ) = 2 * half + 1 := by push_cast; rfl
  cases located with
  | integer mantissa =>
    obtain ⟨half, rfl | rfl⟩ := Nat.even_or_odd' mantissa
    · rw [shiftRightOne_even, even, mul_div_cancel_left₀ _ two_ne_zero]
      exact .integer half
    · rw [shiftRightOne_odd, odd, add_div, mul_div_cancel_left₀ _ two_ne_zero]
      exact .middle half
  | @low mantissa _ above below =>
    obtain ⟨half, rfl | rfl⟩ := Nat.even_or_odd' mantissa
    · rw [shiftRightOne_even]
      rw [even] at above below
      exact .low (by linarith) (by linarith)
    · rw [shiftRightOne_odd]
      rw [odd] at above below
      exact .high (by linarith) (by linarith)
  | middle mantissa =>
    obtain ⟨half, rfl | rfl⟩ := Nat.even_or_odd' mantissa
    · rw [shiftRightOne_even, even]
      exact .low (by linarith) (by linarith)
    · rw [shiftRightOne_odd, odd]
      exact .high (by linarith) (by linarith)
  | @high mantissa _ above below =>
    obtain ⟨half, rfl | rfl⟩ := Nat.even_or_odd' mantissa
    · rw [shiftRightOne_even]
      rw [even] at above below
      exact .low (by linarith) (by linarith)
    · rw [shiftRightOne_odd]
      rw [odd] at above below
      exact .high (by linarith) (by linarith)

theorem shiftRight (located : Locates extended number) (count : Nat) :
    Locates (extended >>> count) (number / 2 ^ count) := by
  change Locates (count.repeat ExtendedMantissa.shiftRightOne extended) _
  induction count with
  | zero =>
    rw [pow_zero, div_one]
    exact located
  | succ count ih =>
    rw [pow_succ, ← div_div]
    exact ih.shiftRightOne

/-- The residual bits of a quotient tell where it lies. -/
theorem ofFraction (whole : Nat) {rest denominator : Nat} (inside : rest < denominator) :
    Locates (.ofMantissaAndAccuracy whole (accuracyOfFraction rest denominator))
      (whole + rest / denominator) := by
  have positive : 0 < denominator := Nat.zero_lt_of_lt inside
  have nonzero : (0 : ℚ) < denominator := by exact_mod_cast positive
  have below : (rest : ℚ) / denominator < 1 := (div_lt_one nonzero).mpr (by exact_mod_cast inside)
  unfold accuracyOfFraction
  split
  · rename_i zero
    rw [zero, Nat.cast_zero, zero_div, add_zero]
    exact .integer whole
  · rename_i notZero
    have above : (0 : ℚ) < rest / denominator :=
      div_pos (by exact_mod_cast Nat.pos_of_ne_zero notZero) nonzero
    rcases Nat.lt_trichotomy (2 * rest) denominator with less | equal | greater
    · have half := (share_lt_half positive).mpr less
      rw [Nat.compare_eq_lt.mpr less]
      exact .low (by linarith) (by linarith)
    · rw [Nat.compare_eq_eq.mpr equal, (share_eq_half positive).mpr equal]
      exact .middle whole
    · have half := (half_lt_share positive).mpr greater
      rw [Nat.compare_eq_gt.mpr greater]
      exact .high (by linarith) (by linarith)

end Locates

section Rounding
variable (model : Float.Model.Format)

theorem targetExponent_eq (mantissa : Nat) (exponent : Int) :
    model.targetExponent (totalExponent mantissa exponent) =
      (ofModel model).lastExponent (mantissa.log2 + exponent) := by
  have least : model.minExponent = (ofModel model).leastExponent := by
    rw [Float.Model.Format.minExponent, Format.leastExponent]
    exact_mod_cast rfl
  have leading : totalExponent mantissa exponent - model.mantissaBits =
      mantissa.log2 + exponent + 1 - (ofModel model).precision := by
    rw [totalExponent, Int.add_right_comm]
    rfl
  rw [Float.Model.Format.targetExponent, Format.lastExponent, least, leading]

variable {model} in
theorem shiftToTargetExponent_eq {mantissa count : Nat} {exponent : Int} (accuracy : Accuracy)
    (dropped : ((ofModel model).lastExponent (mantissa.log2 + exponent) - exponent).toNat =
      count) :
    UnpackedFloat.shiftToTargetExponent model mantissa exponent accuracy =
      (ExtendedMantissa.ofMantissaAndAccuracy mantissa accuracy >>> count, exponent + count) := by
  rw [← dropped, ← targetExponent_eq]
  rfl

def ofShifted (sign : Sign) (shifted : ExtendedMantissa × Int) : UnpackedFloat :=
  if zero : shifted.1.mantissa = 0 then .zero sign
  else .finite sign shifted.1.mantissa shifted.2 (Nat.pos_of_ne_zero zero)

/-- The last step of rounding: one more bit is dropped if rounding carried into it. -/
def renormalize (sign : Sign) (rounded : Nat) (exponent : Int) : UnpackedFloat :=
  ofShifted sign (UnpackedFloat.shiftToTargetExponent model rounded exponent .exact)

theorem roundWithAccuracy_eq (sign : Sign) (mantissa : Nat) (exponent : Int)
    (accuracy : Accuracy) :
    UnpackedFloat.roundWithAccuracy model sign mantissa exponent accuracy =
      renormalize model sign
        (UnpackedFloat.shiftToTargetExponent model mantissa exponent accuracy).1.roundedMantissa
        (UnpackedFloat.shiftToTargetExponent model mantissa exponent accuracy).2 := rfl

variable {model} {sign : Sign} {negative : Bool} {shift rounded : Nat}

theorem renormalize_eq {exponent : Int} {count result : Nat} (positive : 0 < result)
    (dropped : ((ofModel model).lastExponent (rounded.log2 + exponent) - exponent).toNat =
      count)
    (left : (ExtendedMantissa.ofMantissaAndAccuracy rounded .exact >>> count).mantissa = result) :
    renormalize model sign rounded exponent = .finite sign result (exponent + count) positive := by
  subst left
  rw [renormalize, shiftToTargetExponent_eq .exact dropped]
  exact dif_neg positive.ne'

theorem log2_lt_precision (positive : 0 < rounded)
    (fits : rounded < 2 * (ofModel model).unit) :
    rounded.log2 < (ofModel model).precision := by
  rw [Format.unit_ofModel, Nat.mul_comm, ← Nat.pow_succ, Nat.succ_eq_one_add] at fits
  exact (Nat.log2_lt positive.ne').mpr fits

theorem log2_two_mul_unit :
    (2 * (ofModel model).unit).log2 = (ofModel model).precision := by
  rw [Format.unit_ofModel, Nat.mul_comm, ← Nat.pow_succ, Nat.log2_two_pow, Nat.succ_eq_one_add]
  rfl

theorem renormalize_zero (model : Float.Model.Format) (sign : Sign) :
    renormalize model sign 0 ((ofModel model).leastExponent + (0 : Nat)) = .zero sign := by
  have none : (Nat.log2 0 : Nat) + 1 - (ofModel model).precision = 0 := by
    have := Format.two_le_precision_ofModel model
    rw [Nat.log2_zero]
    omega
  have dropped := (ofModel model).dropped_eq (Nat.log2 0) 0
  rw [renormalize, shiftToTargetExponent_eq .exact (dropped.trans none)]
  rfl

/-- The number that was rounded is packed to its pattern, or to infinity if it is too large. -/
theorem toNat_pack_renormalize (wide : 2 ≤ model.exponentBits)
    (fits : rounded ≤ 2 * (ofModel model).unit)
    (normal : shift = 0 ∨ (ofModel model).unit ≤ rounded) :
    (UnpackedFloat.pack model (renormalize model (signOf negative) rounded
      ((ofModel model).leastExponent + shift))).toNat =
      (ofModel model).pattern negative
        (min (shift * (ofModel model).unit + rounded) (ofModel model).infinityBits) := by
  have positive := (ofModel model).unit_pos
  have dropped := (ofModel model).dropped_eq rounded.log2 shift
  rcases Nat.eq_zero_or_pos rounded with rfl | nonzero
  · obtain rfl : shift = 0 := normal.resolve_right (Nat.not_le.mpr positive)
    rw [renormalize_zero, Nat.zero_mul, Nat.zero_add, Nat.zero_min]
    exact toNat_packedZero model negative
  · rcases fits.lt_or_eq with inside | full
    · rw [Nat.sub_eq_zero_of_le (log2_lt_precision nonzero inside)] at dropped
      rw [renormalize_eq nonzero dropped rfl, Nat.cast_zero, add_zero]
      exact toNat_pack_finite wide nonzero inside normal
    · have one : rounded.log2 + 1 - (ofModel model).precision = 1 := by
        rw [full, log2_two_mul_unit, Nat.add_sub_cancel_left]
      have half : (ExtendedMantissa.ofMantissaAndAccuracy rounded .exact >>> 1).mantissa =
          (ofModel model).unit := by
        rw [full]
        exact Nat.mul_div_cancel_left _ two_pos
      have next : shift * (ofModel model).unit + rounded =
          (shift + 1) * (ofModel model).unit + (ofModel model).unit := by
        rw [full, Nat.succ_mul shift]
        omega
      rw [renormalize_eq positive (dropped.trans one) half, next, add_assoc, ← Nat.cast_add]
      exact toNat_pack_finite wide positive (by omega) (.inr le_rfl)

theorem mantissa_ofMantissaAndAccuracy (mantissa : Nat) (accuracy : Accuracy) :
    (ExtendedMantissa.ofMantissaAndAccuracy mantissa accuracy).mantissa = mantissa := by
  cases accuracy with
  | exact => rfl
  | inexact ordering => cases ordering <;> rfl

/-- The pattern is that of the value nearest to the number, with a sign. -/
def Rounded (format : Format) (negative : Bool) (number : ℚ) (pattern : Nat) : Prop :=
  ∃ bits, pattern = format.pattern negative bits ∧ format.Nearest number bits

section Located
variable (wide : 2 ≤ model.exponentBits) {mantissa : Nat} {exponent : Int} {accuracy : Accuracy}
  {number : ℚ}
  (located : Locates (.ofMantissaAndAccuracy mantissa accuracy) (number / 2 ^ exponent))
include wide located

theorem rounded_of_keeps (keeps : (ofModel model).Keeps number shift)
    (target : (ofModel model).lastExponent (mantissa.log2 + exponent) =
      (ofModel model).leastExponent + shift)
    (low : exponent ≤ (ofModel model).leastExponent + shift) :
    Rounded (ofModel model) negative number
      (UnpackedFloat.pack model (UnpackedFloat.roundWithAccuracy model (signOf negative) mantissa
        exponent accuracy)).toNat := by
  obtain ⟨count, reached⟩ := Int.le.dest low
  have shifted := located.shiftRight count
  rw [div_div, ← zpow_natCast, ← zpow_add₀ two_ne_zero, reached] at shifted
  have rounds := shifted.roundsEven
  have dropped : ((ofModel model).lastExponent (mantissa.log2 + exponent) - exponent).toNat =
      count := by omega
  refine ⟨_, ?_, keeps.nearest rounds (Format.two_le_precision_ofModel model)⟩
  rw [roundWithAccuracy_eq, shiftToTargetExponent_eq accuracy dropped, reached]
  exact toNat_pack_renormalize wide (keeps.significand_le rounds) (keeps.unit_le rounds)

/-- A result that has enough bits is rounded to the nearest value. -/
theorem rounded_of_located (nonzero : mantissa ≠ 0)
    (low : exponent ≤ (ofModel model).lastExponent (mantissa.log2 + exponent)) :
    Rounded (ofModel model) negative number
      (UnpackedFloat.pack model (UnpackedFloat.roundWithAccuracy model (signOf negative) mantissa
        exponent accuracy)).toNat := by
  have scale := two_zpow_pos exponent
  have least := located.mantissa_le
  have bound := located.lt_mantissa
  rw [mantissa_ofMantissaAndAccuracy] at least bound
  have reached : (2 : ℚ) ^ ((mantissa.log2 : Int) + exponent) ≤ number := by
    rw [zpow_add₀ two_ne_zero, ← le_div_iff₀ scale, zpow_natCast]
    exact le_trans (by exact_mod_cast Nat.log2_self_le nonzero) least
  have bounded : number < 2 ^ ((mantissa.log2 : Int) + exponent + 1) := by
    rw [Int.add_right_comm, zpow_add₀ two_ne_zero, ← div_lt_iff₀ scale, ← Nat.cast_succ,
      zpow_natCast]
    exact lt_of_lt_of_le bound (by exact_mod_cast Nat.lt_log2_self (n := mantissa))
  have keeps := Format.keeps_of_leading (Format.two_le_precision_ofModel model) reached bounded
  have target := (ofModel model).lastExponent_eq (mantissa.log2 + exponent)
  exact rounded_of_keeps wide located keeps target (target ▸ low)

/-- A result without a whole part is below the last bit that the format keeps. -/
theorem rounded_of_zero (zero : mantissa = 0) (low : exponent ≤ (ofModel model).leastExponent) :
    Rounded (ofModel model) negative number
      (UnpackedFloat.pack model (UnpackedFloat.roundWithAccuracy model (signOf negative) mantissa
        exponent accuracy)).toNat := by
  have precise := Format.two_le_precision_ofModel model
  have bounded := located.lt_mantissa
  rw [mantissa_ofMantissaAndAccuracy, zero, Nat.cast_zero, zero_add,
    div_lt_one (two_zpow_pos exponent)] at bounded
  have keeps := (ofModel model).keeps_of_lt
    (bounded.trans_le (zpow_le_zpow_right₀ one_le_two low))
  refine rounded_of_keeps wide located keeps ?_ (low.trans (by simp))
  rw [zero, Nat.log2_zero]
  unfold Format.lastExponent
  omega

end Located

theorem signOf_mul (first second : Bool) :
    signOf first * signOf second = signOf (first ^^ second) := by
  cases first <;> cases second <;> rfl

theorem signOf_div (first second : Bool) :
    signOf first / signOf second = signOf (first ^^ second) := by
  cases first <;> cases second <;> rfl

theorem rounded_zero (negative : Bool) :
    Rounded (ofModel model) negative 0
      (UnpackedFloat.pack model (.zero (signOf negative))).toNat := by
  have nearest := (ofModel model).nearest_value (Nat.zero_le _)
  rw [Format.value_zero] at nearest
  exact ⟨0, toNat_packedZero model negative, nearest⟩

/-- A product of significands has at least as many bits as the format keeps of it. -/
theorem least_le_product {firstShift secondShift first second : Nat} (firstPositive : 0 < first)
    (secondPositive : 0 < second)
    (firstNormal : firstShift = 0 ∨ (ofModel model).unit ≤ first)
    (secondNormal : secondShift = 0 ∨ (ofModel model).unit ≤ second) :
    (ofModel model).leastExponent + firstShift +
        ((ofModel model).leastExponent + secondShift) ≤
      (ofModel model).lastExponent ((first * second).log2 +
        ((ofModel model).leastExponent + firstShift +
          ((ofModel model).leastExponent + secondShift))) := by
  have negative : (ofModel model).leastExponent ≤ 0 := by
    rw [Format.leastExponent_ofModel]
    have := model.hm
    omega
  have long (enough : (ofModel model).unit ≤ first * second) :
      (ofModel model).precision ≤ (first * second).log2 + 1 := by
    rw [Format.unit_ofModel, ← Nat.le_log2 (Nat.mul_pos firstPositive secondPositive).ne'] at enough
    have width : (ofModel model).precision = 1 + model.mantissaBitsWithoutImplicit := rfl
    omega
  unfold Format.lastExponent
  rcases firstNormal with rfl | firstLarge
  · rcases secondNormal with rfl | secondLarge
    · omega
    · have := long (secondLarge.trans (Nat.le_mul_of_pos_left _ firstPositive))
      omega
  · have := long (firstLarge.trans (Nat.le_mul_of_pos_right _ secondPositive))
    omega

theorem log2_mul_two_pow {number : Nat} (nonzero : number ≠ 0) (count : Nat) :
    (number * 2 ^ count).log2 = number.log2 + count := by
  induction count with
  | zero => rw [pow_zero, mul_one, add_zero]
  | succ count ih =>
    rw [pow_succ, ← mul_assoc, mul_comm, Nat.log2_two_mul (by positivity), ih, add_assoc]

theorem log2_le_log2_div {numerator denominator : Nat} (nonzero : numerator ≠ 0)
    (positive : 0 < denominator) :
    numerator.log2 ≤ (numerator / denominator).log2 + denominator.log2 + 1 := by
  rw [← Nat.lt_succ_iff, Nat.log2_lt nonzero]
  calc numerator < denominator * (numerator / denominator + 1) :=
        Nat.lt_mul_div_succ numerator positive
    _ ≤ 2 ^ (denominator.log2 + 1) * 2 ^ ((numerator / denominator).log2 + 1) :=
        Nat.mul_le_mul Nat.lt_log2_self.le Nat.lt_log2_self
    _ = 2 ^ ((numerator / denominator).log2 + denominator.log2 + 1).succ := by
        rw [← pow_add]
        congr 1
        omega

/-- Long division of significands, the first one with more bits. -/
theorem quotient_eq_whole_add (first : Nat) {second count : Nat} (positive : 0 < second)
    {firstExponent secondExponent target : Int}
    (reached : target + count = firstExponent - secondExponent) :
    (first * 2 ^ firstExponent / (second * 2 ^ secondExponent) : ℚ) / 2 ^ target =
      (first * 2 ^ count / second : Nat) + (first * 2 ^ count % second : Nat) / second := by
  have power : (count : Int) = firstExponent - secondExponent - target := by omega
  rw [← div_eq_whole_add _ positive, Nat.cast_mul, Nat.cast_pow, Nat.cast_two, ← zpow_natCast,
    power, zpow_sub₀ two_ne_zero, zpow_sub₀ two_ne_zero]
  field_simp

/-- The quotient of two significands, with as many bits as the format keeps of it, is rounded
once. -/
theorem rounded_quotient (wide : 2 ≤ model.exponentBits) {first second : Nat}
    (firstPositive : 0 < first) (secondPositive : 0 < second) (firstExponent secondExponent : Int) :
    Rounded (ofModel model) negative
      (first * 2 ^ firstExponent / (second * 2 ^ secondExponent))
      (UnpackedFloat.pack model (UnpackedFloat.roundWithAccuracy model (signOf negative)
        (UnpackedFloat.divCore model first firstExponent second secondExponent).1
        (UnpackedFloat.divCore model first firstExponent second secondExponent).2.1
        (UnpackedFloat.divCore model first firstExponent second secondExponent).2.2)).toNat := by
  have estimate : totalExponent first firstExponent - totalExponent second secondExponent =
      totalExponent first (firstExponent - totalExponent second secondExponent) := by
    unfold totalExponent
    omega
  unfold UnpackedFloat.divCore
  dsimp only
  rw [estimate, targetExponent_eq, Nat.shiftLeft_eq]
  set target := min (firstExponent - secondExponent) ((ofModel model).lastExponent
    (first.log2 + (firstExponent - totalExponent second secondExponent)))
  obtain ⟨count, reached⟩ := Int.le.dest
    (min_le_left _ _ : target ≤ firstExponent - secondExponent)
  have shifted : (firstExponent - secondExponent - target).toNat = count := by omega
  rw [shifted]
  have nonzero : first * 2 ^ count ≠ 0 := by positivity
  have inside := Nat.mod_lt (first * 2 ^ count) secondPositive
  have located := Locates.ofFraction (first * 2 ^ count / second) inside
  rw [← quotient_eq_whole_add first secondPositive reached] at located
  have bits := log2_mul_two_pow firstPositive.ne' count
  have chosen : target ≤ (ofModel model).lastExponent
    (first.log2 + (firstExponent - totalExponent second secondExponent)) := min_le_right _ _
  unfold totalExponent at chosen
  rcases Nat.eq_zero_or_pos (first * 2 ^ count / second) with zero | positive
  · have precise := Format.two_le_precision_ofModel model
    have small : first * 2 ^ count < second :=
      (Nat.div_eq_zero_iff.mp zero).resolve_left secondPositive.ne'
    have fewer := (Nat.le_log2 secondPositive.ne').mpr ((Nat.log2_self_le nonzero).trans small.le)
    refine rounded_of_zero wide located zero ?_
    unfold Format.lastExponent at chosen
    omega
  · have enough := log2_le_log2_div nonzero secondPositive
    refine rounded_of_located wide located positive.ne' (chosen.trans ?_)
    unfold Format.lastExponent
    omega

section Operations
variable (wide : 2 ≤ model.exponentBits) {firstNegative secondNegative : Bool}
  {firstBits secondBits : Nat} {first second : UnpackedFloat}
  (representsFirst : Represents (ofModel model) firstNegative firstBits first)
  (representsSecond : Represents (ofModel model) secondNegative secondBits second)
  (firstFinite : firstBits < (ofModel model).infinityBits)
  (secondFinite : secondBits < (ofModel model).infinityBits)
include wide representsFirst representsSecond firstFinite secondFinite

/-- The product of two values is rounded once. -/
theorem rounded_mul :
    Rounded (ofModel model) (firstNegative ^^ secondNegative)
      ((ofModel model).value firstBits * (ofModel model).value secondBits)
      (UnpackedFloat.pack model (UnpackedFloat.mul model first second)).toNat := by
  cases representsFirst with
  | infinity => exact absurd firstFinite (Nat.lt_irrefl _)
  | zero =>
    rw [Format.value_zero, zero_mul]
    cases representsSecond with
    | infinity => exact absurd secondFinite (Nat.lt_irrefl _)
    | zero | finite =>
      change Rounded _ _ _ (UnpackedFloat.pack model (.zero (signOf _ * signOf _))).toNat
      rw [signOf_mul]
      exact rounded_zero _
  | @finite firstShift firstMantissa firstPositive firstFits firstNormal =>
    cases representsSecond with
    | infinity => exact absurd secondFinite (Nat.lt_irrefl _)
    | zero =>
      rw [Format.value_zero, mul_zero]
      change Rounded _ _ _ (UnpackedFloat.pack model (.zero (signOf _ * signOf _))).toNat
      rw [signOf_mul]
      exact rounded_zero _
    | @finite secondShift secondMantissa secondPositive secondFits secondNormal =>
      have positive := Nat.mul_pos firstPositive secondPositive
      have scale := two_zpow_pos ((ofModel model).leastExponent + firstShift +
        ((ofModel model).leastExponent + secondShift))
      rw [Format.value_grid firstFits.le firstNormal, Format.value_grid secondFits.le secondNormal,
        mul_mul_mul_comm, ← zpow_add₀ two_ne_zero, ← Nat.cast_mul]
      change Rounded _ _ _ (UnpackedFloat.pack model (UnpackedFloat.roundWithAccuracy model
        (signOf _ * signOf _) (firstMantissa * secondMantissa) _ .exact)).toNat
      rw [signOf_mul]
      refine rounded_of_located wide ?_ positive.ne' (least_le_product firstPositive secondPositive
        firstNormal secondNormal)
      rw [mul_div_cancel_right₀ _ scale.ne']
      exact .integer _

/-- The quotient of two values is rounded once. -/
theorem rounded_div (nonzero : secondBits ≠ 0) :
    Rounded (ofModel model) (firstNegative ^^ secondNegative)
      ((ofModel model).value firstBits / (ofModel model).value secondBits)
      (UnpackedFloat.pack model (UnpackedFloat.div model first second)).toNat := by
  cases representsSecond with
  | infinity => exact absurd secondFinite (Nat.lt_irrefl _)
  | zero => exact absurd rfl nonzero
  | @finite secondShift secondMantissa secondPositive secondFits secondNormal =>
    cases representsFirst with
    | infinity => exact absurd firstFinite (Nat.lt_irrefl _)
    | zero =>
      rw [Format.value_zero, zero_div]
      change Rounded _ _ _ (UnpackedFloat.pack model (.zero (signOf _ / signOf _))).toNat
      rw [signOf_div]
      exact rounded_zero _
    | @finite firstShift firstMantissa firstPositive firstFits firstNormal =>
      rw [Format.value_grid firstFits.le firstNormal, Format.value_grid secondFits.le secondNormal]
      change Rounded _ _ _ (UnpackedFloat.pack model (UnpackedFloat.roundWithAccuracy model
        (signOf _ / signOf _) _ _ _)).toNat
      rw [signOf_div]
      exact rounded_quotient wide firstPositive secondPositive _ _

end Operations
end Rounding
end SceneGraph.Binary
