import SceneGraph.Proofs.Json.Scaling

/-!
How far scaling by a power of ten is off. A number that is not held exactly is rounded, and so are
the power and their product or quotient; a very small exponent takes a second division. Each
rounding counts as one unit of the last place at most, and what is too small for all of its bits is
off by no more than the least double.
-/
namespace SceneGraph.Json
open Binary

theorem near_natural {number count : Nat} (few : count ≤ 308) (bounded : number ≤ Nat.pow 10 count) :
    Near 1 0 (double.value (double.nearest number 1)) number := by
  have nearest := nearest_natural number
  rw [Near, one_mul, add_zero]
  rcases Nat.eq_zero_or_pos number with rfl | positive
  · have zero : double.nearest 0 1 = 0 :=
      nearest.eq_of_eq (Nat.zero_le _) (by rw [Format.value_zero, Nat.cast_zero])
    simp [zero, Format.value_zero]
  · have error := nearest.abs_sub_le (nearest_lt_infinity few bounded) (Nat.cast_nonneg number)
    -- A natural number has all its bits, so it is off by a share only.
    have one : (1 : ℚ) ≤ number := by exact_mod_cast positive
    have large : underflow ≤ roundoff * number :=
      underflow_le_roundoff.trans (le_mul_of_one_le_right roundoff_pos.le one)
    rwa [halfStep_double, max_eq_left large] at error

theorem near_power {count : Nat} (few : count ≤ 308) :
    Near 1 0 (double.value (double.nearest (Nat.pow 10 count) 1)) (10 ^ count) := by
  have near := near_natural few (le_refl (Nat.pow 10 count))
  rwa [show ((Nat.pow 10 count : Nat) : ℚ) = 10 ^ count from Nat.cast_pow 10 count] at near

section Steps
variable {value : Float} {bits count : Nat} {number : ℚ} (is : IsDouble value false bits)
  (finite : bits < double.infinityBits) (few : count ≤ 308) (nonneg : 0 ≤ number)
include is finite few nonneg

theorem near_product (near : Near 1 0 (double.value bits) number)
    (isFinite : (value * floatOfInt (Nat.pow 10 count : Nat)).isInf = false) :
    ∃ scaled, IsDouble (value * floatOfInt (Nat.pow 10 count : Nat)) false scaled ∧
      Near (31 / 10) underflow (double.value scaled) (number * 10 ^ count) := by
  obtain ⟨scaled, isScaled, inside, nearest⟩ := exists_product is finite few isFinite
  have product := mul_nonneg (double.value_nonneg bits)
    (double.value_nonneg (double.nearest (Nat.pow 10 count) 1))
  exact ⟨scaled, isScaled, near.product nonneg (by positivity) (near_power few)
    (near_of_nearest nearest inside product)⟩

theorem near_quotient {units absolute : ℚ} (unitsNonneg : 0 ≤ units)
    (absoluteNonneg : 0 ≤ absolute) (near : Near units absolute (double.value bits) number) :
    ∃ scaled, IsDouble (value / floatOfInt (Nat.pow 10 count : Nat)) false scaled ∧
      scaled ≤ bits ∧
      Near ((1 + 3 * roundoff) * (units + 1) + 1)
        ((1 + 3 * roundoff) * (absolute / 10 ^ count) + underflow) (double.value scaled)
        (number / 10 ^ count) := by
  obtain ⟨scaled, isScaled, smaller, nearest⟩ := exists_quotient is finite few
  have quotient := div_nonneg (double.value_nonneg bits)
    (double.value_nonneg (double.nearest (Nat.pow 10 count) 1))
  exact ⟨scaled, isScaled, smaller, near.quotient unitsNonneg absoluteNonneg nonneg
    (by positivity) (near_power few)
    (near_of_nearest nearest (smaller.trans_lt finite) quotient)⟩

end Steps

theorem le_of_scaleByTen {value result : Float} {bits : Nat} {exponent : Int}
    (is : IsDouble value false bits) (finite : bits < double.infinityBits)
    (negative : exponent < 0) (scaled : scaleByTen? value exponent = some result) :
    ∃ smaller ≤ bits, IsDouble result false smaller := by
  fun_induction scaleByTen? value exponent generalizing bits with
  | case1 => cases scaled
  | case2 value exponent few power nonneg product => omega
  | case3 value exponent few power =>
    cases scaled
    obtain ⟨quotient, isQuotient, smaller, _⟩ := exists_quotient is finite few
    exact ⟨quotient, smaller, isQuotient⟩
  | case4 =>
    cases scaled
    exact ⟨bits, le_rfl, is⟩
  | case5 => cases scaled
  | case6 value exponent many nonzero nonneg ih =>
    obtain ⟨quotient, isQuotient, smaller, _⟩ := exists_quotient is finite (Nat.le_refl 308)
    obtain ⟨result, below, isResult⟩ := ih isQuotient (smaller.trans_lt finite) (by omega) scaled
    exact ⟨result, below.trans smaller, isResult⟩

theorem small_power_le_underflow : (10 : ℚ) ^ (-360 : Int) ≤ underflow / 10 := by
  have eight : (2 : ℚ) ^ 1077 ≤ 10 ^ 359 := by
    have power : (2 : ℚ) ^ 1077 = (2 ^ 3) ^ 359 := (pow_mul 2 3 359)
    rw [power]
    exact pow_le_pow_left₀ (by norm_num) (by norm_num) 359
  have below : (2 : ℚ) ^ (1075 : Int) ≤ 10 ^ (359 : Int) := by
    refine le_trans ?_ (eight.trans_eq (zpow_ofNat 10 359).symm)
    rw [← zpow_ofNat]
    exact zpow_le_zpow_right₀ one_le_two (by decide)
  have inverse := inv_anti₀ (two_zpow_pos 1075) below
  rw [← zpow_neg, ← zpow_neg] at inverse
  have split : (10 : ℚ) ^ (-360 : Int) = 10 ^ (-359 : Int) / 10 :=
    zpow_sub_one₀ (by norm_num) (-359)
  rw [split]
  exact div_le_div_of_nonneg_right inverse (by norm_num)

theorem inflated_underflow {count : Nat} (some : 1 ≤ count) :
    (1 + 3 * roundoff) * (underflow / 10 ^ count) + underflow ≤ 3 / 2 * underflow := by
  have ten : (10 : ℚ) ≤ 10 ^ count := by
    simpa using pow_le_pow_right₀ (by norm_num : (1 : ℚ) ≤ 10) some
  have share : underflow / 10 ^ count ≤ underflow / 10 :=
    div_le_div_of_nonneg_left underflow_pos.le (by norm_num) ten
  have scaled : (1 + 3 * roundoff) * (underflow / 10 ^ count) ≤ 5 * (underflow / 10) := by
    have positive := underflow_pos
    exact mul_le_mul (by norm_num [roundoff]) share (by positivity) (by norm_num)
  linarith

section Small
variable {value result : Float} {bits : Nat} {number : ℚ} {exponent : Int}

/-- A number that has been divided once and is to be divided twice more comes to next to nothing. -/
theorem small_of_scaleByTen (is : IsDouble value false bits) (finite : bits < double.infinityBits)
    (nonneg : 0 ≤ number) (near : Near (31 / 10) underflow (double.value bits) number)
    (small : number ≤ 10 ^ (-60 : Int)) (deep : exponent < -308)
    (scaled : scaleByTen? value exponent = some result) :
    ∃ smaller, IsDouble result false smaller ∧ double.value smaller ≤ 2 * underflow := by
  have positive := underflow_pos
  have many : ¬ exponent.natAbs ≤ 308 := by omega
  rw [scaleByTen?, if_neg many] at scaled
  split at scaled
  · rename_i zero
    cases scaled
    refine ⟨bits, is, ?_⟩
    rw [is.eq_zero_of_beq zero, Format.value_zero]
    exact (mul_pos two_pos positive).le
  · rw [if_neg (by omega)] at scaled
    obtain ⟨quotient, isQuotient, smaller, nearQuotient⟩ :=
      near_quotient is finite (Nat.le_refl 308) nonneg (by norm_num) positive.le near
    obtain ⟨last, below, isLast⟩ :=
      le_of_scaleByTen isQuotient (smaller.trans_lt finite) (by omega) scaled
    refine ⟨last, isLast, (double.value_strictMono.monotone below).trans ?_⟩
    have quotientSmall : number / 10 ^ 308 ≤ underflow / 10 := by
      have power : (10 : ℚ) ^ (-60 : Int) / 10 ^ 308 = 10 ^ (-368 : Int) := by
        rw [← zpow_ofNat, ← zpow_sub₀ (by norm_num)]
        rfl
      have bound := div_le_div_of_nonneg_right small (by positivity : (0 : ℚ) ≤ 10 ^ 308)
      rw [power] at bound
      exact bound.trans ((zpow_le_zpow_right₀ (by norm_num) (by decide)).trans
        small_power_le_underflow)
    have share : (1 + ((1 + 3 * roundoff) * (31 / 10 + 1) + 1) * roundoff) * (number / 10 ^ 308) ≤
        2 * (underflow / 10) :=
      mul_le_mul (by norm_num [roundoff]) quotientSmall (by positivity) (by norm_num)
    linarith [nearQuotient.le, inflated_underflow (show 1 ≤ 308 by decide)]

end Small

section Words
variable {word count : Nat}

theorem near_word_quotient (fits : word ≤ wordLimit) (few : count ≤ 308) :
    ∃ scaled, IsDouble (floatOfInt word / floatOfInt (Nat.pow 10 count : Nat)) false scaled ∧
      scaled < double.infinityBits ∧
      Near (31 / 10) underflow (double.value scaled) (word / 10 ^ count) := by
  have bounded : word ≤ Nat.pow 10 20 := fits.trans (by decide)
  have finite := nearest_lt_infinity (by decide) bounded
  obtain ⟨scaled, isScaled, smaller, near⟩ := near_quotient (isDouble_natural word) finite few
    (Nat.cast_nonneg word) zero_le_one le_rfl (near_natural (by decide) bounded)
  refine ⟨scaled, isScaled, smaller.trans_lt finite, near.mono (by positivity) ?_ ?_⟩
  · norm_num [roundoff]
  · rw [zero_div, mul_zero, zero_add]

theorem div_power_eq (number : ℚ) {exponent : Int} (negative : exponent ≤ 0) :
    number / 10 ^ exponent.natAbs = number * 10 ^ exponent := by
  have opposite : -(exponent.natAbs : Int) = exponent := by omega
  rw [div_eq_mul_inv, ← zpow_natCast, ← zpow_neg, opposite]

theorem word_scaled_le (fits : word ≤ wordLimit) {exponent bound : Int}
    (low : 20 + exponent ≤ bound) : (word : ℚ) * 10 ^ exponent ≤ 10 ^ bound := by
  have bounded : (word : ℚ) ≤ 10 ^ (20 : Int) := by
    have whole : word ≤ 10 ^ 20 := fits.trans (by decide)
    exact_mod_cast whole
  calc (word : ℚ) * 10 ^ exponent ≤ 10 ^ (20 : Int) * 10 ^ exponent := by gcongr
    _ = 10 ^ (20 + exponent) := (zpow_add₀ (by norm_num) _ _).symm
    _ ≤ 10 ^ bound := zpow_le_zpow_right₀ (by norm_num) low

end Words

theorem near_scaleByTen_few {word : Nat} (fits : word ≤ wordLimit) {exponent : Int}
    (few : exponent.natAbs ≤ 308) {result : Float} {bits : Nat}
    (scaled : scaleByTen? (floatOfInt word) exponent = some result)
    (is : IsDouble result false bits) :
    Near (31 / 10) underflow (double.value bits) (word * 10 ^ exponent) := by
  rw [scaleByTen?, if_pos few] at scaled
  dsimp only at scaled
  split at scaled
  · rename_i nonneg
    split at scaled
    · cases scaled
    · rename_i notInfinite
      obtain rfl := Option.some.inj scaled
      have bounded : word ≤ Nat.pow 10 20 := fits.trans (by decide)
      obtain ⟨_, isProduct, near⟩ := near_product (isDouble_natural word)
        (nearest_lt_infinity (by decide) bounded) few (Nat.cast_nonneg word)
        (near_natural (by decide) bounded) (Bool.not_eq_true _ ▸ notInfinite)
      rwa [← zpow_natCast, Int.natAbs_of_nonneg nonneg, ← is.unique isProduct] at near
  · obtain rfl := Option.some.inj scaled
    obtain ⟨_, isQuotient, _, near⟩ := near_word_quotient fits few
    rwa [div_power_eq _ (by omega), ← is.unique isQuotient] at near

theorem near_scaleByTen_many {word : Nat} (fits : word ≤ wordLimit) {exponent : Int}
    (many : exponent < -308) {value result : Float} {first bits : Nat}
    (isFirst : IsDouble value false first) (finite : first < double.infinityBits)
    (near : Near (31 / 10) underflow (double.value first) (word / 10 ^ 308))
    (scaled : scaleByTen? value (exponent + 308) = some result)
    (is : IsDouble result false bits) :
    Near (52 / 10) (2 * underflow) (double.value bits) (word * 10 ^ exponent) := by
  have least := underflow_pos
  have scale : (0 : ℚ) ≤ word * 10 ^ exponent := by positivity
  have nonneg : (0 : ℚ) ≤ word / 10 ^ 308 := by positivity
  have divided : (word : ℚ) / 10 ^ 308 = word * 10 ^ (-308 : Int) :=
    div_power_eq _ (by decide : (-308 : Int) ≤ 0)
  -- Three divisions or more leave next to nothing, of the number and of the double.
  by_cases deep : exponent + 308 < -308
  · have small : (word : ℚ) / 10 ^ 308 ≤ 10 ^ (-60 : Int) :=
      divided.trans_le (word_scaled_le fits (by decide))
    obtain ⟨smaller, isSmaller, below⟩ :=
      small_of_scaleByTen isFirst finite nonneg near small deep scaled
    have nothing : (word : ℚ) * 10 ^ exponent ≤ underflow / 10 :=
      (word_scaled_le fits (by omega)).trans small_power_le_underflow
    have share : 0 ≤ 52 / 10 * roundoff * (word * 10 ^ exponent) := by
      have positive := roundoff_pos
      positivity
    rw [is.unique isSmaller, Near, abs_sub_le_iff]
    constructor
    · linarith
    · linarith [double.value_nonneg smaller]
  · have few : (exponent + 308).natAbs ≤ 308 := by omega
    rw [scaleByTen?, if_pos few] at scaled
    dsimp only at scaled
    rw [if_neg (by omega)] at scaled
    obtain rfl := Option.some.inj scaled
    obtain ⟨_, isQuotient, _, nearQuotient⟩ :=
      near_quotient isFirst finite few nonneg (by norm_num) least.le near
    have number : (word : ℚ) / 10 ^ 308 / 10 ^ (exponent + 308).natAbs = word * 10 ^ exponent := by
      rw [div_power_eq _ (by omega), divided, mul_assoc, ← zpow_add₀ (by norm_num)]
      congr 2
      omega
    rw [number] at nearQuotient
    rw [is.unique isQuotient]
    refine nearQuotient.mono scale (by norm_num [roundoff]) ?_
    linarith [inflated_underflow (show 1 ≤ (exponent + 308).natAbs by omega)]

/-- What a word comes to when it is scaled: each of the roundings adds a roundoff, and the result
may be too small for all of its bits. -/
theorem near_scaleByTen {word : Nat} (fits : word ≤ wordLimit) {exponent : Int} {result : Float}
    {bits : Nat} (scaled : scaleByTen? (floatOfInt word) exponent = some result)
    (is : IsDouble result false bits) :
    Near (52 / 10) (2 * underflow) (double.value bits) (word * 10 ^ exponent) := by
  have least := underflow_pos
  have scale : (0 : ℚ) ≤ word * 10 ^ exponent := by positivity
  by_cases few : exponent.natAbs ≤ 308
  · exact (near_scaleByTen_few fits few scaled is).mono scale (by norm_num) (by linarith)
  · rw [scaleByTen?, if_neg few] at scaled
    split at scaled
    · rename_i zero
      cases scaled
      have isWord := isDouble_natural word
      have none : word = 0 := by
        by_contra some
        have one := one_le_value (Nat.pos_of_ne_zero some)
        rw [isWord.eq_zero_of_beq zero, Format.value_zero] at one
        exact absurd one (by norm_num)
      rw [is.unique isWord, isWord.eq_zero_of_beq zero, Format.value_zero, none,
        Nat.cast_zero, zero_mul, Near, sub_zero, abs_zero, mul_zero, zero_add]
      exact (mul_pos two_pos least).le
    · split at scaled
      · cases scaled
      · rename_i negative
        obtain ⟨first, isFirst, finite, near⟩ := near_word_quotient fits (Nat.le_refl 308)
        exact near_scaleByTen_many fits (by omega) isFirst finite near scaled is

end SceneGraph.Json
