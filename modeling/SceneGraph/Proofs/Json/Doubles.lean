import SceneGraph.Tree.Document
import SceneGraph.Proofs.Json.Accuracy
import SceneGraph.Proofs.Json.Numbers

/-!
The doubles that JSON numbers become. The digits that fit a 64-bit word are scaled by a power of ten
in double arithmetic, so a double is finite and has the sign that was written. It is the nearest one
if the digits, or all of them and the power of ten, are held exactly: one operation is rounded once.
Otherwise it is still close, for the digits that are left out hardly count.
-/
namespace SceneGraph
open Binary Decimal

namespace Json

/-! Digits that fit a word -/

theorem absorb_le {limit value : Nat} (bounded : value ≤ limit) (digits : List Char) :
    (absorb limit value digits).1 ≤ limit := by
  induction digits generalizing value with
  | nil => exact bounded
  | cons digit rest ih =>
    rw [absorb]
    split
    · exact bounded
    · exact ih (by omega)

theorem absorb_eq {limit value : Nat} {digits : List Char}
    (fits : value * 10 ^ digits.length + numeralValue digits ≤ limit) :
    absorb limit value digits = (value * 10 ^ digits.length + numeralValue digits, []) := by
  induction digits generalizing value with
  | nil => simp [absorb, numeralValue]
  | cons digit rest ih =>
    have total : value * 10 ^ (digit :: rest).length + numeralValue (digit :: rest) =
        (10 * value + digitValue digit) * 10 ^ rest.length + numeralValue rest := by
      rw [numeralValue_cons, List.length_cons, pow_succ]
      ring
    rw [total] at fits ⊢
    have positive : 0 < 10 ^ rest.length := Nat.pow_pos (by decide)
    have step : 10 * value + digitValue digit ≤ limit :=
      (Nat.le_mul_of_pos_right _ positive).trans ((Nat.le_add_right _ _).trans fits)
    rw [absorb, if_neg (Nat.not_lt.mpr step)]
    exact ih fits

/-- The digits that are taken are the first ones, and the word has no room for the next one. -/
theorem exists_absorbed (limit value : Nat) (digits : List Char) :
    ∃ taken left, digits = taken ++ left ∧
      absorb limit value digits = (value * 10 ^ taken.length + numeralValue taken, left) ∧
      ∀ digit ∈ left.head?,
        limit < 10 * (value * 10 ^ taken.length + numeralValue taken) + digitValue digit := by
  induction digits generalizing value with
  | nil => exact ⟨[], [], rfl, by simp [absorb, numeralValue], by simp⟩
  | cons digit rest ih =>
    rw [absorb]
    by_cases full : limit < 10 * value + digitValue digit
    · rw [if_pos full]
      exact ⟨[], digit :: rest, rfl, by simp [numeralValue], by simpa [numeralValue] using full⟩
    · obtain ⟨taken, left, rfl, absorbed, room⟩ := ih (10 * value + digitValue digit)
      have word : value * 10 ^ (digit :: taken).length + numeralValue (digit :: taken) =
          (10 * value + digitValue digit) * 10 ^ taken.length + numeralValue taken := by
        rw [numeralValue_cons, List.length_cons, pow_succ]
        ring
      rw [if_neg full]
      refine ⟨digit :: taken, left, rfl, ?_, ?_⟩
      · rw [word]
        exact absorbed
      · rw [word]
        exact room

theorem absorb_of_left {limit value : Nat} {digits : List Char}
    (none : (absorb limit value digits).2 = []) :
    (absorb limit value digits).1 = value * 10 ^ digits.length + numeralValue digits := by
  obtain ⟨taken, left, rfl, absorbed, _⟩ := exists_absorbed limit value digits
  rw [absorbed] at none ⊢
  dsimp only at none
  rw [none, List.append_nil]

/-- Digits that are left out after many others hardly count, wherever later ones are put. -/
theorem truncated_close {front left taken rest a b c : Nat} (large : 10 ^ 18 ≤ front)
    (leftFits : left < a) (takenFits : taken < b) (fits : taken * c + rest < b * c) :
    |((front * b + taken : Nat) : ℚ) * (a * c) -
        ((front * a + left) * (b * c) + (taken * c + rest) : Nat)| ≤
      (front * b + taken : Nat) * (a * c) / 10 ^ 18 := by
  -- With digits left out before the point, those taken after it stand too far to the left. That
  -- is less than one in the last place of `front`, and so is what is left out.
  have leftOut : (left + 1) * (b * c) ≤ a * (b * c) := Nat.mul_le_mul_right _ leftFits
  have misplaced : taken * (a * c) ≤ b * (a * c) := Nat.mul_le_mul_right _ takenFits.le
  have many : 10 ^ 18 * (b * (a * c)) ≤ front * (b * (a * c)) := Nat.mul_le_mul_right _ large
  have above : (front * a + left) * (b * c) + (taken * c + rest) ≤
      (front * b + taken) * (a * c) + a * (b * c) := by
    linarith [Nat.zero_le (taken * (a * c))]
  have below : (front * b + taken) * (a * c) ≤
      (front * a + left) * (b * c) + (taken * c + rest) + a * (b * c) := by
    linarith [Nat.zero_le (left * (b * c)), Nat.zero_le (taken * c + rest)]
  have share : 10 ^ 18 * (a * (b * c)) ≤ (front * b + taken) * (a * c) := by
    linarith [Nat.zero_le (taken * (a * c))]
  have above' := Nat.cast_le (α := ℚ).mpr above
  have below' := Nat.cast_le (α := ℚ).mpr below
  have share' := Nat.cast_le (α := ℚ).mpr share
  push_cast at above' below' share' ⊢
  rw [abs_sub_le_iff, le_div_iff₀ (by norm_num), le_div_iff₀ (by norm_num)]
  constructor <;> linarith

/-- Without a digit left out before the point, one after it hardly counts. -/
theorem dropped_close {word rest c : Nat} (large : rest = 0 ∨ 10 ^ 18 ≤ word) (fits : rest < c) :
    |(word : ℚ) * c - (word * c + rest : Nat)| ≤ word * c / 10 ^ 18 := by
  have same : (word : ℚ) * c - (word * c + rest : Nat) = -rest := by
    push_cast
    ring
  rw [same, abs_neg, Nat.abs_cast, le_div_iff₀ (by norm_num)]
  rcases large with rfl | large
  · rw [Nat.cast_zero, zero_mul]
    positivity
  · have share : rest * 10 ^ 18 ≤ word * c := by
      rw [Nat.mul_comm]
      exact Nat.mul_le_mul large fits.le
    exact_mod_cast share

namespace NumberText

/-- Numbers that are rounded once: integers that fit a 64-bit word, and digits that fit a double
with a power of ten that fits one. -/
inductive Short (written : NumberText) : Prop
  | integer (noFraction : written.fraction = []) (noExponent : written.exponent = none)
      (fits : numeralValue written.whole ≤ wordLimit)
  | decimal (fits : numeralValue (written.whole ++ written.fraction) ≤ 2 ^ 53)
      (small : (written.exponentValue - written.fraction.length).natAbs ≤ 22)
      (exponentFits : written.exponentValue.natAbs ≤ exponentLimit)

/-- The number is held by a finite double with the sign that was written, which is off by a few
units of the last place at most. An exponent that does not fit a word is not read. -/
structure Held (written : NumberText) (value : Float) (bits : Nat) : Prop where
  is : IsDouble value written.negative bits
  finite : bits < double.infinityBits
  nearest : written.Short → double.Nearest written.numeral.value bits
  near : written.exponentValue.natAbs ≤ exponentLimit →
    Near 6 (2 * underflow) (double.value bits) written.numeral.value

theorem isDouble_withSign {value : Float} {bits : Nat} (negative : Bool)
    (is : IsDouble value false bits) : IsDouble (withSign negative value) negative bits := by
  cases negative
  · exact is
  · exact is.neg

variable {written : NumberText} {rest whole fraction : List Char} {number : Number}

/-- The digits that fit a word are all counted. -/
theorem absorbed (fits : numeralValue (written.whole ++ written.fraction) ≤ wordLimit) :
    absorb wordLimit 0 written.whole = (numeralValue written.whole, []) ∧
      absorb wordLimit (numeralValue written.whole) written.fraction =
        (numeralValue (written.whole ++ written.fraction), []) := by
  rw [numeralValue_append] at fits ⊢
  have positive : 0 < 10 ^ written.fraction.length := Nat.pow_pos (by decide)
  have whole : 0 * 10 ^ written.whole.length + numeralValue written.whole ≤ wordLimit := by
    rw [Nat.zero_mul, Nat.zero_add]
    exact (Nat.le_mul_of_pos_right _ positive).trans ((Nat.le_add_right _ _).trans fits)
  refine ⟨?_, absorb_eq fits⟩
  rw [absorb_eq whole, Nat.zero_mul, Nat.zero_add]

/-- What is taken of the digits is close to all of them. -/
theorem exists_dropped (wholeDigits : ∀ digit ∈ whole, digit.isDigit)
    (fractionDigits : ∀ digit ∈ fraction, digit.isDigit) :
    let wholeTaken := absorb wordLimit 0 whole
    let taken := absorb wordLimit wholeTaken.1 fraction
    ∃ dropped : Nat, (wholeTaken.2.length : Int) - (fraction.length - taken.2.length : Nat) =
        dropped - fraction.length ∧
      |(taken.1 : ℚ) * 10 ^ dropped - numeralValue (whole ++ fraction)| ≤
        taken.1 * 10 ^ dropped / 10 ^ 18 := by
  have limit : wordLimit = 18446744073709551615 := rfl
  obtain ⟨front, left, rfl, absorbed, wholeRoom⟩ := exists_absorbed wordLimit 0 whole
  rw [Nat.zero_mul, Nat.zero_add] at absorbed wholeRoom
  rw [absorbed]
  dsimp only
  obtain ⟨taken, rest, rfl, absorbed, room⟩ :=
    exists_absorbed wordLimit (numeralValue front) fraction
  rw [absorbed]
  dsimp only
  refine ⟨left.length + rest.length, by rw [List.length_append]; omega, ?_⟩
  obtain ⟨_, leftDigits⟩ := List.forall_mem_append.mp wholeDigits
  obtain ⟨takenDigits, restDigits⟩ := List.forall_mem_append.mp fractionDigits
  have fractionFits := numeralValue_lt fractionDigits
  rw [numeralValue_append taken, List.length_append, pow_add] at fractionFits
  rw [numeralValue_append (front ++ left), numeralValue_append front, numeralValue_append taken,
    List.length_append, pow_add, pow_add]
  cases left with
  | nil =>
    have large : numeralValue rest = 0 ∨
        10 ^ 18 ≤ numeralValue front * 10 ^ taken.length + numeralValue taken := by
      cases rest with
      | nil => exact .inl rfl
      | cons digit others =>
        have full := room digit rfl
        have small := digitValue_le (restDigits digit List.mem_cons_self)
        exact .inr (by omega)
    have close := dropped_close large (numeralValue_lt restDigits)
    have all : (numeralValue front * 10 ^ ([] : List Char).length + numeralValue []) *
        (10 ^ taken.length * 10 ^ rest.length) +
          (numeralValue taken * 10 ^ rest.length + numeralValue rest) =
        (numeralValue front * 10 ^ taken.length + numeralValue taken) * 10 ^ rest.length +
          numeralValue rest := by
      have none : numeralValue [] = 0 := rfl
      rw [none, List.length_nil]
      ring
    rw [all, List.length_nil, pow_zero, one_mul]
    exact_mod_cast close
  | cons digit others =>
    have full := wholeRoom digit rfl
    have small := digitValue_le (leftDigits digit List.mem_cons_self)
    have close := truncated_close (by omega : 10 ^ 18 ≤ numeralValue front)
      (numeralValue_lt leftDigits) (numeralValue_lt takenDigits) fractionFits
    exact_mod_cast close

/-- A word that is close to the digits, and a double that is near the scaled word. -/
theorem near_numeral {word dropped : Nat} {value : ℚ} {exponent : Int}
    (close : |(word : ℚ) * 10 ^ dropped - numeralValue (written.whole ++ written.fraction)| ≤
      word * 10 ^ dropped / 10 ^ 18)
    (scale : exponent = dropped + (written.exponentValue - written.fraction.length))
    (near : Near (52 / 10) (2 * underflow) value (word * 10 ^ exponent)) :
    Near 6 (2 * underflow) value written.numeral.value := by
  set power : ℚ := 10 ^ (written.exponentValue - (written.fraction.length : Int)) with powerIs
  have positive : 0 < power := by positivity
  have split : (word : ℚ) * 10 ^ exponent = word * 10 ^ dropped * power := by
    rw [scale, zpow_add₀ (by norm_num), zpow_natCast, mul_assoc]
  have number : written.numeral.value = numeralValue (written.whole ++ written.fraction) * power :=
    rfl
  have scaled : |(word : ℚ) * 10 ^ exponent - written.numeral.value| ≤
      word * 10 ^ exponent / 10 ^ 18 := by
    rw [split, number, ← sub_mul, abs_mul, abs_of_pos positive, mul_div_right_comm]
    exact mul_le_mul_of_nonneg_right close positive.le
  have nonneg : (0 : ℚ) ≤ word * 10 ^ exponent := by positivity
  have total : 52 / 10 * roundoff * (word * 10 ^ exponent) + word * 10 ^ exponent / 10 ^ 18 ≤
      6 * roundoff * (word * 10 ^ exponent - word * 10 ^ exponent / 10 ^ 18) := by
    have share : 52 / 10 * roundoff + 1 / 10 ^ 18 ≤ 6 * roundoff * (1 - 1 / 10 ^ 18) := by
      norm_num [roundoff]
    linarith [mul_le_mul_of_nonneg_right share nonneg]
  have least : 6 * roundoff * (word * 10 ^ exponent - word * 10 ^ exponent / 10 ^ 18) ≤
      6 * roundoff * written.numeral.value :=
    mul_le_mul_of_nonneg_left (by linarith [(abs_le.mp scaled).2])
      (mul_pos (by norm_num) roundoff_pos).le
  have through := abs_sub_le value (word * 10 ^ exponent) written.numeral.value
  unfold Near at near ⊢
  linarith

theorem exists_held_scaled {word dropped : Nat} {exponent : Int} {failure : Failure}
    (fits : word ≤ wordLimit)
    (short : written.Short → word = numeralValue (written.whole ++ written.fraction) ∧
      exponent = written.exponentValue - written.fraction.length ∧ word ≤ 2 ^ 53 ∧
        exponent.natAbs ≤ 22)
    (close : |(word : ℚ) * 10 ^ dropped - numeralValue (written.whole ++ written.fraction)| ≤
      word * 10 ^ dropped / 10 ^ 18)
    (scale : written.exponentValue.natAbs ≤ exponentLimit →
      exponent = dropped + (written.exponentValue - written.fraction.length))
    (valued : (match scaleByTen? (floatOfInt word) exponent with
      | some value => Except.ok (Number.double (withSign written.negative value))
      | none => .error failure) = .ok number) :
    ∃ bits, written.Held number.toFloat bits := by
  have bounded : word ≤ Nat.pow 10 20 := fits.trans (by decide)
  split at valued
  · rename_i value scaled
    cases valued
    obtain ⟨bits, is, finite⟩ := isDouble_scaleByTen (isDouble_natural word)
      (nearest_lt_infinity (by decide) bounded) scaled
    refine ⟨bits, isDouble_withSign _ is, finite, fun isShort => ?_, fun exponentFits => ?_⟩
    · obtain ⟨same, power, exact, small⟩ := short isShort
      have nearest := nearest_scaleByTen exact small scaled is
      rwa [same, power] at nearest
    · exact near_numeral close (scale exponentFits) (near_scaleByTen fits scaled is)
  · cases valued

theorem absorbed_exponent {negative : Bool} {digits : List Char}
    (present : written.exponent = some (negative, digits))
    (fits : written.exponentValue.natAbs ≤ exponentLimit) :
    absorb exponentLimit 0 digits = (numeralValue digits, []) := by
  have bounded : 0 * 10 ^ digits.length + numeralValue digits ≤ exponentLimit := by
    rw [exponentValue, present] at fits
    cases negative <;> simpa using fits
  rw [absorb_eq bounded, Nat.zero_mul, Nat.zero_add]

theorem exists_held_zero (present : written.exponent ≠ none)
    (long : ¬ written.exponentValue.natAbs ≤ exponentLimit) :
    ∃ bits, written.Held (withSign written.negative 0.0) bits := by
  have zero : IsDouble 0.0 false 0 := ⟨by decide +kernel, by decide⟩
  refine ⟨0, isDouble_withSign _ zero, by decide, fun short => ?_, fun fits => absurd fits long⟩
  cases short with
  | integer _ noExponent => exact absurd noExponent present
  | decimal _ _ exponentFits => exact absurd exponentFits long

theorem exists_held_word {value : Float} (noFraction : written.fraction = [])
    (noExponent : written.exponent = none) (none : (absorb wordLimit 0 written.whole).2 = [])
    (is : IsDouble value written.negative
      (double.nearest (absorb wordLimit 0 written.whole).1 1)) :
    ∃ bits, written.Held value bits := by
  have bounded : (absorb wordLimit 0 written.whole).1 ≤ Nat.pow 10 20 :=
    (absorb_le (Nat.zero_le wordLimit) written.whole).trans (by decide)
  have same : written.numeral.value = (absorb wordLimit 0 written.whole).1 := by
    rw [absorb_of_left none, Nat.zero_mul, Nat.zero_add]
    simp [Numeral.value, numeral, exponentValue, noFraction, noExponent]
  refine ⟨_, is, nearest_lt_infinity (by decide) bounded, fun _ => ?_, fun _ => ?_⟩
  · rw [same]
    exact nearest_natural _
  · rw [same]
    exact (near_natural (by decide) bounded).mono (Nat.cast_nonneg _) (by norm_num)
      (mul_pos two_pos underflow_pos).le

section Scaled
variable (allDigits : ∀ digit ∈ written.whole ++ written.fraction, digit.isDigit)
include allDigits

/-- A number with an exponent. -/
theorem exists_held_exponent {negative : Bool} {digits : List Char}
    (present : written.exponent = some (negative, digits))
    (valued : written.value rest = .ok number) : ∃ bits, written.Held number.toFloat bits := by
  have power : written.exponentValue =
      if negative then -(numeralValue digits : Int) else numeralValue digits := by
    rw [exponentValue, present]
  obtain ⟨wholeDigits, fractionDigits⟩ := List.forall_mem_append.mp allDigits
  obtain ⟨dropped, scale, close⟩ := exists_dropped wholeDigits fractionDigits
  simp only [NumberText.value, present] at valued
  split at valued
  · have wordFits := absorb_le (absorb_le (Nat.zero_le wordLimit) written.whole) written.fraction
    refine exists_held_scaled wordFits (fun short => ?_) close (fun exponentFits => ?_) valued
    · cases short with
      | integer _ noExponent => cases noExponent.symm.trans present
      | decimal fits small exponentFits =>
        obtain ⟨whole, word⟩ := absorbed (fits.trans (by decide))
        rw [whole, word, absorbed_exponent present exponentFits, ← power]
        refine ⟨rfl, ?_, fits, ?_⟩
        · simp only [List.length_nil]
          omega
        · simp only [List.length_nil]
          omega
    · rw [absorbed_exponent present exponentFits, ← power, scale]
      omega
  · rename_i long
    have tooLong : ¬ written.exponentValue.natAbs ≤ exponentLimit := by
      intro exponentFits
      rw [absorbed_exponent present exponentFits] at long
      exact long rfl
    split at valued
    · cases valued
      exact exists_held_zero (by rw [present]; exact Option.some_ne_none _) tooLong
    · cases valued

/-- A number with a fraction, or with more digits than fit a word. -/
theorem exists_held_decimal (absent : written.exponent = none)
    (decimal : written.fraction = [] → (absorb wordLimit 0 written.whole).2 ≠ [])
    (valued : written.value rest = .ok number) : ∃ bits, written.Held number.toFloat bits := by
  have scales : (!written.fraction.isEmpty || !(absorb wordLimit 0 written.whole).2.isEmpty) =
      true := by
    simpa [or_iff_not_imp_left] using decimal
  have wordFits := absorb_le (absorb_le (Nat.zero_le wordLimit) written.whole) written.fraction
  have power : written.exponentValue = 0 := by rw [exponentValue, absent]
  obtain ⟨wholeDigits, fractionDigits⟩ := List.forall_mem_append.mp allDigits
  obtain ⟨dropped, scale, close⟩ := exists_dropped wholeDigits fractionDigits
  simp only [NumberText.value, absent, if_pos scales] at valued
  refine exists_held_scaled wordFits (fun short => ?_) close (fun _ => ?_) valued
  · cases short with
    | integer noFraction _ fits =>
      have all : numeralValue (written.whole ++ written.fraction) ≤ wordLimit := by
        rwa [noFraction, List.append_nil]
      exact absurd (congrArg Prod.snd (absorbed all).1) (decimal noFraction)
    | decimal fits small _ =>
      obtain ⟨whole, word⟩ := absorbed (fits.trans (by decide))
      rw [power] at small ⊢
      rw [whole, word]
      refine ⟨rfl, ?_, fits, ?_⟩
      · simp
      · simpa using small
  · rw [power, scale]
    omega

end Scaled

/-- Digits that fit a word, and nothing else but a sign. -/
theorem exists_held_integer (absent : written.exponent = none) (noFraction : written.fraction = [])
    (none : (absorb wordLimit 0 written.whole).2 = [])
    (valued : written.value rest = .ok number) : ∃ bits, written.Held number.toFloat bits := by
  simp only [NumberText.value, absent, noFraction, none, absorb] at valued
  rw [if_neg (by decide)] at valued
  split at valued
  · rename_i positive
    cases valued
    refine exists_held_word noFraction absent none ?_
    have sign : written.negative = false := by simpa using positive
    rw [sign]
    exact isDouble_natural _
  · rename_i notPositive
    have sign : written.negative = true := by simpa using notPositive
    split at valued
    · cases valued
      refine exists_held_word noFraction absent none ?_
      rw [sign]
      exact (isDouble_natural _).neg
    · rename_i fits
      cases valued
      refine exists_held_word noFraction absent none ?_
      have is := isDouble_integer (-((absorb wordLimit 0 written.whole).1 : Int))
      have below : -((absorb wordLimit 0 written.whole).1 : Int) < 0 := by
        simp only [Bool.or_eq_true, decide_eq_true_iff, not_or] at fits
        omega
      rw [decide_eq_true below, Int.natAbs_neg, Int.natAbs_natCast] at is
      rw [sign]
      exact is

/-- The value of a number is held by a double, which is the nearest one if the number is short. -/
theorem exists_held (allDigits : ∀ digit ∈ written.whole ++ written.fraction, digit.isDigit)
    (valued : written.value rest = .ok number) :
    ∃ bits, written.Held number.toFloat bits := by
  cases exponent : written.exponent with
  | some present => exact exists_held_exponent allDigits exponent valued
  | none =>
    by_cases integer : written.fraction = [] ∧ (absorb wordLimit 0 written.whole).2 = []
    · exact exists_held_integer exponent integer.1 integer.2 valued
    · exact exists_held_decimal allDigits exponent (not_and.mp integer) valued

end NumberText
end Json
end SceneGraph
