import SceneGraph.Decimal.Numeral
import SceneGraph.Proofs.Binary.Machine

/-!
The number that a numeral writes, and the single that it becomes: the nearest one, also where the
scale decides alone.
-/
namespace SceneGraph.Decimal
open SceneGraph.Binary

theorem numeralValue_foldl (value : Nat) (digits : List Char) :
    digits.foldl (fun value digit => 10 * value + digitValue digit) value =
      value * 10 ^ digits.length + numeralValue digits := by
  unfold numeralValue
  induction digits generalizing value with
  | nil => simp
  | cons digit rest ih =>
    rw [List.foldl_cons, List.foldl_cons, ih, ih (10 * 0 + digitValue digit), List.length_cons,
      pow_succ]
    ring

theorem numeralValue_cons (digit : Char) (rest : List Char) :
    numeralValue (digit :: rest) = digitValue digit * 10 ^ rest.length + numeralValue rest := by
  rw [numeralValue, List.foldl_cons, numeralValue_foldl, Nat.mul_zero, Nat.zero_add]

theorem numeralValue_append (front back : List Char) :
    numeralValue (front ++ back) = numeralValue front * 10 ^ back.length + numeralValue back := by
  rw [numeralValue, List.foldl_append, numeralValue_foldl]
  rfl

section Digits
variable {digit : Char} {digits : List Char}

theorem isDigit_iff : digit.isDigit ↔ 48 ≤ digit.toNat ∧ digit.toNat ≤ 57 := by
  rw [Char.isDigit, Bool.and_eq_true, decide_eq_true_iff, decide_eq_true_iff, ge_iff_le,
    UInt32.le_iff_toNat_le, UInt32.le_iff_toNat_le]
  rfl

theorem digitValue_le (isDigit : digit.isDigit) : digitValue digit ≤ 9 := by
  have bounds := isDigit_iff.mp isDigit
  have zero : '0'.toNat = 48 := rfl
  unfold digitValue
  omega

theorem digitValue_pos (isDigit : digit.isDigit) (nonzero : digit ≠ '0') :
    0 < digitValue digit := by
  have bounds := isDigit_iff.mp isDigit
  have zero : '0'.toNat = 48 := rfl
  have apart : digit.toNat ≠ 48 := fun equal => nonzero (Char.toNat_inj.mp equal)
  unfold digitValue
  omega

theorem numeralValue_lt (allDigits : ∀ digit ∈ digits, digit.isDigit) :
    numeralValue digits < 10 ^ digits.length := by
  induction digits with
  | nil => exact Nat.one_pos
  | cons digit rest ih =>
    obtain ⟨first, later⟩ := List.forall_mem_cons.mp allDigits
    have small := digitValue_le first
    rw [numeralValue_cons, List.length_cons, pow_succ]
    nlinarith [ih later]

theorem numeralValue_dropZeros (digits : List Char) :
    numeralValue (digits.dropWhile (· == '0')) = numeralValue digits := by
  induction digits with
  | nil => rfl
  | cons digit rest ih =>
    rw [List.dropWhile_cons]
    split
    · rename_i zero
      rw [ih, numeralValue_cons, eq_of_beq zero]
      simp [digitValue]
    · rfl

end Digits

/-- The number that a numeral writes. -/
def Numeral.value (numeral : Numeral) : ℚ :=
  numeralValue (numeral.whole ++ numeral.fraction) *
    10 ^ (numeral.exponent - numeral.fraction.length)

theorem Numeral.value_eq (numeral : Numeral) :
    numeral.value = numeralValue ((numeral.whole ++ numeral.fraction).dropWhile (· == '0')) *
      10 ^ (numeral.exponent - numeral.fraction.length) := by
  rw [value, numeralValue_dropZeros]

/-- The digits after leading zeros, and the power of ten of the last, bound a number. -/
theorem scale_bounds {digits : List Char} (allDigits : ∀ digit ∈ digits, digit.isDigit)
    (exponent : Int) :
    numeralValue digits * (10 : ℚ) ^ exponent < 10 ^ (exponent + digits.length) := by
  have small : (numeralValue digits : ℚ) < 10 ^ (digits.length : Int) := by
    rw [zpow_natCast]
    exact_mod_cast numeralValue_lt allDigits
  rw [zpow_add₀ (by norm_num), mul_comm]
  exact mul_lt_mul_of_pos_left small (zpow_pos (by norm_num) _)

theorem le_scale {first : Char} (isDigit : first.isDigit) (nonzero : first ≠ '0')
    (rest : List Char) (exponent : Int) :
    (10 : ℚ) ^ (exponent + rest.length) ≤ numeralValue (first :: rest) * 10 ^ exponent := by
  have large : (10 : ℚ) ^ (rest.length : Int) ≤ numeralValue (first :: rest) := by
    rw [zpow_natCast, numeralValue_cons]
    exact_mod_cast Nat.le_add_right_of_le
      (Nat.le_mul_of_pos_left _ (digitValue_pos isDigit nonzero))
  rw [zpow_add₀ (by norm_num), mul_comm]
  exact mul_le_mul_of_nonneg_right large (zpow_pos (by norm_num) _).le

/-- A numeral becomes the nearest single. -/
theorem Numeral.exists_isSingle (negative : Bool) {numeral : Numeral}
    (allDigits : ∀ digit ∈ numeral.whole ++ numeral.fraction, digit.isDigit) :
    ∃ bits, IsSingle (numeral.toFloat32 negative) negative bits ∧
      single.Nearest numeral.value bits := by
  have ten : (1 : ℚ) ≤ 10 := by norm_num
  have digitsLeft : ∀ digit ∈ (numeral.whole ++ numeral.fraction).dropWhile (· == '0'),
      digit.isDigit :=
    fun digit member => allDigits digit ((List.dropWhile_sublist _).subset member)
  have leading := List.head?_dropWhile_not (· == '0') (numeral.whole ++ numeral.fraction)
  rw [numeral.value_eq]
  unfold toFloat32
  dsimp only
  generalize (numeral.whole ++ numeral.fraction).dropWhile (· == '0') = digits at *
  generalize numeral.exponent - numeral.fraction.length = exponent
  cases digits with
  | nil =>
    refine ⟨0, isSingle_float32OfQuotient negative 0 one_pos, Format.nearest_zero ?_⟩
    rw [single_midpoint_zero, numeralValue, List.foldl_nil]
    norm_num
  | cons first rest =>
    have nonzero : first ≠ '0' := by simpa using leading
    have below := scale_bounds digitsLeft exponent
    have above := le_scale (digitsLeft first (.head _)) nonzero rest exponent
    rw [List.length_cons] at below ⊢
    push_cast at below ⊢
    split
    · rename_i small
      have scale : exponent + (rest.length + 1) < -100 := by simpa using small
      refine ⟨0, isSingle_float32OfQuotient negative 0 one_pos, Format.nearest_zero ?_⟩
      rw [single_midpoint_zero]
      calc _ < (10 : ℚ) ^ (exponent + (rest.length + 1)) := below
        _ ≤ 10 ^ (-101 : Int) := zpow_le_zpow_right₀ ten (by omega)
        _ < 1 / 2 ^ 150 := by norm_num
    · split
      · rename_i large
        refine ⟨_, isSingle_infinite negative, Format.nearest_infinity ?_⟩
        rw [single_infinity]
        calc (2 : ℚ) ^ 128 ≤ 10 ^ (100 : Int) := by norm_num
          _ ≤ 10 ^ (exponent + rest.length) := zpow_le_zpow_right₀ ten (by omega)
          _ ≤ _ := above
      · have positive : 0 < Nat.pow 10 (-exponent).toNat := Nat.pow_pos (by decide)
        have nearest := single.nearest_quotient (by decide)
          (numeralValue (first :: rest) * Nat.pow 10 exponent.toNat) positive
        rw [scaled_integer 10] at nearest
        exact ⟨_, isSingle_float32OfQuotient negative _ positive, nearest⟩

end SceneGraph.Decimal
