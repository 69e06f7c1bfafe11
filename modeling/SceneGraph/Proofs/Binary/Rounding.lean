import Mathlib.Data.Rat.Lemmas
import Mathlib.Algebra.Order.Field.Power
import Mathlib.Tactic.Linarith
import Mathlib.Tactic.FieldSimp
import Mathlib.Tactic.Ring
import Mathlib.Tactic.Positivity
import Mathlib.Order.Monotone.Basic
import SceneGraph.Binary

/-!
Rounding to the nearest value of a binary format. The magnitude bits number the values in ascending
order, infinity as if it were the next one, and halfway between two neighbours lies a midpoint. A
number is rounded to the value between whose midpoints it lies; a midpoint belongs to its even
neighbour. So two numbers are rounded alike unless a midpoint lies between them.
-/
namespace SceneGraph.Binary

def Magnitude.value (magnitude : Magnitude) : ℚ :=
  magnitude.significand * 2 ^ magnitude.exponent

theorem two_zpow_pos (exponent : Int) : (0 : ℚ) < 2 ^ exponent := zpow_pos two_pos exponent

theorem two_zpow_succ (exponent : Int) : (2 : ℚ) ^ (exponent + 1) = 2 * 2 ^ exponent := by
  rw [zpow_add_one₀ two_ne_zero, mul_comm]

/-- The closest natural to a quotient, the even one of two. -/
structure RoundsEven (number : ℚ) (rounded : Nat) : Prop where
  above : (rounded : ℚ) - 1 / 2 < number ∨ (rounded : ℚ) - 1 / 2 = number ∧ Even rounded
  below : number < rounded + 1 / 2 ∨ number = rounded + 1 / 2 ∧ Even rounded

namespace RoundsEven
variable {number : ℚ} {rounded : Nat} (rounds : RoundsEven number rounded)
include rounds

theorem le_add_half : number ≤ rounded + 1 / 2 := by
  rcases rounds.below with less | ⟨equal, _⟩
  · exact less.le
  · exact equal.le

theorem sub_half_le : (rounded : ℚ) - 1 / 2 ≤ number := by
  rcases rounds.above with less | ⟨equal, _⟩
  · exact less.le
  · exact equal.le

theorem le_of_le {bound : Nat} (bounded : number ≤ bound) : rounded ≤ bound := by
  have below : (rounded : ℚ) < bound + 1 := by linarith [rounds.sub_half_le]
  exact Nat.lt_succ_iff.mp (by exact_mod_cast below)

theorem ge_of_ge {bound : Nat} (bounded : (bound : ℚ) ≤ number) : bound ≤ rounded := by
  have below : (bound : ℚ) < rounded + 1 := by linarith [rounds.le_add_half]
  exact Nat.lt_succ_iff.mp (by exact_mod_cast below)

end RoundsEven

section Sides
variable {whole : Nat} {number : ℚ}

theorem roundsEven_low (above : (whole : ℚ) ≤ number) (below : number < whole + 1 / 2) :
    RoundsEven number whole where
  above := .inl (by linarith)
  below := .inl below

theorem roundsEven_middle (whole : Nat) : RoundsEven (whole + 1 / 2) (whole + whole % 2) := by
  rcases Nat.even_or_odd whole with even | odd
  · rw [Nat.even_iff.mp even, Nat.add_zero]
    exact ⟨.inl (by linarith), .inr ⟨rfl, even⟩⟩
  · have next : ((whole + 1 : Nat) : ℚ) = whole + 1 := Nat.cast_add_one whole
    rw [Nat.odd_iff.mp odd]
    exact ⟨.inr ⟨by linarith, odd.add_one⟩, .inl (by linarith)⟩

theorem roundsEven_high (above : (whole : ℚ) + 1 / 2 < number) (below : number < whole + 1) :
    RoundsEven number (whole + 1) := by
  have next : ((whole + 1 : Nat) : ℚ) = whole + 1 := Nat.cast_add_one whole
  exact ⟨.inl (by linarith), .inl (by linarith)⟩

end Sides

/-- A quotient is its whole part and the share of its remainder. -/
theorem div_eq_whole_add (numerator : Nat) {denominator : Nat} (positive : 0 < denominator) :
    (numerator : ℚ) / denominator =
      (numerator / denominator : Nat) + (numerator % denominator : Nat) / denominator := by
  have nonzero : (0 : ℚ) < denominator := by exact_mod_cast positive
  have split : (numerator : ℚ) =
      denominator * (numerator / denominator : Nat) + (numerator % denominator : Nat) := by
    exact_mod_cast (Nat.div_add_mod numerator denominator).symm
  conv_lhs => rw [split]
  field_simp

section Shares
variable {rest denominator : Nat}

/-- On which side of the middle a remainder's share lies. -/
theorem share_lt_half (positive : 0 < denominator) :
    (rest : ℚ) / denominator < 1 / 2 ↔ 2 * rest < denominator := by
  have nonzero : (0 : ℚ) < denominator := by exact_mod_cast positive
  rw [div_lt_div_iff₀ nonzero two_pos, one_mul, mul_comm]
  exact_mod_cast Iff.rfl

theorem share_eq_half (positive : 0 < denominator) :
    (rest : ℚ) / denominator = 1 / 2 ↔ 2 * rest = denominator := by
  have nonzero : (denominator : ℚ) ≠ 0 := by exact_mod_cast positive.ne'
  rw [div_eq_div_iff nonzero two_ne_zero, one_mul, mul_comm]
  exact_mod_cast Iff.rfl

theorem half_lt_share (positive : 0 < denominator) :
    1 / 2 < (rest : ℚ) / denominator ↔ denominator < 2 * rest := by
  have nonzero : (0 : ℚ) < denominator := by exact_mod_cast positive
  rw [div_lt_div_iff₀ two_pos nonzero, one_mul, mul_comm]
  exact_mod_cast Iff.rfl

end Shares

theorem roundsEven_roundQuotient (numerator : Nat) {denominator : Nat}
    (positive : 0 < denominator) :
    RoundsEven (numerator / denominator) (roundQuotient numerator denominator) := by
  have inside := Nat.mod_lt numerator positive
  have nonzero : (0 : ℚ) < denominator := by exact_mod_cast positive
  rw [div_eq_whole_add numerator positive]
  unfold roundQuotient
  generalize numerator / denominator = whole at *
  generalize numerator % denominator = rest at *
  have nonneg : (0 : ℚ) ≤ rest / denominator := by positivity
  have below : (rest : ℚ) / denominator < 1 := (div_lt_one nonzero).mpr (by exact_mod_cast inside)
  rcases Nat.lt_trichotomy (2 * rest) denominator with less | equal | greater
  · have half := (share_lt_half positive).mpr less
    rw [if_pos less]
    exact roundsEven_low (by linarith) (by linarith)
  · rw [if_neg equal.not_lt, if_neg equal.not_gt, (share_eq_half positive).mpr equal]
    exact roundsEven_middle whole
  · have half := (half_lt_share positive).mpr greater
    rw [if_neg (Nat.lt_asymm greater), if_pos greater]
    exact roundsEven_high (by linarith) (by linarith)

namespace Format

/-- The smallest significand with all its bits, as far apart as the exponents in a bit pattern. -/
def unit (format : Format) : Nat := Nat.pow 2 (format.precision - 1)

/-- The magnitude with the given bits; for infinity, what would come next. -/
def magnitude (format : Format) (bits : Nat) : Magnitude :=
  if bits < format.unit then ⟨bits, format.leastExponent⟩
  else ⟨format.unit + bits % format.unit,
    format.leastExponent + (bits / format.unit - 1 : Nat)⟩

def value (format : Format) (bits : Nat) : ℚ := (format.magnitude bits).value

/-- The number halfway between a value and the next one. -/
def midpoint (format : Format) (bits : Nat) : ℚ := (format.value bits + format.value (bits + 1)) / 2

/-- The number is on the lower side of a midpoint, which itself counts to its even neighbour. -/
def Under (format : Format) (bits : Nat) (number : ℚ) : Prop :=
  number < format.midpoint bits ∨ number = format.midpoint bits ∧ Even bits

/-- The number is closer to the value with these bits than to any other, or as close and the bits
are even. -/
structure Nearest (format : Format) (number : ℚ) (bits : Nat) : Prop where
  bounded : bits ≤ format.infinityBits
  above : ∀ before, before + 1 = bits → ¬ format.Under before number
  below : bits < format.infinityBits → format.Under bits number

section Values
variable {format : Format}

theorem unit_pos (format : Format) : 0 < format.unit := Nat.pow_pos (by decide)

/-- A significand with an exponent has a bit pattern by which it is numbered. A significand one
larger than the largest is the smallest of the next exponent. -/
theorem value_grid {shift significand : Nat} (fits : significand ≤ 2 * format.unit)
    (normal : shift = 0 ∨ format.unit ≤ significand) :
    format.value (shift * format.unit + significand) =
      significand * 2 ^ (format.leastExponent + shift) := by
  have positive := format.unit_pos
  unfold value magnitude
  generalize format.unit = unit at *
  by_cases small : shift * unit + significand < unit
  · have zero : shift = 0 := by
      rcases normal with zero | large
      · exact zero
      · omega
    subst zero
    rw [if_pos small]
    simp [Magnitude.value]
  · rw [if_neg small]
    rcases Nat.lt_or_ge significand (2 * unit) with inside | full
    · have large : unit ≤ significand := by
        rcases normal with rfl | large
        · omega
        · exact large
      have split : shift * unit + significand = (significand - unit) + unit * (shift + 1) := by
        rw [Nat.mul_add, Nat.mul_comm unit shift]
        omega
      have rest : significand - unit < unit := by omega
      rw [split, Nat.add_mul_mod_self_left, Nat.add_mul_div_left _ _ positive,
        Nat.mod_eq_of_lt rest, Nat.div_eq_of_lt rest, Nat.zero_add, Nat.add_sub_cancel,
        Nat.add_sub_cancel' large]
      rfl
    · have whole : shift * unit + significand = unit * (shift + 2) := by
        rw [Nat.mul_add, Nat.mul_comm unit shift]
        omega
      have last : significand = 2 * unit := by omega
      rw [whole, Nat.mul_mod_right, Nat.mul_div_cancel_left _ positive, last]
      unfold Magnitude.value
      push_cast
      rw [← add_assoc, two_zpow_succ]
      ring

/-- Every bit pattern numbers a significand with an exponent. -/
theorem exists_grid (format : Format) (bits : Nat) :
    ∃ shift significand, bits = shift * format.unit + significand ∧
      significand < 2 * format.unit ∧ (shift = 0 ∨ format.unit ≤ significand) := by
  have positive := format.unit_pos
  generalize format.unit = unit at *
  have split := Nat.div_add_mod bits unit
  have rest := Nat.mod_lt bits positive
  cases count : bits / unit with
  | zero =>
    rw [count, Nat.mul_zero, Nat.zero_add] at split
    exact ⟨0, bits, by omega, by omega, .inl rfl⟩
  | succ shift =>
    rw [count, Nat.mul_succ, Nat.mul_comm] at split
    exact ⟨shift, unit + bits % unit, by omega, by omega, .inr (Nat.le_add_right _ _)⟩

/-- A significand with an exponent is a value, also where it has not all of its bits. -/
theorem exists_value {significand : Nat} (fits : significand ≤ 2 * format.unit) (shift : Nat) :
    ∃ bits, format.value bits = significand * 2 ^ (format.leastExponent + shift) := by
  induction shift generalizing significand with
  | zero => exact ⟨_, value_grid fits (.inl rfl)⟩
  | succ shift ih =>
    rcases Nat.le_total format.unit significand with large | small
    · exact ⟨_, value_grid fits (.inr large)⟩
    · obtain ⟨bits, same⟩ := ih (Nat.mul_le_mul_left 2 small)
      refine ⟨bits, same.trans ?_⟩
      rw [Nat.cast_add_one, ← add_assoc, two_zpow_succ]
      push_cast
      ring

theorem value_lt_succ (format : Format) (bits : Nat) :
    format.value bits < format.value (bits + 1) := by
  obtain ⟨shift, significand, rfl, fits, normal⟩ := format.exists_grid bits
  have next : shift = 0 ∨ format.unit ≤ significand + 1 := normal.imp_right Nat.le_succ_of_le
  rw [Nat.add_assoc, value_grid fits.le normal, value_grid fits next]
  push_cast
  linarith [two_zpow_pos (format.leastExponent + shift)]

theorem value_strictMono (format : Format) : StrictMono format.value :=
  strictMono_nat_of_lt_succ format.value_lt_succ

theorem value_zero (format : Format) : format.value 0 = 0 := by
  have grid : format.value (0 * format.unit + 0) = _ := value_grid (Nat.zero_le _) (.inl rfl)
  simpa using grid

theorem value_lt_midpoint (format : Format) (bits : Nat) :
    format.value bits < format.midpoint bits := by
  unfold midpoint
  linarith [format.value_lt_succ bits]

theorem midpoint_lt_value (format : Format) (bits : Nat) :
    format.midpoint bits < format.value (bits + 1) := by
  unfold midpoint
  linarith [format.value_lt_succ bits]

theorem midpoint_strictMono (format : Format) : StrictMono format.midpoint :=
  strictMono_nat_of_lt_succ fun bits =>
    (format.midpoint_lt_value bits).trans (format.value_lt_midpoint (bits + 1))

theorem midpoint_grid {shift significand : Nat} (fits : significand < 2 * format.unit)
    (normal : shift = 0 ∨ format.unit ≤ significand) :
    format.midpoint (shift * format.unit + significand) =
      (significand + 1 / 2) * 2 ^ (format.leastExponent + shift) := by
  have next : shift = 0 ∨ format.unit ≤ significand + 1 := normal.imp_right Nat.le_succ_of_le
  rw [midpoint, Nat.add_assoc, value_grid fits.le normal, value_grid fits next]
  push_cast
  ring

end Values

section Nearness
variable {format : Format} {number other : ℚ} {bits bound : Nat}

/-- What is under a midpoint is under all larger ones. -/
theorem Under.mono (under : format.Under bits number) (le : bits ≤ bound) :
    format.Under bound number := by
  rcases le.eq_or_lt with rfl | less
  · exact under
  · have midpoints := format.midpoint_strictMono less
    rcases under with below | ⟨equal, _⟩
    · exact .inl (below.trans midpoints)
    · exact .inl (equal ▸ midpoints)

/-- A number is rounded below those midpoints that it is under. -/
theorem Nearest.le_iff (nearest : format.Nearest number bits)
    (inside : bound < format.infinityBits) : bits ≤ bound ↔ format.Under bound number := by
  constructor
  · intro le
    exact (nearest.below (Nat.lt_of_le_of_lt le inside)).mono le
  · intro under
    by_contra larger
    obtain ⟨before, rfl⟩ : ∃ before, bits = before + 1 := ⟨bits - 1, by omega⟩
    exact nearest.above before rfl (under.mono (by omega))

theorem Nearest.unique (first : format.Nearest number bits) (second : format.Nearest number bound) :
    bits = bound := by
  rcases Nat.lt_trichotomy bits bound with less | equal | greater
  · have inside := Nat.lt_of_lt_of_le less second.bounded
    exact absurd ((second.le_iff inside).mpr (first.below inside)) (Nat.not_le.mpr less)
  · exact equal
  · have inside := Nat.lt_of_lt_of_le greater first.bounded
    exact absurd ((first.le_iff inside).mpr (second.below inside)) (Nat.not_le.mpr greater)

/-- Two numbers are rounded alike just if no midpoint lies between them. -/
theorem Nearest.eq_iff (first : format.Nearest number bits) (second : format.Nearest other bound) :
    bits = bound ↔ ∀ between < format.infinityBits,
      (format.Under between number ↔ format.Under between other) := by
  constructor
  · rintro rfl between inside
    rw [← first.le_iff inside, second.le_iff inside]
  · intro same
    refine first.unique ⟨second.bounded, fun before next under => ?_, fun inside => ?_⟩
    · exact second.above before next
        ((same before (next ▸ second.bounded :)).mp under)
    · exact (same bound inside).mpr (second.below inside)

theorem nearest_value (inside : bits ≤ format.infinityBits) :
    format.Nearest (format.value bits) bits where
  bounded := inside
  above before next under := by
    subst next
    have apart := format.midpoint_lt_value before
    rcases under with below | ⟨equal, _⟩
    · exact lt_asymm apart below
    · exact apart.ne' equal
  below _ := .inl (format.value_lt_midpoint bits)

/-- Rounding does not pass a value. -/
theorem Nearest.le_of_le (nearest : format.Nearest number bits) (le : number ≤ format.value bound) :
    bits ≤ bound := by
  by_contra larger
  obtain ⟨before, rfl⟩ : ∃ before, bits = before + 1 := ⟨bits - 1, by omega⟩
  refine nearest.above before rfl (.inl (lt_of_le_of_lt le ?_))
  exact (format.value_lt_midpoint bound).trans_le
    (format.midpoint_strictMono.monotone (by omega))

theorem Nearest.ge_of_ge (nearest : format.Nearest number bits)
    (inside : bound ≤ format.infinityBits) (ge : format.value bound ≤ number) : bound ≤ bits := by
  by_contra smaller
  have under := nearest.below (by omega)
  have apart := (format.midpoint_lt_value bits).trans_le
    ((format.value_strictMono.monotone (by omega : bits + 1 ≤ bound)).trans ge)
  rcases under with below | ⟨equal, _⟩
  · exact lt_asymm below apart
  · exact apart.ne' equal

theorem Nearest.eq_of_eq (nearest : format.Nearest number bits)
    (inside : bound ≤ format.infinityBits) (equal : number = format.value bound) : bits = bound :=
  nearest.unique (equal ▸ nearest_value inside)

theorem nearest_zero (small : number < format.midpoint 0) : format.Nearest number 0 where
  bounded := Nat.zero_le _
  above before next := absurd next (Nat.succ_ne_zero before)
  below _ := .inl small

/-- What is not below infinity is rounded to it. -/
theorem nearest_infinity (large : format.value format.infinityBits ≤ number) :
    format.Nearest number format.infinityBits where
  bounded := le_rfl
  above before next under := by
    have apart := format.midpoint_lt_value before
    rw [next] at apart
    rcases under with below | ⟨equal, _⟩
    · exact lt_asymm below (apart.trans_le large)
    · exact (apart.trans_le large).ne' equal
  below inside := absurd inside (lt_irrefl _)

/-- The format keeps the bits of a number down to the least exponent raised by `shift`. -/
structure Keeps (format : Format) (number : ℚ) (shift : Nat) : Prop where
  fits : number < (2 * format.unit : Nat) * 2 ^ (format.leastExponent + shift)
  normal : shift = 0 ∨ format.unit * 2 ^ (format.leastExponent + shift) ≤ number

theorem keeps_of_lt (small : number < 2 ^ format.leastExponent) : format.Keeps number 0 where
  fits := by
    have wider : (1 : ℚ) ≤ (2 * format.unit : Nat) := by
      have := format.unit_pos
      exact_mod_cast (by omega : 1 ≤ 2 * format.unit)
    rw [Nat.cast_zero, add_zero]
    exact small.trans_le (le_mul_of_one_le_left (two_zpow_pos _).le wider)
  normal := .inl rfl

theorem even_grid (wide : 2 ≤ format.precision) {shift significand : Nat} :
    Even (shift * format.unit + significand) ↔ Even significand := by
  have unit : Even format.unit :=
    (Nat.even_pow.mpr ⟨even_two, by omega⟩ : Even (2 ^ (format.precision - 1)))
  rw [Nat.even_add, iff_true_left (unit.mul_left shift)]

section Kept
variable {shift significand : Nat} (keeps : format.Keeps number shift)
  (rounds : RoundsEven (number / 2 ^ (format.leastExponent + shift)) significand)
include keeps rounds

theorem Keeps.significand_le : significand ≤ 2 * format.unit :=
  rounds.le_of_le ((div_lt_iff₀ (two_zpow_pos _)).mpr keeps.fits).le

theorem Keeps.unit_le : shift = 0 ∨ format.unit ≤ significand :=
  keeps.normal.imp_right fun large => rounds.ge_of_ge ((le_div_iff₀ (two_zpow_pos _)).mpr large)

theorem Keeps.under (wide : 2 ≤ format.precision) :
    format.Under (shift * format.unit + significand) number := by
  have significand_le := keeps.significand_le rounds
  have unit_le := keeps.unit_le rounds
  have scale := two_zpow_pos (format.leastExponent + shift)
  rcases significand_le.eq_or_lt with full | inside
  · left
    refine lt_trans ?_ (format.value_lt_midpoint _)
    rw [value_grid significand_le unit_le, full]
    exact keeps.fits
  · rw [Under, midpoint_grid inside unit_le, even_grid wide, ← div_lt_iff₀ scale,
      ← div_eq_iff scale.ne']
    exact rounds.below

theorem Keeps.not_under (wide : 2 ≤ format.precision) {before : Nat}
    (next : before + 1 = shift * format.unit + significand) : ¬ format.Under before number := by
  intro under
  have significand_le := keeps.significand_le rounds
  have unit_le := keeps.unit_le rounds
  have scale := two_zpow_pos (format.leastExponent + shift)
  rcases Nat.eq_zero_or_pos significand with rfl | positive
  · rcases unit_le with rfl | impossible
    · omega
    · exact absurd format.unit_pos (Nat.not_lt.mpr impossible)
  · obtain rfl : before = shift * format.unit + (significand - 1) := by omega
    have inside : significand - 1 < 2 * format.unit := by omega
    by_cases small : shift = 0 ∨ format.unit ≤ significand - 1
    · have half : ((significand - 1 : Nat) : ℚ) + 1 / 2 = significand - 1 / 2 := by
        rw [Nat.cast_pred positive]
        ring
      rw [Under, midpoint_grid inside small, even_grid wide, half, ← div_lt_iff₀ scale,
        ← div_eq_iff scale.ne'] at under
      rcases rounds.above with less | ⟨equal, even⟩
      · rcases under with below | ⟨equal, _⟩
        · exact lt_asymm less below
        · exact less.ne' equal
      · rcases under with below | ⟨_, odd⟩
        · exact below.ne' equal
        · exact Nat.not_even_iff_odd.mpr (Nat.Even.sub_odd positive even odd_one) odd
    · -- The smallest significand of an exponent is only reached from above.
      push Not at small
      obtain ⟨shifted, smaller⟩ := small
      have least : significand = format.unit := by
        rcases unit_le with zero | large
        · exact absurd zero shifted
        · omega
      have large := keeps.normal.resolve_left shifted
      have reached := format.midpoint_lt_value (shift * format.unit + (significand - 1))
      rw [Nat.add_assoc, Nat.sub_add_cancel positive, value_grid significand_le unit_le, least]
        at reached
      rw [least] at under
      rcases under with less | ⟨equal, _⟩
      · exact lt_asymm (less.trans reached) (lt_of_le_of_ne large (less.trans reached).ne')
      · exact absurd large (not_le.mpr (equal ▸ reached))

/-- Rounding to the last bit that the format keeps is rounding to the nearest value. -/
theorem Keeps.nearest (wide : 2 ≤ format.precision) :
    format.Nearest number (min (shift * format.unit + significand) format.infinityBits) where
  bounded := min_le_right _ _
  above before next under := by
    rcases le_total (shift * format.unit + significand) format.infinityBits with small | large
    · rw [min_eq_left small] at next
      exact keeps.not_under rounds wide next under
    · rw [min_eq_right large] at next
      rcases Nat.eq_zero_or_pos (shift * format.unit + significand) with zero | positive
      · omega
      · exact keeps.not_under rounds wide (Nat.sub_add_cancel positive) (under.mono (by omega))
  below inside := by
    rw [min_lt_iff, or_iff_left (lt_irrefl _)] at inside
    rw [min_eq_left inside.le]
    exact keeps.under rounds wide

end Kept
end Nearness
end Format

/-- Scaling both sides of a quotient by powers of a base divides it by a power of any exponent. -/
theorem scaled_quotient (base numerator denominator : Nat) (exponent : Int) :
    ((numerator * Nat.pow base (-exponent).toNat : Nat) : ℚ) /
      (denominator * Nat.pow base exponent.toNat : Nat) =
      (numerator : ℚ) / denominator / (base : ℚ) ^ exponent := by
  have power (count : Nat) : ((Nat.pow base count : Nat) : ℚ) = base ^ count :=
    Nat.cast_pow base count
  rw [Nat.cast_mul, Nat.cast_mul, power, power]
  rcases Int.le_total 0 exponent with nonneg | nonpos
  · obtain ⟨count, rfl⟩ := Int.eq_ofNat_of_zero_le nonneg
    rw [show (-(count : Int)).toNat = 0 by omega, Int.toNat_natCast, zpow_natCast, pow_zero,
      mul_one, div_div]
  · obtain ⟨count, rfl⟩ := Int.exists_eq_neg_ofNat nonpos
    rw [neg_neg, Int.toNat_natCast, show (-(count : Int)).toNat = 0 by omega, zpow_neg,
      zpow_natCast, pow_zero, mul_one, div_inv_eq_mul, div_mul_eq_mul_div]

theorem scaled_two (numerator denominator : Nat) (exponent : Int) :
    ((numerator * Nat.pow 2 (-exponent).toNat : Nat) : ℚ) /
      (denominator * Nat.pow 2 exponent.toNat : Nat) =
      (numerator : ℚ) / denominator / 2 ^ exponent :=
  scaled_quotient 2 numerator denominator exponent

theorem scaled_integer (base number : Nat) (exponent : Int) :
    ((number * Nat.pow base exponent.toNat : Nat) : ℚ) / (Nat.pow base (-exponent).toNat : Nat) =
      number * (base : ℚ) ^ exponent := by
  have quotient := scaled_quotient base number 1 (-exponent)
  rwa [neg_neg, one_mul, Nat.cast_one, div_one, zpow_neg, div_inv_eq_mul] at quotient

theorem roundsEven_scaled (numerator : Nat) {denominator : Nat} (positive : 0 < denominator)
    (exponent : Int) :
    RoundsEven (numerator / denominator / 2 ^ exponent)
      (roundQuotient (numerator * Nat.pow 2 (-exponent).toNat)
        (denominator * Nat.pow 2 exponent.toNat)) := by
  rw [← scaled_two]
  exact roundsEven_roundQuotient _ (Nat.mul_pos positive (Nat.pow_pos two_pos))

theorem reaches_iff (numerator : Nat) {denominator : Nat} (positive : 0 < denominator)
    (exponent : Int) :
    reaches numerator denominator exponent ↔ (2 : ℚ) ^ exponent ≤ numerator / denominator := by
  have scale : 0 < denominator * Nat.pow 2 exponent.toNat :=
    Nat.mul_pos positive (Nat.pow_pos (by decide))
  have scaled : (0 : ℚ) < (denominator * Nat.pow 2 exponent.toNat : Nat) := by exact_mod_cast scale
  rw [reaches, decide_eq_true_iff, ← one_le_div (two_zpow_pos exponent), ← scaled_two,
    one_le_div scaled, Nat.cast_le]

namespace Format
variable {format : Format}

theorem two_mul_unit (wide : 2 ≤ format.precision) :
    ((2 * format.unit : Nat) : ℚ) = 2 ^ (format.precision : Int) := by
  have whole : 2 * format.unit = 2 ^ format.precision := by
    rw [unit, mul_comm]
    exact Nat.pow_pred_mul (by omega)
  rw [whole, zpow_natCast]
  exact Nat.cast_pow 2 _

/-- The logarithms of a quotient's sides leave two candidates for that of the quotient. -/
theorem le_leading {numerator denominator : Nat} (numerator_ne_zero : numerator ≠ 0)
    (denominator_ne_zero : denominator ≠ 0) :
    (2 : ℚ) ^ ((numerator.log2 : Int) - denominator.log2 - 1) ≤ numerator / denominator ∧
      (numerator : ℚ) / denominator < 2 ^ ((numerator.log2 : Int) - denominator.log2 + 1) := by
  have low {number : Nat} (nonzero : number ≠ 0) : (2 : ℚ) ^ (number.log2 : Int) ≤ number := by
    rw [zpow_natCast]
    exact_mod_cast Nat.log2_self_le nonzero
  have high (number : Nat) : (number : ℚ) < 2 ^ ((number.log2 : Int) + 1) := by
    rw [← Nat.cast_add_one, zpow_natCast]
    exact_mod_cast Nat.lt_log2_self (n := number)
  have positive : (0 : ℚ) < denominator := by exact_mod_cast Nat.pos_of_ne_zero denominator_ne_zero
  constructor
  · rw [sub_sub, zpow_sub₀ two_ne_zero]
    exact div_le_div₀ (Nat.cast_nonneg _) (low numerator_ne_zero) positive (high denominator).le
  · rw [sub_add_eq_add_sub, zpow_sub₀ two_ne_zero]
    exact div_lt_div₀ (high numerator) (low denominator_ne_zero) (two_zpow_pos _).le
      (two_zpow_pos _)

/-- The exponent of the last bit that a format keeps of a number, by that of the first bit. -/
def lastExponent (format : Format) (leading : Int) : Int :=
  max (leading + 1 - format.precision) format.leastExponent

theorem lastExponent_eq (format : Format) (leading : Int) :
    format.lastExponent leading = format.leastExponent +
      ((format.lastExponent leading - format.leastExponent).toNat : Int) := by
  unfold lastExponent
  omega

/-- So many bits of a significand are not kept. -/
theorem dropped_eq (format : Format) (leading shift : Nat) :
    (format.lastExponent (leading + (format.leastExponent + shift)) -
      (format.leastExponent + shift)).toNat = leading + 1 - format.precision := by
  unfold lastExponent
  omega

theorem keeps_of_leading (wide : 2 ≤ format.precision) {number : ℚ} {leading : Int}
    (reached : 2 ^ leading ≤ number) (bounded : number < 2 ^ (leading + 1)) :
    format.Keeps number (format.lastExponent leading - format.leastExponent).toNat where
  fits := by
    rw [← lastExponent_eq, two_mul_unit wide, ← zpow_add₀ two_ne_zero]
    refine bounded.trans_le (zpow_le_zpow_right₀ one_le_two ?_)
    unfold lastExponent
    omega
  normal := by
    rw [← lastExponent_eq, or_iff_not_imp_left]
    intro normal
    have half : (format.unit : ℚ) = 2 ^ ((format.precision : Int) - 1) := by
      have whole := two_mul_unit wide
      rw [← sub_add_cancel (format.precision : Int) 1, two_zpow_succ] at whole
      push_cast at whole
      linarith
    rw [half, ← zpow_add₀ two_ne_zero]
    refine (zpow_le_zpow_right₀ one_le_two ?_).trans reached
    unfold lastExponent at normal ⊢
    omega

theorem nearest_of_leading (wide : 2 ≤ format.precision) {number : ℚ} {leading : Int}
    (reached : 2 ^ leading ≤ number) (bounded : number < 2 ^ (leading + 1)) {significand : Nat}
    (rounds : RoundsEven (number / 2 ^ format.lastExponent leading) significand) :
    format.Nearest number
      (min ((format.lastExponent leading - format.leastExponent).toNat * format.unit + significand)
        format.infinityBits) :=
  (keeps_of_leading wide reached bounded).nearest (by rwa [← lastExponent_eq]) wide

/-- The bits found for a quotient are those of the nearest value. -/
theorem nearest_quotient (wide : 2 ≤ format.precision) (numerator : Nat) {denominator : Nat}
    (positive : 0 < denominator) :
    format.Nearest (numerator / denominator) (format.nearest numerator denominator) := by
  by_cases zero : numerator = 0
  · have nearest := format.nearest_value (Nat.zero_le format.infinityBits)
    rw [value_zero] at nearest
    rw [Format.nearest, if_pos zero, zero, Nat.cast_zero, zero_div]
    exact nearest
  · rw [Format.nearest, if_neg zero]
    have candidates := le_leading zero positive.ne'
    set first := (numerator.log2 : Int) - denominator.log2
    have leading (top : Int) (reached : (2 : ℚ) ^ top ≤ numerator / denominator)
        (bounded : (numerator : ℚ) / denominator < 2 ^ (top + 1)) :=
      nearest_of_leading wide reached bounded (roundsEven_scaled numerator positive _)
    by_cases reaching : reaches numerator denominator first
    · have reached := (reaches_iff numerator positive first).mp reaching
      simp only [if_pos reaching]
      exact leading first reached candidates.2
    · have bounded := not_le.mp fun small => reaching ((reaches_iff _ positive first).mpr small)
      simp only [if_neg reaching]
      exact leading (first - 1) candidates.1 (by rwa [sub_add_cancel])

end Format
end SceneGraph.Binary
