import SceneGraph.Proofs.Binary.Machine

/-!
Rounding twice. The midpoints of singles are doubles, so rounding to a double takes no number across
one. A number that is rounded to a double first becomes the same single as if it were not, unless
the double is a midpoint itself.
-/
namespace SceneGraph.Binary

theorem single_infinity_le_double :
    single.value single.infinityBits ≤ double.value double.infinityBits := by
  have magnitude : double.magnitude double.infinityBits = ⟨4503599627370496, 972⟩ := by decide
  rw [single_infinity, Format.value, magnitude, Magnitude.value]
  calc (2 : ℚ) ^ 128 = 2 ^ (128 : Int) := by norm_num
    _ ≤ 2 ^ (972 : Int) := zpow_le_zpow_right₀ one_le_two (by decide)
    _ ≤ (4503599627370496 : Nat) * 2 ^ (972 : Int) :=
        le_mul_of_one_le_left (two_zpow_pos _).le (by norm_num)

theorem exists_double_midpoint {between : Nat} (inside : between < single.infinityBits) :
    ∃ bits ≤ double.infinityBits, double.value bits = single.midpoint between := by
  obtain ⟨shift, significand, rfl, fits, normal⟩ := single.exists_grid between
  have odd : 2 * significand + 1 ≤ 2 * double.unit := by
    have widths : 2 * single.unit ≤ double.unit := by decide
    omega
  obtain ⟨bits, held⟩ := double.exists_value odd (shift + 924)
  have same : double.value bits = single.midpoint (shift * single.unit + significand) := by
    have exponent : double.leastExponent + ((shift + 924 : Nat) : Int) + 1 =
        single.leastExponent + shift := by
      have least : double.leastExponent = -1074 := rfl
      have leastSingle : single.leastExponent = -149 := rfl
      omega
    rw [held, Format.midpoint_grid fits normal, ← exponent, two_zpow_succ]
    push_cast
    ring
  refine ⟨bits, double.value_strictMono.le_iff_le.mp ?_, same⟩
  rw [same]
  calc single.midpoint (shift * single.unit + significand)
      ≤ single.value (shift * single.unit + significand + 1) := (single.midpoint_lt_value _).le
    _ ≤ single.value single.infinityBits := single.value_strictMono.monotone inside
    _ ≤ double.value double.infinityBits := single_infinity_le_double

section Twice
variable {number : ℚ} {bits between : Nat} (nearest : double.Nearest number bits)
  (inside : between < single.infinityBits)
include nearest inside

/-- A number and its double are on the same side of a midpoint, which only the double may reach. -/
theorem under_double_iff (apart : double.value bits ≠ single.midpoint between) :
    single.Under between number ↔ single.Under between (double.value bits) := by
  obtain ⟨middle, bounded, held⟩ := exists_double_midpoint inside
  have below (le : number ≤ single.midpoint between) :
      double.value bits ≤ single.midpoint between := by
    rw [← held] at le ⊢
    exact double.value_strictMono.monotone (nearest.le_of_le le)
  have above (ge : single.midpoint between ≤ number) :
      single.midpoint between ≤ double.value bits := by
    rw [← held] at ge ⊢
    exact double.value_strictMono.monotone (nearest.ge_of_ge bounded ge)
  have under : single.Under between (double.value bits) ↔
      double.value bits < single.midpoint between :=
    ⟨fun under => under.resolve_right fun equal => apart equal.1, .inl⟩
  rw [under]
  constructor
  · rintro (less | ⟨equal, _⟩)
    · exact lt_of_le_of_ne (below less.le) apart
    · exact lt_of_le_of_ne (below equal.le) apart
  · intro less
    exact .inl (not_le.mp fun ge => (above ge).not_gt less)

end Twice

end SceneGraph.Binary
