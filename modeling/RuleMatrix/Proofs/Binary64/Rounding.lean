import Mathlib.Algebra.Order.Ring.Nat
import RuleMatrix.Binary64

set_option autoImplicit false

namespace RuleMatrix

theorem round_half_even_scaled (num den factor : Nat) (positive : 0 < factor) :
    roundHalfEven (num * factor) (den * factor) = roundHalfEven num den := by
  have whole : num * factor / (den * factor) = num / den := Nat.mul_div_mul_right _ _ positive
  have left : 2 * (num * factor % (den * factor)) = 2 * (num % den) * factor := by
    rw [Nat.mul_mod_mul_right, Nat.mul_assoc]
  simp only [roundHalfEven, whole, left, Nat.mul_lt_mul_right positive]

theorem round_half_even_small (num den : Nat) (small : 2 * num < den) :
    roundHalfEven num den = 0 := by
  have below : num < den := by omega
  rw [roundHalfEven, Nat.mod_eq_of_lt below, if_pos small, Nat.div_eq_of_lt below]

theorem round_half_even_nearest (num den other : Nat) (positive : 0 < den) :
    ((num : Int) - (roundHalfEven num den * den : Nat)).natAbs ≤
      ((num : Int) - (other * den : Nat)).natAbs := by
  have parts := Nat.div_add_mod num den
  rw [Nat.mul_comm] at parts
  have rest := Nat.mod_lt num positive
  have next : (num / den + 1) * den = num / den * den + den := Nat.succ_mul _ _
  have sides : other * den ≤ num / den * den ∨ (num / den + 1) * den ≤ other * den := by
    rcases Nat.lt_or_ge (num / den) other with above | below
    · exact .inr (Nat.mul_le_mul_right den above)
    · exact .inl (Nat.mul_le_mul_right den below)
  unfold roundHalfEven
  dsimp only
  split
  · omega
  · split
    · omega
    · split <;> omega

namespace Binary64

theorem rounded_scaled (num den factor : Nat) (positive : 0 < factor) :
    rounded (num * factor) (den * factor) = rounded num den := by
  have whole : num * factor / (den * factor) = num / den := Nat.mul_div_mul_right _ _ positive
  simp only [rounded, whole, Nat.mul_right_comm den factor, round_half_even_scaled _ _ _ positive]

theorem rounded_ratio (num den num' den' : Nat) (positive : 0 < den) (positive' : 0 < den')
    (ratio : num * den' = num' * den) : rounded num den = rounded num' den' := by
  calc rounded num den
      = rounded (num * den') (den * den') := (rounded_scaled num den den' positive').symm
    _ = rounded (num' * den) (den' * den) := by rw [ratio, Nat.mul_comm den den']
    _ = rounded num' den' := rounded_scaled num' den' den positive

-- At most 53 significant bits, however many zeros behind them.
def Significant (n : Nat) : Prop :=
  ∃ significand shift, significand < twoPow 53 ∧ n = significand * twoPow shift

theorem small_significant (n : Nat) (small : n ≤ twoPow 53) : Significant n := by
  by_cases full : n = twoPow 53
  · exact ⟨1, 53, by decide, full.trans (Nat.one_mul _).symm⟩
  · exact ⟨n, 0, by omega, (Nat.mul_one n).symm⟩

theorem shifted_significant (n shift : Nat) (fits : Significant n) :
    Significant (n * twoPow shift) := by
  obtain ⟨significand, bits, bound, rfl⟩ := fits
  exact ⟨significand, bits + shift, bound, by rw [twoPow_add, Nat.mul_assoc]⟩

theorem rounded_whole (n : Nat) :
    rounded n 1 = roundHalfEven n (twoPow (excess n)) * twoPow (excess n) := by
  rw [rounded, Nat.div_one, Nat.one_mul]

theorem rounded_significant (n : Nat) : Significant (rounded n 1) := by
  have upper := significand_le n 1
  rw [Nat.div_one, Nat.one_mul] at upper
  rw [rounded_whole]
  exact shifted_significant _ _ (small_significant _ upper)

-- A number with fewer zeros than are cut off lies below the power of two that `n` reaches.
theorem rounded_nearest (n other : Nat) (fits : Significant other) :
    ((n : Int) - rounded n 1).natAbs ≤ ((n : Int) - other).natAbs := by
  obtain ⟨significand, shift, bound, rfl⟩ := fits
  rw [rounded_whole]
  by_cases multiple : excess n ≤ shift
  · have nearest := round_half_even_nearest n (twoPow (excess n))
      (significand * twoPow (shift - excess n)) (twoPow_pos _)
    rwa [Nat.mul_assoc, ← twoPow_add, Nat.sub_add_cancel multiple] at nearest
  · have cut : 52 + excess n = n.log2 := by
      unfold excess at multiple ⊢
      omega
    have nonzero : n ≠ 0 := by
      rintro rfl
      exact multiple (Nat.zero_le shift)
    have reached : twoPow 52 * twoPow (excess n) ≤ n := by
      rw [← twoPow_add, cut]
      exact twoPow_log2_le nonzero
    have below : significand * twoPow shift ≤ twoPow 52 * twoPow (excess n) := by
      calc significand * twoPow shift
          ≤ twoPow 53 * twoPow shift := Nat.mul_le_mul_right _ (Nat.le_of_lt bound)
        _ = twoPow (53 + shift) := (twoPow_add 53 shift).symm
        _ ≤ twoPow (52 + excess n) := twoPow_le (by omega)
        _ = twoPow 52 * twoPow (excess n) := twoPow_add 52 _
    have nearest := round_half_even_nearest n (twoPow (excess n)) (twoPow 52) (twoPow_pos _)
    omega

theorem rounded_of_significant (n : Nat) (fits : Significant n) : rounded n 1 = n := by
  have nearest := rounded_nearest n n fits
  omega

-- Were the order turned round, both numbers would lie in the middle between their results.
theorem rounded_monotone (m n : Nat) (less : m ≤ n) : rounded m 1 ≤ rounded n 1 := by
  by_cases same : m = n
  · rw [same]
  · have lower := rounded_nearest m (rounded n 1) (rounded_significant n)
    have upper := rounded_nearest n (rounded m 1) (rounded_significant m)
    omega

theorem log2_shifted (n shift : Nat) (nonzero : n ≠ 0) :
    (n * twoPow shift).log2 = n.log2 + shift := by
  induction shift with
  | zero => exact congrArg Nat.log2 (Nat.mul_one n)
  | succ shift ih =>
      have filled : n * twoPow shift ≠ 0 := Nat.mul_ne_zero nonzero (Nat.ne_of_gt (twoPow_pos shift))
      rw [twoPow_succ, Nat.mul_left_comm, Nat.log2_two_mul filled, ih, Nat.add_assoc]

theorem rounded_shifted (n shift : Nat) :
    rounded (n * twoPow shift) 1 = rounded n 1 * twoPow shift := by
  by_cases large : 52 ≤ n.log2
  · have nonzero : n ≠ 0 := by
      rintro rfl
      exact absurd large (by decide)
    have cut : excess (n * twoPow shift) = excess n + shift := by
      unfold excess
      rw [log2_shifted n shift nonzero]
      omega
    rw [rounded_whole, rounded_whole, cut, twoPow_add,
      round_half_even_scaled _ _ _ (twoPow_pos shift), Nat.mul_assoc]
  · have small : n < twoPow 53 :=
      Nat.lt_of_lt_of_le (lt_twoPow_log2 n) (twoPow_le (by omega))
    have fits := small_significant n (Nat.le_of_lt small)
    rw [rounded_of_significant n fits, rounded_of_significant _ (shifted_significant n shift fits)]

theorem word_below_overflow (n : Nat) (fits : n ≤ twoPow 64) :
    rounded (n * one) 1 < overflow := by
  have significant : Significant (twoPow 64 * one) := by
    rw [one]
    exact shifted_significant (twoPow 64) 1074 ⟨1, 64, by decide, (Nat.one_mul _).symm⟩
  calc rounded (n * one) 1
      ≤ rounded (twoPow 64 * one) 1 := rounded_monotone _ _ (Nat.mul_le_mul_right one fits)
    _ = twoPow 64 * one := rounded_of_significant _ significant
    _ = twoPow (64 + 1074) := by rw [one, twoPow_add]
    _ < overflow := twoPow_lt (by decide)

theorem rounded_representable (units : Nat) (fits : Representable units) :
    rounded units 1 = units := by
  obtain ⟨significand, shift, bound, _, same⟩ := fits
  exact rounded_of_significant units ⟨significand, shift, bound, same⟩

theorem rounded_small (num den : Nat) (small : 2 * num < den) : rounded num den = 0 := by
  have none : num / den = 0 := Nat.div_eq_of_lt (by omega)
  have whole : den * twoPow (excess 0) = den := Nat.mul_one den
  rw [rounded, none, whole, round_half_even_small num den small, Nat.zero_mul]

theorem overflow_le_rounded (num den : Nat) (positive : 0 < den) (large : overflow * den ≤ num) :
    overflow ≤ rounded num den := by
  have quotient : overflow ≤ num / den := (Nat.le_div_iff_mul_le positive).mpr large
  have length : 2098 ≤ (num / den).log2 := by
    by_contra short
    have upper : num / den < twoPow 2098 :=
      Nat.lt_of_lt_of_le (lt_twoPow_log2 _) (twoPow_le (by omega))
    exact absurd quotient (Nat.not_le.mpr upper)
  have cut : 52 + excess (num / den) = (num / den).log2 := by
    unfold excess
    omega
  have lower := le_significand num den (by omega)
  calc overflow
      ≤ twoPow (52 + excess (num / den)) := twoPow_le (by omega)
    _ = twoPow 52 * twoPow (excess (num / den)) := twoPow_add 52 _
    _ ≤ rounded num den := Nat.mul_le_mul_right _ lower

theorem nearest_ratio (negative : Bool) (num den num' den' : Nat) (positive : 0 < den)
    (positive' : 0 < den') (ratio : num * den' = num' * den) :
    nearest negative num den = nearest negative num' den' := by
  simp only [nearest, rounded_ratio num den num' den' positive positive' ratio]

theorem representable_lt_overflow (units : Nat) (fits : Representable units) :
    units < overflow := by
  obtain ⟨significand, shift, bound, short, rfl⟩ := fits
  calc significand * twoPow shift
      < twoPow 53 * twoPow shift := Nat.mul_lt_mul_of_pos_right bound (twoPow_pos shift)
    _ = twoPow (53 + shift) := (twoPow_add 53 shift).symm
    _ ≤ overflow := twoPow_le (by omega)

theorem nearest_itself (x : Binary64) : nearest x.negative x.units 1 = some x := by
  obtain ⟨negative, units, fits⟩ := x
  have same := rounded_representable units fits
  have finite : rounded units 1 < overflow := same.symm ▸ representable_lt_overflow units fits
  simp only [nearest, same]
  rw [dif_pos (same ▸ finite)]

theorem nearest_small (negative : Bool) (num den : Nat) (small : 2 * num < den) :
    nearest negative num den = some (zero negative) := by
  have none := rounded_small num den small
  have finite : 0 < overflow := twoPow_pos 2098
  simp only [nearest, none, dif_pos finite, zero]

theorem nearest_large (negative : Bool) (num den : Nat) (positive : 0 < den)
    (large : overflow * den ≤ num) : nearest negative num den = none :=
  dif_neg (Nat.not_lt.mpr (overflow_le_rounded num den positive large))

end Binary64

end RuleMatrix
