/-!
Finite binary64 numbers, held exactly: a sign, and a magnitude counted in units of `2 ^ -1074`,
the smallest positive one. `Binary64.nearest` rounds a quotient of units to the nearest number,
a half to the even neighbour; its result is representable because a quotient cut at 53 significant
bits rounds to at most `2 ^ 53` of them.
-/
set_option autoImplicit false

namespace RuleMatrix

def roundHalfEven (num den : Nat) : Nat :=
  let whole := num / den
  let twice := 2 * (num % den)
  if twice < den then whole
  else if den < twice then whole + 1
  else if whole % 2 = 0 then whole else whole + 1

theorem le_roundHalfEven (num den : Nat) : num / den ≤ roundHalfEven num den := by
  unfold roundHalfEven
  dsimp only
  split
  · exact Nat.le_refl _
  · split
    · exact Nat.le_succ _
    · split
      · exact Nat.le_refl _
      · exact Nat.le_succ _

theorem roundHalfEven_le (num den : Nat) : roundHalfEven num den ≤ num / den + 1 := by
  unfold roundHalfEven
  dsimp only
  split
  · exact Nat.le_succ _
  · split
    · exact Nat.le_refl _
    · split
      · exact Nat.le_succ _
      · exact Nat.le_refl _

def twoPow (bits : Nat) : Nat := Nat.pow 2 bits

theorem twoPow_pos (bits : Nat) : 0 < twoPow bits := Nat.two_pow_pos bits

theorem twoPow_succ (bits : Nat) : twoPow (bits + 1) = 2 * twoPow bits := Nat.pow_succ'

theorem twoPow_add (a b : Nat) : twoPow (a + b) = twoPow a * twoPow b := Nat.pow_add 2 a b

theorem twoPow_le {a b : Nat} (h : a ≤ b) : twoPow a ≤ twoPow b :=
  Nat.pow_le_pow_right (by decide) h

theorem twoPow_lt {a b : Nat} (h : a < b) : twoPow a < twoPow b :=
  Nat.pow_lt_pow_right (by decide) h

theorem lt_of_twoPow_lt {a b : Nat} (h : twoPow a < twoPow b) : a < b :=
  (Nat.pow_lt_pow_iff_right (by decide)).mp h

theorem lt_twoPow_log2 (n : Nat) : n < twoPow (n.log2 + 1) := Nat.lt_log2_self

theorem twoPow_log2_le {n : Nat} (h : n ≠ 0) : twoPow n.log2 ≤ n := Nat.log2_self_le h

def Representable (units : Nat) : Prop :=
  ∃ significand shift, significand < twoPow 53 ∧ shift ≤ 2045 ∧ units = significand * twoPow shift

structure Binary64 where
  negative : Bool
  units : Nat
  representable : Representable units
deriving DecidableEq

namespace Binary64

def one : Nat := twoPow 1074

def overflow : Nat := twoPow 2098

def zero (negative : Bool) : Binary64 :=
  ⟨negative, 0, 0, 0, twoPow_pos 53, Nat.zero_le _, (Nat.zero_mul _).symm⟩

def value (x : Binary64) : Int :=
  if x.negative then -(x.units : Int) else x.units

-- How many low bits of a whole number lie beyond its 53 highest.
def excess (whole : Nat) : Nat := whole.log2 - 52

theorem significand_le (num den : Nat) :
    roundHalfEven num (den * twoPow (excess (num / den))) ≤ twoPow 53 := by
  have high : num / den / twoPow (excess (num / den)) < twoPow 53 := by
    apply Nat.div_lt_of_lt_mul
    rw [← twoPow_add]
    apply Nat.lt_of_lt_of_le (lt_twoPow_log2 (num / den))
    apply twoPow_le
    unfold excess
    omega
  have step := roundHalfEven_le num (den * twoPow (excess (num / den)))
  rw [← Nat.div_div_eq_div_mul] at step
  omega

theorem le_significand (num den : Nat) (large : 0 < excess (num / den)) :
    twoPow 52 ≤ roundHalfEven num (den * twoPow (excess (num / den))) := by
  apply Nat.le_trans _ (le_roundHalfEven _ _)
  rw [← Nat.div_div_eq_div_mul, Nat.le_div_iff_mul_le (twoPow_pos _), ← twoPow_add]
  unfold excess at large ⊢
  have positive : num / den ≠ 0 := by
    intro none
    rw [none] at large
    exact absurd large (by decide)
  have same : 52 + ((num / den).log2 - 52) = (num / den).log2 := by omega
  rw [same]
  exact twoPow_log2_le positive

def rounded (num den : Nat) : Nat :=
  let shift := excess (num / den)
  roundHalfEven num (den * twoPow shift) * twoPow shift

theorem representable_of_lt (num den : Nat) (fits : rounded num den < overflow) :
    Representable (rounded num den) := by
  have upper := significand_le num den
  have lower := le_significand num den
  unfold rounded overflow at fits
  unfold rounded
  dsimp only at fits ⊢
  generalize roundHalfEven num (den * twoPow (excess (num / den))) = significand
    at fits upper lower ⊢
  generalize excess (num / den) = shift at fits lower ⊢
  have room : ∀ bits, twoPow bits ≤ significand → bits + shift < 2098 := by
    intro bits reach
    apply lt_of_twoPow_lt
    rw [twoPow_add]
    exact Nat.lt_of_le_of_lt (Nat.mul_le_mul_right _ reach) fits
  by_cases full : significand = twoPow 53
  · have bound := room 53 (Nat.le_of_eq full.symm)
    refine ⟨twoPow 52, shift + 1, by decide, by omega, ?_⟩
    rw [full, twoPow_succ 52, twoPow_succ shift, Nat.mul_left_comm, Nat.mul_assoc]
  · refine ⟨significand, shift, by omega, ?_, rfl⟩
    by_cases none : shift = 0
    · omega
    · have bound := room 52 (lower (by omega))
      omega

def nearest (negative : Bool) (num den : Nat) : Option Binary64 :=
  if fits : rounded num den < overflow then
    some ⟨negative, rounded num den, representable_of_lt num den fits⟩
  else none

end Binary64

end RuleMatrix
