import RuleMatrix.Decimal.Shortest
import RuleMatrix.Proofs.Decimal.Nearest
import RuleMatrix.Proofs.Text.Digit

set_option autoImplicit false

namespace RuleMatrix.Binary64

theorem on_grid_reads_back (x : Binary64) (exponent : Int) (coefficient : Nat)
    (found : x.onGrid exponent = some coefficient) :
    Decimal.nearest ⟨x.negative, coefficient, exponent⟩ = some x := by
  unfold onGrid at found
  dsimp only at found
  generalize x.units * tenPow (-exponent).toNat = num at found
  generalize one * tenPow exponent.toNat = den at found
  split at found
  · rename_i below above
    have lower := le_roundHalfEven num den
    have upper := roundHalfEven_le num den
    have near : coefficient = num / den ∨ coefficient = num / den + 1 := by
      have rounded := Option.some.inj found
      omega
    rcases near with rfl | rfl
    · exact of_decide_eq_true below
    · exact of_decide_eq_true above
  · rename_i below _
    exact Option.some.inj found ▸ of_decide_eq_true below
  · rename_i _ above
    exact Option.some.inj found ▸ of_decide_eq_true above
  · cases found

theorem units_read_back (x : Binary64) (bits : Nat) (unit : one = twoPow bits) :
    Decimal.nearest ⟨x.negative, x.units * Nat.pow 5 bits, -bits⟩ = some x := by
  have whole : (-(bits : Int)).toNat = 0 := by omega
  have places : (- -(bits : Int)).toNat = bits := by omega
  have unscaled : tenPow 0 = 1 := rfl
  rw [Decimal.nearest_quotient, Decimal.numerator, Decimal.denominator, whole, places, unscaled, unit]
  have same : x.units * Nat.pow 5 bits * 1 * twoPow bits * 1 = x.units * tenPow bits := by
    rw [Nat.mul_one, Nat.mul_one, Nat.mul_assoc, tenPow_split]
  rw [nearest_ratio x.negative _ _ x.units 1 (tenPow_pos bits) (by decide) same]
  exact nearest_itself x

theorem exact_reads_back (x : Binary64) : x.exact.nearest = some x := by
  have places : (-1074 : Int) = -((1074 : Nat) : Int) := rfl
  have unit : one = twoPow 1074 := rfl
  rw [exact, places]
  -- The exponent stays a variable, so that no power of it is computed.
  generalize 1074 = bits at unit ⊢
  exact units_read_back x bits unit

theorem shortest_reads_back (x : Binary64) :
    Decimal.nearest ⟨x.negative, x.shortest.coefficient, x.shortest.exponent⟩ = some x := by
  unfold shortest
  dsimp only
  generalize triedEq : List.findSome? _ _ = tried
  cases tried with
  | none => exact exact_reads_back x
  | some d =>
      obtain ⟨step, _, found⟩ := List.exists_of_findSome?_eq_some triedEq
      obtain ⟨coefficient, there, rfl⟩ := Option.map_eq_some_iff.mp found
      exact on_grid_reads_back x _ coefficient there

theorem shortest_positive (x : Binary64) (nonzero : x.units ≠ 0) : 0 < x.shortest.coefficient := by
  apply Nat.pos_of_ne_zero
  intro none
  have read := shortest_reads_back x
  rw [none, Decimal.nearest_zero, Option.some.injEq] at read
  exact nonzero (congrArg units read.symm)

end RuleMatrix.Binary64
