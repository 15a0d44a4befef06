import Mathlib.Tactic.Ring
import RuleMatrix.Decimal
import RuleMatrix.Proofs.Binary64.Rounding

set_option autoImplicit false

namespace RuleMatrix

theorem tenPow_add (a b : Nat) : tenPow (a + b) = tenPow a * tenPow b := Nat.pow_add 10 a b

theorem tenPow_pos (places : Nat) : 0 < tenPow places := Nat.pow_pos (by decide)

theorem tenPow_split (places : Nat) : tenPow places = Nat.pow 5 places * twoPow places :=
  Nat.mul_pow 5 2 places

theorem twoPow_le_tenPow (places : Nat) : twoPow (3 * places) ≤ tenPow places := by
  have eight : twoPow (3 * places) = 8 ^ places := Nat.pow_mul 2 3 places
  rw [eight]
  exact Nat.pow_le_pow_left (by decide) places

namespace Decimal

def numerator (d : Decimal) : Nat := d.coefficient * tenPow d.exponent.toNat * Binary64.one

def denominator (d : Decimal) : Nat := tenPow (-d.exponent).toNat

theorem denominator_pos (d : Decimal) : 0 < d.denominator := tenPow_pos _

theorem numerator_whole (negative : Bool) (coefficient places : Nat) :
    numerator ⟨negative, coefficient, .ofNat places⟩ = coefficient * tenPow places * Binary64.one :=
  rfl

theorem denominator_whole (negative : Bool) (coefficient places : Nat) :
    denominator ⟨negative, coefficient, .ofNat places⟩ = 1 := by
  cases places <;> rfl

theorem numerator_fraction (negative : Bool) (coefficient fewer : Nat) :
    numerator ⟨negative, coefficient, .negSucc fewer⟩ = coefficient * Binary64.one := by
  change coefficient * 1 * Binary64.one = _
  rw [Nat.mul_one]

theorem denominator_fraction (negative : Bool) (coefficient fewer : Nat) :
    denominator ⟨negative, coefficient, .negSucc fewer⟩ = tenPow (fewer + 1) := rfl

theorem large_overflows (coefficient places : Nat) (nonzero : coefficient ≠ 0)
    (large : 1024 ≤ coefficient.log2 + 3 * places) :
    Binary64.overflow ≤ coefficient * tenPow places * Binary64.one := by
  have power : twoPow 1024 ≤ coefficient * tenPow places := by
    calc twoPow 1024
        ≤ twoPow (coefficient.log2 + 3 * places) := twoPow_le large
      _ = twoPow coefficient.log2 * twoPow (3 * places) := twoPow_add _ _
      _ ≤ coefficient * tenPow places :=
          Nat.mul_le_mul (twoPow_log2_le nonzero) (twoPow_le_tenPow places)
  have product : Binary64.overflow = twoPow 1024 * Binary64.one := by
    rw [Binary64.overflow, Binary64.one, ← twoPow_add]
  rw [product]
  exact Nat.mul_le_mul_right Binary64.one power

theorem tiny_vanishes (coefficient places : Nat) (tiny : coefficient.log2 + 1076 < 3 * places) :
    2 * (coefficient * Binary64.one) < tenPow places := by
  have unit : 2 * Binary64.one = twoPow 1075 := by rw [Binary64.one, ← twoPow_succ]
  calc 2 * (coefficient * Binary64.one)
      = coefficient * twoPow 1075 := by rw [Nat.mul_left_comm, unit]
    _ < twoPow (coefficient.log2 + 1) * twoPow 1075 :=
        Nat.mul_lt_mul_of_pos_right (lt_twoPow_log2 coefficient) (twoPow_pos 1075)
    _ = twoPow (coefficient.log2 + 1 + 1075) := (twoPow_add _ _).symm
    _ ≤ twoPow (3 * places) := twoPow_le (by omega)
    _ ≤ tenPow places := twoPow_le_tenPow places

-- Both early answers are what rounding the quotient would give.
theorem nearest_quotient (d : Decimal) :
    d.nearest = Binary64.nearest d.negative d.numerator d.denominator := by
  obtain ⟨negative, coefficient, exponent⟩ := d
  cases exponent with
  | ofNat places =>
      rw [numerator_whole, denominator_whole, nearest]
      dsimp only
      by_cases none : coefficient = 0
      · have small : 2 * (0 * tenPow places * Binary64.one) < 1 := by
          rw [Nat.zero_mul, Nat.zero_mul]
          decide
        rw [none, if_pos rfl]
        exact (Binary64.nearest_small negative _ 1 small).symm
      · by_cases large : 1024 ≤ coefficient.log2 + 3 * places
        · have above := large_overflows coefficient places none large
          rw [if_neg none, if_pos large]
          exact (Binary64.nearest_large negative _ 1 (by decide) (by rwa [Nat.mul_one])).symm
        · rw [if_neg none, if_neg large]
  | negSucc fewer =>
      rw [numerator_fraction, denominator_fraction, nearest]
      dsimp only
      by_cases tiny : coefficient.log2 + 1076 < 3 * (fewer + 1)
      · rw [if_pos tiny]
        exact (Binary64.nearest_small negative _ _ (tiny_vanishes coefficient _ tiny)).symm
      · rw [if_neg tiny]

theorem nearest_whole (negative : Bool) (n : Nat) :
    nearest ⟨negative, n, 0⟩ = Binary64.nearest negative (n * Binary64.one) 1 := by
  have whole : numerator ⟨negative, n, 0⟩ = n * Binary64.one :=
    congrArg (fun scaled => scaled * Binary64.one) (Nat.mul_one n)
  have single : denominator ⟨negative, n, 0⟩ = 1 := rfl
  rw [nearest_quotient, whole, single]

theorem nearest_zero (negative : Bool) (exponent : Int) :
    nearest ⟨negative, 0, exponent⟩ = some (Binary64.zero negative) := by
  have none : numerator ⟨negative, 0, exponent⟩ = 0 := by
    rw [numerator, Nat.zero_mul, Nat.zero_mul]
  rw [nearest_quotient, none]
  exact Binary64.nearest_small negative 0 _ (denominator_pos _)

-- Two decimals of one value: trailing zeros of the coefficient may go into the exponent.
theorem nearest_shifted (negative : Bool) (coefficient zeros : Nat) (exponent : Int) :
    nearest ⟨negative, coefficient * tenPow zeros, exponent⟩ =
      nearest ⟨negative, coefficient, exponent + zeros⟩ := by
  rw [nearest_quotient, nearest_quotient]
  apply Binary64.nearest_ratio negative _ _ _ _ (denominator_pos _) (denominator_pos _)
  have places : zeros + exponent.toNat + (-(exponent + zeros)).toNat =
      (exponent + zeros).toNat + (-exponent).toNat := by omega
  have powers : tenPow zeros * tenPow exponent.toNat * tenPow (-(exponent + zeros)).toNat =
      tenPow (exponent + zeros).toNat * tenPow (-exponent).toNat := by
    rw [← tenPow_add, ← tenPow_add, places, tenPow_add]
  unfold numerator denominator
  dsimp only
  calc coefficient * tenPow zeros * tenPow exponent.toNat * Binary64.one
        * tenPow (-(exponent + zeros)).toNat
      = coefficient * Binary64.one *
          (tenPow zeros * tenPow exponent.toNat * tenPow (-(exponent + zeros)).toNat) := by ring
    _ = coefficient * tenPow (exponent + zeros).toNat * Binary64.one * tenPow (-exponent).toNat := by
        rw [powers]
        ring

end Decimal

end RuleMatrix
