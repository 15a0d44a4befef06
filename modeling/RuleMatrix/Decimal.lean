import RuleMatrix.Binary64
import RuleMatrix.Text.Digit

/-!
Powers of ten are formed only where the result can be a nonzero finite number: `8 ^ k ≤ 10 ^ k`
settles the others, so a long exponent costs nothing.
-/
set_option autoImplicit false

namespace RuleMatrix

def tenPow (places : Nat) : Nat := Nat.pow 10 places

-- `coefficient * 10 ^ exponent`, with a sign that also a zero has.
structure Decimal where
  negative : Bool
  coefficient : Nat
  exponent : Int
deriving DecidableEq

namespace Decimal

def ofParts (negative : Bool) (whole fraction : List Char) (exponent : Int) : Decimal :=
  ⟨negative, ofDigits 10 (whole ++ fraction), exponent - fraction.length⟩

def nearest (d : Decimal) : Option Binary64 :=
  match d.exponent with
  | .ofNat places =>
      if d.coefficient = 0 then some (Binary64.zero d.negative)
      else if 1024 ≤ d.coefficient.log2 + 3 * places then none
      else Binary64.nearest d.negative (d.coefficient * tenPow places * Binary64.one) 1
  | .negSucc fewer =>
      let places := fewer + 1
      if d.coefficient.log2 + 1076 < 3 * places then some (Binary64.zero d.negative)
      else Binary64.nearest d.negative (d.coefficient * Binary64.one) (tenPow places)

end Decimal

end RuleMatrix
