import RuleMatrix.Decimal.Shortest

set_option autoImplicit false

namespace RuleMatrix

def InWord (n : Int) : Prop := -(twoPow 63 : Int) ≤ n ∧ n < twoPow 64

instance (n : Int) : Decidable (InWord n) := inferInstanceAs (Decidable (_ ∧ _))

inductive Number where
  | int (n : Int) (fits : InWord n)
  | real (x : Binary64)
deriving DecidableEq

namespace Number

def ofInt? (n : Int) : Option Number :=
  if fits : InWord n then some (.int n fits)
  else (Binary64.nearest (n < 0) (n.natAbs * Binary64.one) 1).map .real

def value : Number → Int
  | .int n _ => n.sign * Binary64.rounded (n.natAbs * Binary64.one) 1
  | .real x => x.value

def same : Number → Number → Bool
  | .int m _, .int n _ => m == n
  | .real x, .real y => x.value == y.value
  | _, _ => false

-- Equal as binary64 values, so that `1` and `1.0` are alike.
def alike (m n : Number) : Bool := m.value == n.value

def text : Number → List Char
  | .int n _ => (if n < 0 then ['-'] else []) ++ Nat.toDigits 10 n.natAbs
  | .real x => x.text

end Number

end RuleMatrix
