import RuleMatrix.Decimal

/-!
The decimal text of a binary64 number: the fewest digits that read back as the same number, and of
those the nearest ones. Fewest digits means the coarsest grid of multiples of a power of ten that
has such a point; on a grid it is enough to try the two neighbours of the number.
-/
set_option autoImplicit false

namespace RuleMatrix.Binary64

def onGrid (x : Binary64) (exponent : Int) : Option Nat :=
  let num := x.units * tenPow (-exponent).toNat
  let den := one * tenPow exponent.toNat
  let below := num / den
  let readsBack (coefficient : Nat) : Bool :=
    Decimal.nearest ⟨x.negative, coefficient, exponent⟩ = some x
  match readsBack below, readsBack (below + 1) with
  | true, true => some (roundHalfEven num den)
  | true, false => some below
  | false, true => some (below + 1)
  | false, false => none

-- A grid too coarse, by at most a few steps, to hold a point that reads back:
-- `30103 / 100000` is the decimal logarithm of two.
def coarsest (x : Binary64) : Int :=
  ((x.units.log2 : Int) - 1072) * 30103 / 100000 + 1

def exact (x : Binary64) : Decimal :=
  ⟨x.negative, x.units * Nat.pow 5 1074, -1074⟩

-- Seventeen digits always suffice, so two dozen grids are more than enough.
def shortest (x : Binary64) : Decimal :=
  let tried := (List.range 24).findSome? fun (step : Nat) =>
    let exponent := x.coarsest - step
    (x.onGrid exponent).map fun coefficient => ⟨x.negative, coefficient, exponent⟩
  tried.getD x.exact

def positional (digits : List Char) (exponent : Int) : List Char :=
  match exponent with
  | .ofNat zeros => digits ++ List.replicate zeros '0' ++ ['.', '0']
  | .negSucc fewer =>
      let places := fewer + 1
      if places < digits.length then
        digits.take (digits.length - places) ++ '.' :: digits.drop (digits.length - places)
      else
        '0' :: '.' :: List.replicate (places - digits.length) '0' ++ digits

def exponential (digits : List Char) (power : Int) : List Char :=
  let fraction := match digits.drop 1 with
    | [] => []
    | others => '.' :: others
  let sign := if power < 0 then '-' else '+'
  digits.take 1 ++ fraction ++ 'e' :: sign :: Nat.toDigits 10 power.natAbs

def layout (digits : List Char) (exponent : Int) : List Char :=
  let power := exponent + digits.length - 1
  if -5 ≤ power ∧ power ≤ 15 then positional digits exponent else exponential digits power

def text (x : Binary64) : List Char :=
  let sign := if x.negative then ['-'] else []
  if x.units = 0 then sign ++ ['0', '.', '0']
  else
    let d := x.shortest
    sign ++ layout (Nat.toDigits 10 d.coefficient) d.exponent

end RuleMatrix.Binary64
