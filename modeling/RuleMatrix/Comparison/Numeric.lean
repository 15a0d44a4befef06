import RuleMatrix.Json.Value
import RuleMatrix.Text.Blank

set_option autoImplicit false

namespace RuleMatrix

-- A binary64 value that is a number; the two zeros are one.
inductive Numeric where
  | negInfinity
  | finite (units : Int)
  | infinity
deriving DecidableEq

namespace Numeric

def lt : Numeric → Numeric → Bool
  | .finite m, .finite n => m < n
  | .negInfinity, .negInfinity => false
  | .negInfinity, _ => true
  | .finite _, .infinity => true
  | _, _ => false

def le (a b : Numeric) : Bool := lt a b || a == b

def zero : Numeric := .finite 0

def ofDecimal (d : Decimal) : Numeric :=
  match d.nearest with
  | some x => .finite x.value
  | none => if d.negative then .negInfinity else .infinity

def ofNat (n : Nat) : Numeric := .finite (Binary64.rounded (n * Binary64.one) 1)

def radix? : List Char → Option (Nat × List Char)
  | '0' :: 'x' :: digits => some (16, digits)
  | '0' :: 'X' :: digits => some (16, digits)
  | '0' :: 'o' :: digits => some (8, digits)
  | '0' :: 'O' :: digits => some (8, digits)
  | '0' :: 'b' :: digits => some (2, digits)
  | '0' :: 'B' :: digits => some (2, digits)
  | _ => none

-- Behind the mark of a base no sign may stand.
def ofRadix? (base : Nat) (digits : List Char) : Option Numeric :=
  if digits.head? = some '+' then none else (natural? (twoPow 64) base digits).map ofNat

def splitSign : List Char → Bool × List Char
  | '+' :: rest => (false, rest)
  | '-' :: rest => (true, rest)
  | cs => (false, cs)

def splitFraction : List Char → List Char × List Char
  | '.' :: rest => (rest.takeWhile (isDigitOf 10), rest.dropWhile (isDigitOf 10))
  | cs => ([], cs)

def exponent? : List Char → Option Int
  | [] => some 0
  | mark :: rest =>
      let (negative, digits) := splitSign rest
      if (mark == 'e' || mark == 'E') && !digits.isEmpty && digits.all (isDigitOf 10) then
        some (if negative then -(ofDigits 10 digits : Int) else ofDigits 10 digits)
      else none

def decimal? (cs : List Char) : Option Decimal :=
  let (negative, unsigned) := splitSign cs
  let whole := unsigned.takeWhile (isDigitOf 10)
  let (fraction, rest) := splitFraction (unsigned.dropWhile (isDigitOf 10))
  if whole.isEmpty && fraction.isEmpty then none
  else (exponent? rest).map (Decimal.ofParts negative whole fraction)

inductive Literal where
  | decimal (d : Decimal)
  | infinite (negative : Bool)
  | undefined

def literal? (cs : List Char) : Option Literal :=
  let (negative, word) := splitSign (cs.map Char.toLower)
  if word = "inf".toList || word = "infinity".toList then some (.infinite negative)
  else if word = "nan".toList then some .undefined
  else (decimal? cs).map .decimal

def ofLiteral? : Literal → Option Numeric
  | .decimal d => some (ofDecimal d)
  | .infinite negative => some (if negative then .negInfinity else .infinity)
  | .undefined => none

-- What may stand in a decimal literal; of the letters of a word it leaves out all but `e`.
def isLiteralChar (c : Char) : Bool :=
  isDigitOf 10 c || ['.', 'e', 'E', '+', '-'].contains c

def ofTrimmed? (cs : List Char) : Option Numeric :=
  if cs.isEmpty then some zero
  else if cs = "Infinity".toList || cs = "+Infinity".toList then some .infinity
  else if cs = "-Infinity".toList then some .negInfinity
  else match radix? cs with
    | some (base, digits) => ofRadix? base digits
    | none => if cs.all isLiteralChar then (literal? cs).bind ofLiteral? else none

def ofString? (s : String) : Option Numeric := ofTrimmed? (Text.trim s.toList)

end Numeric

def Json.toNumeric? : Json → Option Numeric
  | .null => some Numeric.zero
  | .bool b => some (Numeric.ofNat (if b then 1 else 0))
  | .num n => some (.finite n.value)
  | .str s => Numeric.ofString? s
  | .arr _ => none
  | .obj _ => none

end RuleMatrix
