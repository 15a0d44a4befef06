import RuleMatrix.Json.Fault
import RuleMatrix.Json.Number

set_option autoImplicit false

namespace RuleMatrix.Json

def readDigits (cs : List Char) : Except Fault (List Char × List Char) :=
  match cs.takeWhile (isDigitOf 10) with
  | [] => .error (Fault.inFirst (if cs.isEmpty then .endOfValue else .invalidNumber) cs)
  | digits => .ok (digits, cs.dropWhile (isDigitOf 10))

def readWhole : Reader (List Char)
  | '0' :: c :: rest =>
      if isDigitOf 10 c then .error (Fault.inFirst .invalidNumber (c :: rest))
      else .ok (['0'], c :: rest)
  | cs => readDigits cs

def readFraction : Reader (Option (List Char))
  | '.' :: rest => do
      let (digits, rest) ← readDigits rest
      .ok (some digits, rest)
  | cs => .ok (none, cs)

structure Exponent where
  negative : Bool
  digits : List Char

def Exponent.value (e : Exponent) : Int :=
  if e.negative then -(ofDigits 10 e.digits : Int) else ofDigits 10 e.digits

def readSigned (cs : List Char) : Except Fault (Option Exponent × List Char) := do
  let (negative, unsigned) := match cs with
    | '-' :: rest => (true, rest)
    | '+' :: rest => (false, rest)
    | _ => (false, cs)
  let (digits, rest) ← readDigits unsigned
  .ok (some ⟨negative, digits⟩, rest)

def readExponent : Reader (Option Exponent)
  | 'e' :: rest => readSigned rest
  | 'E' :: rest => readSigned rest
  | cs => .ok (none, cs)

def beyondWord (total : Nat) : List Char → List Char
  | [] => []
  | c :: rest =>
      let total := total * 10 + digitValue c
      if total < twoPow 31 then beyondWord total rest else rest

-- Digits of the exponent that are not looked at once the number is known to be out of range.
def Exponent.ignored (e : Exponent) : List Char :=
  if e.negative then [] else beyondWord 0 e.digits

def ofLiteral (negative : Bool) (whole : List Char) (fraction : Option (List Char))
    (exponent : Option Exponent) : Option Number :=
  match fraction, exponent with
  | none, none =>
      let n := ofDigits 10 whole
      if negative && n == 0 then some (.real (Binary64.zero true))
      else Number.ofInt? (if negative then -(n : Int) else n)
  | _, _ =>
      let power := (exponent.map Exponent.value).getD 0
      (Decimal.ofParts negative whole (fraction.getD []) power).nearest.map .real

def readUnsigned (bounded negative : Bool) (cs : List Char) :
    Except Fault (Number × List Char) := do
  let (whole, rest) ← readWhole cs
  let (fraction, rest) ← readFraction rest
  let (exponent, rest) ← readExponent rest
  match ofLiteral negative whole fraction exponent with
  | some n => .ok (n, rest)
  | none =>
      if bounded then
        .error (Fault.before .numberOutOfRange ((exponent.map Exponent.ignored).getD [] ++ rest))
      else .ok (.real (Binary64.zero negative), rest)

-- When numbers are not to be bounded, one out of range reads as zero.
def readNumber (bounded : Bool) : Reader Number
  | '-' :: rest => readUnsigned bounded true rest
  | cs => readUnsigned bounded false cs

end RuleMatrix.Json
