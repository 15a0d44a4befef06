import RuleMatrix.Json.Fault
import RuleMatrix.Text.Digit

/-!
Characters beyond U+FFFF may be written as two escaped surrogates; when surrogates are not to be
paired, each stands for U+FFFD.
-/
set_option autoImplicit false

namespace RuleMatrix.Json

def hexFault (cs : List Char) : Fault :=
  if byteCount cs < 4 then ⟨.endOfString, 0⟩ else ⟨.invalidEscape, byteCount cs - 4⟩

def readHex : Reader Nat
  | a :: b :: c :: d :: rest =>
      if [a, b, c, d].all (isDigitOf 16) then .ok (ofDigits 16 [a, b, c, d], rest)
      else .error (hexFault (a :: b :: c :: d :: rest))
  | cs => .error (hexFault cs)

def isLeading (unit : Nat) : Bool := 0xD800 ≤ unit && unit < 0xDC00

def isTrailing (unit : Nat) : Bool := 0xDC00 ≤ unit && unit < 0xE000

def joinSurrogates (leading trailing : Nat) : Char :=
  Char.ofNat (0x10000 + (leading - 0xD800) * 0x400 + (trailing - 0xDC00))

def readTrailing (leading : Nat) : Reader Char
  | '\\' :: 'u' :: rest => do
      let (unit, rest) ← readHex rest
      if isTrailing unit then .ok (joinSurrogates leading unit, rest)
      else .error (Fault.before .loneSurrogate rest)
  | ['\\'] => .error ⟨.endOfString, 0⟩
  | '\\' :: rest => .error (Fault.inFirst .endOfSurrogate rest)
  | [] => .error ⟨.endOfString, 0⟩
  | rest => .error (Fault.inFirst .endOfSurrogate rest)

def readUnicode (paired : Bool) (cs : List Char) : Except Fault (Char × List Char) := do
  let (unit, rest) ← readHex cs
  if isLeading unit || isTrailing unit then
    if !paired then .ok ('\ufffd', rest)
    else if isTrailing unit then .error (Fault.before .loneSurrogate rest)
    else readTrailing unit rest
  else .ok (Char.ofNat unit, rest)

def readEscape (paired : Bool) : Reader Char
  | [] => .error ⟨.endOfString, 0⟩
  | '"' :: rest => .ok ('"', rest)
  | '\\' :: rest => .ok ('\\', rest)
  | '/' :: rest => .ok ('/', rest)
  | 'b' :: rest => .ok ('\x08', rest)
  | 'f' :: rest => .ok ('\x0c', rest)
  | 'n' :: rest => .ok ('\n', rest)
  | 'r' :: rest => .ok ('\r', rest)
  | 't' :: rest => .ok ('\t', rest)
  | 'u' :: rest => readUnicode paired rest
  | rest => .error (Fault.inFirst .invalidEscape rest)

-- One character of a string, or nothing for the closing quote.
def readUnit (paired : Bool) : Reader (Option Char)
  | [] => .error ⟨.endOfString, 0⟩
  | '"' :: rest => .ok (none, rest)
  | '\\' :: rest => do
      let (c, rest) ← readEscape paired rest
      .ok (some c, rest)
  | c :: rest =>
      if c.toNat < 32 then .error (Fault.inFirst .controlCharacter (c :: rest))
      else .ok (some c, rest)

def readUnits (paired : Bool) : Nat → Reader (List Char)
  | 0, _ => .error ⟨.endOfString, 0⟩
  | steps + 1, cs => do
      match ← readUnit paired cs with
      | (none, rest) => .ok ([], rest)
      | (some c, rest) =>
          let (others, rest) ← readUnits paired steps rest
          .ok (c :: others, rest)

def readString (paired : Bool) (cs : List Char) : Except Fault (String × List Char) := do
  let (content, rest) ← readUnits paired (cs.length + 1) cs
  .ok (String.ofList content, rest)

end RuleMatrix.Json
