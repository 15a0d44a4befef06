import RuleMatrix.Text.CaseTable

/-!
Lower case by the full Unicode rules: U+0130 becomes two characters, and a capital sigma that ends
a word becomes the final form. It ends a word when, characters without case aside that case rules
ignore, a cased character stands before it and none behind it.
-/
set_option autoImplicit false

namespace RuleMatrix.Text

def lookup (code : Nat) : List CaseRun → Nat
  | [] => code
  | run :: rest =>
      if code < run.first then code
      else if code ≤ run.last && (code - run.first) % run.step == 0 then
        run.target + (code - run.first)
      else lookup code rest

def within (ranges : List (Nat × Nat)) (c : Char) : Bool :=
  ranges.any fun range => range.1 ≤ c.toNat && c.toNat ≤ range.2

def isCased (c : Char) : Bool := within casedRanges c

def isCaseIgnorable (c : Char) : Bool := within caseIgnorableRanges c

def lowercaseChar (c : Char) : List Char :=
  if c = '\u0130' then ['i', '\u0307'] else [Char.ofNat (lookup c.toNat lowercaseRuns)]

def meetsCased (cs : List Char) : Bool :=
  match cs.dropWhile isCaseIgnorable with
  | [] => false
  | c :: _ => isCased c

-- The characters before are given in reverse.
def sigma (before after : List Char) : Char :=
  if meetsCased before && !meetsCased after then 'ς' else 'σ'

def lowercaseAfter (before : List Char) : List Char → List Char
  | [] => []
  | c :: rest =>
      if c = 'Σ' then sigma before rest :: lowercaseAfter (c :: before) rest
      else lowercaseChar c ++ lowercaseAfter (c :: before) rest

def lowercase (cs : List Char) : List Char := lowercaseAfter [] cs

end RuleMatrix.Text
