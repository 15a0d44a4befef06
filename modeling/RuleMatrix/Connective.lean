set_option autoImplicit false

namespace RuleMatrix

inductive Connective where
  | and
  | or
deriving DecidableEq

namespace Connective

def spelling : Connective → String
  | .and => "and"
  | .or => "or"

def ofSpelling? (word : String) : Option Connective :=
  if word = "and" then some .and
  else if word = "or" then some .or
  else none

def separator : Connective → String
  | .and => " AND "
  | .or => " OR "

end Connective

end RuleMatrix
