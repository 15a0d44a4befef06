set_option autoImplicit false

namespace RuleMatrix

inductive Comparison where
  | equal
  | notEqual
  | greater
  | atLeast
  | less
  | atMost
  | contains
  | notContains
  | startsWith
  | endsWith
deriving DecidableEq

namespace Comparison

def all : List Comparison :=
  [.equal, .notEqual, .greater, .atLeast, .less, .atMost,
    .contains, .notContains, .startsWith, .endsWith]

def spelling : Comparison → String
  | .equal => "="
  | .notEqual => "!="
  | .greater => ">"
  | .atLeast => ">="
  | .less => "<"
  | .atMost => "<="
  | .contains => "contains"
  | .notContains => "not_contains"
  | .startsWith => "starts_with"
  | .endsWith => "ends_with"

def ofSpelling? (word : String) : Option Comparison :=
  all.find? fun comparison => comparison.spelling == word

end Comparison

end RuleMatrix
