import RuleMatrix.Condition

set_option autoImplicit false

namespace RuleMatrix

structure Limits where
  -- How deeply groups may nest; the root group of a rule counts as one.
  depth : Nat
deriving DecidableEq

def Limits.standard : Limits := ⟨64⟩

structure Rule where
  name : String
  root : Group
  conditionsFile : Option String
  outputs : Fields

namespace Rule

def unconditional (rule : Rule) : Bool := rule.root.children.isEmpty

def same (a b : Rule) : Bool :=
  a.name == b.name && a.root.same b.root && a.conditionsFile == b.conditionsFile
    && (Json.obj a.outputs).same (.obj b.outputs)

def sameList : List Rule → List Rule → Bool
  | [], [] => true
  | a :: as, b :: bs => a.same b && sameList as bs
  | _, _ => false

end Rule

structure Config where
  rules : List Rule

namespace Config

def names (config : Config) : List String := config.rules.map Rule.name

def get? (config : Config) (name : String) : Option Rule :=
  config.rules.find? fun rule => rule.name == name

def same (a b : Config) : Bool := Rule.sameList a.rules b.rules

def text (config : Config) : String :=
  "ConditionConfig(" ++ toString config.rules.length ++ " rules, "
    ++ toString (config.rules.countP Rule.unconditional) ++ " unconditional)"

end Config

end RuleMatrix
