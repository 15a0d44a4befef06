import RuleMatrix.Comparison
import RuleMatrix.Connective
import RuleMatrix.Json.Printer

set_option autoImplicit false

namespace RuleMatrix

structure FieldTest where
  field : String
  comparison : Comparison
  literal : Json

inductive Condition where
  | leaf (test : FieldTest)
  | group (connective : Connective) (children : List Condition)

structure Group where
  connective : Connective
  children : List Condition

namespace FieldTest

def text (test : FieldTest) : String :=
  "(" ++ test.field ++ " " ++ test.comparison.spelling ++ " " ++ test.literal.text ++ ")"

def same (a b : FieldTest) : Bool :=
  a.field == b.field && a.comparison == b.comparison && a.literal.same b.literal

end FieldTest

namespace Condition

mutual
def depth : Condition → Nat
  | .leaf _ => 0
  | .group _ children => deepest children + 1

def deepest : List Condition → Nat
  | [] => 0
  | child :: rest => max (depth child) (deepest rest)
end

mutual
def text : Condition → String
  | .leaf test => test.text
  | .group _ [] => "(TRUE)"
  | .group connective (child :: rest) => "(" ++ text child ++ textTail connective rest

def textTail (connective : Connective) : List Condition → String
  | [] => ")"
  | child :: rest => connective.separator ++ text child ++ textTail connective rest
end

mutual
def same : Condition → Condition → Bool
  | .leaf a, .leaf b => a.same b
  | .group connective xs, .group other ys => connective == other && sameChildren xs ys
  | _, _ => false

def sameChildren : List Condition → List Condition → Bool
  | [], [] => true
  | x :: xs, y :: ys => same x y && sameChildren xs ys
  | _, _ => false
end

end Condition

namespace Group

def toCondition (group : Group) : Condition := .group group.connective group.children

def depth (group : Group) : Nat := group.toCondition.depth

def text (group : Group) : String := group.toCondition.text

def same (a b : Group) : Bool := a.toCondition.same b.toCondition

end Group

end RuleMatrix
