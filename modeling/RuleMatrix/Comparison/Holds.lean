import RuleMatrix.Comparison
import RuleMatrix.Comparison.Numeric
import RuleMatrix.Text.Lowercase
import RuleMatrix.Text.Pieces

set_option autoImplicit false

namespace RuleMatrix

def relateNumbers (relation : Numeric → Numeric → Bool) (actual : Option Json)
    (literal : Json) : Bool :=
  match actual.bind Json.toNumeric?, literal.toNumeric? with
  | some a, some b => relation a b
  | _, _ => false

-- `none` stands for a field that the context does not have.
def looselyEqual : Option Json → Json → Bool
  | none, literal => literal.isNull
  | some actual, literal =>
      if actual.isNull || literal.isNull then actual.isNull && literal.isNull
      else if actual.isCompound || literal.isCompound then actual.alike literal
      else match actual, literal with
        | .str a, .str b => a == b
        | .bool a, .bool b => a == b
        | _, _ => relateNumbers (fun a b => a == b) (some actual) literal

def containment? : Option Json → Json → Option Bool
  | some (.arr items), literal => some (items.any fun item => item.alike literal)
  | some (.str text), .str part =>
      some (Text.occursIn (Text.lowercase part.toList) (Text.lowercase text.toList))
  | _, _ => none

def relateTexts (relation : List Char → List Char → Bool) : Option Json → Json → Bool
  | some (.str a), .str b => relation (Text.lowercase a.toList) (Text.lowercase b.toList)
  | _, _ => false

def Comparison.holds (comparison : Comparison) (actual : Option Json) (literal : Json) : Bool :=
  match comparison with
  | .equal => looselyEqual actual literal
  | .notEqual => !looselyEqual actual literal
  | .greater => relateNumbers (fun a b => Numeric.lt b a) actual literal
  | .atLeast => relateNumbers (fun a b => Numeric.le b a) actual literal
  | .less => relateNumbers Numeric.lt actual literal
  | .atMost => relateNumbers Numeric.le actual literal
  | .contains => (containment? actual literal).getD false
  | .notContains => !(containment? actual literal).getD false
  | .startsWith => relateTexts (fun a b => b.isPrefixOf a) actual literal
  | .endsWith => relateTexts (fun a b => b.isSuffixOf a) actual literal

end RuleMatrix
