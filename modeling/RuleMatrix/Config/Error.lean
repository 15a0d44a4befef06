import RuleMatrix.Json.Fault
import RuleMatrix.Json.Printer

set_option autoImplicit false

namespace RuleMatrix

inductive ConfigFault where
  | unreadable (e : Json.ReadError)
  | notAnObject (given : Json.Kind)
deriving DecidableEq

def ConfigFault.message : ConfigFault → String
  | .unreadable e => e.message
  | .notAnObject given => "expected a JSON object of named conditions, got " ++ given.describe

inductive DefinitionFault where
  | notAnObject (given : Json.Kind)
  | fileNotString (given : Json.Kind)
  | unknownConnective (given : Json)
  | outputsNotObject (given : Json.Kind)
  | conditionsNotArray (given : Json.Kind)
  | conditionNotObject (given : Json.Kind)
  | fieldNotString (given : Json.Kind)
  | fieldMissing
  | comparisonMissing (field : String)

def DefinitionFault.message : DefinitionFault → String
  | .notAnObject given => "expected an object, got " ++ given.describe
  | .fileNotString given => "'conditions-file' must be a string, got " ++ given.describe
  | .unknownConnective given => "'operator' must be \"and\" or \"or\", got " ++ given.text
  | .outputsNotObject given => "'outputs' must be an object, got " ++ given.describe
  | .conditionsNotArray given => "'conditions' must be an array, got " ++ given.describe
  | .conditionNotObject given => "expected a condition object, got " ++ given.describe
  | .fieldNotString given => "'field' must be a string, got " ++ given.describe
  | .fieldMissing => "condition is missing 'field'"
  | .comparisonMissing field => "condition on '" ++ field ++ "' is missing 'op'"

inductive ConfigError where
  | noConditions (rule : String)
  | unknownComparison (spelling : String)
  | tooDeep (rule : String) (limit : Nat)
  | badConfig (fault : ConfigFault)
  | badDefinition (rule : String) (fault : DefinitionFault)
  | repeatedName (rule : String)

def ConfigError.message : ConfigError → String
  | .noConditions rule =>
      "Condition \"" ++ rule ++ "\" must have either 'conditions' or 'conditions-file'"
  | .unknownComparison spelling => "Unknown operator: " ++ spelling
  | .tooDeep rule limit =>
      "conditions in \"" ++ rule ++ "\" nest deeper than the maximum depth of " ++ toString limit
  | .badConfig fault => "invalid condition configuration: " ++ fault.message
  | .badDefinition rule fault =>
      "invalid definition for condition \"" ++ rule ++ "\": " ++ fault.message
  | .repeatedName rule => "duplicate condition name \"" ++ rule ++ "\""

end RuleMatrix
