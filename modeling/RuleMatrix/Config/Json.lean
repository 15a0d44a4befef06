import RuleMatrix.Config
import RuleMatrix.Config.Error
import RuleMatrix.Json.Reader

/-!
Definitions and conditions are read in their order, and the first error wins. The number of groups
that may still open bounds the recursion, so a tree deeper than allowed is refused before it is looked
into.
-/
set_option autoImplicit false

namespace RuleMatrix

def Connective.ofJson : Json → Except DefinitionFault Connective
  | .str word =>
      match Connective.ofSpelling? word with
      | some connective => .ok connective
      | none => .error (.unknownConnective (.str word))
  | other => .error (.unknownConnective other)

def Comparison.ofJson : Json → Except ConfigError Comparison
  | .str word =>
      match Comparison.ofSpelling? word with
      | some comparison => .ok comparison
      | none => .error (.unknownComparison word)
  | other => .error (.unknownComparison other.text)

namespace FieldTest

def fieldOf (rule : String) (fields : Fields) : Except ConfigError String :=
  match Fields.get? "field" fields with
  | some (.str path) => .ok path
  | some other => .error (.badDefinition rule (.fieldNotString other.kind))
  | none => .error (.badDefinition rule .fieldMissing)

def comparisonOf (rule field : String) (fields : Fields) : Except ConfigError Comparison :=
  match Fields.get? "op" fields with
  | some given => Comparison.ofJson given
  | none => .error (.badDefinition rule (.comparisonMissing field))

def ofFields (rule : String) (fields : Fields) : Except ConfigError FieldTest := do
  let field ← fieldOf rule fields
  let comparison ← comparisonOf rule field fields
  .ok ⟨field, comparison, (Fields.get? "value" fields).getD .null⟩

end FieldTest

namespace Condition

def ofFields (rule : String) (children : Json → Except ConfigError (List Condition))
    (fields : Fields) : Except ConfigError Condition :=
  match Fields.get? "operator" fields, Fields.get? "conditions" fields with
  | some operator, some conditions => do
      let connective ← (Connective.ofJson operator).mapError (.badDefinition rule)
      let members ← children conditions
      .ok (.group connective members)
  | _, _ => (FieldTest.ofFields rule fields).map .leaf

def ofJson (rule : String) (children : Json → Except ConfigError (List Condition)) :
    Json → Except ConfigError Condition
  | .obj fields => ofFields rule children fields
  | other => .error (.badDefinition rule (.conditionNotObject other.kind))

-- The children of a group, where `levels` more groups may open, this one included.
def childrenOfJson (rule : String) (limit : Nat) :
    Nat → Json → Except ConfigError (List Condition)
  | 0, _ => .error (.tooDeep rule limit)
  | levels + 1, .arr items => items.mapM (ofJson rule (childrenOfJson rule limit levels))
  | _ + 1, other => .error (.badDefinition rule (.conditionsNotArray other.kind))

end Condition

namespace Rule

def namedFile (path : String) : Option String := if path.isEmpty then none else some path

def fileOf (fields : Fields) : Except DefinitionFault (Option String) :=
  match Fields.get? "conditions-file" fields with
  | none => .ok none
  | some .null => .ok none
  | some (.str path) => .ok (namedFile path)
  | some other => .error (.fileNotString other.kind)

def connectiveOf (fields : Fields) : Except DefinitionFault Connective :=
  match Fields.get? "operator" fields with
  | none => .ok .and
  | some .null => .ok .and
  | some given => Connective.ofJson given

def outputsOf (fields : Fields) : Except DefinitionFault Fields :=
  match Fields.get? "outputs" fields with
  | none => .ok []
  | some .null => .ok []
  | some (.obj outputs) => .ok outputs
  | some other => .error (.outputsNotObject other.kind)

def conditionsOf (fields : Fields) : Option Json :=
  (Fields.get? "conditions" fields).filter fun given => !given.isNull

def childrenOf (limits : Limits) (name : String) :
    Option Json → Except ConfigError (List Condition)
  | none => .ok []
  | some given => Condition.childrenOfJson name limits.depth limits.depth given

def ofFields (limits : Limits) (name : String) (fields : Fields) : Except ConfigError Rule := do
  let file ← (fileOf fields).mapError (.badDefinition name)
  if (conditionsOf fields).isNone && file.isNone then .error (.noConditions name)
  else do
    let connective ← (connectiveOf fields).mapError (.badDefinition name)
    let outputs ← (outputsOf fields).mapError (.badDefinition name)
    let children ← childrenOf limits name (conditionsOf fields)
    .ok ⟨name, ⟨connective, children⟩, file, outputs⟩

def ofJson (limits : Limits) (name : String) : Json → Except ConfigError Rule
  | .obj fields => ofFields limits name fields
  | other => .error (.badDefinition name (.notAnObject other.kind))

end Rule

namespace Config

def ofJson (limits : Limits) : Json → Except ConfigError Config
  | .obj definitions => do
      let rules ← definitions.mapM fun definition =>
        Rule.ofJson limits definition.1 definition.2
      .ok ⟨rules⟩
  | other => .error (.badConfig (.notAnObject other.kind))

def ofText (limits : Limits) (text : String) : Except ConfigError Config :=
  match Json.parse text with
  | .ok value => ofJson limits value
  | .error e => .error (.badConfig (.unreadable e))

end Config

end RuleMatrix
