import RuleMatrix.Comparison.Holds
import RuleMatrix.Config
import RuleMatrix.Context

set_option autoImplicit false

namespace RuleMatrix

def FieldTest.holds (context : Context) (test : FieldTest) : Bool :=
  test.comparison.holds (context.get? test.field) test.literal

namespace Condition

mutual
/-- A group without children holds, whatever its operator. -/
def holds (context : Context) : Condition → Bool
  | .leaf test => test.holds context
  | .group _ [] => true
  | .group .and children => allHold context children
  | .group .or children => anyHolds context children

def allHold (context : Context) : List Condition → Bool
  | [] => true
  | child :: rest => holds context child && allHold context rest

def anyHolds (context : Context) : List Condition → Bool
  | [] => false
  | child :: rest => holds context child || anyHolds context rest
end

end Condition

def Rule.holds (context : Context) (rule : Rule) : Bool := rule.root.toCondition.holds context

structure Evaluation where
  matched : Bool
  matching : List String
  outputs : Fields

namespace Evaluation

def empty : Evaluation := ⟨false, [], []⟩

/-- A matching rule adds its name and its outputs, which replace outputs of the same key whole. -/
def record (evaluation : Evaluation) (rule : Rule) (holds : Bool) : Evaluation :=
  if holds then
    ⟨true, evaluation.matching ++ [rule.name],
      Fields.extend evaluation.outputs rule.outputs⟩
  else evaluation

def toJson (evaluation : Evaluation) : Json :=
  .obj [
    ("matched", .bool evaluation.matched),
    ("matchedConditions", .arr (evaluation.matching.map .str)),
    ("outputs", .obj evaluation.outputs)]

def text (evaluation : Evaluation) : String :=
  "matched: " ++ (if evaluation.matched then "true" else "false") ++ ", conditions: ["
    ++ String.intercalate ", " evaluation.matching ++ "], outputs: "
    ++ toString evaluation.outputs.length

end Evaluation

structure Verdict where
  rule : String
  matched : Bool
  -- The rule has no conditions, so it matched without a look at the context.
  unconditional : Bool
deriving DecidableEq

structure Report where
  evaluation : Evaluation
  verdicts : List Verdict

namespace Report

def unmatched (report : Report) : List String :=
  (report.verdicts.filter fun verdict => !verdict.matched).map Verdict.rule

def text (report : Report) : String :=
  report.evaluation.text ++ ", unmatched: [" ++ String.intercalate ", " report.unmatched ++ "]"

end Report

namespace Config

def evaluate (config : Config) (context : Context) : Evaluation :=
  config.rules.foldl
    (fun evaluation rule => evaluation.record rule (rule.holds context)) Evaluation.empty

def reportFrom (context : Context) (evaluation : Evaluation) : List Rule → Report
  | [] => ⟨evaluation, []⟩
  | rule :: rest =>
      let holds := rule.holds context
      let report := reportFrom context (evaluation.record rule holds) rest
      ⟨report.evaluation, ⟨rule.name, holds, rule.unconditional⟩ :: report.verdicts⟩

def report (config : Config) (context : Context) : Report :=
  reportFrom context Evaluation.empty config.rules

end Config

end RuleMatrix
