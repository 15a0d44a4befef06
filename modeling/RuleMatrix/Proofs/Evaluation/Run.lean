import RuleMatrix.Proofs.Condition

set_option autoImplicit false

namespace RuleMatrix

namespace Evaluation

def recordAll (context : Context) (evaluation : Evaluation) (rules : List Rule) : Evaluation :=
  rules.foldl (fun evaluation rule => evaluation.record rule (rule.holds context)) evaluation

theorem record_all (context : Context) (evaluation : Evaluation) (rules : List Rule) :
    evaluation.recordAll context rules =
      ⟨evaluation.matched || rules.any (Rule.holds context),
        evaluation.matching ++ (rules.filter (Rule.holds context)).map Rule.name,
        ((rules.filter (Rule.holds context)).map Rule.outputs).foldl Fields.extend
          evaluation.outputs⟩ := by
  induction rules generalizing evaluation with
  | nil => simp [recordAll]
  | cons rule rest ih =>
      have step : evaluation.recordAll context (rule :: rest) =
          (evaluation.record rule (rule.holds context)).recordAll context rest := rfl
      rw [step, ih]
      by_cases holds : rule.holds context = true
      · simp [record, holds]
      · simp [record, holds]

end Evaluation

namespace Config

theorem evaluate_run (config : Config) (context : Context) :
    config.evaluate context =
      ⟨config.rules.any (Rule.holds context),
        (config.rules.filter (Rule.holds context)).map Rule.name,
        Fields.merge ((config.rules.filter (Rule.holds context)).map Rule.outputs)⟩ := by
  have run := Evaluation.record_all context Evaluation.empty config.rules
  simpa [Evaluation.empty, Evaluation.recordAll, evaluate, Fields.merge] using run

theorem report_from_run (context : Context) (evaluation : Evaluation) (rules : List Rule) :
    reportFrom context evaluation rules =
      ⟨evaluation.recordAll context rules,
        rules.map fun rule => ⟨rule.name, rule.holds context, rule.unconditional⟩⟩ := by
  induction rules generalizing evaluation with
  | nil => rfl
  | cons rule rest ih =>
      rw [reportFrom, ih]
      rfl

theorem report_run (config : Config) (context : Context) :
    config.report context =
      ⟨config.evaluate context,
        config.rules.map fun rule => ⟨rule.name, rule.holds context, rule.unconditional⟩⟩ :=
  report_from_run context Evaluation.empty config.rules

end Config

end RuleMatrix
