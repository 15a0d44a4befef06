import RuleMatrix.Proofs.Evaluation.Outcome

set_option autoImplicit false

namespace RuleMatrix

open Sequence (Interleaved)

structure Verdict.Judges (context : Context) (rule : Rule) (verdict : Verdict) : Prop where
  name : verdict.rule = rule.name
  matched : verdict.matched = true ↔ rule.root.toCondition.Satisfied context
  unconditional : verdict.unconditional = true ↔ rule.root.children = []

namespace Verdict

theorem rule_judged (context : Context) (rule : Rule) :
    Judges context rule ⟨rule.name, rule.holds context, rule.unconditional⟩ where
  name := rfl
  matched := Condition.holds_iff_satisfied context rule.root.toCondition
  unconditional := List.isEmpty_iff

theorem unconditional_matched (context : Context) (rule : Rule) (verdict : Verdict)
    (judges : verdict.Judges context rule) (unconditional : verdict.unconditional = true) :
    verdict.matched = true := by
  have empty := judges.unconditional.mp unconditional
  rw [judges.matched, Group.toCondition, empty]
  exact .empty rule.root.connective

end Verdict

namespace Config

structure Reported (config : Config) (context : Context) (report : Report) : Prop where
  evaluation : report.evaluation = config.evaluate context
  judged : List.Forall₂ (Verdict.Judges context) config.rules report.verdicts
  names : report.verdicts.map Verdict.rule = config.names
  matching : (report.verdicts.filter Verdict.matched).map Verdict.rule = report.evaluation.matching
  others : (report.verdicts.filter fun verdict => !verdict.matched).map Verdict.rule =
    report.unmatched
  disjoint : report.evaluation.matching.Disjoint report.unmatched
  interleaved : Interleaved report.evaluation.matching report.unmatched config.names
  unconditional : ∀ verdict ∈ report.verdicts, verdict.unconditional = true → verdict.matched = true

theorem report_judged (config : Config) (context : Context) :
    List.Forall₂ (Verdict.Judges context) config.rules (config.report context).verdicts := by
  rw [report_run, List.forall₂_map_right_iff, List.forall₂_same]
  exact fun rule _ => Verdict.rule_judged context rule

theorem report_names (config : Config) (context : Context) :
    (config.report context).verdicts.map Verdict.rule = config.names := by
  rw [report_run, List.map_map]
  rfl

theorem report_matching (config : Config) (context : Context) :
    ((config.report context).verdicts.filter Verdict.matched).map Verdict.rule =
      (config.report context).evaluation.matching := by
  rw [report_run, evaluate_run, List.filter_map, List.map_map]
  rfl

theorem report_interleaved (config : Config) (context : Context) :
    Interleaved (config.report context).evaluation.matching (config.report context).unmatched
      config.names := by
  rw [← report_matching, ← report_names config context]
  exact Sequence.interleaved_map Verdict.rule _ _ _
    (Sequence.kept_and_left_out Verdict.matched (config.report context).verdicts)

theorem report_agrees (config : Config) (context : Context) (compiled : config.Compiled) :
    config.Reported context (config.report context) := by
  have interleaved := report_interleaved config context
  have judged := report_judged config context
  constructor
  · rw [report_run]
  · exact judged
  · exact report_names config context
  · exact report_matching config context
  · rfl
  · have distinct := (compiled_well_formed config compiled).names
    exact Sequence.interleaved_disjoint _ _ _ interleaved distinct
  · exact interleaved
  · intro verdict member unconditional
    obtain ⟨rule, _, judges⟩ := Sequence.result_has_source _ _ _ judged verdict member
    exact Verdict.unconditional_matched context rule verdict judges unconditional

def turnsChanges : List (String × List Draft.Change) :=
  [("always", [.conditionsFile "f", .output "x" .null]),
    ("never", [.when (.leaf ⟨"a", .equal, .str "b"⟩)]),
    ("now", [.combine .or, .when (.leaf ⟨"a", .equal, .str "b"⟩),
      .when (.leaf ⟨"a", .equal, .str "c"⟩)])]

def turns : Config :=
  ⟨[⟨"always", ⟨.and, []⟩, some "f", [("x", .null)]⟩,
    ⟨"never", ⟨.and, [.leaf ⟨"a", .equal, .str "b"⟩]⟩, none, []⟩,
    ⟨"now", ⟨.or, [.leaf ⟨"a", .equal, .str "b"⟩, .leaf ⟨"a", .equal, .str "c"⟩]⟩, none, []⟩]⟩

theorem turns_reported :
    turns.Compiled ∧ turns.Reported ⟨.obj [("a", .str "c")]⟩
      ⟨⟨true, ["always", "now"], [("x", .null)]⟩,
        [⟨"always", true, true⟩, ⟨"never", false, false⟩, ⟨"now", true, false⟩]⟩ := by
  have compiled : turns.Compiled := by
    refine .build ⟨1⟩ turnsChanges turns ?_ rfl
    simp [turnsChanges, Draft.Change.WellFormed, Condition.WellFormed, Condition.tests,
      Json.WellFormed]
  exact ⟨compiled, report_agrees turns ⟨.obj [("a", .str "c")]⟩ compiled⟩

end Config

end RuleMatrix
