import RuleMatrix.Proofs.Comparison.Alike
import RuleMatrix.Proofs.Config.Compiled
import RuleMatrix.Proofs.Evaluation.Run

set_option autoImplicit false

namespace RuleMatrix

namespace Condition

def SameVerdict (first second : Context) (condition other : Condition) : Prop :=
  condition.holds first = other.holds second

section Aligned

variable (first second : Context) (children others : List Condition)
  (each : List.Forall₂ (SameVerdict first second) children others)

include each

theorem all_hold_aligned : allHold first children = allHold second others := by
  induction each with
  | nil => rfl
  | cons same tail ih => rw [allHold, allHold, same, ih]

theorem any_holds_aligned : anyHolds first children = anyHolds second others := by
  induction each with
  | nil => rfl
  | cons same tail ih => rw [anyHolds, anyHolds, same, ih]

theorem group_holds_aligned (connective : Connective) :
    SameVerdict first second (.group connective children) (.group connective others) := by
  have all := all_hold_aligned first second children others each
  have any := any_holds_aligned first second children others each
  cases each with
  | nil => simp only [SameVerdict, holds]
  | cons same tail =>
      cases connective with
      | and => simpa only [SameVerdict, holds] using all
      | or => simpa only [SameVerdict, holds] using any

end Aligned

theorem holds_of_tests (first second : Context) (condition : Condition)
    (same : ∀ test ∈ condition.tests, test.holds first = test.holds second) :
    SameVerdict first second condition condition := by
  induction condition using Condition.nested_induction with
  | leaf test =>
      have met := same test (List.mem_singleton.mpr rfl)
      simpa only [SameVerdict, holds] using met
  | group connective children ih =>
      apply group_holds_aligned
      apply List.forall₂_same.mpr
      intro child member
      apply ih child member
      exact fun test inside => same test ((mem_tests_among test children).mpr ⟨child, member, inside⟩)

-- A leaf keeps its literal or takes an alike one; the shape of the tree stays as it is.
inductive Rephrased : Condition → Condition → Prop where
  | kept (test : FieldTest) : Rephrased (.leaf test) (.leaf test)
  | replaced (test : FieldTest) (literal : Json) (same : test.literal.alike literal = true) :
      Rephrased (.leaf test) (.leaf { test with literal })
  | group (connective : Connective) (children others : List Condition)
      (each : List.Forall₂ Rephrased children others) :
      Rephrased (.group connective children) (.group connective others)

theorem holds_rephrased (context : Context) (condition other : Condition)
    (formed : ∀ test ∈ condition.tests, test.literal.WellFormed)
    (rephrased : condition.Rephrased other) : SameVerdict context context condition other := by
  induction condition using Condition.nested_induction generalizing other with
  | leaf test =>
      cases rephrased with
      | kept => rfl
      | replaced _ literal same =>
          have verdict := Comparison.holds_alike_literal test.comparison (context.get? test.field)
            test.literal literal (formed test (List.mem_singleton.mpr rfl)) same
          simpa only [SameVerdict, holds, FieldTest.holds] using verdict
  | group connective children ih =>
      cases rephrased with
      | group _ _ others each =>
      apply group_holds_aligned
      apply Sequence.related_refined Rephrased _ children others each
      intro child member twin same
      refine ih child member twin (fun test inside => ?_) same
      exact formed test ((mem_tests_among test children).mpr ⟨child, member, inside⟩)

end Condition

theorem FieldTest.holds_both_alike (first second : Context) (test : FieldTest)
    (formed : first.root.WellFormed)
    (same : Json.BothAlike (first.get? test.field) (second.get? test.field)) :
    test.holds first = test.holds second := by
  apply Comparison.holds_both_alike test.comparison _ _ test.literal ?_ same
  exact fun value found => Json.resolved_well_formed _ first.root value formed found

namespace Rule

structure SameOutcome (first second : Context) (rule other : Rule) : Prop where
  name : rule.name = other.name
  verdict : rule.holds first = other.holds second
  unconditional : rule.unconditional = other.unconditional
  outputs : rule.outputs = other.outputs

structure Rephrased (rule other : Rule) : Prop where
  name : rule.name = other.name
  root : rule.root.toCondition.Rephrased other.root.toCondition
  conditionsFile : rule.conditionsFile = other.conditionsFile
  outputs : rule.outputs = other.outputs

theorem rephrased_outcome (context : Context) (rule other : Rule) (formed : rule.WellFormed)
    (rephrased : rule.Rephrased other) : SameOutcome context context rule other := by
  have verdict := Condition.holds_rephrased context _ _ formed.root rephrased.root
  refine ⟨rephrased.name, verdict, ?_, rephrased.outputs⟩
  unfold unconditional
  obtain ⟨_, ⟨_, children⟩, _, _⟩ := rule
  obtain ⟨_, ⟨_, others⟩, _, _⟩ := other
  cases rephrased.root with
  | group _ _ _ each => cases each <;> rfl

end Rule

namespace Config

def Rephrased (config other : Config) : Prop := List.Forall₂ Rule.Rephrased config.rules other.rules

theorem same_reports (first second : Context) (evaluation : Evaluation) (rules others : List Rule)
    (each : List.Forall₂ (Rule.SameOutcome first second) rules others) :
    reportFrom first evaluation rules = reportFrom second evaluation others := by
  induction each generalizing evaluation with
  | nil => rfl
  | @cons rule other _ _ same _ ih =>
      have step : ∀ holds, evaluation.record rule holds = evaluation.record other holds := by
        intro holds
        rw [Evaluation.record, Evaluation.record, same.name, same.outputs]
      rw [reportFrom, reportFrom, same.verdict, same.unconditional, same.name, step, ih]

theorem same_results (first second : Context) (config other : Config)
    (each : List.Forall₂ (Rule.SameOutcome first second) config.rules other.rules) :
    config.evaluate first = other.evaluate second ∧ config.report first = other.report second := by
  have reports : config.report first = other.report second :=
    same_reports first second Evaluation.empty config.rules other.rules each
  have evaluations := congrArg Report.evaluation reports
  rw [report_run, report_run] at evaluations
  exact ⟨evaluations, reports⟩

theorem rule_tests_listed (config : Config) (rule : Rule) (member : rule ∈ config.rules)
    (test : FieldTest) (inside : test ∈ rule.tests) : test ∈ config.tests :=
  List.mem_flatMap.mpr ⟨rule, member, inside⟩

theorem same_tests (config : Config) (first second : Context)
    (same : ∀ test ∈ config.tests, test.holds first = test.holds second) :
    config.evaluate first = config.evaluate second ∧ config.report first = config.report second := by
  apply same_results
  apply List.forall₂_same.mpr
  intro rule member
  refine ⟨rfl, ?_, rfl, rfl⟩
  apply Condition.holds_of_tests
  exact fun test inside => same test (rule_tests_listed config rule member test inside)

theorem alike_contexts (config : Config) (first second : Context) (formed : first.root.WellFormed)
    (same : ∀ test ∈ config.tests,
      Json.BothAlike (first.get? test.field) (second.get? test.field)) :
    config.evaluate first = config.evaluate second ∧ config.report first = config.report second := by
  apply same_tests
  exact fun test listed => FieldTest.holds_both_alike first second test formed (same test listed)

theorem alike_roots (config : Config) (first second : Context) (formed : first.root.WellFormed)
    (alike : first.root.alike second.root = true) :
    config.evaluate first = config.evaluate second ∧ config.report first = config.report second := by
  apply alike_contexts config first second formed
  exact fun test _ =>
    Json.agree_resolved Number.alike (segments test.field) first.root second.root formed alike

theorem alike_literals (config other : Config) (context : Context) (formed : config.WellFormed)
    (rephrased : config.Rephrased other) :
    config.evaluate context = other.evaluate context ∧
      config.report context = other.report context := by
  apply same_results
  apply Sequence.related_refined Rule.Rephrased _ config.rules other.rules rephrased
  intro rule member twin same
  exact Rule.rephrased_outcome context rule twin (formed.rules rule member) same

theorem results_blind_to_spelling (config : Config) (compiled : config.Compiled) :
    (∀ first second : Context, first.root.WellFormed →
      (∀ test ∈ config.tests,
        Json.BothAlike (first.get? test.field) (second.get? test.field)) →
      config.evaluate first = config.evaluate second ∧
        config.report first = config.report second) ∧
    (∀ first second : Context, first.root.WellFormed →
      first.root.alike second.root = true →
      config.evaluate first = config.evaluate second ∧
        config.report first = config.report second) ∧
    ∀ (other : Config) (context : Context), config.Rephrased other →
      config.evaluate context = other.evaluate context ∧
        config.report context = other.report context := by
  refine ⟨fun first second => alike_contexts config first second, ?_, ?_⟩
  · intro first second formed same
    apply alike_contexts config first second formed
    intro test _
    exact Json.agree_resolved Number.alike (segments test.field) first.root second.root formed same
  · intro other context rephrased
    exact alike_literals config other context (compiled_well_formed config compiled) rephrased

def wholeZero : Json := .num (.int 0 (by decide))

def negativeZero : Json := .num (.real (Binary64.zero true))

def zeroDraft (literal : Json) : List Draft.Change :=
  [.when (.group .or [.leaf ⟨"a.n", .equal, literal⟩]), .output "found" .null]

def zeroConfig (literal : Json) : Config :=
  ⟨[⟨"zero", ⟨.and, [.group .or [.leaf ⟨"a.n", .equal, literal⟩]]⟩, none, [("found", .null)]⟩]⟩

def wholeContext : Context := ⟨.obj [("a", .obj [("n", wholeZero), ("m", .null)])]⟩

def negativeContext : Context := ⟨.obj [("a", .obj [("m", .null), ("n", negativeZero)])]⟩

theorem zero_found_with_either_sign :
    ((zeroConfig wholeZero).evaluate wholeContext).matching = ["zero"] ∧
      (zeroConfig wholeZero).evaluate wholeContext =
        (zeroConfig wholeZero).evaluate negativeContext ∧
      (zeroConfig wholeZero).report wholeContext =
        (zeroConfig wholeZero).report negativeContext ∧
      (zeroConfig wholeZero).report wholeContext =
        (zeroConfig negativeZero).report wholeContext := by
  have compiled : (zeroConfig wholeZero).Compiled := by
    refine .build ⟨2⟩ [("zero", zeroDraft wholeZero)] _ ?_ rfl
    simp [zeroDraft, Draft.Change.WellFormed, Condition.WellFormed, Condition.tests,
      Condition.testsAmong, wholeZero, Json.WellFormed]
  have formed : wholeContext.root.WellFormed := by
    simp [wholeContext, wholeZero, Json.WellFormed, Json.WellFormedFields, Fields.Distinct,
      Fields.keys]
  have same : wholeContext.root.alike negativeContext.root = true := by decide +kernel
  have leaf : (Condition.leaf ⟨"a.n", .equal, wholeZero⟩).Rephrased
      (.leaf ⟨"a.n", .equal, negativeZero⟩) :=
    .replaced ⟨"a.n", .equal, wholeZero⟩ negativeZero (by decide +kernel)
  have rephrased : (zeroConfig wholeZero).Rephrased (zeroConfig negativeZero) :=
    .cons ⟨rfl, .group .and _ _ (.cons (.group .or _ _ (.cons leaf .nil)) .nil), rfl, rfl⟩ .nil
  have found : ∀ test ∈ (zeroConfig wholeZero).tests,
      Json.BothAlike (wholeContext.get? test.field) (negativeContext.get? test.field) := by
    intro test _
    exact Json.agree_resolved Number.alike (segments test.field) _ _ formed same
  obtain ⟨byPath, byRoot, byLiteral⟩ := results_blind_to_spelling (zeroConfig wholeZero) compiled
  refine ⟨by decide +kernel, ?_, ?_, ?_⟩
  · exact (byPath wholeContext negativeContext formed found).1
  · exact (byRoot wholeContext negativeContext formed same).2
  · exact (byLiteral (zeroConfig negativeZero) wholeContext rephrased).2

end Config

end RuleMatrix
