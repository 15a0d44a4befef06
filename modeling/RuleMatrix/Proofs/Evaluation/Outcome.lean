import RuleMatrix.Proofs.Config.Compiled
import RuleMatrix.Proofs.Config.Lookup
import RuleMatrix.Proofs.Evaluation.Run
import RuleMatrix.Proofs.Fields

set_option autoImplicit false

namespace RuleMatrix

namespace Condition

inductive Satisfied (context : Context) : Condition → Prop where
  | leaf (test : FieldTest)
      (holds : test.comparison.holds (context.get? test.field) test.literal = true) :
      Satisfied context (.leaf test)
  | empty (connective : Connective) : Satisfied context (.group connective [])
  | all (children : List Condition) (each : ∀ child ∈ children, Satisfied context child) :
      Satisfied context (.group .and children)
  | any (children : List Condition) (child : Condition) (member : child ∈ children)
      (one : Satisfied context child) : Satisfied context (.group .or children)

theorem leaf_satisfied_iff (context : Context) (test : FieldTest) :
    Satisfied context (.leaf test) ↔
      test.comparison.holds (context.get? test.field) test.literal = true := by
  constructor
  · intro satisfied
    cases satisfied with
    | leaf _ holds => exact holds
  · exact .leaf test

theorem group_satisfied_iff (context : Context) (connective : Connective)
    (children : List Condition) :
    Satisfied context (.group connective children) ↔
      children = [] ∨ match connective with
        | .and => ∀ child ∈ children, Satisfied context child
        | .or => ∃ child ∈ children, Satisfied context child := by
  constructor
  · intro satisfied
    cases satisfied with
    | empty => exact .inl rfl
    | all _ each => exact .inr each
    | any _ child member one => exact .inr ⟨child, member, one⟩
  · intro shape
    rcases shape with rfl | inside
    · exact .empty connective
    · cases connective with
      | and => exact .all children inside
      | or =>
          obtain ⟨child, member, one⟩ := inside
          exact .any children child member one

theorem holds_iff_satisfied (context : Context) (condition : Condition) :
    condition.holds context = true ↔ condition.Satisfied context := by
  induction condition using Condition.nested_induction with
  | leaf test =>
      rw [leaf_satisfied_iff, holds, FieldTest.holds]
  | group connective children ih =>
      rw [group_holds_iff, group_satisfied_iff]
      refine or_congr_right ?_
      cases connective with
      | and => exact forall₂_congr ih
      | or => exact exists_congr fun child => and_congr_right (ih child)

instance (context : Context) (condition : Condition) : Decidable (condition.Satisfied context) :=
  decidable_of_iff _ (holds_iff_satisfied context condition)

end Condition

namespace Config

def satisfied (config : Config) (context : Context) : List Rule :=
  config.rules.filter fun rule => rule.root.toCondition.Satisfied context

structure Outcome (config : Config) (context : Context) (evaluation : Evaluation) : Prop where
  matching : evaluation.matching = (config.satisfied context).map Rule.name
  distinct : evaluation.matching.Nodup
  matched : evaluation.matched = true ↔ evaluation.matching ≠ []
  keys : Fields.keys evaluation.outputs =
    ((config.satisfied context).flatMap fun rule => Fields.keys rule.outputs).eraseDups
  values : ∀ key, Fields.get? key evaluation.outputs =
    (config.satisfied context).reverse.findSome? fun rule => Fields.get? key rule.outputs
  merged : (evaluation.matching.mapM config.get?).map
    (fun rules => Fields.merge (rules.map Rule.outputs)) = some evaluation.outputs

theorem evaluate_satisfied (config : Config) (context : Context) :
    config.evaluate context =
      ⟨!(config.satisfied context).isEmpty, (config.satisfied context).map Rule.name,
        Fields.merge ((config.satisfied context).map Rule.outputs)⟩ := by
  have verdict : Rule.holds context = fun rule => decide (rule.root.toCondition.Satisfied context) := by
    funext rule
    apply Bool.eq_iff_iff.mpr
    rw [decide_eq_true_iff]
    exact Condition.holds_iff_satisfied context rule.root.toCondition
  have found : config.rules.any (Rule.holds context) = !(config.satisfied context).isEmpty := by
    apply Bool.eq_iff_iff.mpr
    simp [satisfied, verdict]
  rw [evaluate_run, found, satisfied, verdict]

theorem compiled_outcome (config : Config) (context : Context) (compiled : config.Compiled) :
    config.Outcome context (config.evaluate context) := by
  have formed := compiled_well_formed config compiled
  have chosen : (config.satisfied context).Sublist config.rules := List.filter_sublist
  rw [evaluate_satisfied]
  constructor
  · rfl
  · exact (chosen.map Rule.name).nodup formed.names
  · simp
  · rw [Fields.keys_merge, List.flatMap_map]
  · intro key
    have distinct : ∀ outputs ∈ (config.satisfied context).map Rule.outputs,
        Fields.Distinct outputs := by
      intro outputs member
      obtain ⟨rule, inside, rfl⟩ := List.mem_map.mp member
      exact (formed.rules rule (chosen.subset inside)).outputs.1
    rw [Fields.get_merge key _ distinct, ← List.map_reverse, List.findSome?_map]
    rfl
  · have again := get_all config formed.names (config.satisfied context) fun rule member =>
      chosen.subset member
    rw [again]
    rfl

def sampleChanges : List (String × List Draft.Change) :=
  [("base", [.conditions [], .output "x" (.str "1"), .output "y" (.obj [("p", .null)])]),
    ("late", [.combine .or, .when (.leaf ⟨"a", .equal, .str "b"⟩),
      .when (.group .and [.group .or [], .leaf ⟨"a", .equal, .str "c"⟩]), .output "z" .null,
      .output "x" (.obj [("q", .null)])]),
    ("never", [.when (.leaf ⟨"a", .equal, .str "b"⟩), .output "y" .null])]

def sample : Config :=
  ⟨[⟨"base", ⟨.and, []⟩, none, [("x", .str "1"), ("y", .obj [("p", .null)])]⟩,
    ⟨"late", ⟨.or, [.leaf ⟨"a", .equal, .str "b"⟩,
      .group .and [.group .or [], .leaf ⟨"a", .equal, .str "c"⟩]]⟩, none,
      [("z", .null), ("x", .obj [("q", .null)])]⟩,
    ⟨"never", ⟨.and, [.leaf ⟨"a", .equal, .str "b"⟩]⟩, none, [("y", .null)]⟩]⟩

def sampleContext : Context := ⟨.obj [("a", .str "c")]⟩

theorem sample_outcome :
    sample.Compiled ∧ sample.Outcome sampleContext
      ⟨true, ["base", "late"],
        [("x", .obj [("q", .null)]), ("y", .obj [("p", .null)]), ("z", .null)]⟩ := by
  have compiled : sample.Compiled := by
    refine .build ⟨3⟩ sampleChanges sample ?_ rfl
    simp [sampleChanges, Draft.Change.WellFormed, Condition.WellFormed, Condition.tests,
      Condition.testsAmong, Json.WellFormed, Json.WellFormedFields, Fields.Distinct, Fields.keys]
  exact ⟨compiled, compiled_outcome sample sampleContext compiled⟩

end Config

end RuleMatrix
