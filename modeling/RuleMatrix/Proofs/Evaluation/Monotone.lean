import RuleMatrix.Proofs.Evaluation.Alike
import RuleMatrix.Proofs.Evaluation.Outcome

set_option autoImplicit false

namespace RuleMatrix

def TestsKept (tests : List FieldTest) (first second : Context) : Prop :=
  ∀ test ∈ tests, test.holds first = true → test.holds second = true

namespace Condition

-- By induction on why the tree is true, which leaves out the children of a disjunction that are not
-- needed; on the tree itself, their leaves would stand in the way.
theorem satisfied_monotone (first second : Context) (condition : Condition)
    (kept : TestsKept condition.tests first second) (satisfied : condition.Satisfied first) :
    condition.Satisfied second := by
  induction satisfied with
  | leaf test holds => exact .leaf test (kept test (List.mem_singleton_self test) holds)
  | empty connective => exact .empty connective
  | all children each ih =>
      have inner := (group_tests_iff _ .and children).mp kept
      exact .all children fun child member => ih child member (inner child member)
  | any children child member one ih =>
      have inner := (group_tests_iff _ .or children).mp kept
      exact .any children child member (ih (inner child member))

end Condition

theorem Rule.holds_monotone (first second : Context) (rule : Rule)
    (kept : TestsKept rule.tests first second) (holds : rule.holds first = true) :
    rule.holds second = true := by
  have satisfied := (Condition.holds_iff_satisfied first _).mp holds
  have later := Condition.satisfied_monotone first second _ kept satisfied
  exact (Condition.holds_iff_satisfied second _).mpr later

namespace Config

theorem rules_monotone (config : Config) (first second : Context)
    (kept : TestsKept config.tests first second) (rule : Rule) (member : rule ∈ config.rules)
    (holds : rule.holds first = true) : rule.holds second = true := by
  apply Rule.holds_monotone first second rule ?_ holds
  exact fun test inside => kept test (rule_tests_listed config rule member test inside)

-- Choosing among the rules that match in the second context gives those that match in the first.
theorem matching_monotone (config : Config) (first second : Context)
    (kept : TestsKept config.tests first second) :
    (config.evaluate first).matching.Sublist (config.evaluate second).matching := by
  have narrowed : config.rules.filter (Rule.holds first) =
      (config.rules.filter (Rule.holds second)).filter (Rule.holds first) := by
    rw [List.filter_filter]
    apply List.filter_congr
    intro rule member
    have later := rules_monotone config first second kept rule member
    cases holds : rule.holds first with
    | false => rfl
    | true => exact (later holds).symm
  rw [evaluate_run, evaluate_run, narrowed]
  exact List.filter_sublist.map Rule.name

theorem matches_follow_tests (config : Config) (first second : Context) :
    (TestsKept config.tests first second →
      (∀ rule ∈ config.rules, rule.holds first = true → rule.holds second = true) ∧
        (config.evaluate first).matching.Sublist (config.evaluate second).matching) ∧
    ((∀ test ∈ config.tests, test.holds first = test.holds second) →
      config.evaluate first = config.evaluate second ∧
        config.report first = config.report second) := by
  refine ⟨fun kept => ⟨?_, ?_⟩, same_tests config first second⟩
  · exact rules_monotone config first second kept
  · exact matching_monotone config first second kept

def nestedConfig : Config :=
  ⟨[⟨"one", ⟨.and, [.group .or [.leaf ⟨"a", .equal, .str "x"⟩, .leaf ⟨"b", .notEqual, .null⟩],
      .group .or []]⟩, none, [("k", .null)]⟩,
    ⟨"two", ⟨.and, [.leaf ⟨"a", .equal, .str "x"⟩, .leaf ⟨"b", .notEqual, .null⟩]⟩, none, []⟩]⟩

def oneLeafContext : Context := ⟨.obj [("a", .str "x")]⟩

def bothLeavesContext : Context := ⟨.obj [("a", .str "x"), ("b", .str "y")]⟩

def otherValuesContext : Context := ⟨.obj [("b", .arr []), ("c", .null), ("a", .str "x")]⟩

theorem more_leaves_match_more :
    (nestedConfig.evaluate oneLeafContext).matching = ["one"] ∧
      (nestedConfig.evaluate bothLeavesContext).matching = ["one", "two"] ∧
      (nestedConfig.evaluate oneLeafContext).matching.Sublist
        (nestedConfig.evaluate bothLeavesContext).matching ∧
      nestedConfig.evaluate bothLeavesContext = nestedConfig.evaluate otherValuesContext := by
  have kept : TestsKept nestedConfig.tests oneLeafContext bothLeavesContext := by
    rw [TestsKept]
    decide +kernel
  have same : ∀ test ∈ nestedConfig.tests,
      test.holds bothLeavesContext = test.holds otherValuesContext := by decide +kernel
  refine ⟨by decide +kernel, by decide +kernel, ?_, ?_⟩
  · exact ((matches_follow_tests nestedConfig oneLeafContext bothLeavesContext).1 kept).2
  · exact ((matches_follow_tests nestedConfig bothLeavesContext otherValuesContext).2 same).1

end Config

end RuleMatrix
