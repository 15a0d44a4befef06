import RuleMatrix.Evaluation

set_option autoImplicit false

namespace RuleMatrix

namespace Condition

theorem nested_induction {motive : Condition → Prop} (leaf : ∀ test, motive (.leaf test))
    (group : ∀ connective children, (∀ child ∈ children, motive child) →
      motive (.group connective children)) :
    ∀ condition, motive condition
  | .leaf test => leaf test
  | .group connective children =>
      group connective children fun child _ => nested_induction leaf group child
termination_by condition => sizeOf condition
decreasing_by
  have smaller := List.sizeOf_lt_of_mem ‹child ∈ children›
  simp only [Condition.group.sizeOf_spec]
  omega

theorem deepest_le_iff (levels : Nat) (children : List Condition) :
    deepest children ≤ levels ↔ ∀ child ∈ children, child.depth ≤ levels := by
  induction children with
  | nil => simp [deepest]
  | cons child rest ih => rw [deepest, Nat.max_le, ih, List.forall_mem_cons]

-- At most this many groups lie on each way from the root to a leaf.
inductive NestsWithin : Nat → Condition → Prop where
  | leaf (levels : Nat) (test : FieldTest) : NestsWithin levels (.leaf test)
  | group (levels : Nat) (connective : Connective) (children : List Condition)
      (each : ∀ child ∈ children, NestsWithin levels child) :
      NestsWithin (levels + 1) (.group connective children)

theorem nests_within_iff (levels : Nat) (condition : Condition) :
    NestsWithin levels condition ↔ condition.depth ≤ levels := by
  induction condition using nested_induction generalizing levels with
  | leaf test => exact ⟨fun _ => Nat.zero_le levels, fun _ => .leaf levels test⟩
  | group connective children ih =>
      rw [depth]
      constructor
      · intro nests
        cases nests with
        | group levels _ _ each =>
            refine Nat.succ_le_succ ((deepest_le_iff levels children).mpr ?_)
            exact fun child member => (ih child member levels).mp (each child member)
      · intro fits
        cases levels with
        | zero => exact absurd fits (Nat.not_succ_le_zero _)
        | succ levels =>
            have below := (deepest_le_iff levels children).mp (Nat.le_of_succ_le_succ fits)
            exact .group levels connective children fun child member =>
              (ih child member levels).mpr (below child member)

mutual
def tests : Condition → List FieldTest
  | .leaf test => [test]
  | .group _ children => testsAmong children

def testsAmong : List Condition → List FieldTest
  | [] => []
  | child :: rest => tests child ++ testsAmong rest
end

theorem mem_tests_among (test : FieldTest) (children : List Condition) :
    test ∈ testsAmong children ↔ ∃ child ∈ children, test ∈ child.tests := by
  induction children with
  | nil => simp [testsAmong]
  | cons child rest ih => simp [testsAmong, ih]

theorem group_tests_iff (holds : FieldTest → Prop) (connective : Connective)
    (children : List Condition) :
    (∀ test ∈ (group connective children).tests, holds test) ↔
      ∀ child ∈ children, ∀ test ∈ child.tests, holds test := by
  have listed : (group connective children).tests = testsAmong children := by rw [tests]
  simp only [listed, mem_tests_among]
  constructor
  · exact fun each child member test inside => each test ⟨child, member, inside⟩
  · rintro each test ⟨child, member, inside⟩
    exact each child member test inside

theorem all_hold_iff (context : Context) (children : List Condition) :
    allHold context children = true ↔ ∀ child ∈ children, child.holds context = true := by
  induction children with
  | nil => simp [allHold]
  | cons child rest ih => simp [allHold, ih]

theorem any_holds_iff (context : Context) (children : List Condition) :
    anyHolds context children = true ↔ ∃ child ∈ children, child.holds context = true := by
  induction children with
  | nil => simp [anyHolds]
  | cons child rest ih => simp [anyHolds, ih]

theorem group_holds_iff (context : Context) (connective : Connective) (children : List Condition) :
    holds context (.group connective children) = true ↔
      children = [] ∨ match connective with
        | .and => ∀ child ∈ children, child.holds context = true
        | .or => ∃ child ∈ children, child.holds context = true := by
  cases children with
  | nil => simp [holds]
  | cons child rest =>
      cases connective with
      | and => simp [holds, all_hold_iff]
      | or => simp [holds, any_holds_iff]

end Condition

def Rule.tests (rule : Rule) : List FieldTest := rule.root.toCondition.tests

def Config.tests (config : Config) : List FieldTest := config.rules.flatMap Rule.tests

end RuleMatrix
