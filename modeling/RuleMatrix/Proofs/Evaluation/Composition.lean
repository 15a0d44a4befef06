import RuleMatrix.Proofs.Evaluation.Run
import RuleMatrix.Proofs.Fields.Merge

set_option autoImplicit false

namespace RuleMatrix

namespace Config

theorem evaluate_append (config other : Config) (context : Context) :
    Config.evaluate ⟨config.rules ++ other.rules⟩ context =
      ⟨(config.evaluate context).matched || (other.evaluate context).matched,
        (config.evaluate context).matching ++ (other.evaluate context).matching,
        Fields.merge [(config.evaluate context).outputs, (other.evaluate context).outputs]⟩ := by
  simp only [evaluate_run, List.any_append, List.filter_append, List.map_append,
    Fields.merge_append]

theorem evaluation_composes :
    (∀ (config other : Config) (context : Context),
      Config.evaluate ⟨config.rules ++ other.rules⟩ context =
        ⟨(config.evaluate context).matched || (other.evaluate context).matched,
          (config.evaluate context).matching ++ (other.evaluate context).matching,
          Fields.merge [(config.evaluate context).outputs, (other.evaluate context).outputs]⟩) ∧
    (∀ objects others : List Fields,
      Fields.merge (objects ++ others) = Fields.merge [Fields.merge objects, Fields.merge others]) ∧
    (∀ objects : List Fields,
      Fields.merge (objects.filter fun object => !object.isEmpty) = Fields.merge objects) ∧
    ∀ (object : Fields) (objects : List Fields), Fields.Distinct object →
      (∀ other ∈ objects, other = object ∨ other = []) → object ∈ objects →
      Fields.merge objects = object := by
  refine ⟨evaluate_append, Fields.merge_append, Fields.merge_without_empty, ?_⟩
  exact fun object objects distinct => Fields.merge_copies object distinct objects

-- The second part takes over a key of the first and adds one; its other rule does not match.
def firstPart : Config :=
  ⟨[⟨"a", ⟨.and, []⟩, none, [("x", .null), ("y", .str "1")]⟩]⟩

def secondPart : Config :=
  ⟨[⟨"b", ⟨.or, [.group .or []]⟩, none, [("z", .null), ("x", .obj [("p", .null)])]⟩,
    ⟨"c", ⟨.and, [.leaf ⟨"k", .notEqual, .null⟩]⟩, none, [("y", .null)]⟩]⟩

theorem two_parts_composed :
    Config.evaluate ⟨firstPart.rules ++ secondPart.rules⟩ Context.empty =
        ⟨true, ["a", "b"], [("x", .obj [("p", .null)]), ("y", .str "1"), ("z", .null)]⟩ ∧
      Fields.merge [[], [("x", .null), ("y", .null)], [], [("x", .null), ("y", .null)]] =
        [("x", .null), ("y", .null)] := by
  obtain ⟨evaluated, _, _, copies⟩ := evaluation_composes
  have distinct : Fields.Distinct [("x", .null), ("y", .null)] := by
    simp [Fields.Distinct, Fields.keys]
  constructor
  · exact (evaluated firstPart secondPart Context.empty).trans rfl
  · exact copies _ _ distinct (by simp) (by simp)

end Config

end RuleMatrix
