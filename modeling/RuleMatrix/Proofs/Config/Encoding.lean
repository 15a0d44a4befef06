import RuleMatrix.Config.Draft
import RuleMatrix.Proofs.Condition
import RuleMatrix.Proofs.Config.DepthLimit

set_option autoImplicit false

namespace RuleMatrix

namespace Condition

theorem children_encoded (children : List Condition) :
    childrenToJson children = children.map toJson := by
  induction children with
  | nil => rfl
  | cons child rest ih => rw [childrenToJson, ih, List.map_cons]

theorem siblings_yield (children : List Condition)
    (each : ∀ child ∈ children, Grammar.Yields child.toJson child) :
    List.Forall₂ Grammar.Yields (childrenToJson children) children := by
  rw [children_encoded, List.forall₂_map_left_iff, List.forall₂_same]
  exact each

theorem tree_yields (node : Condition) : Grammar.Yields node.toJson node := by
  induction node using nested_induction with
  | leaf test =>
      rw [toJson, FieldTest.toJson]
      exact .leaf _ test (.inl rfl) rfl rfl rfl
  | group connective children ih =>
      rw [toJson]
      exact .group _ connective _ children rfl rfl (siblings_yield children ih)

-- The reader counts down the groups that may still open, the builder measures the finished tree: what
-- the two have in common is that the deepest child lies below the levels left.
theorem children_read_back (rule : String) (limit levels : Nat) (children : List Condition) :
    childrenOfJson rule limit levels (.arr (childrenToJson children)) =
      if deepest children < levels then .ok children else .error (.tooDeep rule limit) :=
  Grammar.children_with_room rule limit levels _ children
    (siblings_yield children fun child _ => tree_yields child)

end Condition

namespace Draft

def definition (draft : Draft) : Fields := draft.toJson.members

theorem definition_operator (draft : Draft) :
    Fields.get? "operator" draft.definition = some (.str draft.connective.spelling) := rfl

theorem definition_conditions (draft : Draft) :
    Fields.get? "conditions" draft.definition =
      draft.conditions.map fun given => .arr (Condition.childrenToJson given) := by
  obtain ⟨connective, conditions, file, outputs⟩ := draft
  cases conditions <;> cases file <;> simp [definition, toJson, Json.members, Fields.get?]

theorem definition_file (draft : Draft) :
    Fields.get? "conditions-file" draft.definition = draft.conditionsFile.map .str := by
  obtain ⟨connective, conditions, file, outputs⟩ := draft
  cases conditions <;> cases file <;> simp [definition, toJson, Json.members, Fields.get?]

theorem definition_outputs (draft : Draft) :
    Fields.get? "outputs" draft.definition = some (.obj draft.outputs) := by
  obtain ⟨connective, conditions, file, outputs⟩ := draft
  cases conditions <;> cases file <;> simp [definition, toJson, Json.members, Fields.get?]

theorem file_read_back (draft : Draft) :
    Rule.fileOf draft.definition = .ok (draft.conditionsFile.bind Rule.namedFile) := by
  rw [Rule.fileOf, definition_file]
  cases draft.conditionsFile <;> rfl

theorem connective_of_definition (draft : Draft) :
    Rule.connectiveOf draft.definition = .ok draft.connective := by
  rw [Rule.connectiveOf, definition_operator]
  exact (Connective.read_iff _ _).mpr rfl

theorem outputs_read_back (draft : Draft) :
    Rule.outputsOf draft.definition = .ok draft.outputs := by
  rw [Rule.outputsOf, definition_outputs]

theorem conditions_read_back (draft : Draft) :
    Rule.conditionsOf draft.definition =
      draft.conditions.map fun given => .arr (Condition.childrenToJson given) := by
  rw [Rule.conditionsOf, definition_conditions]
  cases draft.conditions <;> rfl

theorem rule_read_back (limits : Limits) (name : String) (draft : Draft) :
    Rule.ofJson limits name draft.toJson = draft.build limits name := by
  change Rule.ofFields limits name draft.definition = draft.build limits name
  simp only [Rule.ofFields, file_read_back, connective_of_definition, outputs_read_back,
    conditions_read_back, Sequence.map_error_of_ok, bind, Except.bind, build]
  cases given : draft.conditions with
  | none => cases draft.conditionsFile.bind Rule.namedFile <;> rfl
  | some children =>
      have depth : Group.depth ⟨draft.connective, children⟩ = Condition.deepest children + 1 := rfl
      simp only [Option.map_some, Option.isNone_some, Bool.false_and, Bool.false_eq_true, if_false,
        Rule.childrenOf, Condition.children_read_back, Option.getD_some, Option.isSome_some,
        Bool.true_and, depth, decide_eq_true_eq]
      by_cases fits : Condition.deepest children < limits.depth
      · rw [if_pos fits, if_neg (by omega)]
      · rw [if_neg fits, if_pos (by omega)]

end Draft

namespace Config

theorem unused_behind (used : List String) (entry : String × Draft) (rest : List (String × Draft))
    (distinct : ((entry :: rest).map Prod.fst).Nodup) (unused : ∀ other ∈ rest, other.1 ∉ used) :
    ∀ other ∈ rest, other.1 ∉ entry.1 :: used := by
  intro other member known
  rcases List.mem_cons.mp known with same | before
  · exact (List.nodup_cons.mp distinct).1 (List.mem_map.mpr ⟨other, member, same⟩)
  · exact unused other member before

theorem build_unused (limits : Limits) (used : List String) (drafts : List (String × Draft))
    (distinct : (drafts.map Prod.fst).Nodup)
    (unused : ∀ entry ∈ drafts, entry.1 ∉ used) :
    buildAfter limits used drafts = drafts.mapM fun entry => entry.2.build limits entry.1 := by
  induction drafts generalizing used with
  | nil => rfl
  | cons entry rest ih =>
      obtain ⟨fresh, others⟩ := List.forall_mem_cons.mp unused
      have later := unused_behind used entry rest distinct others
      rw [buildAfter, if_neg (mt List.contains_iff_mem.mp fresh),
        ih (entry.1 :: used) (List.nodup_cons.mp distinct).2 later, List.mapM_cons]
      rfl

theorem reading_encoded_drafts_builds_them (limits : Limits) (drafts : List (String × Draft))
    (distinct : (drafts.map Prod.fst).Nodup) :
    Config.ofJson limits (Draft.listToJson drafts) = Config.build limits drafts := by
  have unused : ∀ entry ∈ drafts, entry.1 ∉ ([] : List String) := fun _ _ => List.not_mem_nil
  rw [build, build_unused limits [] drafts distinct unused, Draft.listToJson, Config.ofJson,
    List.mapM_map]
  simp only [Function.comp_def, Draft.rule_read_back]

def mixedDrafts : List (String × Draft) :=
  [("file", ⟨.or, none, some "more.json", [("a", .null)]⟩),
    ("deep", ⟨.and, some [.group .or []], some "", []⟩)]

theorem mixed_drafts_read_back :
    Config.ofJson ⟨1⟩ (Draft.listToJson mixedDrafts) = .error (.tooDeep "deep" 1) ∧
      Config.ofJson ⟨2⟩ (Draft.listToJson mixedDrafts) =
        .ok ⟨[⟨"file", ⟨.or, []⟩, some "more.json", [("a", .null)]⟩,
          ⟨"deep", ⟨.and, [.group .or []]⟩, none, []⟩]⟩ := by
  have distinct : (mixedDrafts.map Prod.fst).Nodup := by decide
  constructor
  · exact reading_encoded_drafts_builds_them ⟨1⟩ mixedDrafts distinct
  · exact reading_encoded_drafts_builds_them ⟨2⟩ mixedDrafts distinct

end Config

end RuleMatrix
