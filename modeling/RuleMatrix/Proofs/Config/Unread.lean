import RuleMatrix.Proofs.Config.Reading
import RuleMatrix.Proofs.Fields

set_option autoImplicit false

namespace RuleMatrix

namespace Fields

-- Members under other keys than those read come and go, one by one and at any place. To move one is
-- to remove it and to add it elsewhere.
inductive Edited (read : List String) (fields : Fields) : Fields → Prop where
  | unchanged : Edited read fields fields
  | added (before after : Fields) (key : String) (value : Json) (unread : key ∉ read)
      (earlier : Edited read fields (before ++ after)) :
      Edited read fields (before ++ (key, value) :: after)
  | removed (before after : Fields) (key : String) (value : Json) (unread : key ∉ read)
      (earlier : Edited read fields (before ++ (key, value) :: after)) :
      Edited read fields (before ++ after)

theorem edited_found (read : List String) (fields others : Fields)
    (edited : Edited read fields others) (key : String) (looked : key ∈ read) :
    get? key others = get? key fields := by
  induction edited with
  | unchanged => rfl
  | added before after other value unread _ ih =>
      have different : other ≠ key := fun same => unread (same ▸ looked)
      rw [get_beside key other value before after different, ih]
  | removed before after other value unread _ ih =>
      have different : other ≠ key := fun same => unread (same ▸ looked)
      rw [← ih, get_beside key other value before after different]

end Fields

namespace Grammar

mutual
-- A node, and the nodes inside it, with members edited that are not read. A leaf is edited as a
-- whole, so that only at the end it must not have come to be a group.
inductive NodeEdited : Json → Json → Prop where
  | kept (item : Json) : NodeEdited item item
  | leaf (fields others : Fields) (single : Single fields) (still : Single others)
      (edited : Fields.Edited ["field", "op", "value"] fields others) :
      NodeEdited (.obj fields) (.obj others)
  | group (fields inside others : Fields) (both : ¬ Single fields)
      (inner : ConditionsEdited fields inside)
      (edited : Fields.Edited ["operator", "conditions"] inside others) :
      NodeEdited (.obj fields) (.obj others)

inductive ConditionsEdited : Fields → Fields → Prop where
  | kept (fields : Fields) : ConditionsEdited fields fields
  | listed (fields : Fields) (items others : List Json)
      (conditions : Fields.get? "conditions" fields = some (.arr items))
      (each : List.Forall₂ NodeEdited items others) :
      ConditionsEdited fields (Fields.insert "conditions" (.arr others) fields)
end

inductive DefinitionEdited : Json → Json → Prop where
  | kept (value : Json) : DefinitionEdited value value
  | object (fields inside others : Fields) (inner : ConditionsEdited fields inside)
      (edited : Fields.Edited ["operator", "conditions", "conditions-file", "outputs"] inside others) :
      DefinitionEdited (.obj fields) (.obj others)

inductive DocumentEdited : Json → Json → Prop where
  | kept (value : Json) : DocumentEdited value value
  | object (definitions others : Fields)
      (each : List.Forall₂ (fun entry other => entry.1 = other.1 ∧ DefinitionEdited entry.2 other.2)
        definitions others) :
      DocumentEdited (.obj definitions) (.obj others)

open Sequence

theorem leaf_read_same (rule : String) (fields others : Fields)
    (edited : Fields.Edited ["field", "op", "value"] fields others) :
    FieldTest.ofFields rule others = FieldTest.ofFields rule fields := by
  have found := Fields.edited_found _ fields others edited
  have field := found "field" (by simp)
  have op := found "op" (by simp)
  have value := found "value" (by simp)
  simp only [FieldTest.ofFields, FieldTest.fieldOf, FieldTest.comparisonOf, field, op, value]

theorem conditions_edited_elsewhere (fields inside : Fields) (inner : ConditionsEdited fields inside)
    (key : String) (other : key ≠ "conditions") : Fields.get? key inside = Fields.get? key fields := by
  cases inner with
  | kept => rfl
  | listed _ items others conditions each => rw [Fields.get_insert, if_neg other.symm]

theorem group_members (fields : Fields) (both : ¬ Single fields) :
    ∃ operator given, Fields.get? "operator" fields = some operator ∧
      Fields.get? "conditions" fields = some given := by
  obtain ⟨operator, first⟩ := Option.ne_none_iff_exists'.mp fun absent => both (.inl absent)
  obtain ⟨given, second⟩ := Option.ne_none_iff_exists'.mp fun absent => both (.inr absent)
  exact ⟨operator, given, first, second⟩

section Nodes

variable (rule : String) (nested : Json → Except ConfigError (List Condition))

-- What the nodes inside are read with does not tell the edited ones apart.
variable (blind : ∀ items others, List.Forall₂ NodeEdited items others →
  nested (.arr others) = nested (.arr items))

include blind

theorem conditions_read_same (fields inside : Fields) (inner : ConditionsEdited fields inside)
    (given : Json) (found : Fields.get? "conditions" fields = some given) :
    ∃ changed, Fields.get? "conditions" inside = some changed ∧
      nested changed = nested given := by
  cases inner with
  | kept => exact ⟨given, found, rfl⟩
  | listed _ items others conditions each =>
      obtain rfl := Option.some.inj (found.symm.trans conditions)
      exact ⟨.arr others, by rw [Fields.get_insert, if_pos rfl], blind items others each⟩

theorem node_read_same (item other : Json) (edited : NodeEdited item other) :
    Condition.ofJson rule nested other = Condition.ofJson rule nested item := by
  cases edited with
  | kept => rfl
  | leaf fields others single still edited =>
      rw [Condition.ofJson, Condition.ofJson, single_opened rule nested fields single,
        single_opened rule nested others still, leaf_read_same rule fields others edited]
  | group fields inside others both inner edited =>
      obtain ⟨operator, given, first, second⟩ := group_members fields both
      obtain ⟨changed, there, same⟩ := conditions_read_same nested blind fields inside inner given second
      have named : Fields.get? "operator" others = some operator := by
        rw [Fields.edited_found _ inside others edited "operator" (by simp),
          conditions_edited_elsewhere fields inside inner "operator" (by decide), first]
      have listed : Fields.get? "conditions" others = some changed := by
        rw [Fields.edited_found _ inside others edited "conditions" (by simp), there]
      rw [Condition.ofJson, Condition.ofJson, group_opened rule nested fields operator given first second,
        group_opened rule nested others operator changed named listed, same]

end Nodes

theorem children_read_same (rule : String) (limit levels : Nat) (items others : List Json)
    (each : List.Forall₂ NodeEdited items others) :
    Condition.childrenOfJson rule limit levels (.arr others) =
      Condition.childrenOfJson rule limit levels (.arr items) := by
  induction levels generalizing items others with
  | zero => rfl
  | succ levels ih =>
      rw [Condition.childrenOfJson, Condition.childrenOfJson]
      apply all_same
      exact each.imp fun item other edited => node_read_same rule _ ih item other edited

theorem definition_conditions_same (limits : Limits) (name : String) (fields inside : Fields)
    (inner : ConditionsEdited fields inside) :
    (Rule.conditionsOf inside).isNone = (Rule.conditionsOf fields).isNone ∧
      Rule.childrenOf limits name (Rule.conditionsOf inside) =
        Rule.childrenOf limits name (Rule.conditionsOf fields) := by
  cases inner with
  | kept => exact ⟨rfl, rfl⟩
  | listed _ items others conditions each =>
      have first : Rule.conditionsOf fields = some (.arr items) := by
        rw [Rule.conditionsOf, conditions]
        rfl
      have second : Rule.conditionsOf (Fields.insert "conditions" (.arr others) fields) =
          some (.arr others) := by
        rw [Rule.conditionsOf, Fields.get_insert, if_pos rfl]
        rfl
      rw [first, second]
      exact ⟨rfl, children_read_same name limits.depth limits.depth items others each⟩

theorem definition_read_same (limits : Limits) (name : String) (value other : Json)
    (edited : DefinitionEdited value other) :
    Rule.ofJson limits name other = Rule.ofJson limits name value := by
  cases edited with
  | kept => rfl
  | object fields inside others inner edited =>
      have found := Fields.edited_found _ inside others edited
      have elsewhere := conditions_edited_elsewhere fields inside inner
      have file : Rule.fileOf others = Rule.fileOf fields := by
        rw [Rule.fileOf, Rule.fileOf, found "conditions-file" (by simp), elsewhere _ (by decide)]
      have connective : Rule.connectiveOf others = Rule.connectiveOf fields := by
        rw [Rule.connectiveOf, Rule.connectiveOf, found "operator" (by simp), elsewhere _ (by decide)]
      have outputs : Rule.outputsOf others = Rule.outputsOf fields := by
        rw [Rule.outputsOf, Rule.outputsOf, found "outputs" (by simp), elsewhere _ (by decide)]
      have conditions : Rule.conditionsOf others = Rule.conditionsOf inside := by
        rw [Rule.conditionsOf, Rule.conditionsOf, found "conditions" (by simp)]
      obtain ⟨given, children⟩ := definition_conditions_same limits name fields inside inner
      simp only [Rule.ofJson, Rule.ofFields, file, connective, outputs, conditions, given, children]

end Grammar

namespace Config

theorem unread_members_ignored (limits : Limits) (value other : Json)
    (edited : Grammar.DocumentEdited value other) : ofJson limits other = ofJson limits value := by
  cases edited with
  | kept => rfl
  | object definitions others each =>
      have rules : (others.mapM fun entry => Rule.ofJson limits entry.1 entry.2) =
          definitions.mapM fun entry => Rule.ofJson limits entry.1 entry.2 := by
        apply Sequence.all_same
        refine each.imp fun entry other both => ?_
        rw [← both.1]
        exact Grammar.definition_read_same limits entry.1 entry.2 other.2 both.2
      rw [ofJson, ofJson, rules]

def leafWith (extra : Fields) : Json := .obj (extra ++ [("field", .str "a"), ("op", .str "=")])

def groupWith (extra : Fields) (inner : Json) : Fields :=
  extra ++ [("operator", .str "or"), ("conditions", .arr [inner])]

def definitionWith (extra : Fields) (first second : Json) : Fields :=
  extra ++ [("conditions", .arr [first, second])]

def plainNodes : Json :=
  .obj [("r", .obj (definitionWith [] (.obj (groupWith [] (leafWith []))) (leafWith [])))]

def annotatedNodes : Json :=
  .obj [("r", .obj (definitionWith [("note", .null)]
    (.obj (groupWith [("field", .arr [])] (leafWith [("operator", .null)])))
    (leafWith [("conditions", .arr [.null])])))]

theorem annotated_nodes_edited : Grammar.DocumentEdited plainNodes annotatedNodes := by
  have inner : Grammar.NodeEdited (leafWith []) (leafWith [("operator", .null)]) :=
    .leaf _ _ (.inl rfl) (.inr rfl) (.added [] _ "operator" .null (by decide) .unchanged)
  have outer : Grammar.NodeEdited (leafWith []) (leafWith [("conditions", .arr [.null])]) :=
    .leaf _ _ (.inl rfl) (.inl rfl) (.added [] _ "conditions" _ (by decide) .unchanged)
  have group : Grammar.NodeEdited (.obj (groupWith [] (leafWith [])))
      (.obj (groupWith [("field", .arr [])] (leafWith [("operator", .null)]))) :=
    .group _ _ _ (by simp [Grammar.Single, groupWith, Fields.get?])
      (.listed _ [_] [_] rfl (.cons inner .nil))
      (.added [] (groupWith [] (leafWith [("operator", .null)])) "field" _ (by decide) .unchanged)
  refine .object _ _ (.cons ⟨rfl, ?_⟩ .nil)
  exact .object _ _ _ (.listed _ [_, _] [_, _] rfl (.cons group (.cons outer .nil)))
    (.added [] (definitionWith [] _ _) "note" .null (by decide) .unchanged)

theorem annotated_nodes_read :
    Grammar.DocumentEdited plainNodes annotatedNodes ∧
      ofJson ⟨2⟩ annotatedNodes =
        .ok ⟨[⟨"r", ⟨.and, [.group .or [.leaf ⟨"a", .equal, .null⟩], .leaf ⟨"a", .equal, .null⟩]⟩,
          none, []⟩]⟩ ∧
      ofJson ⟨1⟩ annotatedNodes = .error (.tooDeep "r" 1) := by
  have edited := annotated_nodes_edited
  exact ⟨edited, (unread_members_ignored ⟨2⟩ plainNodes annotatedNodes edited).trans rfl,
    (unread_members_ignored ⟨1⟩ plainNodes annotatedNodes edited).trans rfl⟩

end Config

end RuleMatrix
