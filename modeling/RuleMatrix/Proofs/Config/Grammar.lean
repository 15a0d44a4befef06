import RuleMatrix.Proofs.Config.Spelling
import RuleMatrix.Proofs.Sequence

/-!
A definition may leave out any of its keys or give null under it, as long as it gives conditions or
names a file; a node may not, since the keys that it has decide whether it is a group or a leaf.
-/
set_option autoImplicit false

namespace RuleMatrix.Grammar

def given? (key : String) (fields : Fields) : Option Json :=
  (Fields.get? key fields).filter fun value => !value.isNull

-- Without both keys an object is a leaf, whatever else it holds.
def Single (fields : Fields) : Prop :=
  Fields.get? "operator" fields = none ∨ Fields.get? "conditions" fields = none

inductive Node (limit : Nat) : Nat → Json → Prop where
  | group (depth : Nat) (fields : Fields) (word : String) (items : List Json)
      (operator : Fields.get? "operator" fields = some (.str word))
      (spelled : word = "and" ∨ word = "or")
      (conditions : Fields.get? "conditions" fields = some (.arr items))
      (room : depth + 1 ≤ limit)
      (children : ∀ item ∈ items, Node limit (depth + 1) item) : Node limit depth (.obj fields)
  | leaf (depth : Nat) (fields : Fields) (path : String) (comparison : Comparison)
      (single : Single fields)
      (field : Fields.get? "field" fields = some (.str path))
      (op : Fields.get? "op" fields = some (.str comparison.spelling)) :
      Node limit depth (.obj fields)

structure Definition (limit : Nat) (fields : Fields) : Prop where
  file : ∀ value, given? "conditions-file" fields = some value → ∃ path, value = .str path
  source : (∃ value, given? "conditions" fields = some value) ∨
    ∃ path, path ≠ "" ∧ given? "conditions-file" fields = some (.str path)
  operator : ∀ value, given? "operator" fields = some value →
    value = .str "and" ∨ value = .str "or"
  outputs : ∀ value, given? "outputs" fields = some value → ∃ members, value = .obj members
  conditions : ∀ value, given? "conditions" fields = some value →
    1 ≤ limit ∧ ∃ items, value = .arr items ∧ ∀ item ∈ items, Node limit 1 item

def Document (limit : Nat) (value : Json) : Prop :=
  ∃ definitions, value = .obj definitions ∧
    ∀ entry ∈ definitions, ∃ fields, entry.2 = .obj fields ∧ Definition limit fields

inductive Yields : Json → Condition → Prop where
  | group (fields : Fields) (connective : Connective) (items : List Json)
      (children : List Condition)
      (operator : Fields.get? "operator" fields = some (.str connective.spelling))
      (conditions : Fields.get? "conditions" fields = some (.arr items))
      (each : List.Forall₂ Yields items children) :
      Yields (.obj fields) (.group connective children)
  | leaf (fields : Fields) (test : FieldTest)
      (single : Single fields)
      (field : Fields.get? "field" fields = some (.str test.field))
      (op : Fields.get? "op" fields = some (.str test.comparison.spelling))
      (value : (Fields.get? "value" fields).getD .null = test.literal) :
      Yields (.obj fields) (.leaf test)

structure Defines (name : String) (fields : Fields) (rule : Rule) : Prop where
  name : rule.name = name
  operator : given? "operator" fields = some (.str rule.root.connective.spelling) ∨
    given? "operator" fields = none ∧ rule.root.connective = .and
  conditions : (∃ items, given? "conditions" fields = some (.arr items) ∧
      List.Forall₂ Yields items rule.root.children) ∨
    given? "conditions" fields = none ∧ rule.root.children = []
  file : ∀ path, rule.conditionsFile = some path ↔
    path ≠ "" ∧ given? "conditions-file" fields = some (.str path)
  outputs : given? "outputs" fields = some (.obj rule.outputs) ∨
    given? "outputs" fields = none ∧ rule.outputs = []

def Describes (value : Json) (config : Config) : Prop :=
  List.Forall₂ (fun entry rule => Defines entry.1 entry.2.members rule) value.members config.rules

open Sequence

theorem node_yields (limit depth : Nat) (item : Json) (shape : Node limit depth item) :
    ∃ node, Yields item node := by
  induction shape with
  | group depth fields word items operator spelled conditions room children ih =>
      obtain ⟨connective, rfl⟩ := (Connective.word_iff word).mpr spelled
      obtain ⟨members, each⟩ := all_related Yields items ih
      exact ⟨.group connective members, .group fields connective items members operator conditions each⟩
  | leaf depth fields path comparison single field op =>
      exact ⟨.leaf ⟨path, comparison, (Fields.get? "value" fields).getD .null⟩,
        .leaf fields _ single field op rfl⟩

theorem named_file_iff (given path : String) :
    Rule.namedFile given = some path ↔ path ≠ "" ∧ given = path := by
  unfold Rule.namedFile
  by_cases empty : given = ""
  · rw [if_pos (String.isEmpty_iff.mpr empty)]
    constructor
    · nofun
    · intro named
      obtain ⟨present, same⟩ := named
      exact absurd (same.symm.trans empty) present
  · rw [if_neg (mt String.isEmpty_iff.mp empty), Option.some.injEq]
    constructor
    · intro same
      subst same
      exact ⟨empty, rfl⟩
    · exact And.right

theorem definition_defines (limit : Nat) (name : String) (fields : Fields)
    (shape : Definition limit fields) : ∃ rule, Defines name fields rule := by
  obtain ⟨connective, operator⟩ : ∃ connective : Connective,
      given? "operator" fields = some (.str connective.spelling) ∨
        given? "operator" fields = none ∧ connective = .and := by
    cases found : given? "operator" fields with
    | none => exact ⟨.and, .inr ⟨rfl, rfl⟩⟩
    | some value =>
        rcases shape.operator value found with rfl | rfl
        · exact ⟨.and, .inl rfl⟩
        · exact ⟨.or, .inl rfl⟩
  obtain ⟨members, conditions⟩ : ∃ members,
      (∃ items, given? "conditions" fields = some (.arr items) ∧ List.Forall₂ Yields items members) ∨
        given? "conditions" fields = none ∧ members = [] := by
    cases found : given? "conditions" fields with
    | none => exact ⟨[], .inr ⟨rfl, rfl⟩⟩
    | some value =>
        obtain ⟨_, items, rfl, each⟩ := shape.conditions value found
        obtain ⟨members, yields⟩ := all_related Yields items fun item member =>
          node_yields limit 1 item (each item member)
        exact ⟨members, .inl ⟨items, rfl, yields⟩⟩
  obtain ⟨outputs, shown⟩ : ∃ outputs, given? "outputs" fields = some (.obj outputs) ∨
      given? "outputs" fields = none ∧ outputs = [] := by
    cases found : given? "outputs" fields with
    | none => exact ⟨[], .inr ⟨rfl, rfl⟩⟩
    | some value =>
        obtain ⟨outputs, rfl⟩ := shape.outputs value found
        exact ⟨outputs, .inl rfl⟩
  obtain ⟨file, named⟩ : ∃ file : Option String, ∀ path, file = some path ↔
      path ≠ "" ∧ given? "conditions-file" fields = some (.str path) := by
    cases found : given? "conditions-file" fields with
    | none => exact ⟨none, fun path => by simp⟩
    | some value =>
        obtain ⟨given, rfl⟩ := shape.file value found
        exact ⟨Rule.namedFile given, fun path => by rw [named_file_iff]; simp⟩
  exact ⟨⟨name, ⟨connective, members⟩, file, outputs⟩, rfl, operator, conditions, named, shown⟩

theorem document_described (limit : Nat) (value : Json) (shape : Document limit value) :
    ∃ config, Describes value config := by
  obtain ⟨definitions, rfl, each⟩ := shape
  have defined : ∀ entry ∈ definitions, ∃ rule, Defines entry.1 entry.2.members rule := by
    intro entry member
    obtain ⟨fields, same, definition⟩ := each entry member
    rw [same]
    exact definition_defines limit entry.1 fields definition
  obtain ⟨rules, defines⟩ := all_related _ definitions defined
  exact ⟨⟨rules⟩, defines⟩

end RuleMatrix.Grammar
