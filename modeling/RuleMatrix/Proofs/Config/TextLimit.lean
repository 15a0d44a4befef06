import RuleMatrix.Proofs.Config.Compiled
import RuleMatrix.Proofs.Config.Encoding
import RuleMatrix.Proofs.Json.RoundTrip

/-!
A group takes two brackets of the text, and three more stand around the trees of a rule, so the limit
on brackets is met before the limit on groups: a tree of 62 groups is always read, one of 64 never.
-/
set_option autoImplicit false

namespace RuleMatrix

namespace Condition

mutual
def brackets : Condition → Nat
  | .leaf _ => 1
  | .group _ children => mostBrackets children + 2

def mostBrackets : List Condition → Nat
  | [] => 0
  | child :: rest => max (brackets child) (mostBrackets rest)
end

def Scalar (condition : Condition) : Prop :=
  ∀ test ∈ condition.tests, test.literal.isCompound = false

theorem group_scalar_iff (connective : Connective) (children : List Condition) :
    (group connective children).Scalar ↔ ∀ child ∈ children, child.Scalar :=
  group_tests_iff (fun test => test.literal.isCompound = false) connective children

theorem children_nesting (children : List Condition)
    (each : ∀ child ∈ children, child.toJson.nesting = child.brackets) :
    Json.nestingItems (childrenToJson children) = mostBrackets children := by
  induction children with
  | nil => rfl
  | cons child rest ih =>
      obtain ⟨here, others⟩ := List.forall_mem_cons.mp each
      rw [childrenToJson, Json.nestingItems, mostBrackets, here, ih others]

theorem node_nesting (condition : Condition) (scalar : condition.Scalar) :
    condition.toJson.nesting = condition.brackets := by
  induction condition using nested_induction with
  | leaf test =>
      have literal := Json.scalar_nesting test.literal (scalar test List.mem_cons_self)
      simp [toJson, FieldTest.toJson, Json.nesting, Json.nestingFields, literal, brackets]
  | group connective children ih =>
      have inner := (group_scalar_iff connective children).mp scalar
      have same := children_nesting children fun child member => ih child member (inner child member)
      simp [toJson, Json.nesting, Json.nestingFields, same, brackets]

theorem most_brackets_bounds (children : List Condition)
    (each : ∀ child ∈ children,
      2 * child.depth ≤ child.brackets ∧ child.brackets ≤ 2 * child.depth + 1) :
    2 * deepest children ≤ mostBrackets children ∧
      mostBrackets children ≤ 2 * deepest children + 1 := by
  induction children with
  | nil => exact ⟨Nat.le_refl _, Nat.le_succ _⟩
  | cons child rest ih =>
      obtain ⟨here, others⟩ := List.forall_mem_cons.mp each
      have later := ih others
      rw [deepest, mostBrackets]
      omega

theorem brackets_bounds (condition : Condition) :
    2 * condition.depth ≤ condition.brackets ∧ condition.brackets ≤ 2 * condition.depth + 1 := by
  induction condition using nested_induction with
  | leaf test => exact ⟨Nat.zero_le _, Nat.le_refl _⟩
  | group connective children ih =>
      have inner := most_brackets_bounds children ih
      rw [depth, brackets]
      omega

theorem node_well_formed (condition : Condition) (formed : condition.WellFormed) :
    condition.toJson.WellFormed := by
  induction condition using nested_induction with
  | leaf test =>
      have literal := formed test List.mem_cons_self
      simp [toJson, FieldTest.toJson, Json.WellFormed, Json.WellFormedFields, Fields.Distinct,
        Fields.keys, literal]
  | group connective children ih =>
      have inner := (group_well_formed_iff connective children).mp formed
      have each : (Json.arr (childrenToJson children)).WellFormed := by
        rw [Json.well_formed_array_iff, children_encoded, List.forall_mem_map]
        exact fun child member => ih child member (inner child member)
      rw [toJson]
      exact ⟨by simp [Fields.Distinct, Fields.keys], trivial, each, trivial⟩

end Condition

namespace Draft

structure Scalar (draft : Draft) : Prop where
  conditions : ∀ condition ∈ draft.conditions.getD [], condition.Scalar
  outputs : ∀ output ∈ draft.outputs, output.2.isCompound = false

def root (draft : Draft) : Condition := .group draft.connective (draft.conditions.getD [])

theorem scalar_outputs_nesting (outputs : Fields)
    (scalar : ∀ output ∈ outputs, output.2.isCompound = false) : Json.nestingFields outputs = 0 := by
  apply Nat.le_zero.mp
  rw [Json.nesting_fields_le_iff]
  exact fun output member => Nat.le_of_eq (Json.scalar_nesting output.2 (scalar output member))

theorem draft_nesting (draft : Draft) (scalar : draft.Scalar) :
    draft.toJson.nesting = draft.root.brackets := by
  obtain ⟨connective, conditions, file, outputs⟩ := draft
  have shown := scalar_outputs_nesting outputs scalar.outputs
  have trees := Condition.children_nesting (conditions.getD []) fun child member =>
    Condition.node_nesting child (scalar.conditions child member)
  have whole : (root ⟨connective, conditions, file, outputs⟩).brackets =
      Condition.mostBrackets (conditions.getD []) + 2 := rfl
  rw [whole, ← trees]
  cases conditions <;> cases file <;>
    simp [toJson, Json.nesting, Json.nestingFields, shown, Condition.childrenToJson, Json.nestingItems]

theorem scalar_well_formed (draft : Draft) (scalar : draft.Scalar)
    (distinct : Fields.Distinct draft.outputs) : draft.WellFormed := by
  constructor
  · exact fun condition member test inside =>
      Json.scalar_well_formed test.literal (scalar.conditions condition member test inside)
  · exact (Json.well_formed_object_iff draft.outputs).mpr
      ⟨distinct, fun output member => Json.scalar_well_formed output.2 (scalar.outputs output member)⟩

theorem encoded_well_formed (draft : Draft) (formed : draft.WellFormed) : draft.toJson.WellFormed := by
  obtain ⟨connective, conditions, file, outputs⟩ := draft
  have shown := formed.outputs
  have trees : (Json.arr (Condition.childrenToJson (conditions.getD []))).WellFormed := by
    rw [Json.well_formed_array_iff, Condition.children_encoded, List.forall_mem_map]
    exact fun child member => Condition.node_well_formed child (formed.conditions child member)
  cases conditions with
  | none =>
      cases file <;>
        simpa [toJson, Json.WellFormed, Json.WellFormedFields, Fields.Distinct, Fields.keys] using shown
  | some given =>
      cases file <;>
        simpa [toJson, Json.WellFormed, Json.WellFormedFields, Fields.Distinct, Fields.keys]
          using And.intro trees shown

end Draft

namespace Config

theorem encoded_read (limits : Limits) (drafts : List (String × Draft)) (config : Config)
    (built : build limits drafts = .ok config) :
    Config.ofJson limits (Draft.listToJson drafts) = .ok config := by
  obtain ⟨_, each⟩ := built_steps limits drafts config built
  have read : (drafts.mapM fun entry => Rule.ofJson limits entry.1 entry.2.toJson) =
      .ok config.rules := by
    refine (Sequence.all_ok_iff _ drafts config.rules).mpr (each.imp fun entry rule first => ?_)
    exact (Draft.rule_read_back limits entry.1 entry.2).trans first
  rw [Draft.listToJson, Config.ofJson, List.mapM_map]
  exact (Sequence.bind_ok_iff _ _ _).mpr ⟨config.rules, read, rfl⟩

theorem encoded_list_well_formed (limits : Limits) (drafts : List (String × Draft)) (config : Config)
    (built : build limits drafts = .ok config) (formed : ∀ entry ∈ drafts, entry.2.WellFormed) :
    (Draft.listToJson drafts).WellFormed := by
  obtain ⟨distinct, _⟩ := built_steps limits drafts config built
  refine (Json.well_formed_object_iff _).mpr ⟨?_, ?_⟩
  · rw [Fields.Distinct, Fields.keys, List.map_map]
    exact distinct
  · rw [List.forall_mem_map]
    exact fun entry member => Draft.encoded_well_formed entry.2 (formed entry member)

theorem built_roots (limits : Limits) (drafts : List (String × Draft)) (config : Config)
    (built : build limits drafts = .ok config) :
    config.rules.map (fun rule => rule.root.toCondition) = drafts.map fun entry => entry.2.root := by
  obtain ⟨_, each⟩ := built_steps limits drafts config built
  apply Sequence.related_images
  refine each.imp fun entry rule first => ?_
  rw [Draft.build_keeps limits entry.1 entry.2 rule first]
  rfl

theorem encoded_list_nesting (levels : Nat) (limits : Limits) (drafts : List (String × Draft))
    (config : Config) (built : build limits drafts = .ok config)
    (scalar : ∀ entry ∈ drafts, entry.2.Scalar) :
    (Draft.listToJson drafts).nesting ≤ levels + 1 ↔
      ∀ rule ∈ config.rules, rule.root.toCondition.brackets ≤ levels := by
  have drawn : (∀ rule ∈ config.rules, rule.root.toCondition.brackets ≤ levels) ↔
      ∀ entry ∈ drafts, entry.2.root.brackets ≤ levels := by
    have roots := built_roots limits drafts config built
    rw [← List.forall_mem_map (f := fun rule : Rule => rule.root.toCondition)
      (P := fun root => root.brackets ≤ levels), roots, List.forall_mem_map]
  rw [drawn, Draft.listToJson, Json.nesting_object_le_iff, List.forall_mem_map]
  refine forall₂_congr fun entry member => ?_
  rw [Draft.draft_nesting entry.2 (scalar entry member)]

section OwnText

variable (limits : Limits) (drafts : List (String × Draft)) (config : Config)
variable (built : build limits drafts = .ok config)
variable (distinct : ∀ entry ∈ drafts, Fields.Distinct entry.2.outputs)
variable (scalar : ∀ entry ∈ drafts, entry.2.Scalar)

include built distinct scalar

theorem own_text_formed : (Draft.listToJson drafts).WellFormed :=
  encoded_list_well_formed limits drafts config built fun entry member =>
    Draft.scalar_well_formed entry.2 (scalar entry member) (distinct entry member)

theorem own_text_read (fits : ∀ rule ∈ config.rules, rule.root.toCondition.brackets ≤ 126) :
    ofText limits (Draft.listToJson drafts).text = .ok config := by
  have formed := own_text_formed limits drafts config built distinct scalar
  have nesting := (encoded_list_nesting 126 limits drafts config built scalar).mpr fits
  have parsed : Json.parse (Draft.listToJson drafts).text = .ok (Draft.listToJson drafts) :=
    Json.text_read_back Json.maxNesting _ formed nesting
  rw [ofText, parsed]
  exact encoded_read limits drafts config built

theorem own_text_refused (deep : ∃ rule ∈ config.rules, 126 < rule.root.toCondition.brackets) :
    ∃ e, ofText limits (Draft.listToJson drafts).text = .error (.badConfig (.unreadable e)) ∧
      e.cause = .recursionLimit := by
  have formed := own_text_formed limits drafts config built distinct scalar
  have nesting : Json.maxNesting < (Draft.listToJson drafts).nesting := by
    apply Nat.not_le.mp
    intro fits
    obtain ⟨rule, member, deeper⟩ := deep
    have bound := (encoded_list_nesting 126 limits drafts config built scalar).mp fits rule member
    exact Nat.not_le.mpr deeper bound
  obtain ⟨e, refused, cause⟩ := Json.deep_text_refused Json.maxNesting _ formed nesting
  have parsed : Json.parse (Draft.listToJson drafts).text = .error e := refused
  refine ⟨e, ?_, cause⟩
  rw [ofText, parsed]

theorem own_text_read_within_brackets :
    ofJson limits (Draft.listToJson drafts) = .ok config ∧
      ((∀ rule ∈ config.rules, rule.root.toCondition.brackets ≤ 126) →
        ofText limits (Draft.listToJson drafts).text = .ok config) ∧
      ((∃ rule ∈ config.rules, 126 < rule.root.toCondition.brackets) →
        ∃ e, ofText limits (Draft.listToJson drafts).text = .error (.badConfig (.unreadable e)) ∧
          e.cause = .recursionLimit) ∧
      ((∀ rule ∈ config.rules, rule.root.depth ≤ 62) →
        ofText limits (Draft.listToJson drafts).text = .ok config) ∧
      ((∃ rule ∈ config.rules, 64 ≤ rule.root.depth) →
        ∃ e, ofText limits (Draft.listToJson drafts).text = .error (.badConfig (.unreadable e)) ∧
          e.cause = .recursionLimit) := by
  have read := own_text_read limits drafts config built distinct scalar
  have refused := own_text_refused limits drafts config built distinct scalar
  refine ⟨encoded_read limits drafts config built, read, refused, ?_, ?_⟩
  · intro shallow
    refine read fun rule member => ?_
    have depth : rule.root.toCondition.depth ≤ 62 := shallow rule member
    have bounds := rule.root.toCondition.brackets_bounds
    omega
  · rintro ⟨rule, member, deep⟩
    have depth : 64 ≤ rule.root.toCondition.depth := deep
    have bounds := rule.root.toCondition.brackets_bounds
    exact refused ⟨rule, member, by omega⟩

end OwnText

def tower : Nat → Condition
  | 0 => .leaf ⟨"a", .equal, .str "1"⟩
  | levels + 1 => .group .and [tower levels]

theorem tower_depth (levels : Nat) : (tower levels).depth = levels := by
  induction levels with
  | zero => rfl
  | succ levels ih => rw [tower, Condition.depth, Condition.deepest, Condition.deepest, ih, Nat.max_zero]

theorem tower_scalar (levels : Nat) : (tower levels).Scalar := by
  induction levels with
  | zero =>
      intro test member
      rw [tower, Condition.tests, List.mem_singleton] at member
      rw [member]
      rfl
  | succ levels ih =>
      exact (Condition.group_scalar_iff .and [tower levels]).mpr (List.forall_mem_singleton.mpr ih)

def towerDrafts (levels : Nat) : List (String × Draft) :=
  [("r", ⟨.and, some [tower levels], none, [("k", .str "v")]⟩)]

def towerConfig (levels : Nat) : Config :=
  ⟨[⟨"r", ⟨.and, [tower levels]⟩, none, [("k", .str "v")]⟩]⟩

theorem tower_built (levels : Nat) (room : levels < 64) :
    build Limits.standard (towerDrafts levels) = .ok (towerConfig levels) := by
  have depth : Group.depth ⟨.and, [tower levels]⟩ = levels + 1 := tower_depth (levels + 1)
  have fits : ¬64 < levels + 1 := by omega
  have rule : Draft.build Limits.standard "r" ⟨.and, some [tower levels], none, [("k", .str "v")]⟩ =
      .ok ⟨"r", ⟨.and, [tower levels]⟩, none, [("k", .str "v")]⟩ := by
    simp [Draft.build, depth, fits, Limits.standard]
  rw [build, towerDrafts, buildAfter, rule]
  rfl

theorem tower_drafts_distinct (levels : Nat) :
    ∀ entry ∈ towerDrafts levels, Fields.Distinct entry.2.outputs := by
  simp [towerDrafts, Fields.Distinct, Fields.keys]

theorem tower_drafts_scalar (levels : Nat) : ∀ entry ∈ towerDrafts levels, entry.2.Scalar := by
  refine List.forall_mem_singleton.mpr ⟨?_, ?_⟩
  · exact List.forall_mem_singleton.mpr (tower_scalar levels)
  · exact List.forall_mem_singleton.mpr rfl

theorem tower_of_62_groups_read :
    build Limits.standard (towerDrafts 61) = .ok (towerConfig 61) ∧
      ofText Limits.standard (Draft.listToJson (towerDrafts 61)).text = .ok (towerConfig 61) := by
  have built := tower_built 61 (by decide)
  have depth : (Group.mk .and [tower 61]).depth ≤ 62 := Nat.le_of_eq (tower_depth 62)
  have verdict := own_text_read_within_brackets Limits.standard (towerDrafts 61) (towerConfig 61) built
    (tower_drafts_distinct 61) (tower_drafts_scalar 61)
  exact ⟨built, verdict.2.2.2.1 (List.forall_mem_singleton.mpr depth)⟩

-- The deepest tree that the standard limits allow.
theorem tower_of_64_groups_refused :
    build Limits.standard (towerDrafts 63) = .ok (towerConfig 63) ∧
      (∀ entry ∈ towerDrafts 63, Fields.Distinct entry.2.outputs ∧ entry.2.Scalar) ∧
      ofJson Limits.standard (Draft.listToJson (towerDrafts 63)) = .ok (towerConfig 63) ∧
      ∃ e, ofText Limits.standard (Draft.listToJson (towerDrafts 63)).text =
          .error (.badConfig (.unreadable e)) ∧ e.cause = .recursionLimit := by
  have built := tower_built 63 (by decide)
  have distinct := tower_drafts_distinct 63
  have scalar := tower_drafts_scalar 63
  have depth : (Group.mk .and [tower 63]).toCondition.depth = 64 := tower_depth 64
  have bounds := (Group.mk .and [tower 63]).toCondition.brackets_bounds
  have deep : 126 < (Group.mk .and [tower 63]).toCondition.brackets := by omega
  have refused := own_text_refused Limits.standard _ _ built distinct scalar
    ⟨_, List.mem_singleton_self _, deep⟩
  exact ⟨built, fun entry member => ⟨distinct entry member, scalar entry member⟩,
    encoded_read Limits.standard _ _ built, refused⟩

end Config

end RuleMatrix
