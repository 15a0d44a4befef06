import RuleMatrix.Config.Draft
import RuleMatrix.Proofs.Condition
import RuleMatrix.Proofs.Config.Reading
import RuleMatrix.Proofs.Json.Reading

set_option autoImplicit false

namespace RuleMatrix

def Condition.WellFormed (condition : Condition) : Prop :=
  ∀ test ∈ condition.tests, test.literal.WellFormed

structure Rule.WellFormed (rule : Rule) : Prop where
  root : rule.root.toCondition.WellFormed
  outputs : (Json.obj rule.outputs).WellFormed

structure Config.WellFormed (config : Config) : Prop where
  names : config.names.Nodup
  rules : ∀ rule ∈ config.rules, rule.WellFormed

def Draft.Change.WellFormed : Change → Prop
  | .when condition => condition.WellFormed
  | .conditions given => ∀ condition ∈ given, condition.WellFormed
  | .output _ value => value.WellFormed
  | .outputs shown => (Json.obj shown).WellFormed
  | .combine _ => True
  | .conditionsFile _ => True

structure Draft.WellFormed (draft : Draft) : Prop where
  conditions : ∀ condition ∈ draft.conditions.getD [], condition.WellFormed
  outputs : (Json.obj draft.outputs).WellFormed

inductive Config.Compiled : Config → Prop where
  | ofJson (limits : Limits) (value : Json) (config : Config) (formed : value.WellFormed)
      (read : Config.ofJson limits value = .ok config) : Compiled config
  | ofText (limits : Limits) (text : String) (config : Config)
      (read : Config.ofText limits text = .ok config) : Compiled config
  | build (limits : Limits) (rules : List (String × List Draft.Change)) (config : Config)
      (formed : ∀ entry ∈ rules, ∀ change ∈ entry.2, change.WellFormed)
      (built : Config.build limits (rules.map fun entry => (entry.1, Draft.ofChanges entry.2)) =
        .ok config) : Compiled config

theorem Condition.group_well_formed_iff (connective : Connective) (children : List Condition) :
    (Condition.group connective children).WellFormed ↔ ∀ child ∈ children, child.WellFormed :=
  group_tests_iff (fun test => test.literal.WellFormed) connective children

namespace Draft

theorem apply_well_formed (draft : Draft) (change : Change) (formed : draft.WellFormed)
    (fine : change.WellFormed) : (draft.apply change).WellFormed := by
  cases change with
  | combine connective => exact ⟨formed.conditions, formed.outputs⟩
  | when condition =>
      refine ⟨?_, formed.outputs⟩
      intro other member
      rcases List.mem_append.mp member with before | last
      · exact formed.conditions other before
      · exact List.mem_singleton.mp last ▸ fine
  | conditions conditions => exact ⟨fine, formed.outputs⟩
  | conditionsFile path => exact ⟨formed.conditions, formed.outputs⟩
  | output key value =>
      have kept := Json.insert_well_formed key value draft.outputs formed.outputs fine
      exact ⟨formed.conditions, kept⟩
  | outputs outputs => exact ⟨formed.conditions, fine⟩

theorem changes_well_formed (draft : Draft) (changes : List Change) (formed : draft.WellFormed)
    (each : ∀ change ∈ changes, change.WellFormed) : (changes.foldl apply draft).WellFormed := by
  induction changes generalizing draft with
  | nil => exact formed
  | cons change rest ih =>
      obtain ⟨fine, others⟩ := List.forall_mem_cons.mp each
      exact ih (draft.apply change) (apply_well_formed draft change formed fine) others

theorem empty_well_formed : empty.WellFormed :=
  ⟨List.forall_mem_nil _, List.nodup_nil, trivial⟩

theorem build_ok_iff (limits : Limits) (name : String) (draft : Draft) (rule : Rule) :
    draft.build limits name = .ok rule ↔
      (draft.conditions = none → draft.conditionsFile.bind Rule.namedFile ≠ none) ∧
        (∀ given, draft.conditions = some given →
          Group.depth ⟨draft.connective, given⟩ ≤ limits.depth) ∧
        ⟨name, ⟨draft.connective, draft.conditions.getD []⟩,
          draft.conditionsFile.bind Rule.namedFile, draft.outputs⟩ = rule := by
  obtain ⟨connective, conditions, file, outputs⟩ := draft
  cases conditions with
  | none => cases named : file.bind Rule.namedFile <;> simp [build, named]
  | some given =>
      by_cases deep : limits.depth < Group.depth ⟨connective, given⟩
      · simp [build, deep, Nat.not_le.mpr deep]
      · simp [build, deep, Nat.not_lt.mp deep]

theorem build_keeps (limits : Limits) (name : String) (draft : Draft) (rule : Rule)
    (built : draft.build limits name = .ok rule) :
    rule = ⟨name, ⟨draft.connective, draft.conditions.getD []⟩,
      draft.conditionsFile.bind Rule.namedFile, draft.outputs⟩ :=
  ((build_ok_iff limits name draft rule).mp built).2.2.symm

theorem build_well_formed (limits : Limits) (name : String) (draft : Draft) (rule : Rule)
    (formed : draft.WellFormed) (built : draft.build limits name = .ok rule) : rule.WellFormed := by
  obtain rfl := build_keeps limits name draft rule built
  refine ⟨?_, formed.outputs⟩
  exact (Condition.group_well_formed_iff _ _).mpr formed.conditions

end Draft

namespace Config

theorem build_after_ok (limits : Limits) (used : List String) (drafts : List (String × Draft))
    (rules : List Rule) (built : buildAfter limits used drafts = .ok rules) :
    (drafts.map Prod.fst).Nodup ∧ (∀ entry ∈ drafts, entry.1 ∉ used) ∧
      List.Forall₂ (fun entry rule => entry.2.build limits entry.1 = .ok rule) drafts rules := by
  induction drafts generalizing used rules with
  | nil =>
      cases built
      exact ⟨List.nodup_nil, List.forall_mem_nil _, .nil⟩
  | cons entry rest ih =>
      obtain ⟨name, draft⟩ := entry
      rw [buildAfter] at built
      by_cases known : used.contains name = true
      · rw [if_pos known] at built
        cases built
      · rw [if_neg known] at built
        obtain ⟨rule, first, later⟩ := (Sequence.bind_ok_iff _ _ _).mp built
        obtain ⟨others, tail, same⟩ := (Sequence.bind_ok_iff _ _ _).mp later
        obtain rfl := Except.ok.inj same
        obtain ⟨distinct, unused, each⟩ := ih (name :: used) others tail
        have fresh : name ∉ rest.map Prod.fst := by
          intro again
          obtain ⟨entry, member, same⟩ := List.mem_map.mp again
          exact unused entry member (same ▸ List.mem_cons_self)
        refine ⟨List.nodup_cons.mpr ⟨fresh, distinct⟩, ?_, .cons first each⟩
        refine List.forall_mem_cons.mpr ⟨by simpa using known, fun entry member inside => ?_⟩
        exact unused entry member (List.mem_cons_of_mem name inside)

theorem built_steps (limits : Limits) (drafts : List (String × Draft)) (config : Config)
    (built : build limits drafts = .ok config) :
    (drafts.map Prod.fst).Nodup ∧
      List.Forall₂ (fun entry rule => entry.2.build limits entry.1 = .ok rule) drafts config.rules := by
  obtain ⟨rules, steps, same⟩ := (Sequence.bind_ok_iff _ _ _).mp built
  obtain rfl := Except.ok.inj same
  obtain ⟨distinct, _, each⟩ := build_after_ok limits [] drafts rules steps
  exact ⟨distinct, each⟩

theorem built_names (limits : Limits) (drafts : List (String × Draft)) (config : Config)
    (built : build limits drafts = .ok config) : config.names.Nodup := by
  obtain ⟨distinct, each⟩ := built_steps limits drafts config built
  have named : config.names = drafts.map Prod.fst := by
    apply Sequence.related_images
    refine each.imp fun entry rule first => ?_
    rw [Draft.build_keeps limits entry.1 entry.2 rule first]
  exact named ▸ distinct

theorem build_well_formed (limits : Limits) (drafts : List (String × Draft)) (config : Config)
    (formed : ∀ entry ∈ drafts, entry.2.WellFormed) (built : build limits drafts = .ok config) :
    config.WellFormed := by
  refine ⟨built_names limits drafts config built, ?_⟩
  intro rule member
  obtain ⟨_, each⟩ := built_steps limits drafts config built
  obtain ⟨entry, inside, first⟩ := Sequence.result_has_source _ drafts config.rules each rule member
  exact Draft.build_well_formed limits entry.1 entry.2 rule (formed entry inside) first

end Config

namespace Grammar

theorem given_well_formed (key : String) (fields : Fields) (value : Json)
    (formed : (Json.obj fields).WellFormed) (found : given? key fields = some value) :
    value.WellFormed := by
  have there := (Option.filter_eq_some_iff.mp found).1
  exact Json.member_well_formed (.obj fields) value key formed there

theorem yields_well_formed (item : Json) (condition : Condition) (formed : item.WellFormed)
    (yields : Yields item condition) : condition.WellFormed := by
  induction condition using Condition.nested_induction generalizing item with
  | leaf test =>
      cases yields with
      | leaf fields _ single field op value =>
          intro other member
          obtain rfl := List.mem_singleton.mp member
          rw [← value]
          cases found : Fields.get? "value" fields with
          | none => exact trivial
          | some literal => exact Json.member_well_formed (.obj fields) literal "value" formed found
  | group connective children ih =>
      cases yields with
      | group fields _ items _ operator conditions each =>
          have listed := Json.member_well_formed (.obj fields) _ "conditions" formed conditions
          apply (Condition.group_well_formed_iff connective children).mpr
          intro child member
          obtain ⟨item, inside, shown⟩ := Sequence.result_has_source Yields items children each child member
          exact ih child member item ((Json.well_formed_array_iff items).mp listed item inside) shown

theorem defines_well_formed (name : String) (fields : Fields) (rule : Rule)
    (formed : (Json.obj fields).WellFormed) (defines : Defines name fields rule) :
    rule.WellFormed := by
  constructor
  · apply (Condition.group_well_formed_iff _ _).mpr
    rcases defines.conditions with ⟨items, found, each⟩ | ⟨_, none⟩
    · have listed := given_well_formed "conditions" fields _ formed found
      intro child member
      obtain ⟨item, inside, shown⟩ := Sequence.result_has_source Yields items _ each child member
      exact yields_well_formed item child ((Json.well_formed_array_iff items).mp listed item inside) shown
    · rw [none]
      exact List.forall_mem_nil _
  · rcases defines.outputs with found | ⟨_, none⟩
    · exact given_well_formed "outputs" fields _ formed found
    · rw [none]
      exact ⟨List.nodup_nil, trivial⟩

theorem described_names (value : Json) (config : Config) (formed : value.WellFormed)
    (describes : Describes value config) : config.names.Nodup := by
  have named : config.names = Fields.keys value.members := by
    apply Sequence.related_images
    exact describes.imp fun entry rule defines => defines.name
  exact named ▸ (Json.members_well_formed value formed).1

theorem describes_well_formed (value : Json) (config : Config) (formed : value.WellFormed)
    (describes : Describes value config) : config.WellFormed := by
  refine ⟨described_names value config formed describes, ?_⟩
  intro rule member
  have parts := (Json.well_formed_object_iff value.members).mp (Json.members_well_formed value formed)
  obtain ⟨entry, inside, defines⟩ := Sequence.result_has_source _ _ _ describes rule member
  have inner := Json.members_well_formed entry.2 (parts.2 entry inside)
  exact defines_well_formed entry.1 entry.2.members rule inner defines

end Grammar

theorem Config.text_holds_value (limits : Limits) (text : String) (config : Config)
    (read : Config.ofText limits text = .ok config) :
    ∃ value : Json, value.WellFormed ∧ Config.ofJson limits value = .ok config := by
  rw [Config.ofText] at read
  split at read
  · rename_i value parsed
    exact ⟨value, Json.read_well_formed Json.maxNesting text value parsed, read⟩
  · cases read

theorem Config.compiled_well_formed (config : Config) (compiled : config.Compiled) :
    config.WellFormed := by
  cases compiled with
  | ofJson limits value _ formed read =>
      have describes := ((Grammar.document_read_iff limits value config).mp read).2
      exact Grammar.describes_well_formed value config formed describes
  | ofText limits text _ read =>
      obtain ⟨value, formed, whole⟩ := Config.text_holds_value limits text config read
      have describes := ((Grammar.document_read_iff limits value config).mp whole).2
      exact Grammar.describes_well_formed value config formed describes
  | build limits rules _ formed built =>
      refine Config.build_well_formed limits _ config ?_ built
      intro entry member
      obtain ⟨⟨name, changes⟩, inside, rfl⟩ := List.mem_map.mp member
      exact Draft.changes_well_formed .empty changes Draft.empty_well_formed (formed _ inside)

end RuleMatrix
