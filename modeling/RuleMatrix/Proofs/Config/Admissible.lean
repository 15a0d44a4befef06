import RuleMatrix.Proofs.Config.Compiled
import RuleMatrix.Proofs.Config.Lookup

set_option autoImplicit false

namespace RuleMatrix

-- A rule that only names a file has no tree to measure: its root is empty.
structure Rule.Bounded (limits : Limits) (rule : Rule) : Prop where
  depth : rule.root.children ≠ [] ∨ rule.conditionsFile = none → rule.root.depth ≤ limits.depth
  file : rule.conditionsFile ≠ some ""

structure Config.Admissible (limits : Limits) (config : Config) : Prop where
  names : config.names.Nodup
  found : ∀ name, (∃ rule, config.get? name = some rule) ↔ name ∈ config.names
  once : ∀ name rule, config.get? name = some rule →
    (config.rules.filter fun other => other.name == name) = [rule]
  bounded : ∀ rule ∈ config.rules, rule.Bounded limits
  -- Without room for a root group there is nothing but names of files.
  filesOnly : limits.depth = 0 → ∀ rule ∈ config.rules,
    rule.root.children = [] ∧ ∃ path, path ≠ "" ∧ rule.conditionsFile = some path

theorem Group.depth_pos (group : Group) : 1 ≤ group.depth := Nat.le_add_left 1 _

theorem Rule.named_file_nonempty (given : Option String) :
    given.bind Rule.namedFile ≠ some "" := by
  intro named
  obtain ⟨path, _, same⟩ := Option.bind_eq_some_iff.mp named
  exact ((Grammar.named_file_iff path "").mp same).1 rfl

theorem Rule.bounded_without_room (limits : Limits) (rule : Rule) (none : limits.depth = 0)
    (bounded : rule.Bounded limits) :
    rule.root.children = [] ∧ ∃ path, path ≠ "" ∧ rule.conditionsFile = some path := by
  have outside : ¬ (rule.root.children ≠ [] ∨ rule.conditionsFile = .none) := by
    intro deep
    have room := rule.root.depth_pos
    have fits := bounded.depth deep
    omega
  obtain ⟨empty, given⟩ := not_or.mp outside
  obtain ⟨path, named⟩ := Option.ne_none_iff_exists'.mp given
  exact ⟨not_not.mp empty, path, fun blank => bounded.file (blank ▸ named), named⟩

namespace Grammar

-- The depth at which a node stands and the depth of its tree stay within the limit together.
theorem yields_depth (limit depth : Nat) (item : Json) (condition : Condition) (room : depth ≤ limit)
    (shape : Node limit depth item) (yields : Yields item condition) :
    condition.depth + depth ≤ limit := by
  induction condition using Condition.nested_induction generalizing item depth with
  | leaf test =>
      rw [Condition.depth, Nat.zero_add]
      exact room
  | group connective children ih =>
      cases yields with
      | group fields _ items _ operator conditions each =>
          cases shape with
          | leaf _ _ _ _ single =>
              simp [Single, operator, conditions] at single
          | group _ _ _ others _ _ listed inner valid =>
              obtain rfl : others = items := by simpa using listed.symm.trans conditions
              have below : Condition.deepest children ≤ limit - (depth + 1) := by
                rw [Condition.deepest_le_iff]
                intro child member
                obtain ⟨item, inside, shown⟩ :=
                  Sequence.result_has_source Yields others children each child member
                have fits := ih child member (depth + 1) item inner (valid item inside) shown
                omega
              rw [Condition.depth]
              omega

theorem defined_bounded (limits : Limits) (name : String) (fields : Fields) (rule : Rule)
    (shape : Definition limits.depth fields) (defines : Defines name fields rule) :
    rule.Bounded limits := by
  constructor
  · intro deep
    rcases defines.conditions with ⟨items, given, each⟩ | ⟨absent, empty⟩
    · obtain ⟨room, others, same, valid⟩ := shape.conditions _ given
      obtain rfl := Json.arr.inj same
      have below : Condition.deepest rule.root.children ≤ limits.depth - 1 := by
        rw [Condition.deepest_le_iff]
        intro child member
        obtain ⟨item, inside, shown⟩ :=
          Sequence.result_has_source Yields items _ each child member
        have fits := yields_depth limits.depth 1 item child room (valid item inside) shown
        omega
      have whole : rule.root.depth = Condition.deepest rule.root.children + 1 := rfl
      omega
    -- Without conditions a file is named, so nothing is said about the depth.
    · rcases shape.source with ⟨value, given⟩ | ⟨path, named⟩
      · exact absurd (absent.symm.trans given) nofun
      · have there := (defines.file path).mpr named
        rcases deep with some | none
        · exact absurd empty some
        · exact absurd (none.symm.trans there) nofun
  · exact fun blank => ((defines.file "").mp blank).1 rfl

end Grammar

theorem Draft.built_bounded (limits : Limits) (name : String) (draft : Draft) (rule : Rule)
    (built : draft.build limits name = .ok rule) : rule.Bounded limits := by
  obtain ⟨sourced, fits, rfl⟩ := (build_ok_iff limits name draft rule).mp built
  refine ⟨?_, Rule.named_file_nonempty draft.conditionsFile⟩
  intro deep
  cases given : draft.conditions with
  | some children => exact fits children given
  | none =>
      rcases deep with some | none
      · simp [given] at some
      · exact absurd none (sourced given)

namespace Config

theorem admissible_of_rules (limits : Limits) (config : Config) (distinct : config.names.Nodup)
    (bounded : ∀ rule ∈ config.rules, rule.Bounded limits) : config.Admissible limits :=
  ⟨distinct, get_some_iff config, named_once config distinct, bounded, fun none rule member =>
    rule.bounded_without_room limits none (bounded rule member)⟩

theorem read_admissible (limits : Limits) (value : Json) (config : Config) (formed : value.WellFormed)
    (read : ofJson limits value = .ok config) : config.Admissible limits := by
  obtain ⟨⟨definitions, rfl, valid⟩, describes⟩ :=
    (Grammar.document_read_iff limits value config).mp read
  apply admissible_of_rules limits config (Grammar.described_names _ config formed describes)
  intro rule member
  obtain ⟨entry, inside, defines⟩ :=
    Sequence.result_has_source _ definitions config.rules describes rule member
  obtain ⟨fields, same, shape⟩ := valid entry inside
  rw [same] at defines
  exact Grammar.defined_bounded limits entry.1 fields rule shape defines

theorem built_admissible (limits : Limits) (drafts : List (String × Draft)) (config : Config)
    (built : build limits drafts = .ok config) : config.Admissible limits := by
  apply admissible_of_rules limits config (built_names limits drafts config built)
  intro rule member
  obtain ⟨_, each⟩ := built_steps limits drafts config built
  obtain ⟨entry, _, first⟩ := Sequence.result_has_source _ drafts config.rules each rule member
  exact Draft.built_bounded limits entry.1 entry.2 rule first

theorem obtained_admissible (limits : Limits) (config : Config) :
    (∀ value : Json, value.WellFormed → ofJson limits value = .ok config →
      config.Admissible limits) ∧
    (∀ text, ofText limits text = .ok config → config.Admissible limits) ∧
    ∀ drafts, build limits drafts = .ok config → config.Admissible limits := by
  refine ⟨fun value => read_admissible limits value config, ?_, fun drafts =>
    built_admissible limits drafts config⟩
  intro text read
  obtain ⟨value, formed, whole⟩ := text_holds_value limits text config read
  exact read_admissible limits value config formed whole

-- A name given twice: the last definition stands in the place of the first.
def repeatedText : String :=
  "\x7b\"a\":\x7b\"conditions\":[]\x7d,\"a\":\x7b\"conditions-file\":\"f\"\x7d\x7d"

def boundedDrafts : List (String × Draft) :=
  [("deep", ⟨.or, some [.group .and [.leaf ⟨"a", .equal, .null⟩], .group .or []], some "", []⟩),
    ("file", ⟨.and, none, some "f", []⟩)]

def boundedConfig : Config :=
  ⟨[⟨"deep", ⟨.or, [.group .and [.leaf ⟨"a", .equal, .null⟩], .group .or []]⟩, none, []⟩,
    ⟨"file", ⟨.and, []⟩, some "f", []⟩]⟩

def emptyGiven : Json :=
  .obj [("all", .obj [("conditions", .arr []), ("conditions-file", .str "")])]

theorem obtained_in_three_ways :
    (∃ config, ofText ⟨0⟩ repeatedText = .ok config ∧
      config.rules.map (fun rule => (rule.name, rule.conditionsFile)) = [("a", some "f")] ∧
      config.Admissible ⟨0⟩) ∧
    (ofJson ⟨1⟩ emptyGiven = .ok ⟨[⟨"all", ⟨.and, []⟩, none, []⟩]⟩ ∧
      Config.Admissible ⟨1⟩ ⟨[⟨"all", ⟨.and, []⟩, none, []⟩]⟩) ∧
    build ⟨2⟩ boundedDrafts = .ok boundedConfig ∧ boundedConfig.Admissible ⟨2⟩ := by
  have evaluated : (ofText ⟨0⟩ repeatedText).toOption.map (fun config =>
      config.rules.map fun rule => (rule.name, rule.conditionsFile)) = some [("a", some "f")] := by
    decide +kernel
  obtain ⟨config, there, shown⟩ := Option.map_eq_some_iff.mp evaluated
  have read := Sequence.to_option_ok (ofText ⟨0⟩ repeatedText) config there
  have formed : emptyGiven.WellFormed := by
    simp [emptyGiven, Json.WellFormed, Json.WellFormedFields, Json.WellFormedItems, Fields.Distinct,
      Fields.keys]
  have fromText := (obtained_admissible ⟨0⟩ config).2.1 repeatedText read
  have fromValue := (obtained_admissible ⟨1⟩ _).1 emptyGiven formed rfl
  have fromDrafts := (obtained_admissible ⟨2⟩ boundedConfig).2.2 boundedDrafts rfl
  exact ⟨⟨config, read, shown, fromText⟩, ⟨rfl, fromValue⟩, rfl, fromDrafts⟩

end Config

end RuleMatrix
