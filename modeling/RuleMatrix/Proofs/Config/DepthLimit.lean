import RuleMatrix.Proofs.Config.Reading

set_option autoImplicit false

namespace RuleMatrix

namespace Grammar

open Condition (deepest)

section Levels

variable (rule : String) (limit levels : Nat)
variable (nested : Json → Except ConfigError (List Condition))
variable (inner : ∀ items members, List.Forall₂ Yields items members → nested (.arr items) =
  if deepest members < levels then .ok members else .error (.tooDeep rule limit))

include inner

theorem node_with_room (item : Json) (node : Condition) (yields : Yields item node) :
    Condition.ofJson rule nested item =
      if node.depth ≤ levels then .ok node else .error (.tooDeep rule limit) := by
  cases yields with
  | group fields connective items members operator conditions each =>
      rw [Condition.ofJson, spelled_group_read rule nested fields connective _ operator conditions,
        inner items members each]
      simp only [Condition.depth, Nat.succ_le_iff]
      by_cases fits : deepest members < levels
      · rw [if_pos fits, if_pos fits]
        rfl
      · rw [if_neg fits, if_neg fits]
        rfl
  | leaf fields test single field op value =>
      have read := (leaf_read_iff rule fields test).mpr ⟨field, op, value⟩
      rw [Condition.ofJson, single_opened rule nested fields single, read, Condition.depth,
        if_pos (Nat.zero_le levels)]
      rfl

theorem siblings_with_room (items : List Json) (members : List Condition)
    (each : List.Forall₂ Yields items members) :
    items.mapM (Condition.ofJson rule nested) =
      if deepest members ≤ levels then .ok members else .error (.tooDeep rule limit) := by
  induction each with
  | nil => rfl
  | @cons item member items members head tail ih =>
      rw [List.mapM_cons, ih, node_with_room rule limit levels nested inner item member head]
      simp only [deepest, Nat.max_le]
      by_cases first : member.depth ≤ levels
      · by_cases others : deepest members ≤ levels <;> simp [first, others] <;> rfl
      · simp [first]
        rfl

end Levels

-- Induction on the levels that the reader counts down; the trees are arbitrary at each of them.
theorem children_with_room (rule : String) (limit levels : Nat) (items : List Json)
    (members : List Condition) (each : List.Forall₂ Yields items members) :
    Condition.childrenOfJson rule limit levels (.arr items) =
      if deepest members < levels then .ok members else .error (.tooDeep rule limit) := by
  induction levels generalizing items members with
  | zero => rfl
  | succ levels ih =>
      rw [Condition.childrenOfJson, siblings_with_room rule limit levels _ ih items members each]
      simp only [Nat.lt_succ_iff]

-- A rule whose definition gives no conditions has no tree to measure.
def Fits (limit : Nat) (entry : String × Json) (rule : Rule) : Prop :=
  given? "conditions" entry.2.members ≠ none → rule.root.depth ≤ limit

theorem rule_with_room (limits other : Limits) (name : String) (fields : Fields) (rule : Rule)
    (read : Rule.ofFields other name fields = .ok rule) :
    (Fits limits.depth (name, .obj fields) rule → Rule.ofFields limits name fields = .ok rule) ∧
      (¬ Fits limits.depth (name, .obj fields) rule →
        Rule.ofFields limits name fields = .error (.tooDeep rule.name limits.depth)) := by
  obtain ⟨file, fileRead, present, connective, connectiveRead, outputs, outputsRead, members,
    membersRead, rfl⟩ := (rule_steps_iff other name fields rule).mp read
  rw [headed_rule_read limits name fields file connective outputs fileRead present connectiveRead
    outputsRead, Fits]
  dsimp only [Json.members]
  rcases (conditions_read_iff other name fields members).mp membersRead with
    ⟨items, given, _, _, yields⟩ | ⟨absent, rfl⟩
  · have depth : Group.depth ⟨connective, members⟩ = deepest members + 1 := rfl
    rw [given, Rule.childrenOf, children_with_room name limits.depth limits.depth items members yields,
      depth]
    constructor
    · intro fits
      have room := fits (Option.some_ne_none _)
      rw [if_pos (Nat.lt_of_succ_le room)]
      rfl
    · intro deep
      have beyond : ¬ deepest members < limits.depth := fun room => deep fun _ => room
      rw [if_neg beyond]
      rfl
  · rw [absent, Rule.childrenOf]
    exact ⟨fun _ => rfl, fun deep => absurd (fun given => absurd rfl given) deep⟩

theorem entry_with_room (limits other : Limits) (entry : String × Json) (rule : Rule)
    (read : Rule.ofJson other entry.1 entry.2 = .ok rule) :
    (Fits limits.depth entry rule → Rule.ofJson limits entry.1 entry.2 = .ok rule) ∧
      (¬ Fits limits.depth entry rule →
        Rule.ofJson limits entry.1 entry.2 = .error (.tooDeep rule.name limits.depth)) := by
  obtain ⟨name, value⟩ := entry
  cases value with
  | obj fields => exact rule_with_room limits other name fields rule read
  | _ => cases read

end Grammar

namespace Config

open Grammar (Fits given?)

def defined (value : Json) (config : Config) : List ((String × Json) × Rule) :=
  value.members.zip config.rules

theorem read_pairs_iff (limits : Limits) (definitions : Fields) (config : Config) :
    ofJson limits (.obj definitions) = .ok config ↔
      definitions.length = config.rules.length ∧ ∀ pair ∈ defined (.obj definitions) config,
        Rule.ofJson limits pair.1.1 pair.1.2 = .ok pair.2 := by
  obtain ⟨rules⟩ := config
  rw [ofJson, Sequence.bind_ok_iff]
  simp only [Except.ok.injEq, mk.injEq, exists_eq_right, Sequence.all_ok_iff, defined, Json.members,
    List.forall₂_iff_zip, Prod.forall]

theorem object_of_read (limits : Limits) (value : Json) (config : Config)
    (read : ofJson limits value = .ok config) : ∃ definitions, value = .obj definitions := by
  cases value with
  | obj definitions => exact ⟨definitions, rfl⟩
  | _ => cases read

section Limits

variable (other : Limits) (value : Json) (config : Config)
variable (read : ofJson other value = .ok config)

include read

theorem read_with_room (limits : Limits)
    (fits : ∀ pair ∈ defined value config, Fits limits.depth pair.1 pair.2) :
    ofJson limits value = .ok config := by
  obtain ⟨definitions, rfl⟩ := object_of_read other value config read
  obtain ⟨length, each⟩ := (read_pairs_iff other definitions config).mp read
  refine (read_pairs_iff limits definitions config).mpr ⟨length, fun pair member => ?_⟩
  exact (Grammar.entry_with_room limits other pair.1 pair.2 (each pair member)).1 (fits pair member)

theorem refused_without_room (limits : Limits) (before : List ((String × Json) × Rule))
    (pair : (String × Json) × Rule) (after : List ((String × Json) × Rule))
    (split : defined value config = before ++ pair :: after)
    (fits : ∀ earlier ∈ before, Fits limits.depth earlier.1 earlier.2)
    (deep : ¬ Fits limits.depth pair.1 pair.2) :
    ofJson limits value = .error (.tooDeep pair.2.name limits.depth) := by
  obtain ⟨definitions, rfl⟩ := object_of_read other value config read
  obtain ⟨length, each⟩ := (read_pairs_iff other definitions config).mp read
  rw [split, List.forall_mem_append, List.forall_mem_cons] at each
  have entries : definitions = before.map Prod.fst ++ pair.1 :: after.map Prod.fst := by
    rw [← List.map_cons, ← List.map_append, ← split]
    exact (List.map_fst_zip (Nat.le_of_eq length)).symm
  have fails : definitions.mapM (fun definition => Rule.ofJson limits definition.1 definition.2) =
      .error (.tooDeep pair.2.name limits.depth) := by
    refine (Sequence.all_error_iff _ _ _).mpr ⟨_, _, _, entries, ?_, ?_⟩
    · rw [List.forall_mem_map]
      exact fun earlier member => ⟨earlier.2,
        (Grammar.entry_with_room limits other _ _ (each.1 earlier member)).1 (fits earlier member)⟩
    · exact (Grammar.entry_with_room limits other pair.1 pair.2 each.2.1).2 deep
  rw [ofJson, fails]
  rfl

-- Read with its own limit once more, no rule can be refused.
theorem read_fits (pair : (String × Json) × Rule) (member : pair ∈ defined value config) :
    Fits other.depth pair.1 pair.2 := by
  obtain ⟨definitions, rfl⟩ := object_of_read other value config read
  have here := ((read_pairs_iff other definitions config).mp read).2 pair member
  by_contra deep
  cases here.symm.trans ((Grammar.entry_with_room other other pair.1 pair.2 here).2 deep)

theorem read_with_more_room (limits : Limits) (more : other.depth ≤ limits.depth) :
    ofJson limits value = .ok config := by
  apply read_with_room other value config read limits
  exact fun pair member given =>
    Nat.le_trans (read_fits other value config read pair member given) more

end Limits

theorem limit_bounds_depth_alone (upper : Limits) (value : Json) (config : Config)
    (read : ofJson upper value = .ok config) :
    (∀ limits, (∀ pair ∈ defined value config, Fits limits.depth pair.1 pair.2) →
      ofJson limits value = .ok config) ∧
    (∀ limits before pair after, defined value config = before ++ pair :: after →
      (∀ earlier ∈ before, Fits limits.depth earlier.1 earlier.2) →
      ¬ Fits limits.depth pair.1 pair.2 →
      ofJson limits value = .error (.tooDeep pair.2.name limits.depth)) ∧
    (∀ limits, upper.depth ≤ limits.depth → ofJson limits value = .ok config) ∧
    (∀ limits other, ofJson limits value = .ok other → other = config) ∧
    ∀ pair ∈ defined value config, given? "conditions" pair.1.2.members = none →
      ∀ limits, Rule.ofJson limits pair.1.1 pair.1.2 = .ok pair.2 := by
  refine ⟨read_with_room upper value config read, refused_without_room upper value config read,
    read_with_more_room upper value config read, ?_, ?_⟩
  · intro limits other again
    have here := read_with_more_room upper value config read
      ⟨max upper.depth limits.depth⟩ (Nat.le_max_left _ _)
    have there := read_with_more_room limits value other again
      ⟨max upper.depth limits.depth⟩ (Nat.le_max_right _ _)
    exact Except.ok.inj (there.symm.trans here)
  · intro pair member absent limits
    obtain ⟨definitions, rfl⟩ := object_of_read upper value config read
    have here := ((read_pairs_iff upper definitions config).mp read).2 pair member
    exact (Grammar.entry_with_room limits upper pair.1 pair.2 here).1 fun given => absurd absent given

def threeDepths : Json :=
  .obj [
    ("file", .obj [("conditions", .null), ("conditions-file", .str "f")]),
    ("flat", .obj [("conditions", .arr [.obj [("field", .str "a"), ("op", .str "=")]])]),
    ("deep", .obj [("conditions", .arr [.obj [("conditions", .arr []), ("operator", .str "or")]])])]

def threeDepthsConfig : Config :=
  ⟨[⟨"file", ⟨.and, []⟩, some "f", []⟩,
    ⟨"flat", ⟨.and, [.leaf ⟨"a", .equal, .null⟩]⟩, none, []⟩,
    ⟨"deep", ⟨.and, [.group .or []]⟩, none, []⟩]⟩

theorem three_depths_at_each_limit :
    ofJson ⟨2⟩ threeDepths = .ok threeDepthsConfig ∧
      ofJson ⟨9⟩ threeDepths = .ok threeDepthsConfig ∧
      ofJson ⟨1⟩ threeDepths = .error (.tooDeep "deep" 1) ∧
      ofJson ⟨0⟩ threeDepths = .error (.tooDeep "flat" 0) := by
  have read : ofJson ⟨2⟩ threeDepths = .ok threeDepthsConfig := rfl
  obtain ⟨_, refused, wider, _⟩ := limit_bounds_depth_alone ⟨2⟩ threeDepths threeDepthsConfig read
  refine ⟨read, wider ⟨9⟩ (by decide), ?_, ?_⟩
  · refine refused ⟨1⟩ (List.take 2 (defined threeDepths threeDepthsConfig)) _ [] rfl ?_ ?_
    · simp [defined, threeDepths, threeDepthsConfig, Json.members, Fits, given?, Fields.get?,
        Json.isNull, Group.depth, Group.toCondition, Condition.depth, Condition.deepest]
    · intro fits
      exact absurd (fits (Option.some_ne_none _)) (by decide)
  · refine refused ⟨0⟩ (List.take 1 (defined threeDepths threeDepthsConfig)) _ _ rfl ?_ ?_
    · simp [defined, threeDepths, threeDepthsConfig, Json.members, Fits, given?, Fields.get?,
        Json.isNull]
    · intro fits
      exact absurd (fits (Option.some_ne_none _)) (by decide)

end Config

end RuleMatrix
