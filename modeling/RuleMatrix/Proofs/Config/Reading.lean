import RuleMatrix.Proofs.Config.Grammar

set_option autoImplicit false

namespace RuleMatrix.Grammar

open Sequence

theorem leaf_read_iff (rule : String) (fields : Fields) (test : FieldTest) :
    FieldTest.ofFields rule fields = .ok test ↔
      Fields.get? "field" fields = some (.str test.field) ∧
        Fields.get? "op" fields = some (.str test.comparison.spelling) ∧
          (Fields.get? "value" fields).getD .null = test.literal := by
  have field_iff (path : String) : FieldTest.fieldOf rule fields = .ok path ↔
      Fields.get? "field" fields = some (.str path) := by
    unfold FieldTest.fieldOf
    cases Fields.get? "field" fields with
    | none => simp
    | some given => cases given <;> simp
  have comparison_iff (field : String) (comparison : Comparison) :
      FieldTest.comparisonOf rule field fields = .ok comparison ↔
        Fields.get? "op" fields = some (.str comparison.spelling) := by
    unfold FieldTest.comparisonOf
    cases Fields.get? "op" fields with
    | none => simp
    | some given => simp [Comparison.read_iff]
  simp only [FieldTest.ofFields, bind_ok_iff, field_iff, comparison_iff, Except.ok.injEq]
  constructor
  · intro read
    obtain ⟨field, path, comparison, op, rfl⟩ := read
    exact ⟨path, op, rfl⟩
  · intro given
    obtain ⟨path, op, value⟩ := given
    exact ⟨test.field, path, test.comparison, op, by rw [value]⟩

section Nodes

variable (rule : String) (limit depth : Nat)
variable (children : Json → Except ConfigError (List Condition))

theorem single_opened (fields : Fields) (single : Single fields) :
    Condition.ofFields rule children fields = (FieldTest.ofFields rule fields).map .leaf := by
  unfold Condition.ofFields
  rcases single with absent | absent
  · rw [absent]
  · rw [absent]
    cases Fields.get? "operator" fields <;> rfl

theorem group_opened (fields : Fields) (operator conditions : Json)
    (first : Fields.get? "operator" fields = some operator)
    (second : Fields.get? "conditions" fields = some conditions) :
    Condition.ofFields rule children fields =
      ((Connective.ofJson operator).mapError (.badDefinition rule)) >>= fun connective =>
        children conditions >>= fun members => .ok (.group connective members) := by
  simp only [Condition.ofFields, first, second]

theorem spelled_group_read (fields : Fields) (connective : Connective) (conditions : Json)
    (operator : Fields.get? "operator" fields = some (.str connective.spelling))
    (given : Fields.get? "conditions" fields = some conditions) :
    Condition.ofFields rule children fields = (children conditions).map (.group connective) := by
  rw [group_opened rule children fields _ conditions operator given,
    (Connective.read_iff _ connective).mpr rfl, map_error_of_ok]
  cases children conditions <;> rfl

theorem single_read_iff (fields : Fields) (single : Single fields) (node : Condition) :
    Condition.ofFields rule children fields = .ok node ↔
      Node limit depth (.obj fields) ∧ Yields (.obj fields) node := by
  simp only [single_opened rule children fields single, map_ok_iff, leaf_read_iff]
  constructor
  · intro read
    obtain ⟨test, ⟨field, op, value⟩, rfl⟩ := read
    exact ⟨.leaf depth fields test.field test.comparison single field op,
      .leaf fields test single field op value⟩
  · intro valid
    obtain ⟨_, tree⟩ := valid
    cases tree with
    | group _ _ _ _ operator conditions _ =>
        rcases single with absent | absent
        · exact absurd (absent.symm.trans operator) (by simp)
        · exact absurd (absent.symm.trans conditions) (by simp)
    | leaf _ test _ field op value => exact ⟨test, ⟨field, op, value⟩, rfl⟩

-- What the children are read with is known to be right one level further in.
variable (inner : ∀ given members, children given = .ok members ↔
  depth + 1 ≤ limit ∧ ∃ items, given = .arr items ∧
    List.Forall₂ (fun item member => Node limit (depth + 1) item ∧ Yields item member) items members)

include inner

theorem group_read_iff (fields : Fields) (operator conditions : Json)
    (first : Fields.get? "operator" fields = some operator)
    (second : Fields.get? "conditions" fields = some conditions) (node : Condition) :
    Condition.ofFields rule children fields = .ok node ↔
      Node limit depth (.obj fields) ∧ Yields (.obj fields) node := by
  simp only [group_opened rule children fields operator conditions first second, bind_ok_iff, map_error_ok_iff, Connective.read_iff, inner,
    List.forall₂_and_left, Except.ok.injEq]
  constructor
  · intro read
    obtain ⟨connective, rfl, members, ⟨room, items, rfl, each, yields⟩, rfl⟩ := read
    have word := (Connective.word_iff connective.spelling).mp ⟨connective, rfl⟩
    exact ⟨.group depth fields connective.spelling items first word second room each,
      .group fields connective items members first second yields⟩
  · intro valid
    obtain ⟨shape, tree⟩ := valid
    have grouped : ¬ Single fields := by simp [Single, first, second]
    cases tree with
    | leaf _ _ single => exact absurd single grouped
    | group _ connective items members named listed yields =>
        have sameOperator : operator = .str connective.spelling :=
          Option.some.inj (first.symm.trans named)
        have sameConditions : conditions = .arr items := Option.some.inj (second.symm.trans listed)
        cases shape with
        | leaf _ _ _ _ single => exact absurd single grouped
        | group _ _ _ others _ _ others_listed room each =>
            have same : items = others := by simpa using listed.symm.trans others_listed
            exact ⟨connective, sameOperator, members, ⟨room, items, sameConditions, same ▸ each, yields⟩, rfl⟩

theorem node_read_iff (item : Json) (node : Condition) :
    Condition.ofJson rule children item = .ok node ↔ Node limit depth item ∧ Yields item node := by
  cases item with
  | obj fields =>
      cases first : Fields.get? "operator" fields with
      | none => exact single_read_iff rule limit depth children fields (.inl first) node
      | some operator =>
          cases second : Fields.get? "conditions" fields with
          | none => exact single_read_iff rule limit depth children fields (.inr second) node
          | some conditions =>
              exact group_read_iff rule limit depth children inner fields operator conditions
                first second node
  | _ =>
      simp only [Condition.ofJson, reduceCtorEq, false_iff]
      intro valid
      cases valid.1

end Nodes

-- The reader counts the levels down where the grammar counts the depth up; `balance` is what every
-- step of the recursion keeps.
theorem children_read_iff (rule : String) (limit levels depth : Nat)
    (balance : depth + levels = limit + 1) (given : Json) (members : List Condition) :
    Condition.childrenOfJson rule limit levels given = .ok members ↔
      depth ≤ limit ∧ ∃ items, given = .arr items ∧
        List.Forall₂ (fun item member => Node limit depth item ∧ Yields item member)
          items members := by
  induction levels generalizing depth given members with
  | zero =>
      simp only [Condition.childrenOfJson, reduceCtorEq, false_iff]
      omega
  | succ levels ih =>
      have room : depth ≤ limit := by omega
      have inner := ih (depth + 1) (by omega)
      cases given with
      | arr items =>
          simp only [Condition.childrenOfJson, all_ok_iff,
            node_read_iff rule limit depth _ inner]
          constructor
          · intro each
            exact ⟨room, items, rfl, each⟩
          · intro valid
            obtain ⟨_, others, same, each⟩ := valid
            rw [Json.arr.inj same]
            exact each
      | _ => simp [Condition.childrenOfJson]

theorem file_of_given (fields : Fields) :
    Rule.fileOf fields =
      match given? "conditions-file" fields with
      | none => .ok none
      | some (.str path) => .ok (Rule.namedFile path)
      | some other => .error (.fileNotString other.kind) := by
  unfold Rule.fileOf given?
  cases Fields.get? "conditions-file" fields with
  | none => rfl
  | some value => cases value <;> rfl

theorem connective_of_given (fields : Fields) :
    Rule.connectiveOf fields = ((given? "operator" fields).elim (.ok .and) Connective.ofJson) := by
  unfold Rule.connectiveOf given?
  cases Fields.get? "operator" fields with
  | none => rfl
  | some value => cases value <;> rfl

theorem outputs_of_given (fields : Fields) :
    Rule.outputsOf fields =
      match given? "outputs" fields with
      | none => .ok []
      | some (.obj outputs) => .ok outputs
      | some other => .error (.outputsNotObject other.kind) := by
  unfold Rule.outputsOf given?
  cases Fields.get? "outputs" fields with
  | none => rfl
  | some value => cases value <;> rfl

theorem file_read_iff (fields : Fields) (file : Option String) :
    Rule.fileOf fields = .ok file ↔
      (∀ value, given? "conditions-file" fields = some value → ∃ path, value = .str path) ∧
        ∀ path, file = some path ↔
          path ≠ "" ∧ given? "conditions-file" fields = some (.str path) := by
  rw [file_of_given]
  cases given? "conditions-file" fields with
  | none => simp [Option.eq_none_iff_forall_ne_some, eq_comm]
  | some value =>
      cases value with
      | str given =>
          simp only [Except.ok.injEq, Option.some.injEq, Json.str.injEq, ← named_file_iff]
          constructor
          · intro same
            subst same
            exact ⟨fun value same => ⟨given, same.symm⟩, fun path => Iff.rfl⟩
          · intro named
            obtain ⟨_, same⟩ := named
            exact (Option.ext same).symm
      | _ => simp

theorem connective_read_iff (fields : Fields) (connective : Connective) :
    Rule.connectiveOf fields = .ok connective ↔
      given? "operator" fields = some (.str connective.spelling) ∨
        given? "operator" fields = none ∧ connective = .and := by
  rw [connective_of_given]
  cases given? "operator" fields with
  | none => simp [eq_comm]
  | some value => simp [Connective.read_iff]

theorem outputs_read_iff (fields outputs : Fields) :
    Rule.outputsOf fields = .ok outputs ↔
      given? "outputs" fields = some (.obj outputs) ∨
        given? "outputs" fields = none ∧ outputs = [] := by
  rw [outputs_of_given]
  cases given? "outputs" fields with
  | none => simp [eq_comm]
  | some value => cases value <;> simp

theorem conditions_read_iff (limits : Limits) (name : String) (fields : Fields)
    (members : List Condition) :
    Rule.childrenOf limits name (Rule.conditionsOf fields) = .ok members ↔
      (∃ items, given? "conditions" fields = some (.arr items) ∧ 1 ≤ limits.depth ∧
        (∀ item ∈ items, Node limits.depth 1 item) ∧ List.Forall₂ Yields items members) ∨
      given? "conditions" fields = none ∧ members = [] := by
  change Rule.childrenOf limits name (given? "conditions" fields) = .ok members ↔ _
  have read := children_read_iff name limits.depth limits.depth 1 (Nat.add_comm _ _)
  cases given? "conditions" fields with
  | none => simp [Rule.childrenOf, eq_comm]
  | some value =>
      simp only [Rule.childrenOf, read, List.forall₂_and_left, Option.some.injEq, reduceCtorEq,
        false_and, or_false]
      constructor
      · intro read
        obtain ⟨room, items, rfl, each⟩ := read
        exact ⟨items, rfl, room, each⟩
      · intro given
        obtain ⟨items, rfl, room, each⟩ := given
        exact ⟨room, items, rfl, each⟩

theorem rule_steps_iff (limits : Limits) (name : String) (fields : Fields) (rule : Rule) :
    Rule.ofFields limits name fields = .ok rule ↔
      ∃ file, Rule.fileOf fields = .ok file ∧
        ¬ (given? "conditions" fields = none ∧ file = none) ∧
        ∃ connective, Rule.connectiveOf fields = .ok connective ∧
        ∃ outputs, Rule.outputsOf fields = .ok outputs ∧
        ∃ members, Rule.childrenOf limits name (Rule.conditionsOf fields) = .ok members ∧
          ⟨name, ⟨connective, members⟩, file, outputs⟩ = rule := by
  have conditions : Rule.conditionsOf fields = given? "conditions" fields := rfl
  rw [Rule.ofFields, bind_ok_iff]
  refine exists_congr fun file => ?_
  rw [map_error_ok_iff]
  refine and_congr_right fun _ => ?_
  by_cases missing : given? "conditions" fields = none ∧ file = none
  · simp [conditions, missing]
  · have kept : ¬ ((Rule.conditionsOf fields).isNone && file.isNone) = true := by
      simpa [conditions] using missing
    rw [if_neg kept]
    simp only [bind_ok_iff, map_error_ok_iff, Except.ok.injEq, missing, not_false_eq_true, true_and]

theorem headed_rule_read (limits : Limits) (name : String) (fields : Fields) (file : Option String)
    (connective : Connective) (outputs : Fields) (fileRead : Rule.fileOf fields = .ok file)
    (present : ¬ (given? "conditions" fields = none ∧ file = none))
    (connectiveRead : Rule.connectiveOf fields = .ok connective)
    (outputsRead : Rule.outputsOf fields = .ok outputs) :
    Rule.ofFields limits name fields =
      (Rule.childrenOf limits name (given? "conditions" fields)).map fun members =>
        ⟨name, ⟨connective, members⟩, file, outputs⟩ := by
  have conditions : Rule.conditionsOf fields = given? "conditions" fields := rfl
  have kept : ¬ ((given? "conditions" fields).isNone && file.isNone) = true := by
    simpa using present
  rw [Rule.ofFields, fileRead, connectiveRead, outputsRead, conditions]
  simp only [map_error_of_ok, bind, Except.bind]
  rw [if_neg kept]
  cases Rule.childrenOf limits name (given? "conditions" fields) <;> rfl

theorem rule_read_sound (limits : Limits) (name : String) (fields : Fields) (rule : Rule)
    (read : Rule.ofFields limits name fields = .ok rule) :
    Definition limits.depth fields ∧ Defines name fields rule := by
  obtain ⟨file, fileRead, present, connective, connectiveRead, outputs, outputsRead, members,
    membersRead, rfl⟩ := (rule_steps_iff limits name fields rule).mp read
  obtain ⟨fileText, fileIff⟩ := (file_read_iff fields file).mp fileRead
  have operator := (connective_read_iff fields connective).mp connectiveRead
  have shown := (outputs_read_iff fields outputs).mp outputsRead
  have tree := (conditions_read_iff limits name fields members).mp membersRead
  have source : (∃ value, given? "conditions" fields = some value) ∨
      ∃ path, path ≠ "" ∧ given? "conditions-file" fields = some (.str path) := by
    cases listed : given? "conditions" fields with
    | some value => exact .inl ⟨value, rfl⟩
    | none =>
        cases file with
        | none => exact absurd ⟨listed, rfl⟩ present
        | some path => exact .inr ⟨path, (fileIff path).mp rfl⟩
  constructor
  · refine ⟨fileText, source, ?_, ?_, ?_⟩
    · intro value found
      rcases operator with word | ⟨absent, _⟩
      · obtain rfl := Option.some.inj (found.symm.trans word)
        simpa using (Connective.word_iff connective.spelling).mp ⟨connective, rfl⟩
      · exact absurd (found.symm.trans absent) (by simp)
    · intro value found
      rcases shown with object | ⟨absent, _⟩
      · exact ⟨outputs, Option.some.inj (found.symm.trans object)⟩
      · exact absurd (found.symm.trans absent) (by simp)
    · intro value found
      rcases tree with ⟨items, array, room, each, _⟩ | ⟨absent, _⟩
      · exact ⟨room, items, Option.some.inj (found.symm.trans array), each⟩
      · exact absurd (found.symm.trans absent) (by simp)
  · refine ⟨rfl, operator, ?_, fileIff, shown⟩
    rcases tree with ⟨items, array, _, _, yields⟩ | absent
    · exact .inl ⟨items, array, yields⟩
    · exact .inr absent

theorem rule_read_complete (limits : Limits) (name : String) (fields : Fields) (rule : Rule)
    (shape : Definition limits.depth fields) (defines : Defines name fields rule) :
    Rule.ofFields limits name fields = .ok rule := by
  apply (rule_steps_iff limits name fields rule).mpr
  refine ⟨rule.conditionsFile, (file_read_iff _ _).mpr ⟨shape.file, defines.file⟩, ?_,
    rule.root.connective, (connective_read_iff _ _).mpr defines.operator,
    rule.outputs, (outputs_read_iff _ _).mpr defines.outputs,
    rule.root.children, (conditions_read_iff limits name _ _).mpr ?_, ?_⟩
  · intro missing
    obtain ⟨unlisted, unnamed⟩ := missing
    rcases shape.source with ⟨value, listed⟩ | ⟨path, named⟩
    · exact absurd (unlisted.symm.trans listed) (by simp)
    · exact absurd (unnamed.symm.trans ((defines.file path).mpr named)) (by simp)
  · rcases defines.conditions with ⟨items, listed, yields⟩ | absent
    · obtain ⟨room, others, same, each⟩ := shape.conditions _ listed
      obtain rfl := Json.arr.inj same
      exact .inl ⟨items, listed, room, each, yields⟩
    · exact .inr absent
  · obtain ⟨_, _, _, _⟩ := rule
    exact congrArg (Rule.mk · _ _ _) defines.name.symm

theorem entry_read_iff (limits : Limits) (entry : String × Json) (rule : Rule) :
    Rule.ofJson limits entry.1 entry.2 = .ok rule ↔
      (∃ fields, entry.2 = .obj fields ∧ Definition limits.depth fields) ∧
        Defines entry.1 entry.2.members rule := by
  obtain ⟨name, value⟩ := entry
  cases value with
  | obj fields =>
      constructor
      · intro read
        obtain ⟨shape, defines⟩ := rule_read_sound limits name fields rule read
        exact ⟨⟨fields, rfl, shape⟩, defines⟩
      · intro valid
        obtain ⟨⟨others, same, shape⟩, defines⟩ := valid
        obtain rfl := Json.obj.inj same
        exact rule_read_complete limits name fields rule shape defines
  | _ => simp [Rule.ofJson]

theorem document_read_iff (limits : Limits) (value : Json) (config : Config) :
    Config.ofJson limits value = .ok config ↔
      Document limits.depth value ∧ Describes value config := by
  cases value with
  | obj definitions =>
      simp only [Config.ofJson, bind_ok_iff, all_ok_iff, entry_read_iff, List.forall₂_and_left]
      constructor
      · intro read
        obtain ⟨rules, ⟨each, defines⟩, same⟩ := read
        obtain rfl := Except.ok.inj same
        exact ⟨⟨definitions, rfl, each⟩, defines⟩
      · intro valid
        obtain ⟨⟨others, same, each⟩, defines⟩ := valid
        obtain rfl := Json.obj.inj same
        exact ⟨config.rules, ⟨each, defines⟩, rfl⟩
  | _ => simp [Config.ofJson, Document]

theorem reading_accepts_the_grammar (limits : Limits) (value : Json) :
    ((∃ config, Config.ofJson limits value = .ok config) ↔ Document limits.depth value) ∧
      ∀ config, Config.ofJson limits value = .ok config ↔
        Document limits.depth value ∧ Describes value config := by
  refine ⟨⟨?_, ?_⟩, document_read_iff limits value⟩
  · intro accepted
    obtain ⟨config, read⟩ := accepted
    exact ((document_read_iff limits value config).mp read).1
  · intro shape
    obtain ⟨config, describes⟩ := document_described limits.depth value shape
    exact ⟨config, (document_read_iff limits value config).mpr ⟨shape, describes⟩⟩

end RuleMatrix.Grammar
