import RuleMatrix.Pipeline
import RuleMatrix.Proofs.Evaluation.Outcome
import RuleMatrix.Proofs.Matrix.Reading

set_option autoImplicit false

namespace RuleMatrix

theorem FileStore.json_read_parsed (store : FileStore) (path : ByteArray) (value : Json)
    (read : store.readJson path = .ok value) : ∃ text, Json.parse text = .ok value := by
  unfold FileStore.readJson at read
  split at read
  · cases read
  · rename_i text _
    exact ⟨text, (Sequence.map_error_ok_iff _ _ _).mp read⟩

theorem object_text_loaded (store : FileStore) (text : String) (fields : Fields)
    (parsed : Json.parse text = .ok (.obj fields)) :
    Input.load ⟨none, some text⟩ store = .ok (.obj fields) := by
  simp only [Input.load, parseField, parsed]
  rfl

theorem loaded_parsed (input : Input) (store : FileStore) (value : Json)
    (loaded : input.load store = .ok value) : ∃ text, Json.parse text = .ok value := by
  obtain ⟨file, json⟩ := input
  cases file with
  | none =>
      cases json with
      | none => cases loaded
      | some text =>
          obtain ⟨given, parsed, later⟩ := (Sequence.bind_ok_iff _ _ _).mp loaded
          have whole := (Sequence.map_error_ok_iff _ _ _).mp parsed
          split at later
          · cases later
            exact ⟨text, whole⟩
          · cases later
  | some path =>
      cases json with
      | some text => cases loaded
      | none =>
          change store.loadConfig path.toUTF8 = .ok value at loaded
          unfold FileStore.loadConfig at loaded
          dsimp only at loaded
          split at loaded
          · cases loaded
          · exact store.json_read_parsed _ value loaded

-- Outputs lie two brackets deep in the text of a configuration, and two deep in that of a matrix: as
-- the first was read, the second will be.
theorem defined_outputs_nesting (levels : Nat) (name : String) (given : Json) (rule : Rule)
    (fits : given.nesting ≤ levels + 2) (defines : Grammar.Defines name given.members rule) :
    (Json.obj rule.outputs).nesting ≤ levels + 1 := by
  rcases defines.outputs with shown | ⟨_, none⟩
  · have found := (Option.filter_eq_some_iff.mp shown).1
    exact Json.member_nesting (levels + 1) given _ "outputs" fits found
  · rw [none]
    exact Nat.le_add_left 1 levels

theorem read_outputs_nesting (levels : Nat) (limits : Limits) (value : Json) (config : Config)
    (fits : value.nesting ≤ levels + 3) (read : Config.ofJson limits value = .ok config) :
    ∀ rule ∈ config.rules, (Json.obj rule.outputs).nesting ≤ levels + 1 := by
  obtain ⟨shape, describes⟩ := (Grammar.document_read_iff limits value config).mp read
  obtain ⟨definitions, rfl, _⟩ := shape
  intro rule member
  obtain ⟨entry, inside, defines⟩ := Sequence.result_has_source _ definitions _ describes rule member
  have inner := (Json.nesting_object_le_iff (levels + 2) definitions).mp fits entry inside
  exact defined_outputs_nesting levels entry.1 entry.2 rule inner defines

theorem evaluated_outputs_nesting (levels : Nat) (config : Config) (context : Context)
    (each : ∀ rule ∈ config.rules, (Json.obj rule.outputs).nesting ≤ levels + 1) :
    (Json.obj (config.evaluate context).outputs).nesting ≤ levels + 1 := by
  rw [Config.evaluate_satisfied, Json.nesting_object_le_iff]
  apply Fields.merge_each fun value => value.nesting ≤ levels
  intro outputs member
  obtain ⟨rule, chosen, rfl⟩ := List.mem_map.mp member
  exact (Json.nesting_object_le_iff levels rule.outputs).mp (each rule (List.mem_of_mem_filter chosen))

theorem evaluated_outputs_well_formed (config : Config) (context : Context) (formed : config.WellFormed) :
    (Json.obj (config.evaluate context).outputs).WellFormed := by
  rw [Config.evaluate_satisfied, Fields.merge_flatten]
  apply Json.extend_well_formed [] _ ⟨List.nodup_nil, trivial⟩
  intro entry member
  obtain ⟨outputs, listed, inside⟩ := List.mem_flatten.mp member
  obtain ⟨rule, chosen, rfl⟩ := List.mem_map.mp listed
  have fine := (formed.rules rule (List.mem_of_mem_filter chosen)).outputs
  exact ((Json.well_formed_object_iff rule.outputs).mp fine).2 entry inside

theorem matrix_entries (evaluation : Evaluation) (entry : Fields)
    (member : entry ∈ (Matrix.ofEvaluation evaluation).entries) : entry = evaluation.outputs := by
  unfold Matrix.ofEvaluation at member
  split at member
  · exact List.mem_singleton.mp member
  · cases member

theorem pipeline_steps (limits : Limits) (context : Context) (store : FileStore) (input : Input)
    (matrix : Matrix) (made : Pipeline.matrixOf limits context store input = .ok matrix) :
    ∃ value config, input.load store = .ok value ∧ Config.ofJson limits value = .ok config ∧
      matrix = Matrix.ofEvaluation (config.evaluate context) := by
  obtain ⟨value, loaded, later⟩ := (Sequence.bind_ok_iff _ _ _).mp made
  obtain ⟨evaluation, evaluated, same⟩ := (Sequence.bind_ok_iff _ _ _).mp later
  have compiled := (Sequence.map_error_ok_iff _ _ _).mp evaluated
  obtain ⟨config, read, rfl⟩ := (Sequence.map_ok_iff _ _ _).mp compiled
  exact ⟨value, config, (Sequence.map_error_ok_iff _ _ _).mp loaded, read, (Except.ok.inj same).symm⟩

theorem pipeline_matrix_readable (limits : Limits) (context : Context) (store : FileStore)
    (input : Input) (matrix : Matrix)
    (made : Pipeline.matrixOf limits context store input = .ok matrix) :
    matrix.WellFormed ∧ matrix.Shallow := by
  obtain ⟨value, config, loaded, read, rfl⟩ := pipeline_steps limits context store input matrix made
  obtain ⟨text, parsed⟩ := loaded_parsed input store value loaded
  have formed := Json.read_well_formed Json.maxNesting text value parsed
  have fits := Json.read_nesting Json.maxNesting text value parsed
  have well := Config.compiled_well_formed config (.ofJson limits value config formed read)
  have outputs := read_outputs_nesting 124 limits value config fits read
  constructor
  · intro entry member
    rw [matrix_entries _ entry member]
    exact evaluated_outputs_well_formed config context well
  · intro entry member
    rw [matrix_entries _ entry member]
    exact evaluated_outputs_nesting 124 config context outputs

end RuleMatrix
