import RuleMatrix.Environment
import RuleMatrix.Proofs.Evaluation.Alike
import RuleMatrix.Proofs.Pipeline
import RuleMatrix.Proofs.Text.Bytes

set_option autoImplicit false

namespace RuleMatrix.Environment

theorem texts_append (bindings others : List (ByteArray × ByteArray)) :
    texts (bindings ++ others) = texts bindings ++ texts others :=
  List.filterMap_append

theorem texts_encoded (pairs : List (String × String)) :
    texts (pairs.map fun entry => (entry.1.toUTF8, entry.2.toUTF8)) = pairs := by
  have decoded (text : String) := (Text.decoded_iff text.toUTF8 text).mpr rfl
  rw [texts, List.filterMap_map]
  simp [-String.toUTF8_eq_toByteArray, decoded]

theorem members_keys (bindings : List (String × String)) :
    Fields.keys (bindings.map fun entry => (entry.1, Json.str entry.2)) = bindings.map Prod.fst := by
  simp [Fields.keys]

theorem members_well_formed (bindings : List (String × String)) :
    (Json.obj (members bindings)).WellFormed := by
  apply Json.extend_well_formed [] _ ⟨List.nodup_nil, trivial⟩
  rw [List.forall_mem_map]
  exact fun entry _ => trivial

theorem members_permuted (first second : List (String × String))
    (distinct : (first.map Prod.fst).Nodup) (permuted : first.Perm second) :
    (members first).Perm (members second) := by
  have others : (second.map Prod.fst).Nodup := (permuted.map Prod.fst).nodup_iff.mp distinct
  rw [← members_keys] at distinct others
  rw [members, members, Fields.of_pairs_distinct _ distinct, Fields.of_pairs_distinct _ others]
  exact permuted.map _

section Lookups

variable (store : FileStore) (first second : Fields)
variable (same : ∀ name, Fields.get? name first = Fields.get? name second)

include same

theorem nonempty_same (name : String) : nonempty? name first = nonempty? name second := by
  rw [nonempty?, nonempty?, same]

theorem run_members_same : runMembers first = runMembers second := by
  simp only [runMembers, same]

theorem event_members_same : eventMembers store first = eventMembers store second := by
  rw [eventMembers, eventMembers, nonempty_same first second same]

end Lookups

theorem run_members_well_formed (env : Fields) (formed : (Json.obj env).WellFormed) :
    (Json.obj (runMembers env)).WellFormed := by
  refine (Json.well_formed_object_iff _).mpr ⟨?_, ?_⟩
  · have names : Fields.keys (runMembers env) = runFields.map Prod.fst := by
      simp [Fields.keys, runMembers]
    rw [Fields.Distinct, names]
    decide
  · rw [runMembers, List.forall_mem_map]
    intro field _
    cases found : Fields.get? field.2 env with
    | none => exact trivial
    | some value => exact Json.member_well_formed (.obj env) value field.2 formed found

theorem event_members_shape (store : FileStore) (env : Fields) :
    eventMembers store env = [] ∨
      ∃ event, eventMembers store env = [("event", event)] ∧ event.WellFormed := by
  rw [eventMembers]
  split
  · exact .inl rfl
  · split
    · rename_i event read
      obtain ⟨text, parsed⟩ := store.json_read_parsed _ event read
      exact .inr ⟨event, rfl, Json.read_well_formed Json.maxNesting text event parsed⟩
    · exact .inl rfl

theorem context_well_formed (store : FileStore) (bindings : List (String × String)) :
    (context store bindings).root.WellFormed := by
  have env := members_well_formed bindings
  have run := run_members_well_formed (members bindings) env
  have among (fields : Fields) (names : (Fields.keys fields).Sublist ["github", "event", "env"])
      (each : ∀ entry ∈ fields, entry.2.WellFormed) : (Json.obj fields).WellFormed :=
    (Json.well_formed_object_iff fields).mpr ⟨names.nodup (by decide), each⟩
  rw [context]
  dsimp only
  split
  · exact among _ (by simp [Fields.keys]) (by simpa using env)
  · rcases event_members_shape store (members bindings) with none | ⟨event, one, formed⟩
    · rw [none]
      exact among _ (by simp [Fields.keys]) (by simpa using ⟨run, env⟩)
    · rw [one]
      exact among _ (by simp [Fields.keys]) (by simpa using ⟨run, formed, env⟩)

section Order

variable (store : FileStore) (first second : List (String × String))
variable (distinct : (first.map Prod.fst).Nodup) (permuted : first.Perm second)

include distinct permuted

theorem contexts_shape :
    ∃ shared, (context store first).root = .obj (shared ++ [("env", .obj (members first))]) ∧
      (context store second).root = .obj (shared ++ [("env", .obj (members second))]) := by
  have objects := members_permuted first second distinct permuted
  have same : ∀ name, Fields.get? name (members first) = Fields.get? name (members second) :=
    fun name => Fields.get_permuted name _ _ (members_well_formed first).1 objects
  refine ⟨_, rfl, ?_⟩
  rw [context, nonempty_same _ _ same, run_members_same _ _ same, event_members_same store _ _ same]

theorem contexts_alike : (context store first).root.alike (context store second).root = true := by
  have formed := context_well_formed store first
  have objects := members_permuted first second distinct permuted
  have env := Json.alike_permuted _ _ (members_well_formed first) objects
  obtain ⟨shared, here, there⟩ := contexts_shape store first second distinct permuted
  rw [here] at formed
  rw [here, there]
  exact Json.alike_member shared [] "env" _ _ formed env

theorem evaluated_in_any_order (config : Config) :
    config.evaluate (context store first) = config.evaluate (context store second) := by
  have formed := context_well_formed store first
  have alike := contexts_alike store first second distinct permuted
  exact (Config.alike_roots config _ _ formed alike).1

end Order

end RuleMatrix.Environment

namespace RuleMatrix.Pipeline

theorem matrix_of_evaluations (limits : Limits) (first second : Context) (store : FileStore)
    (input : Input) (same : ∀ config : Config, config.evaluate first = config.evaluate second) :
    matrixOf limits first store input = matrixOf limits second store input := by
  have each (value : Json) : evaluationOf limits first value = evaluationOf limits second value := by
    simp only [evaluationOf, same]
  simp only [matrixOf, each]

theorem matrix_blind_to_variable_order (limits : Limits) (store : FileStore) (input : Input)
    (first second : List (String × String)) (distinct : (first.map Prod.fst).Nodup)
    (permuted : first.Perm second) :
    matrixOf limits (Environment.context store first) store input =
      matrixOf limits (Environment.context store second) store input :=
  matrix_of_evaluations limits _ _ store input
    (Environment.evaluated_in_any_order store first second distinct permuted)

def runVariables : List (String × String) :=
  [("GITHUB_ACTIONS", "true"), ("GITHUB_EVENT_PATH", "event"), ("GITHUB_REF", "main")]

def eventStore : FileStore :=
  ⟨[], [(["event".toUTF8], .file "[\x7b\"a\":\"x\",\"b\":null\x7d]".toUTF8)]⟩

def wholeObjects : Json :=
  .obj [("both", .obj [
    ("conditions", .arr [
      FieldTest.toJson ⟨"env", .equal, .obj [("GITHUB_REF", .str "main"),
        ("GITHUB_ACTIONS", .str "true"), ("GITHUB_EVENT_PATH", .str "event")]⟩,
      FieldTest.toJson ⟨"event", .contains, .obj [("b", .null), ("a", .str "x")]⟩]),
    ("outputs", .obj [("k", .arr [])])])]

def wholeObjectsInput : Input := ⟨none, some wholeObjects.text⟩

theorem whole_objects_loaded : wholeObjectsInput.load eventStore = .ok wholeObjects := by
  have formed : wholeObjects.WellFormed := by
    simp [wholeObjects, FieldTest.toJson, Json.WellFormed, Json.WellFormedItems,
      Json.WellFormedFields, Fields.Distinct, Fields.keys]
  have parsed : Json.parse wholeObjects.text = .ok wholeObjects :=
    Json.text_read_back Json.maxNesting wholeObjects formed (by decide)
  exact object_text_loaded eventStore wholeObjects.text _ parsed

theorem reversed_variables_same_matrix :
    (runVariables.map Prod.fst).Nodup ∧ runVariables.Perm runVariables.reverse ∧
      Environment.members runVariables ≠ Environment.members runVariables.reverse ∧
      matrixOf Limits.standard (Environment.context eventStore runVariables) eventStore
          wholeObjectsInput =
        matrixOf Limits.standard (Environment.context eventStore runVariables.reverse) eventStore
          wholeObjectsInput ∧
      (matrixOf Limits.standard (Environment.context eventStore runVariables) eventStore
        wholeObjectsInput).toOption.map Matrix.text =
          some "\x7b\"include\":[\x7b\"k\":[]\x7d]\x7d" := by
  have distinct : (runVariables.map Prod.fst).Nodup := by decide
  have permuted := (List.reverse_perm runVariables).symm
  have orders : Fields.keys (Environment.members runVariables) ≠
      Fields.keys (Environment.members runVariables.reverse) := by decide
  refine ⟨distinct, permuted, fun same => orders (congrArg Fields.keys same), ?_, ?_⟩
  · exact matrix_blind_to_variable_order Limits.standard eventStore wholeObjectsInput
      runVariables runVariables.reverse distinct permuted
  · rw [matrixOf, whole_objects_loaded]
    decide +kernel

end RuleMatrix.Pipeline
