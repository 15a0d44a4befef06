import RuleMatrix.CommandLine
import RuleMatrix.Proofs.CommandLine.Settings
import RuleMatrix.Proofs.Environment
import RuleMatrix.Proofs.FileStore.Append
import RuleMatrix.Proofs.Pipeline

set_option autoImplicit false

namespace RuleMatrix.CommandLine

def made (settings : Settings) (bindings : List (ByteArray × ByteArray)) (store : FileStore) :
    Except PipelineError Matrix :=
  Pipeline.matrixOf settings.limits (Environment.context store (Environment.texts bindings)) store
    settings.input

theorem matrix_one_line (matrix : Matrix) : '\n' ∉ matrix.text.toList := by
  rw [Matrix.text, Json.text, String.toList_ofList]
  exact Json.text_one_line matrix.toJson

theorem matrix_line (matrix : Matrix) :
    StepOutput.text "matrix" (outputText matrix.toJson) = "matrix=" ++ matrix.text ++ "\n" := by
  have shown : outputText matrix.toJson = matrix.text := rfl
  have flat : matrix.text.toList.contains '\n' = false := by
    simpa using matrix_one_line matrix
  apply String.toList_inj.mp
  rw [shown, StepOutput.text, StepOutput.line, flat]
  simp

section InMemory

variable (store : FileStore)

theorem printed_run (text : String) (status : Nat) :
    resultOf (do inMemory.print text; return status) store = ⟨status, text, store⟩ := by
  change (⟨status, "" ++ text, store⟩ : Result) = _
  rw [String.empty_append]

theorem append_run (path content : ByteArray) (written : FileStore)
    (done : store.append path content = .ok written) :
    (inMemory.append path content).run ⟨"", store⟩ = (true, ⟨"", written⟩) := by
  unfold inMemory
  rw [StateT.run_bind, StateT.run_get, pure_bind]
  dsimp only
  rw [done]
  rfl

theorem files_run (paths : List ByteArray) (machine : Machine) :
    (inMemory.files paths).run machine = (machine.store, machine) :=
  rfl

theorem perform_run (settings : Settings) (bindings : List (ByteArray × ByteArray)) :
    resultOf (perform inMemory settings bindings) store =
      resultOf (match outputLine settings bindings store with
        | .error e => fail inMemory e.message
        | .ok line => emit inMemory settings.outputFile line) store := by
  rw [resultOf, perform, StateT.run_bind, files_run]
  rfl

end InMemory

theorem asked_performed (help : String) (arguments : List ByteArray)
    (bindings : List (ByteArray × ByteArray)) (store : FileStore) (settings : Settings)
    (asked : Asked arguments bindings settings) :
    execute help arguments bindings store = resultOf (perform inMemory settings bindings) store := by
  have accepted := (request_iff arguments bindings settings).mpr asked
  rw [execute, program, accepted]

theorem unasked_untouched (help : String) (arguments : List ByteArray)
    (bindings : List (ByteArray × ByteArray)) (store : FileStore)
    (unasked : ∀ settings, ¬ Asked arguments bindings settings) :
    ∃ status output, (status, output) ∈ [(0, help), (0, versionLine), (2, "")] ∧
      execute help arguments bindings store = ⟨status, output, store⟩ := by
  cases answer : request arguments bindings with
  | ok settings => exact absurd ((request_iff arguments bindings settings).mp answer) (unasked settings)
  | error reason =>
      rw [execute, program, answer]
      cases reason with
      | help => exact ⟨0, help, by simp, printed_run store help 0⟩
      | version => exact ⟨0, versionLine, by simp, printed_run store versionLine 0⟩
      | misuse => exact ⟨2, "", by simp, rfl⟩

theorem failed_told (settings : Settings) (bindings : List (ByteArray × ByteArray))
    (store : FileStore) (e : PipelineError) (failed : made settings bindings store = .error e) :
    resultOf (perform inMemory settings bindings) store =
      ⟨1, "Action failed: " ++ e.message ++ "\n", store⟩ := by
  have line : outputLine settings bindings store = .error e := by
    unfold made at failed
    rw [outputLine, failed]
    rfl
  rw [perform_run, line]
  exact printed_run store _ 1

theorem made_written (settings : Settings) (bindings : List (ByteArray × ByteArray))
    (store : FileStore) (path : ByteArray) (matrix : Matrix) (place : Location) (old : ByteArray)
    (named : settings.outputFile = some path) (made : made settings bindings store = .ok matrix)
    (takes : store.Takes path place old) :
    resultOf (perform inMemory settings bindings) store =
      ⟨0, "", store.set place (.file (old ++ ("matrix=" ++ matrix.text ++ "\n").toUTF8))⟩ := by
  have line : outputLine settings bindings store = .ok ("matrix=" ++ matrix.text ++ "\n") := by
    unfold CommandLine.made at made
    rw [outputLine, made, ← matrix_line]
    rfl
  have written := append_run store path _ _ (FileStore.append_taken store path place old
    ("matrix=" ++ matrix.text ++ "\n").toUTF8 takes)
  rw [perform_run, line, named]
  dsimp only
  rw [resultOf, emit, StateT.run_bind, written]
  rfl

theorem run_tells_or_writes_one_line (help : String) (arguments : List ByteArray)
    (bindings : List (ByteArray × ByteArray)) (store : FileStore) (settings : Settings)
    (path : ByteArray) (asked : Asked arguments bindings settings)
    (named : settings.outputFile = some path) :
    (∀ e, made settings bindings store = .error e →
      execute help arguments bindings store =
        ⟨1, "Action failed: " ++ e.message ++ "\n", store⟩) ∧
    ∀ matrix, made settings bindings store = .ok matrix →
      '\n' ∉ matrix.text.toList ∧ Matrix.parse? matrix.text = some matrix ∧
        (∀ entry ∈ matrix.entries, (Json.obj entry).nesting ≤ 125) ∧
        ∀ place old, store.Takes path place old →
          ∃ written, execute help arguments bindings store = ⟨0, "", written⟩ ∧
            written.read path = .ok (old ++ ("matrix=" ++ matrix.text ++ "\n").toUTF8) ∧
            ∀ other, other ≠ place → written.entry? other = store.entry? other := by
  rw [asked_performed help arguments bindings store settings asked]
  refine ⟨fun e failed => failed_told settings bindings store e failed, ?_⟩
  intro matrix made
  obtain ⟨formed, shallow⟩ := pipeline_matrix_readable _ _ store _ matrix made
  have parsed := (Matrix.text_parsed matrix formed).trans (if_pos shallow)
  refine ⟨matrix_one_line matrix, parsed, shallow, ?_⟩
  intro place old takes
  have held := FileStore.held_after store path place old
    (old ++ ("matrix=" ++ matrix.text ++ "\n").toUTF8) takes
  refine ⟨_, made_written settings bindings store path matrix place old named made takes,
    FileStore.held_read _ path place _ held, ?_⟩
  intro other apart
  have inside := FileStore.target_inside store path place takes.found
  exact (FileStore.entry_set store place other _ inside).trans (if_neg (Ne.symm apart))

def sampleDefinitions : Json :=
  .obj [("r", .obj [("conditions", .arr [FieldTest.toJson ⟨"env.BRANCH", .equal, .str "main"⟩]),
    ("outputs", .obj [("k", .str "a\nb")])])]

-- The second byte begins no character.
def samplePath : ByteArray := ⟨#[0x6F, 0xFF]⟩

def sampleVariables : List (String × String) :=
  [("BRANCH", "main"), ("INPUT_CONDITIONS-JSON", sampleDefinitions.text), ("INPUT_MAX-DEPTH", "7")]

def sampleBindings : List (ByteArray × ByteArray) :=
  sampleVariables.map (fun entry => (entry.1.toUTF8, entry.2.toUTF8)) ++
    [("GITHUB_OUTPUT".toUTF8, samplePath)]

def sampleStore : FileStore := ⟨[], [([samplePath], .file "first=1\n".toUTF8)]⟩

def sampleSettings (depth : Nat) : Settings :=
  ⟨⟨none, some sampleDefinitions.text⟩, ⟨depth⟩, some samplePath⟩

theorem sample_asked (arguments : List ByteArray) (word : ByteArray) (depth : Nat)
    (gives : Gives arguments [("--max-depth", word)]) (given : GivesDepth (some word) depth) :
    Asked arguments sampleBindings (sampleSettings depth) := by
  have file : chosen [("--max-depth", word)] sampleBindings "--conditions-file"
      "INPUT_CONDITIONS-FILE" = none := rfl
  have json : chosen [("--max-depth", word)] sampleBindings "--conditions-json"
      "INPUT_CONDITIONS-JSON" = some sampleDefinitions.text.toUTF8 := rfl
  have output : chosen [("--max-depth", word)] sampleBindings "--output-file" "GITHUB_OUTPUT" =
      some samplePath := rfl
  refine ⟨_, gives, List.nodup_singleton _, file ▸ .absent, json ▸ .text _ ?_, given, output ▸ .path _ ?_⟩
  · decide +kernel
  · decide +kernel

theorem one_level_asked :
    Asked ["--max-depth".toUTF8, "1".toUTF8] sampleBindings (sampleSettings 1) := by
  have plain := (value_iff "1".toUTF8).mp (by decide +kernel)
  exact sample_asked _ "1".toUTF8 1 (.apart "--max-depth" _ [] [] (by decide) plain .nothing)
    (.decimal [] 0 1 (.inl rfl) (by decide))

theorem no_level_asked : Asked ["--max-depth=+0".toUTF8] sampleBindings (sampleSettings 0) := by
  have word : "--max-depth=+0".toUTF8 = "--max-depth".toUTF8 ++ "=".toUTF8 ++ "+0".toUTF8 := rfl
  rw [word]
  exact sample_asked _ _ 0 (.joined "--max-depth" "+0".toUTF8 [] [] (by decide) .nothing)
    (.decimal ['+'] 0 0 (.inr rfl) (by decide))

theorem sample_made (depth : Nat) :
    made (sampleSettings depth) sampleBindings sampleStore =
      ((Pipeline.evaluationOf ⟨depth⟩ (Environment.context sampleStore sampleVariables)
        sampleDefinitions).mapError .config).map Matrix.ofEvaluation := by
  have formed : sampleDefinitions.WellFormed := by
    simp [sampleDefinitions, FieldTest.toJson, Json.WellFormed, Json.WellFormedItems,
      Json.WellFormedFields, Fields.Distinct, Fields.keys]
  have parsed : Json.parse sampleDefinitions.text = .ok sampleDefinitions :=
    Json.text_read_back Json.maxNesting sampleDefinitions formed (by decide)
  have loaded := object_text_loaded sampleStore sampleDefinitions.text _ parsed
  have undecodable : String.fromUTF8? samplePath = none := by decide +kernel
  have decoded : Environment.texts sampleBindings = sampleVariables := by
    rw [sampleBindings, Environment.texts_append, Environment.texts_encoded]
    simp [Environment.texts, undecodable]
  rw [made, decoded, Pipeline.matrixOf]
  change ((Input.load ⟨none, some sampleDefinitions.text⟩ sampleStore).mapError _ >>= _) = _
  rw [loaded]
  rfl

theorem sample_runs_told_and_written :
    Asked ["--max-depth".toUTF8, "1".toUTF8] sampleBindings (sampleSettings 1) ∧
      Asked ["--max-depth=+0".toUTF8] sampleBindings (sampleSettings 0) ∧
      (∃ written, execute "" ["--max-depth".toUTF8, "1".toUTF8] sampleBindings sampleStore =
          ⟨0, "", written⟩ ∧
        written.read samplePath = .ok ("first=1\n".toUTF8 ++
          ("matrix=" ++ "\x7b\"include\":[\x7b\"k\":\"a\\nb\"\x7d]\x7d" ++ "\n").toUTF8)) ∧
      execute "" ["--max-depth=+0".toUTF8] sampleBindings sampleStore =
        ⟨1, "Action failed: " ++ "conditions in \"r\" nest deeper than the maximum depth of 0" ++ "\n",
          sampleStore⟩ := by
  have takes : sampleStore.Takes samplePath [samplePath] "first=1\n".toUTF8 :=
    ⟨by decide +kernel, .inl rfl⟩
  obtain ⟨_, writes⟩ := run_tells_or_writes_one_line "" _ sampleBindings sampleStore _ samplePath
    one_level_asked rfl
  obtain ⟨tells, _⟩ := run_tells_or_writes_one_line "" _ sampleBindings sampleStore _ samplePath
    no_level_asked rfl
  have matrix : made (sampleSettings 1) sampleBindings sampleStore = .ok ⟨[[("k", .str "a\nb")]]⟩ := by
    rw [sample_made]
    rfl
  have deep : made (sampleSettings 0) sampleBindings sampleStore =
      .error (.config (.tooDeep "r" 0)) := by
    rw [sample_made]
    rfl
  have text : Matrix.text ⟨[[("k", .str "a\nb")]]⟩ =
      "\x7b\"include\":[\x7b\"k\":\"a\\nb\"\x7d]\x7d" := by decide +kernel
  have message : PipelineError.message (.config (.tooDeep "r" 0)) =
      "conditions in \"r\" nest deeper than the maximum depth of 0" := by decide +kernel
  obtain ⟨written, executed, read, _⟩ := (writes _ matrix).2.2.2 _ _ takes
  rw [text] at read
  have told := tells _ deep
  rw [message] at told
  exact ⟨one_level_asked, no_level_asked, ⟨written, executed, read⟩, told⟩

end RuleMatrix.CommandLine
