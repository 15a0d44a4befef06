import RuleMatrix.Proofs.FileStore.Append
import RuleMatrix.Proofs.Pipeline
import RuleMatrix.Proofs.Text.Pieces

set_option autoImplicit false

namespace RuleMatrix

namespace FileStore

theorem read_iff (store : FileStore) (path : ByteArray) (content : ByteArray) :
    store.read path = .ok content ↔ store.find path = .ok (.file content) := by
  rw [read, Sequence.bind_ok_iff]
  constructor
  · rintro ⟨entry, found, opened⟩
    cases entry with
    | directory => cases opened
    | file held =>
        obtain rfl := Except.ok.inj opened
        exact found
  · exact fun found => ⟨.file content, found, rfl⟩

-- Behind its last slash such a path has an empty name, which leads nowhere but to the directory.
theorem trailing_slash_unreadable (store : FileStore) (path : ByteArray) (stem : List UInt8)
    (ends : path.data.toList = stem ++ [slash]) (content : ByteArray) :
    store.read path ≠ .ok content := by
  intro taken
  have found := (read_iff store path content).mp taken
  obtain ⟨given, named, located⟩ := (Sequence.bind_ok_iff _ _ _).mp found
  obtain ⟨place, way, there⟩ := (Sequence.bind_ok_iff _ _ _).mp located
  have cut : given = (Text.piecesOf slash stem).map (fun name => ⟨name.toArray⟩) ++ ["".toUTF8] := by
    unfold names at named
    split at named
    · cases named
    · split at named
      · cases named
      · split at named
        · cases named
        · rw [← Except.ok.inj named, pieces, ends, Text.pieces_append, List.map_append]
          rfl
  rw [cut, walk_append] at way
  obtain ⟨here, _, last⟩ := (Sequence.bind_ok_iff _ _ _).mp way
  obtain ⟨directory, _, stays⟩ := (walk_step_iff store here place "".toUTF8 []).mp last
  obtain rfl := Except.ok.inj stays
  have same : step here "".toUTF8 = here := if_pos (.inl rfl)
  rw [same, directory] at there
  cases there

theorem absolute_of_nothing (store : FileStore) :
    ∃ stem, (store.absolute "".toUTF8).data.toList = stem ++ [slash] := by
  have relative : isAbsolute "".toUTF8 = false := rfl
  rw [absolute, if_neg (by rw [relative]; exact Bool.false_ne_true)]
  induction store.workingDirectory with
  | nil => exact ⟨[], rfl⟩
  | cons name rest ih =>
      obtain ⟨stem, ends⟩ := ih
      refine ⟨("/".toUTF8 ++ name).data.toList ++ stem, ?_⟩
      rw [List.foldr_cons, ByteArray.toList_data_append, ends, List.append_assoc]

theorem empty_name_unreadable (store : FileStore) (content : ByteArray) :
    store.read (store.absolute "".toUTF8) ≠ .ok content := by
  obtain ⟨stem, ends⟩ := store.absolute_of_nothing
  exact trailing_slash_unreadable store _ stem ends content

theorem text_read_iff (store : FileStore) (path : ByteArray) (text : String) :
    store.readText path = .ok text ↔ store.read path = .ok text.toUTF8 := by
  constructor
  · intro read
    obtain ⟨content, taken, decoded⟩ := (Sequence.bind_ok_iff _ _ _).mp read
    split at decoded
    · rename_i known whole
      obtain rfl := Except.ok.inj decoded
      exact (Text.decoded_iff content known).mp whole ▸ taken
    · cases decoded
  · intro readable
    have decoded := (Text.decoded_iff text.toUTF8 text).mpr rfl
    rw [readText, readable]
    simp only [bind, Except.bind, decoded]

theorem json_read_iff (store : FileStore) (path : ByteArray) (value : Json) :
    store.readJson path = .ok value ↔
      ∃ text : String, store.read path = .ok text.toUTF8 ∧ Json.parse text = .ok value := by
  simp only [← text_read_iff]
  unfold readJson
  cases store.readText path with
  | error e => simp
  | ok text => simp [Sequence.map_error_ok_iff]

theorem config_loaded (store : FileStore) (path : ByteArray) (text : String)
    (readable : store.read (store.absolute path) = .ok text.toUTF8) :
    store.loadConfig path = (Json.parse text).mapError (.malformedFile (store.absolute path)) := by
  have found := (read_iff store _ _).mp readable
  unfold loadConfig readJson
  simp only [found, (text_read_iff store _ text).mpr readable]

end FileStore

namespace Input

inductive Names (path : String) : Input → Prop where
  | plain : Names path ⟨some path, none⟩
  | filtered : Names path (Input.of (some path) none)

-- The inputs that hold a text. The second leaves out an empty one.
inductive Shows (text : String) : Input → Prop where
  | plain : Shows text ⟨none, some text⟩
  | filtered : Shows text (Input.of none (some text))

theorem given_nonempty (text : String) (nonempty : text ≠ "") : given (some text) = some text := by
  simp [given, nonempty]

theorem named_loaded (store : FileStore) (path text : String) (input : Input)
    (readable : store.read (store.absolute path.toUTF8) = .ok text.toUTF8) (named : input.Names path) :
    input.load store =
      (Json.parse text).mapError (.malformedFile (store.absolute path.toUTF8)) := by
  have nonempty : path ≠ "" := by
    rintro rfl
    exact FileStore.empty_name_unreadable store text.toUTF8 readable
  have same : input = ⟨some path, none⟩ := by
    cases named with
    | plain => rfl
    | filtered => rw [Input.of, given_nonempty path nonempty]; rfl
  rw [same]
  exact store.config_loaded path.toUTF8 text readable

theorem empty_text_refused (value : Json) : Json.parse "" ≠ .ok value := by
  intro parsed
  cases parsed

theorem shown_loaded (store : FileStore) (text : String) (input : Input) (fields : Fields)
    (parsed : Json.parse text = .ok (.obj fields)) (shown : input.Shows text) :
    input.load store = .ok (.obj fields) := by
  have nonempty : text ≠ "" := by
    rintro rfl
    exact empty_text_refused (.obj fields) parsed
  have same : input = ⟨none, some text⟩ := by
    cases shown with
    | plain => rfl
    | filtered => rw [Input.of, given_nonempty text nonempty]; rfl
  rw [same]
  exact object_text_loaded store text fields parsed

theorem shown_refused (store : FileStore) (text : String) (input : Input)
    (other : ∀ fields, Json.parse text ≠ .ok (.obj fields)) (shown : input.Shows text) :
    ∃ e, input.load store = .error e := by
  have plain : ∃ e, load ⟨none, some text⟩ store = .error e := by
    unfold load parseField
    dsimp only
    cases parsed : Json.parse text with
    | error e => exact ⟨_, rfl⟩
    | ok value =>
        cases value with
        | obj fields => exact absurd parsed (other fields)
        | _ => exact ⟨_, rfl⟩
  cases shown with
  | plain => exact plain
  | filtered =>
      by_cases nonempty : text = ""
      · subst nonempty
        exact ⟨_, rfl⟩
      · rw [Input.of, given_nonempty text nonempty]
        exact plain

end Input

namespace Pipeline

section Runs

variable (limits : Limits) (context : Context) (store : FileStore) (input : Input)

theorem unloaded_refused (e : InputError) (refused : input.load store = .error e) :
    matrixOf limits context store input = .error (.input e) := by
  rw [matrixOf, refused]
  rfl

theorem uncompiled_refused (value : Json) (e : ConfigError) (loaded : input.load store = .ok value)
    (refused : Config.ofJson limits value = .error e) :
    matrixOf limits context store input = .error (.config e) := by
  rw [matrixOf, loaded, Sequence.map_error_of_ok]
  change ((evaluationOf limits context value).mapError _ >>= _) = _
  rw [evaluationOf, refused]
  rfl

end Runs

theorem file_and_text_agree (limits : Limits) (context : Context) (store : FileStore)
    (path text : String) (readable : store.read (store.absolute path.toUTF8) = .ok text.toUTF8)
    (file inline : Input) (named : file.Names path) (shown : inline.Shows text) :
    ((∃ matrix, matrixOf limits context store file = .ok matrix ∧
        matrixOf limits context store inline = .ok matrix) ∨
      ∃ e other, matrixOf limits context store file = .error e ∧
        matrixOf limits context store inline = .error other) ∧
    ∀ fields, Json.parse text = .ok (.obj fields) →
      matrixOf limits context store file = matrixOf limits context store inline ∧
      ∀ e, Config.ofJson limits (.obj fields) = .error e →
        matrixOf limits context store file = .error (.config e) ∧
          matrixOf limits context store inline = .error (.config e) := by
  have opened := Input.named_loaded store path text file readable named
  have equal (fields : Fields) (parsed : Json.parse text = .ok (.obj fields)) :
      file.load store = .ok (.obj fields) ∧ inline.load store = .ok (.obj fields) := by
    rw [opened, parsed]
    exact ⟨rfl, Input.shown_loaded store text inline fields parsed shown⟩
  refine ⟨?_, fun fields parsed => ?_⟩
  · by_cases object : ∃ fields, Json.parse text = .ok (.obj fields)
    · obtain ⟨fields, parsed⟩ := object
      obtain ⟨fromFile, fromText⟩ := equal fields parsed
      have same : matrixOf limits context store inline = matrixOf limits context store file := by
        rw [matrixOf, matrixOf, fromFile, fromText]
      rw [same]
      cases matrixOf limits context store file with
      | ok matrix => exact .inl ⟨matrix, rfl, rfl⟩
      | error e => exact .inr ⟨e, e, rfl, rfl⟩
    · rw [not_exists] at object
      obtain ⟨other, refused⟩ := Input.shown_refused store text inline object shown
      have second := unloaded_refused limits context store inline other refused
      cases parsed : Json.parse text with
      | error e =>
          rw [parsed] at opened
          exact .inr ⟨_, _, unloaded_refused limits context store file _ opened, second⟩
      | ok value =>
          rw [parsed] at opened
          -- The file holds a value that is no object, which is refused one step later.
          have bad : ∃ e, Config.ofJson limits value = .error e := by
            cases value with
            | obj fields => exact absurd parsed (object fields)
            | _ => exact ⟨_, rfl⟩
          obtain ⟨e, bad⟩ := bad
          exact .inr ⟨_, _, uncompiled_refused limits context store file value e opened bad, second⟩
  · obtain ⟨fromFile, fromText⟩ := equal fields parsed
    constructor
    · rw [matrixOf, matrixOf, fromFile, fromText]
    · intro e refused
      exact ⟨uncompiled_refused limits context store file _ e fromFile refused,
        uncompiled_refused limits context store inline _ e fromText refused⟩

def saved (content : ByteArray) : FileStore :=
  ⟨["d".toUTF8], [(["d".toUTF8], .directory), (["d".toUTF8, "f".toUTF8], .file content)]⟩

theorem saved_readable (content : ByteArray) :
    (saved content).read ((saved content).absolute "f".toUTF8) = .ok content := by
  have whole : (saved content).absolute "f".toUTF8 = "/d/f".toUTF8 := rfl
  rw [whole]
  rfl

def fineDefinition : Json :=
  .obj [("r", .obj [("conditions", .arr []), ("outputs", .obj [("x", .null)])])]

def faultyDefinition : Json := .obj [("r", .arr [])]

theorem saved_definitions_run_alike :
    (∀ input ∈ [Input.of (some "f") none, Input.of none (some fineDefinition.text)],
      matrixOf ⟨1⟩ ⟨.null⟩ (saved fineDefinition.text.toUTF8) input = .ok ⟨[[("x", .null)]]⟩) ∧
    ∀ input ∈ [Input.of (some "f") none, Input.of none (some faultyDefinition.text)],
      matrixOf ⟨1⟩ ⟨.null⟩ (saved faultyDefinition.text.toUTF8) input =
        .error (.config (.badDefinition "r" (.notAnObject .array))) := by
  have fine : Json.parse fineDefinition.text = .ok fineDefinition := by
    apply Json.text_read_back Json.maxNesting fineDefinition _ (by decide)
    simp [fineDefinition, Json.WellFormed, Json.WellFormedItems, Json.WellFormedFields,
      Fields.Distinct, Fields.keys]
  have faulty : Json.parse faultyDefinition.text = .ok faultyDefinition := by
    apply Json.text_read_back Json.maxNesting faultyDefinition _ (by decide)
    simp [faultyDefinition, Json.WellFormed, Json.WellFormedItems, Json.WellFormedFields,
      Fields.Distinct, Fields.keys]
  constructor
  · have agree := file_and_text_agree ⟨1⟩ ⟨.null⟩ (saved fineDefinition.text.toUTF8) "f"
      fineDefinition.text (saved_readable _) _ _ .filtered .filtered
    have loaded := Input.shown_loaded (saved fineDefinition.text.toUTF8) _ _ _ fine .filtered
    have run : matrixOf ⟨1⟩ ⟨.null⟩ (saved fineDefinition.text.toUTF8)
        (Input.of none (some fineDefinition.text)) = .ok ⟨[[("x", .null)]]⟩ := by
      rw [matrixOf, loaded]
      rfl
    have same := (agree.2 _ fine).1
    exact List.forall_mem_cons.mpr ⟨same.trans run, List.forall_mem_singleton.mpr run⟩
  · have agree := file_and_text_agree ⟨1⟩ ⟨.null⟩ (saved faultyDefinition.text.toUTF8) "f"
      faultyDefinition.text (saved_readable _) _ _ .filtered .filtered
    obtain ⟨file, inline⟩ := (agree.2 _ faulty).2 _ rfl
    exact List.forall_mem_cons.mpr ⟨file, List.forall_mem_singleton.mpr inline⟩

end Pipeline

end RuleMatrix
