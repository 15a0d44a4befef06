import RuleMatrix.Proofs.Environment
import RuleMatrix.Proofs.Input

set_option autoImplicit false

namespace RuleMatrix

namespace Context

theorem segments_plain (key : String) (plain : '.' ∉ key.toList) : segments key = [key] := by
  rw [segments, Text.pieces, Text.single_piece '.' _ plain, List.map_singleton, String.ofList_toList]

theorem segments_dotted (key name : String) (first : '.' ∉ key.toList)
    (second : '.' ∉ name.toList) : segments (key ++ "." ++ name) = [key, name] := by
  have parts : (key ++ "." ++ name).toList = key.toList ++ '.' :: name.toList := by simp
  rw [segments, Text.pieces, parts, Text.pieces_append, Text.single_piece '.' _ first,
    Text.single_piece '.' _ second]
  simp

theorem get_key (context : Context) (key : String) (fields : Fields) (plain : '.' ∉ key.toList)
    (root : context.root = .obj fields) : context.get? key = Fields.get? key fields := by
  rw [get?, segments_plain key plain, root, Json.resolve]
  exact Option.bind_fun_some _

theorem get_inside (context : Context) (key name : String) (fields inner : Fields)
    (first : '.' ∉ key.toList) (second : '.' ∉ name.toList) (root : context.root = .obj fields)
    (held : Fields.get? key fields = some (.obj inner)) :
    context.get? (key ++ "." ++ name) = Fields.get? name inner := by
  rw [get?, segments_dotted key name first second, root, Json.resolve, Json.members, held,
    Option.bind_some, Json.resolve]
  exact Option.bind_fun_some _

end Context

namespace Environment

def last? (name : String) (bindings : List (String × String)) : Option String :=
  bindings.reverse.lookup name

def Given (name value : String) (bindings : List (String × String)) : Prop :=
  last? name bindings = some value ∧ value ≠ ""

def InWorkflow (bindings : List (String × String)) : Prop :=
  ∃ flag, Given "GITHUB_ACTIONS" flag bindings

def EventRead (store : FileStore) (bindings : List (String × String)) (event : Json) : Prop :=
  ∃ path text, Given "GITHUB_EVENT_PATH" path bindings ∧ store.read path.toUTF8 = .ok text.toUTF8 ∧
    Json.parse text = .ok event

def lastText (name : String) (bindings : List (String × String)) : Json :=
  .str ((last? name bindings).getD "")

def lastRun (bindings : List (String × String)) : Fields := [
  ("ref", lastText "GITHUB_REF" bindings),
  ("ref_name", lastText "GITHUB_REF_NAME" bindings),
  ("event_name", lastText "GITHUB_EVENT_NAME" bindings),
  ("repository", lastText "GITHUB_REPOSITORY" bindings),
  ("actor", lastText "GITHUB_ACTOR" bindings),
  ("sha", lastText "GITHUB_SHA" bindings),
  ("run_number", lastText "GITHUB_RUN_NUMBER" bindings),
  ("run_id", lastText "GITHUB_RUN_ID" bindings),
  ("workflow", lastText "GITHUB_WORKFLOW" bindings),
  ("job", lastText "GITHUB_JOB" bindings)]

theorem texts_found (name : String) (bindings : List (String × String)) :
    Fields.get? name (bindings.map fun entry => (entry.1, Json.str entry.2)) =
      (bindings.lookup name).map .str := by
  induction bindings with
  | nil => rfl
  | cons entry rest ih =>
      obtain ⟨known, value⟩ := entry
      rw [List.map_cons, Fields.get?, ih, Sequence.lookup_first]
      by_cases same : known = name <;> simp [same]

theorem variable_found (name : String) (bindings : List (String × String)) :
    Fields.get? name (members bindings) = (last? name bindings).map .str := by
  rw [members, Fields.ofPairs, Fields.get_extend, ← List.map_reverse, texts_found]
  exact Option.or_none

theorem nonempty_iff (name value : String) (bindings : List (String × String)) :
    nonempty? name (members bindings) = some value ↔ Given name value bindings := by
  rw [nonempty?, variable_found, Given]
  cases last? name bindings with
  | none => simp
  | some held =>
      by_cases empty : held = ""
      · subst empty
        simp
      · simp only [Option.map_some, String.isEmpty_iff, empty, if_false, Option.some.injEq]
        exact ⟨fun same => ⟨same, same ▸ empty⟩, And.left⟩

theorem variable_or_empty (name : String) (bindings : List (String × String)) :
    (Fields.get? name (members bindings)).getD (.str "") = lastText name bindings := by
  rw [variable_found, lastText]
  cases last? name bindings <;> rfl

theorem run_members_last (bindings : List (String × String)) :
    runMembers (members bindings) = lastRun bindings := by
  simp only [runMembers, variable_or_empty]
  rfl

theorem last_run_found (bindings : List (String × String)) (key : String) (value : Json)
    (member : (key, value) ∈ lastRun bindings) :
    '.' ∉ key.toList ∧ Fields.get? key (lastRun bindings) = some value := by
  have names : Fields.keys (lastRun bindings) = ["ref", "ref_name", "event_name", "repository",
    "actor", "sha", "run_number", "run_id", "workflow", "job"] := rfl
  have distinct : Fields.Distinct (lastRun bindings) := by
    rw [Fields.Distinct, names]
    decide
  have plain : ∀ known ∈ Fields.keys (lastRun bindings), '.' ∉ known.toList := by
    rw [names]
    decide
  exact ⟨plain key (Fields.member_key key value _ member),
    Fields.get_of_member key value _ distinct member⟩

theorem event_members_iff (store : FileStore) (bindings : List (String × String)) (event : Json) :
    eventMembers store (members bindings) = [("event", event)] ↔ EventRead store bindings event := by
  unfold eventMembers EventRead
  simp only [← nonempty_iff, ← FileStore.json_read_iff, exists_and_left]
  cases nonempty? "GITHUB_EVENT_PATH" (members bindings) with
  | none => simp
  | some path =>
      cases read : store.readJson path.toUTF8 <;> simp [-String.toUTF8_eq_toByteArray, read]

theorem in_workflow_iff (bindings : List (String × String)) :
    (nonempty? "GITHUB_ACTIONS" (members bindings)).isSome = true ↔ InWorkflow bindings := by
  rw [Option.isSome_iff_exists]
  exact exists_congr fun flag => nonempty_iff "GITHUB_ACTIONS" flag bindings

instance (bindings : List (String × String)) : Decidable (InWorkflow bindings) :=
  decidable_of_iff _ (in_workflow_iff bindings)

def withoutEvent (bindings : List (String × String)) : Fields :=
  (if InWorkflow bindings then [("github", .obj (lastRun bindings))] else []) ++
    [("env", .obj (members bindings))]

inductive Shape (store : FileStore) (bindings : List (String × String)) : Fields → Prop where
  | outside (absent : ¬ InWorkflow bindings) :
      Shape store bindings [("env", .obj (members bindings))]
  | unread (run : InWorkflow bindings) (none : ∀ event, ¬ EventRead store bindings event) :
      Shape store bindings [("github", .obj (lastRun bindings)), ("env", .obj (members bindings))]
  | read (event : Json) (run : InWorkflow bindings) (there : EventRead store bindings event) :
      Shape store bindings [("github", .obj (lastRun bindings)), ("event", event),
        ("env", .obj (members bindings))]

theorem context_shape (store : FileStore) (bindings : List (String × String)) :
    ∃ fields, (context store bindings).root = .obj fields ∧ Shape store bindings fields := by
  have active := in_workflow_iff bindings
  rw [context]
  cases flag : nonempty? "GITHUB_ACTIONS" (members bindings) with
  | none => exact ⟨_, rfl, .outside (mt active.mpr (by simp [flag]))⟩
  | some value =>
      have run := active.mp (by simp [flag])
      dsimp only
      rw [run_members_last]
      rcases event_members_shape store (members bindings) with none | ⟨event, one, _⟩
      · refine ⟨_, rfl, ?_⟩
        rw [none]
        refine .unread run fun event there => ?_
        have one := (event_members_iff store bindings event).mpr there
        cases none.symm.trans one
      · refine ⟨_, rfl, ?_⟩
        rw [one]
        exact .read event run ((event_members_iff store bindings event).mp one)

theorem event_unique (store : FileStore) (bindings : List (String × String)) (first second : Json)
    (here : EventRead store bindings first) (there : EventRead store bindings second) :
    first = second := by
  have one := (event_members_iff store bindings first).mpr here
  have other := (event_members_iff store bindings second).mpr there
  simpa using one.symm.trans other

section Members

variable (store : FileStore) (bindings : List (String × String)) (fields : Fields)
variable (shape : Shape store bindings fields)

include shape

theorem shape_keys : (Fields.keys fields).Sublist ["github", "event", "env"] ∧ "env" ∈ Fields.keys fields := by
  cases shape <;> simp [Fields.keys]

theorem shape_variables : Fields.get? "env" fields = some (.obj (members bindings)) := by
  cases shape <;> simp [Fields.get?]

theorem shape_run (run : Json) :
    Fields.get? "github" fields = some run ↔ InWorkflow bindings ∧ run = .obj (lastRun bindings) := by
  cases shape with
  | outside absent => simp [Fields.get?, absent]
  | unread active none => simp [Fields.get?, active, eq_comm]
  | read event active there => simp [Fields.get?, active, eq_comm]

theorem shape_event (event : Json) :
    Fields.get? "event" fields = some event ↔ InWorkflow bindings ∧ EventRead store bindings event := by
  cases shape with
  | outside absent => simp [Fields.get?, absent]
  | unread active none => simp [Fields.get?, none event]
  | read known active there =>
      have same : known = event ↔ EventRead store bindings event :=
        ⟨fun same => same ▸ there, event_unique store bindings known event there⟩
      simp [Fields.get?, active, same]

theorem shape_rest : (fields.filter fun member => member.1 ≠ "event") = withoutEvent bindings := by
  unfold withoutEvent
  cases shape with
  | outside absent => simp [absent]
  | unread active none => simp [active]
  | read event active there => simp [active]

theorem shape_unread (unread : ∀ event, InWorkflow bindings → ¬ EventRead store bindings event) :
    fields = withoutEvent bindings := by
  unfold withoutEvent
  cases shape with
  | outside absent => simp [absent]
  | unread active none => simp [active]
  | read event active there => exact absurd there (unread event active)

end Members

theorem context_holds_last_values (store : FileStore) (bindings : List (String × String)) :
    (∃ fields, (context store bindings).root = .obj fields ∧
      (Fields.keys fields).Sublist ["github", "event", "env"] ∧ "env" ∈ Fields.keys fields) ∧
    (∀ name, '.' ∉ name.toList →
      (context store bindings).get? ("env." ++ name) = (last? name bindings).map .str) ∧
    (∀ run, (context store bindings).get? "github" = some run ↔
      InWorkflow bindings ∧ run = .obj (lastRun bindings)) ∧
    (InWorkflow bindings → ∀ key value, (key, value) ∈ lastRun bindings →
      (context store bindings).get? ("github." ++ key) = some value) ∧
    (∀ event, (context store bindings).get? "event" = some event ↔
      InWorkflow bindings ∧ EventRead store bindings event) ∧
    ((context store bindings).root.members.filter fun member => member.1 ≠ "event") =
      withoutEvent bindings ∧
    ((∀ event, InWorkflow bindings → ¬ EventRead store bindings event) →
      (context store bindings).root = .obj (withoutEvent bindings)) := by
  obtain ⟨fields, root, shape⟩ := context_shape store bindings
  have found (key : String) (plain : '.' ∉ key.toList) :=
    (context store bindings).get_key key fields plain root
  refine ⟨⟨fields, root, shape_keys store bindings fields shape⟩, ?_, ?_, ?_, ?_, ?_, ?_⟩
  · intro name plain
    have env := shape_variables store bindings fields shape
    rw [← variable_found]
    exact (context store bindings).get_inside "env" name fields _ (by decide) plain root env
  · rw [found "github" (by decide)]
    exact shape_run store bindings fields shape
  · intro active key value member
    have run := (shape_run store bindings fields shape _).mpr ⟨active, rfl⟩
    obtain ⟨plain, held⟩ := last_run_found bindings key value member
    rw [← held]
    exact (context store bindings).get_inside "github" key fields _ (by decide) plain root run
  · rw [found "event" (by decide)]
    exact shape_event store bindings fields shape
  · rw [root]
    exact shape_rest store bindings fields shape
  · intro unread
    rw [root, shape_unread store bindings fields shape unread]

def repeatedVariables : List (String × String) :=
  [("GITHUB_ACTIONS", ""), ("A", "1"), ("GITHUB_EVENT_PATH", "f"), ("GITHUB_ACTIONS", "true"),
    ("A", "2"), ("GITHUB_REF", "main"), ("GITHUB_SHA", "1f"), ("GITHUB_REF", ""),
    ("GITHUB_SHA", "2e")]

def openedEvent : Json := .obj [("action", .str "opened"), ("number", .null)]

theorem last_of_repeated_variables_found :
    '.' ∉ "A".toList ∧
      (context (Pipeline.saved openedEvent.text.toUTF8) repeatedVariables).get? "env.A" =
        some (.str "2") ∧
      (∀ entry ∈ [("github.sha", "2e"), ("github.ref", ""), ("github.job", "")],
        (context (Pipeline.saved openedEvent.text.toUTF8) repeatedVariables).get? entry.1 =
          some (.str entry.2)) ∧
      (context (Pipeline.saved openedEvent.text.toUTF8) repeatedVariables).get? "event" =
        some openedEvent ∧
      (∀ event, InWorkflow repeatedVariables →
        ¬ EventRead (Pipeline.saved ByteArray.empty) repeatedVariables event) ∧
      (context (Pipeline.saved ByteArray.empty) repeatedVariables).root =
        .obj (withoutEvent repeatedVariables) := by
  have active : InWorkflow repeatedVariables := ⟨"true", by decide, by decide⟩
  have path : Given "GITHUB_EVENT_PATH" "f" repeatedVariables := ⟨by decide, by decide⟩
  have opened (content : ByteArray) : (Pipeline.saved content).read "f".toUTF8 = .ok content := rfl
  have parsed : Json.parse openedEvent.text = .ok openedEvent := by
    apply Json.text_read_back Json.maxNesting openedEvent _ (by decide)
    simp [openedEvent, Json.WellFormed, Json.WellFormedFields, Fields.Distinct, Fields.keys]
  have unread : ∀ event, InWorkflow repeatedVariables →
      ¬ EventRead (Pipeline.saved ByteArray.empty) repeatedVariables event := by
    rintro event - ⟨other, text, given, taken, read⟩
    obtain rfl := Option.some.inj (path.1.symm.trans given.1)
    have empty : text = "" := String.toByteArray_inj.mp (Except.ok.inj ((opened _).symm.trans taken)).symm
    exact Input.empty_text_refused event (empty ▸ read)
  obtain ⟨_, named, _, runs, events, _⟩ :=
    context_holds_last_values (Pipeline.saved openedEvent.text.toUTF8) repeatedVariables
  obtain ⟨_, _, _, _, _, _, rest⟩ :=
    context_holds_last_values (Pipeline.saved ByteArray.empty) repeatedVariables
  have plain : '.' ∉ "A".toList := by decide
  have last : last? "A" repeatedVariables = some "2" := by decide
  refine ⟨plain, (named "A" plain).trans (congrArg _ last), ?_, ?_, unread, rest unread⟩
  · have sha : lastText "GITHUB_SHA" repeatedVariables = .str "2e" := rfl
    have ref : lastText "GITHUB_REF" repeatedVariables = .str "" := rfl
    have job : lastText "GITHUB_JOB" repeatedVariables = .str "" := rfl
    refine List.forall_mem_cons.mpr ⟨?_, List.forall_mem_cons.mpr ⟨?_, List.forall_mem_singleton.mpr ?_⟩⟩
    · exact runs active "sha" _ (by simp [lastRun, sha])
    · exact runs active "ref" _ (by simp [lastRun, ref])
    · exact runs active "job" _ (by simp [lastRun, job])
  · exact (events openedEvent).mpr ⟨active, "f", _, path, opened _, parsed⟩

end Environment

end RuleMatrix
