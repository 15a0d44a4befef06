import RuleMatrix.Context
import RuleMatrix.Input

/-!
Under `env` the context holds every variable that is text; when `GITHUB_ACTIONS` is set, `github`
holds the fields of the workflow run, and `event` the value of the event file, if that can be read. A
variable given again keeps its place and takes the last value.
-/
set_option autoImplicit false

namespace RuleMatrix.Environment

def runFields : List (String × String) := [
  ("ref", "GITHUB_REF"),
  ("ref_name", "GITHUB_REF_NAME"),
  ("event_name", "GITHUB_EVENT_NAME"),
  ("repository", "GITHUB_REPOSITORY"),
  ("actor", "GITHUB_ACTOR"),
  ("sha", "GITHUB_SHA"),
  ("run_number", "GITHUB_RUN_NUMBER"),
  ("run_id", "GITHUB_RUN_ID"),
  ("workflow", "GITHUB_WORKFLOW"),
  ("job", "GITHUB_JOB")]

def zeroTerminated (bytes : List UInt8) : List (List UInt8) :=
  bytes.foldr (fun byte pieces =>
    if byte = 0 then [] :: pieces
    else match pieces with
      | [] => [[byte]]
      | piece :: others => (byte :: piece) :: others) []

-- Name and value of an assignment; an equals sign that comes first belongs to the name.
def splitAssignment : List UInt8 → Option (ByteArray × ByteArray)
  | [] => none
  | first :: rest =>
      match rest.dropWhile (· != '='.toUInt8) with
      | [] => none
      | _ :: value =>
          some (⟨(first :: rest.takeWhile (· != '='.toUInt8)).toArray⟩, ⟨value.toArray⟩)

def ofBlock (block : ByteArray) : List (ByteArray × ByteArray) :=
  (zeroTerminated block.toList).filterMap splitAssignment

def assign (name value : ByteArray) :
    List (ByteArray × ByteArray) → List (ByteArray × ByteArray)
  | [] => [(name, value)]
  | (known, old) :: rest =>
      if known = name then (known, value) :: rest else (known, old) :: assign name value rest

def texts (bindings : List (ByteArray × ByteArray)) : List (String × String) :=
  bindings.filterMap fun entry =>
    match String.fromUTF8? entry.1, String.fromUTF8? entry.2 with
    | some name, some value => some (name, value)
    | _, _ => none

def members (bindings : List (String × String)) : Fields :=
  Fields.ofPairs (bindings.map fun entry => (entry.1, .str entry.2))

def nonempty? (name : String) (env : Fields) : Option String :=
  match Fields.get? name env with
  | some (.str value) => if value.isEmpty then none else some value
  | _ => none

def runMembers (env : Fields) : Fields :=
  runFields.map fun field => (field.1, (Fields.get? field.2 env).getD (.str ""))

def eventMembers (store : FileStore) (env : Fields) : Fields :=
  match nonempty? "GITHUB_EVENT_PATH" env with
  | none => []
  | some path =>
      match store.readJson path.toUTF8 with
      | .ok event => [("event", event)]
      | .error _ => []

def context (store : FileStore) (bindings : List (String × String)) : Context :=
  let env := members bindings
  let workflow := match nonempty? "GITHUB_ACTIONS" env with
    | none => []
    | some _ => ("github", .obj (runMembers env)) :: eventMembers store env
  ⟨.obj (workflow ++ [("env", .obj env)])⟩

end RuleMatrix.Environment
