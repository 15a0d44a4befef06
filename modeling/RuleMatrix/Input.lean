import RuleMatrix.FileStore
import RuleMatrix.Json.Reader
import RuleMatrix.Text.Lossy

set_option autoImplicit false

namespace RuleMatrix

inductive InputError where
  | noSuchFile (path : ByteArray)
  | unreadable (path : ByteArray) (e : FileError)
  | malformedFile (path : ByteArray) (e : Json.ReadError)
  | malformedText (field : String) (e : Json.ReadError)
  | nothingGiven
  | bothGiven
  | notAnObject (field : String)
deriving DecidableEq

def InputError.message : InputError → String
  | .noSuchFile path => "Conditions file not found: " ++ Text.lossy path
  | .unreadable path e =>
      "Failed to load conditions from file " ++ Text.lossy path ++ ": " ++ e.message
  | .malformedFile path e => "Failed to parse " ++ Text.lossy path ++ ": " ++ e.message
  | .malformedText field e => "Failed to parse " ++ field ++ ": " ++ e.message
  | .nothingGiven => "Either conditions-file or conditions-json must be provided"
  | .bothGiven =>
      "Only one of conditions-file or conditions-json should be provided, not both"
  | .notAnObject field => field ++ " must be a valid JSON object"

namespace FileStore

def readJson (store : FileStore) (path : ByteArray) : Except InputError Json :=
  match store.readText path with
  | .error e => .error (.unreadable path e)
  | .ok text => (Json.parse text).mapError (.malformedFile path)

def loadConfig (store : FileStore) (path : ByteArray) : Except InputError Json :=
  let path := store.absolute path
  match store.find path with
  | .error _ => .error (.noSuchFile path)
  | .ok _ => store.readJson path

end FileStore

def parseField (field text : String) : Except InputError Json :=
  (Json.parse text).mapError (.malformedText field)

structure Input where
  file : Option String
  json : Option String

namespace Input

def given (text : Option String) : Option String := text.filter fun s => !s.isEmpty

def of (file json : Option String) : Input := ⟨given file, given json⟩

def load (input : Input) (store : FileStore) : Except InputError Json :=
  match input.file, input.json with
  | none, none => .error .nothingGiven
  | some _, some _ => .error .bothGiven
  | some file, none => store.loadConfig file.toUTF8
  | none, some json => do
      match ← parseField "conditions-json" json with
      | .obj fields => .ok (.obj fields)
      | _ => .error (.notAnObject "conditions-json")

end Input

end RuleMatrix
