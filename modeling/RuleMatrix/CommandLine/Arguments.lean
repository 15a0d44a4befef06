import RuleMatrix.Comparison.Numeric
import RuleMatrix.Config
import RuleMatrix.Input

/-!
What a run is asked for. Each setting is given by an option, `--name value` or `--name=value`, or
else by a variable. The arguments are taken from left to right up to the first that asks for the
help or the version, or that is a mistake; the variables count only when all arguments are fine.
-/
set_option autoImplicit false

namespace RuleMatrix.CommandLine

inductive Setting where
  | conditionsFile
  | conditionsJson
  | depth
  | outputFile
deriving DecidableEq

namespace Setting

def all : List Setting := [.conditionsFile, .conditionsJson, .depth, .outputFile]

def option : Setting → String
  | .conditionsFile => "--conditions-file"
  | .conditionsJson => "--conditions-json"
  | .depth => "--max-depth"
  | .outputFile => "--output-file"

def variableName : Setting → String
  | .conditionsFile => "INPUT_CONDITIONS-FILE"
  | .conditionsJson => "INPUT_CONDITIONS-JSON"
  | .depth => "INPUT_MAX-DEPTH"
  | .outputFile => "GITHUB_OUTPUT"

abbrev Value : Setting → Type
  | .conditionsFile => String
  | .conditionsJson => String
  | .depth => Nat
  | .outputFile => ByteArray

-- Only the path of the output file may be other than UTF-8. A depth has to fit 64 bits.
def value? : (setting : Setting) → ByteArray → Option setting.Value
  | .conditionsFile, bytes => String.fromUTF8? bytes
  | .conditionsJson, bytes => String.fromUTF8? bytes
  | .depth, bytes => do natural? (twoPow 64) 10 (← String.fromUTF8? bytes).toList
  | .outputFile, bytes => if bytes = "".toUTF8 then none else some bytes

end Setting

inductive Stop where
  | help
  | version
  | misuse

inductive Word where
  | option (setting : Setting) (joined : Option ByteArray)
  | ending
  | stop (reason : Stop)

inductive Item where
  | given (setting : Setting) (value : ByteArray)
  | stop (reason : Stop)

def ofOption? (name : List UInt8) : Option Setting :=
  Setting.all.find? fun setting => setting.option.toUTF8.data.toList == name

def asksFor (word : ByteArray) (long short : String) : Bool :=
  word = long.toUTF8 || short.toUTF8.data.toList.isPrefixOf word.data.toList

def wordOf (word : ByteArray) : Word :=
  let bytes := word.data.toList
  match ofOption? (bytes.takeWhile (· != '='.toUInt8)), bytes.dropWhile (· != '='.toUInt8) with
  | some setting, [] => .option setting none
  | some setting, _ :: value => .option setting (some ⟨value.toArray⟩)
  | none, _ =>
      if asksFor word "--help" "-h" then .stop .help
      else if asksFor word "--version" "-V" then .stop .version
      else if word = "--".toUTF8 then .ending
      else .stop .misuse

-- Whether a word behind an option is its value: one with a dash would be another option.
def isValue (word : ByteArray) : Bool :=
  word = "-".toUTF8 || !("-".toUTF8.data.toList.isPrefixOf word.data.toList)

def items : List ByteArray → List Item
  | [] => []
  | word :: rest =>
      match wordOf word with
      | .option setting (some value) => .given setting value :: items rest
      | .option setting none =>
          match rest with
          | [] => [.stop .misuse]
          | value :: rest =>
              if isValue value then .given setting value :: items rest else [.stop .misuse]
      | .ending => if rest.isEmpty then [] else [.stop .misuse]
      | .stop reason => [.stop reason]

abbrev Given := (setting : Setting) → Option setting.Value

def nothingGiven : Given := fun _ => none

def Given.put (given : Given) (setting : Setting) (value : setting.Value) : Given :=
  fun other => if same : setting = other then some (same ▸ value) else given other

def gather (given : Given) : List Item → Except Stop Given
  | [] => .ok given
  | .stop reason :: _ => .error reason
  | .given setting bytes :: rest =>
      match given setting, setting.value? bytes with
      | none, some value => gather (given.put setting value) rest
      | _, _ => .error .misuse

structure Settings where
  input : Input
  limits : Limits
  outputFile : Option ByteArray

section Variables

variable (given : Given) (bindings : List (ByteArray × ByteArray))

def valueOf? (setting : Setting) : Option (Option setting.Value) :=
  match given setting, bindings.lookup setting.variableName.toUTF8 with
  | some value, _ => some (some value)
  | none, some bytes => (setting.value? bytes).map some
  | none, none => some none

def settings? : Option Settings := do
  let file ← valueOf? given bindings .conditionsFile
  let json ← valueOf? given bindings .conditionsJson
  let depth ← valueOf? given bindings .depth
  let outputFile ← valueOf? given bindings .outputFile
  some ⟨Input.of file json, ⟨depth.getD Limits.standard.depth⟩, outputFile⟩

end Variables

def request (arguments : List ByteArray) (bindings : List (ByteArray × ByteArray)) :
    Except Stop Settings := do
  let given ← gather nothingGiven (items arguments)
  match settings? given bindings with
  | some settings => .ok settings
  | none => .error .misuse

end RuleMatrix.CommandLine
