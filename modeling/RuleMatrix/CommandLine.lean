import RuleMatrix.CommandLine.Arguments
import RuleMatrix.Environment
import RuleMatrix.Pipeline
import RuleMatrix.StepOutput

/-!
The program, for any host that it may run on: one that touches the files of a machine, or one that
keeps files and output in memory, on which a run can be reasoned about.
-/
set_option autoImplicit false

namespace RuleMatrix.CommandLine

def outputLine (settings : Settings) (bindings : List (ByteArray × ByteArray))
    (store : FileStore) : Except PipelineError String :=
  let context := Environment.context store (Environment.texts bindings)
  (Pipeline.matrixOf settings.limits context store settings.input).map fun matrix =>
    StepOutput.text "matrix" (outputText matrix.toJson)

def failureLine (message : String) : String := "Action failed: " ++ message ++ "\n"

def writeFailure : String := "failed to write the matrix output"

def versionLine : String := "condmatrix 0.1.0\n"

def pathsRead (settings : Settings) (bindings : List (ByteArray × ByteArray)) : List ByteArray :=
  let env := Environment.members (Environment.texts bindings)
  let event := Environment.nonempty? "GITHUB_EVENT_PATH" env
  (settings.input.file.toList ++ event.toList).map String.toUTF8

structure Host (m : Type → Type) where
  -- A store in which these paths lead to what they lead to on the host.
  files : List ByteArray → m FileStore
  print : String → m Unit
  append : ByteArray → ByteArray → m Bool

section Program

variable {m : Type → Type} [Monad m] (host : Host m)

def fail (message : String) : m Nat := do
  host.print (failureLine message)
  return 1

def emit (outputFile : Option ByteArray) (line : String) : m Nat := do
  match outputFile with
  | none =>
      host.print line
      return 0
  | some path =>
      if ← host.append path line.toUTF8 then return 0 else fail host writeFailure

def perform (settings : Settings) (bindings : List (ByteArray × ByteArray)) : m Nat := do
  match outputLine settings bindings (← host.files (pathsRead settings bindings)) with
  | .error e => fail host e.message
  | .ok line => emit host settings.outputFile line

-- The exit status. After a mistake in the arguments nothing has happened.
def program (help : String) (arguments : List ByteArray)
    (bindings : List (ByteArray × ByteArray)) : m Nat := do
  match request arguments bindings with
  | .ok settings => perform host settings bindings
  | .error .misuse => return 2
  | .error .version =>
      host.print versionLine
      return 0
  | .error .help =>
      host.print help
      return 0

end Program

structure Machine where
  output : String
  store : FileStore

def inMemory : Host (StateM Machine) where
  files _ := return (← get).store
  print text := modify fun machine => { machine with output := machine.output ++ text }
  append path content := do
    match (← get).store.append path content with
    | .ok store =>
        modify fun machine => { machine with store }
        return true
    | .error _ => return false

structure Result where
  status : Nat
  output : String
  store : FileStore

def resultOf (action : StateM Machine Nat) (store : FileStore) : Result :=
  let (status, machine) := Id.run (action.run ⟨"", store⟩)
  ⟨status, machine.output, machine.store⟩

def execute (help : String) (arguments : List ByteArray)
    (bindings : List (ByteArray × ByteArray)) (store : FileStore) : Result :=
  resultOf (program inMemory help arguments bindings) store

end RuleMatrix.CommandLine
