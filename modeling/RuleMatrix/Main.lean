import RuleMatrix.CommandLine

set_option autoImplicit false

namespace RuleMatrix.Main

def take (store : FileStore) (path : ByteArray) : IO FileStore := do
  let some name := String.fromUTF8? path | return store
  let place := (← IO.currentDir) / name
  if ← place.isDir then return store.withDirectory path
  try
    return store.withFile path (← IO.FS.readBinFile place)
  catch _ => return store

-- A path that is no text cannot be opened from here.
def append (path line : ByteArray) : IO Bool := do
  let some name := String.fromUTF8? path | return false
  try
    let handle ← IO.FS.Handle.mk name .append
    handle.write line
    handle.flush
    return true
  catch _ => return false

def host : CommandLine.Host IO where
  files paths := do
    let here := FileStore.inDirectory (← IO.currentDir).toString.toUTF8
    paths.foldlM take here
  print := IO.print
  append := append

def help : String :=
  CommandLine.Setting.all.foldl (fun text setting =>
    text ++ "      " ++ setting.option ++ " <VALUE>  [env: " ++ setting.variableName ++ "]\n")
    "Usage: condmatrix [OPTIONS]\n\nOptions:\n"

-- The arguments as they were given, which need not be UTF-8.
def arguments : IO (List ByteArray) := do
  let words := Environment.zeroTerminated (← IO.FS.readBinFile "/proc/self/cmdline").toList
  return words.tail.map fun word => ⟨word.toArray⟩

end RuleMatrix.Main

def main : IO UInt32 := do
  let arguments ← RuleMatrix.Main.arguments
  let bindings := RuleMatrix.Environment.ofBlock (← IO.FS.readBinFile "/proc/self/environ")
  let status ← RuleMatrix.CommandLine.program RuleMatrix.Main.host RuleMatrix.Main.help arguments
    bindings
  return status.toUInt32
