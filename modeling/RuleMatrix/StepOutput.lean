import RuleMatrix.FileStore

/-!
Step outputs: `name=value` on a line, or, for a value of several lines, a block between a header
that names a delimiter and a line with the delimiter. The delimiter is the shortest of its series
that does not occur in the value; one longer than the value cannot occur in it, which bounds the
search.
-/
set_option autoImplicit false

namespace RuleMatrix.StepOutput

def delimiter (underscores : Nat) : List Char :=
  "ghadelimiter".toList ++ List.replicate underscores '_'

def underscores (value : List Char) : Nat :=
  ((List.range value.length).find? fun count => !Text.occursIn (delimiter count) value).getD
    value.length

def block (name value : List Char) : List Char :=
  let mark := delimiter (underscores value)
  name ++ "<<".toList ++ mark ++ '\n' :: value ++ '\n' :: mark ++ ['\n']

def line (name value : List Char) : List Char :=
  if value.contains '\n' then block name value else name ++ '=' :: value ++ ['\n']

def text (name value : String) : String := String.ofList (line name.toList value.toList)

def write (store : FileStore) (path : ByteArray) (name value : String) :
    Except FileError FileStore :=
  store.append path (text name value).toUTF8

end RuleMatrix.StepOutput
