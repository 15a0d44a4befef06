import RuleMatrix.Evaluation
import RuleMatrix.Json.Printer

set_option autoImplicit false

namespace RuleMatrix

structure Matrix where
  entries : List Fields

namespace Matrix

def entryText (entry : Fields) : String := (Json.obj entry).text

def distinct (seen : List String) : List Fields → List Fields
  | [] => []
  | entry :: rest =>
      let text := entryText entry
      if seen.contains text then distinct seen rest else entry :: distinct (text :: seen) rest

def ofOutputs (outputs : List Fields) : Matrix := ⟨distinct [] outputs⟩

def empty : Matrix := ⟨[]⟩

def ofEvaluation (evaluation : Evaluation) : Matrix :=
  if evaluation.matched then ofOutputs [evaluation.outputs] else empty

def toJson (matrix : Matrix) : Json := .obj [("include", .arr (matrix.entries.map .obj))]

def text (matrix : Matrix) : String := matrix.toJson.text

instance : ToString Matrix := ⟨text⟩

-- The same text put together from the entries, without a value for the whole.
def serialized (matrix : Matrix) : String :=
  let entries := matrix.entries.map fun entry => Json.chars (.obj entry)
  String.ofList ('\x7b' :: (Json.quoted "include" ++
    ':' :: '[' :: ([','].intercalate entries ++ [']', '\x7d'])))

end Matrix

def outputText : Json → String
  | .str s => s
  | other => other.text

end RuleMatrix
