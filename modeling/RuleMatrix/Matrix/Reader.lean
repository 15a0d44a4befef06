import RuleMatrix.Json.Reader
import RuleMatrix.Matrix

/-!
Reading a matrix back from text: an object with one list of objects under `include`, whose other
members are passed over by the lenient reader, or a list that holds that list alone. The brackets
around an entry count towards the nesting limit.
-/
set_option autoImplicit false

namespace RuleMatrix.Matrix

open Json

def readEntries (cs : List Char) : Except Fault (List Json × List Char) :=
  match skipBlanks cs with
  | '[' :: rest => readArray (readValue false (maxNesting - 2)) rest
  | rest => .error (Fault.inFirst .expectedValue rest)

def readInclude (key : String) (cs : List Char) : Except Fault (Option (List Json) × List Char) :=
  if key = "include" then do
    let (entries, rest) ← readEntries cs
    .ok (some entries, rest)
  else do
    let (_, rest) ← readValue true cs.length cs
    .ok (none, rest)

def readLists (cs : List Char) : Except Fault (List (List Json) × List Char) :=
  match skipBlanks cs with
  | '[' :: rest => readArray readEntries rest
  | '\x7b' :: rest => do
      let (pairs, rest) ← readObject (readMember true readInclude) rest
      .ok (pairs.filterMap Prod.snd, rest)
  | rest => .error (Fault.inFirst .expectedValue rest)

def entry? : Json → Option Fields
  | .obj fields => some fields
  | _ => none

def parse? (text : String) : Option Matrix :=
  match readLists text.toList with
  | .ok ([entries], rest) =>
      if (skipBlanks rest).isEmpty then (entries.mapM entry?).map Matrix.mk else none
  | _ => none

end RuleMatrix.Matrix
