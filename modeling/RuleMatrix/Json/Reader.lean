import RuleMatrix.Json.NumberReader
import RuleMatrix.Json.StringReader
import RuleMatrix.Json.Value

/-!
`readValue` takes the number of brackets that may still be opened, and hands one less to the values
inside; the loops over items and members take the reader of one of them. A lenient reader checks the
grammar alone: it neither pairs surrogates nor bounds numbers.
-/
set_option autoImplicit false

namespace RuleMatrix.Json

def isBlank (c : Char) : Bool := c == ' ' || c == '\t' || c == '\n' || c == '\r'

def skipBlanks (cs : List Char) : List Char := cs.dropWhile isBlank

def readWord (value : Json) : List Char → Reader Json
  | [], cs => .ok (value, cs)
  | _ :: _, [] => .error ⟨.endOfValue, 0⟩
  | letter :: word, c :: rest =>
      if letter = c then readWord value word rest
      else .error (Fault.inFirst .expectedWord (c :: rest))

section Loops

variable {α : Type}

def readItems (item : Reader α) : Nat → Reader (List α)
  | 0, _ => .error ⟨.endOfList, 0⟩
  | steps + 1, cs => do
      let (first, rest) ← item cs
      match skipBlanks rest with
      | [] => .error ⟨.endOfList, 0⟩
      | ']' :: rest => .ok ([first], rest)
      | ',' :: rest =>
          match skipBlanks rest with
          | ']' :: rest => .error (Fault.inFirst .trailingComma (']' :: rest))
          | rest => do
              let (others, rest) ← readItems item steps rest
              .ok (first :: others, rest)
      | rest => .error (Fault.inFirst .expectedListEnd rest)

def readArray (item : Reader α) (cs : List Char) : Except Fault (List α × List Char) :=
  match skipBlanks cs with
  | [] => .error ⟨.endOfList, 0⟩
  | ']' :: rest => .ok ([], rest)
  | rest => readItems item rest.length rest

def readMember (paired : Bool) (value : String → Reader α) : Reader (String × α)
  | [] => .error ⟨.endOfValue, 0⟩
  | '"' :: rest => do
      let (key, rest) ← readString paired rest
      match skipBlanks rest with
      | [] => .error ⟨.endOfObject, 0⟩
      | ':' :: rest => do
          let (content, rest) ← value key rest
          .ok ((key, content), rest)
      | rest => .error (Fault.inFirst .expectedColon rest)
  | rest => .error (Fault.inFirst .keyNotString rest)

def readMembers (member : Reader (String × α)) : Nat → Reader (List (String × α))
  | 0, _ => .error ⟨.endOfObject, 0⟩
  | steps + 1, cs => do
      let (first, rest) ← member cs
      match skipBlanks rest with
      | [] => .error ⟨.endOfObject, 0⟩
      | '\x7d' :: rest => .ok ([first], rest)
      | ',' :: rest =>
          match skipBlanks rest with
          | '\x7d' :: rest => .error (Fault.inFirst .trailingComma ('\x7d' :: rest))
          | rest => do
              let (others, rest) ← readMembers member steps rest
              .ok (first :: others, rest)
      | rest => .error (Fault.inFirst .expectedObjectEnd rest)

def readObject (member : Reader (String × α)) (cs : List Char) :
    Except Fault (List (String × α) × List Char) :=
  match skipBlanks cs with
  | [] => .error ⟨.endOfObject, 0⟩
  | '\x7d' :: rest => .ok ([], rest)
  | rest => readMembers member rest.length rest

end Loops

def readValueWith (lenient : Bool) (nested : Option (Reader Json)) (cs : List Char) :
    Except Fault (Json × List Char) :=
  match skipBlanks cs with
  | [] => .error ⟨.endOfValue, 0⟩
  | 'n' :: rest => readWord .null ['u', 'l', 'l'] rest
  | 't' :: rest => readWord (.bool true) ['r', 'u', 'e'] rest
  | 'f' :: rest => readWord (.bool false) ['a', 'l', 's', 'e'] rest
  | '"' :: rest => do
      let (content, rest) ← readString (!lenient) rest
      .ok (.str content, rest)
  | '[' :: rest =>
      match nested with
      | none => .error (Fault.inFirst .recursionLimit ('[' :: rest))
      | some value => do
          let (items, rest) ← readArray value rest
          .ok (.arr items, rest)
  | '\x7b' :: rest =>
      match nested with
      | none => .error (Fault.inFirst .recursionLimit ('\x7b' :: rest))
      | some value => do
          let (pairs, rest) ← readObject (readMember (!lenient) fun _ => value) rest
          .ok (.obj (Fields.ofPairs pairs), rest)
  | c :: rest =>
      if c == '-' || isDigitOf 10 c then do
        let (n, rest) ← readNumber (!lenient) (c :: rest)
        .ok (.num n, rest)
      else .error (Fault.inFirst .expectedValue (c :: rest))

def readValue (lenient : Bool) : Nat → Reader Json
  | 0 => readValueWith lenient none
  | levels + 1 => readValueWith lenient (some (readValue lenient levels))

def readEnd (cs : List Char) : Except Fault Unit :=
  match skipBlanks cs with
  | [] => .ok ()
  | rest => .error (Fault.inFirst .trailingCharacters rest)

def ofText (levels : Nat) (text : String) : Except ReadError Json :=
  let cs := text.toList
  let verdict := do
    let (value, rest) ← readValue false levels cs
    readEnd rest
    .ok value
  verdict.mapError (Fault.locate · cs)

def maxNesting : Nat := 127

def parse (text : String) : Except ReadError Json := ofText maxNesting text

end RuleMatrix.Json
