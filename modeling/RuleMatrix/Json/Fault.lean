/-!
A reader that stops reports how many bytes it has not read; the place follows from that and the text.
Columns count bytes, up to and including the one at fault.
-/
set_option autoImplicit false

namespace RuleMatrix.Json

inductive Cause where
  | endOfValue
  | endOfList
  | endOfObject
  | endOfString
  | expectedValue
  | expectedWord
  | expectedListEnd
  | expectedObjectEnd
  | expectedColon
  | trailingComma
  | keyNotString
  | trailingCharacters
  | invalidNumber
  | numberOutOfRange
  | invalidEscape
  | endOfSurrogate
  | loneSurrogate
  | controlCharacter
  | recursionLimit
deriving DecidableEq

def Cause.message : Cause → String
  | .endOfValue => "EOF while parsing a value"
  | .endOfList => "EOF while parsing a list"
  | .endOfObject => "EOF while parsing an object"
  | .endOfString => "EOF while parsing a string"
  | .expectedValue => "expected value"
  | .expectedWord => "expected ident"
  | .expectedListEnd => "expected `,` or `]`"
  | .expectedObjectEnd => "expected `,` or `\x7d`"
  | .expectedColon => "expected `:`"
  | .trailingComma => "trailing comma"
  | .keyNotString => "key must be a string"
  | .trailingCharacters => "trailing characters"
  | .invalidNumber => "invalid number"
  | .numberOutOfRange => "number out of range"
  | .invalidEscape => "invalid escape"
  | .endOfSurrogate => "unexpected end of hex escape"
  | .loneSurrogate => "lone leading surrogate in hex escape"
  | .controlCharacter => "control character (\\u0000-\\u001F) found while parsing a string"
  | .recursionLimit => "recursion limit exceeded"

def byteCount : List Char → Nat
  | [] => 0
  | c :: rest => c.utf8Size + byteCount rest

structure Fault where
  cause : Cause
  unread : Nat

def Fault.before (cause : Cause) (rest : List Char) : Fault :=
  ⟨cause, byteCount rest⟩

def Fault.inFirst (cause : Cause) (rest : List Char) : Fault :=
  ⟨cause, byteCount rest - 1⟩

abbrev Reader (α : Type) := List Char → Except Fault (α × List Char)

structure Position where
  line : Nat
  column : Nat
deriving DecidableEq

def Position.advance (place : Position) : Nat → List Char → Position
  | 0, _ => place
  | _, [] => place
  | bytes, c :: rest =>
      if c = '\n' then advance ⟨place.line + 1, 0⟩ (bytes - 1) rest
      else
        let size := min bytes c.utf8Size
        advance ⟨place.line, place.column + size⟩ (bytes - size) rest

structure ReadError where
  cause : Cause
  place : Position
deriving DecidableEq

def ReadError.message (e : ReadError) : String :=
  e.cause.message ++ " at line " ++ toString e.place.line ++ " column " ++ toString e.place.column

def Fault.locate (fault : Fault) (text : List Char) : ReadError :=
  ⟨fault.cause, Position.advance ⟨1, 0⟩ (byteCount text - fault.unread) text⟩

end RuleMatrix.Json
