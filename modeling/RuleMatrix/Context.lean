import RuleMatrix.Json.Value
import RuleMatrix.Text.Pieces

/-!
Written as text, the keys of a path are separated by dots, so a key with a dot cannot be addressed. A
path never enters an array; writing replaces what stands in its way by an object.
-/
set_option autoImplicit false

namespace RuleMatrix

namespace Json

def resolve : List String → Json → Option Json
  | [], value => some value
  | key :: rest, value => (Fields.get? key value.members).bind (resolve rest)

def write (fresh : Json) : List String → Json → Json
  | [], _ => fresh
  | key :: rest, value =>
      let inner := (Fields.get? key value.members).getD .null
      .obj (Fields.insert key (write fresh rest inner) value.members)

end Json

def segments (path : String) : List String := Text.pieces '.' path

structure Context where
  root : Json

namespace Context

def empty : Context := ⟨.obj []⟩

def get? (context : Context) (path : String) : Option Json := Json.resolve (segments path) context.root

def insert (context : Context) (path : String) (value : Json) : Context :=
  ⟨Json.write value (segments path) context.root⟩

end Context

end RuleMatrix
