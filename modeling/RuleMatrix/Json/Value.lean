import RuleMatrix.Json.Number

/-!
An object is the list of its members in the order in which their keys first came; `Fields` holds the
operations on such lists, which keep keys distinct: an insertion under a known key leaves the key in
its place and replaces the value. `Json.same` and `Json.alike` are the two equalities, neither of
which sees the order of keys.
-/
set_option autoImplicit false

namespace RuleMatrix

inductive Json where
  | null
  | bool (b : Bool)
  | num (n : Number)
  | str (s : String)
  | arr (items : List Json)
  | obj (fields : List (String × Json))
deriving Inhabited

abbrev Fields := List (String × Json)

namespace Fields

def keys (fields : Fields) : List String := fields.map Prod.fst

def Distinct (fields : Fields) : Prop := (keys fields).Nodup

def get? (key : String) : Fields → Option Json
  | [] => none
  | (known, value) :: rest => if known = key then some value else get? key rest

def insert (key : String) (fresh : Json) : Fields → Fields
  | [] => [(key, fresh)]
  | (known, value) :: rest =>
      if known = key then (known, fresh) :: rest else (known, value) :: insert key fresh rest

def extend (fields more : Fields) : Fields :=
  more.foldl (fun merged entry => insert entry.1 entry.2 merged) fields

def ofPairs (pairs : List (String × Json)) : Fields := extend [] pairs

def merge (objects : List Fields) : Fields := objects.foldl extend []

end Fields

namespace Json

inductive Kind where
  | null
  | boolean
  | number
  | string
  | array
  | object
deriving DecidableEq

def Kind.describe : Kind → String
  | .null => "null"
  | .boolean => "a boolean"
  | .number => "a number"
  | .string => "a string"
  | .array => "an array"
  | .object => "an object"

def kind : Json → Kind
  | .null => .null
  | .bool _ => .boolean
  | .num _ => .number
  | .str _ => .string
  | .arr _ => .array
  | .obj _ => .object

def isNull : Json → Bool
  | .null => true
  | _ => false

def isCompound : Json → Bool
  | .arr _ => true
  | .obj _ => true
  | _ => false

def members : Json → Fields
  | .obj fields => fields
  | _ => []

mutual
/-- Every object inside has distinct keys. -/
def WellFormed : Json → Prop
  | .arr items => WellFormedItems items
  | .obj fields => Fields.Distinct fields ∧ WellFormedFields fields
  | _ => True

def WellFormedItems : List Json → Prop
  | [] => True
  | item :: rest => WellFormed item ∧ WellFormedItems rest

def WellFormedFields : List (String × Json) → Prop
  | [] => True
  | (_, value) :: rest => WellFormed value ∧ WellFormedFields rest
end

mutual
def nesting : Json → Nat
  | .arr items => nestingItems items + 1
  | .obj fields => nestingFields fields + 1
  | _ => 0

def nestingItems : List Json → Nat
  | [] => 0
  | item :: rest => max (nesting item) (nestingItems rest)

def nestingFields : List (String × Json) → Nat
  | [] => 0
  | (_, value) :: rest => max (nesting value) (nestingFields rest)
end

mutual
/-- Structural equality up to the order of keys, with numbers compared by `equal`. -/
def agree (equal : Number → Number → Bool) : Json → Json → Bool
  | .null, .null => true
  | .bool a, .bool b => a == b
  | .num m, .num n => equal m n
  | .str s, .str t => s == t
  | .arr xs, .arr ys => agreeItems equal xs ys
  | .obj xs, .obj ys => xs.length == ys.length && agreeFields equal xs ys
  | _, _ => false

def agreeItems (equal : Number → Number → Bool) : List Json → List Json → Bool
  | [], [] => true
  | x :: xs, y :: ys => agree equal x y && agreeItems equal xs ys
  | _, _ => false

def agreeFields (equal : Number → Number → Bool) : List (String × Json) → Fields → Bool
  | [], _ => true
  | (key, x) :: rest, ys =>
      (match Fields.get? key ys with
      | some y => agree equal x y
      | none => false) && agreeFields equal rest ys
end

def same (a b : Json) : Bool := agree Number.same a b

def alike (a b : Json) : Bool := agree Number.alike a b

end Json

end RuleMatrix
