import RuleMatrix.Config.Json

/-!
Building checks the drafts in their order, each for a name used before, for conditions or a file, and
for the depth of its tree. `Draft.toJson` writes a draft as the definition from which `Rule.ofJson`
reads the same rule.
-/
set_option autoImplicit false

namespace RuleMatrix

structure Draft where
  connective : Connective
  -- None as long as no change gives conditions; an empty list of them is given.
  conditions : Option (List Condition)
  conditionsFile : Option String
  outputs : Fields

namespace Draft

inductive Change where
  | combine (connective : Connective)
  | when (condition : Condition)
  | conditions (conditions : List Condition)
  | conditionsFile (path : String)
  | output (key : String) (value : Json)
  | outputs (outputs : Fields)

def empty : Draft := ⟨.and, none, none, []⟩

def apply (draft : Draft) : Change → Draft
  | .combine connective => { draft with connective }
  | .when condition => { draft with conditions := some (draft.conditions.getD [] ++ [condition]) }
  | .conditions conditions => { draft with conditions := some conditions }
  | .conditionsFile path => { draft with conditionsFile := some path }
  | .output key value => { draft with outputs := Fields.insert key value draft.outputs }
  | .outputs outputs => { draft with outputs }

def ofChanges (changes : List Change) : Draft := changes.foldl apply empty

def build (limits : Limits) (name : String) (draft : Draft) : Except ConfigError Rule :=
  let file := draft.conditionsFile.bind Rule.namedFile
  let root : Group := ⟨draft.connective, draft.conditions.getD []⟩
  if draft.conditions.isNone && file.isNone then .error (.noConditions name)
  else if draft.conditions.isSome && limits.depth < root.depth then
    .error (.tooDeep name limits.depth)
  else .ok ⟨name, root, file, draft.outputs⟩

end Draft

namespace Config

def buildAfter (limits : Limits) (used : List String) :
    List (String × Draft) → Except ConfigError (List Rule)
  | [] => .ok []
  | (name, draft) :: rest =>
      if used.contains name then .error (.repeatedName name)
      else do
        let rule ← draft.build limits name
        let rules ← buildAfter limits (name :: used) rest
        .ok (rule :: rules)

def build (limits : Limits) (drafts : List (String × Draft)) : Except ConfigError Config := do
  let rules ← buildAfter limits [] drafts
  .ok ⟨rules⟩

end Config

def FieldTest.toJson (test : FieldTest) : Json :=
  .obj [("field", .str test.field), ("op", .str test.comparison.spelling),
    ("value", test.literal)]

mutual
def Condition.toJson : Condition → Json
  | .leaf test => test.toJson
  | .group connective children =>
      .obj [("operator", .str connective.spelling),
        ("conditions", .arr (Condition.childrenToJson children))]

def Condition.childrenToJson : List Condition → List Json
  | [] => []
  | child :: rest => Condition.toJson child :: Condition.childrenToJson rest
end

namespace Draft

def toJson (draft : Draft) : Json :=
  let conditions := match draft.conditions with
    | none => []
    | some given => [("conditions", Json.arr (Condition.childrenToJson given))]
  let file := match draft.conditionsFile with
    | none => []
    | some path => [("conditions-file", Json.str path)]
  .obj (("operator", .str draft.connective.spelling) :: conditions ++ file
    ++ [("outputs", .obj draft.outputs)])

def listToJson (drafts : List (String × Draft)) : Json :=
  .obj (drafts.map fun entry => (entry.1, entry.2.toJson))

end Draft

end RuleMatrix
