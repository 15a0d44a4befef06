import RuleMatrix.Context
import RuleMatrix.Proofs.Fields

set_option autoImplicit false

namespace RuleMatrix

namespace Json

theorem resolve_append (path rest : List String) (value : Json) :
    resolve (path ++ rest) value = (resolve path value).bind (resolve rest) := by
  induction path generalizing value with
  | nil => rfl
  | cons key others ih =>
      rw [List.cons_append, resolve, resolve, Option.bind_assoc]
      exact congrArg _ (funext ih)

theorem resolve_null (path : List String) : (resolve path .null).getD .null = .null := by
  cases path <;> rfl

-- Where a key is missing, a path through it leads on as from null, which has no members either.
theorem resolve_through (key : String) (rest : List String) (value : Json) :
    (resolve (key :: rest) value).getD .null =
      (resolve rest ((Fields.get? key value.members).getD .null)).getD .null := by
  rw [resolve]
  cases Fields.get? key value.members with
  | none => exact (resolve_null rest).symm
  | some inner => rfl

theorem resolve_written (fresh : Json) (path rest : List String) (value : Json) :
    resolve path (write fresh (path ++ rest) value) =
      some (write fresh rest ((resolve path value).getD .null)) := by
  induction path generalizing value with
  | nil => rfl
  | cons key others ih =>
      rw [resolve_through, List.cons_append, write, resolve, members, Fields.get_insert, if_pos rfl]
      exact ih _

theorem resolve_below (fresh : Json) (path rest : List String) (value : Json) :
    resolve (path ++ rest) (write fresh path value) = resolve rest fresh := by
  have whole := resolve_written fresh path [] value
  rw [List.append_nil] at whole
  rw [resolve_append, whole]
  rfl

inductive Parted : List String → List String → Prop where
  | here (key next : String) (rest others : List String) (different : key ≠ next) :
      Parted (key :: rest) (next :: others)
  | later (key : String) (rest others : List String) (parted : Parted rest others) :
      Parted (key :: rest) (key :: others)

theorem parted_of_unrelated (path other : List String) (unfinished : ¬ path <+: other)
    (unstarted : ¬ other <+: path) : Parted path other := by
  induction path generalizing other with
  | nil => exact absurd List.nil_prefix unfinished
  | cons key rest ih =>
      cases other with
      | nil => exact absurd List.nil_prefix unstarted
      | cons next others =>
          by_cases same : key = next
          · subst same
            rw [List.cons_prefix_cons] at unfinished unstarted
            exact .later key rest others (ih others (by simpa using unfinished) (by simpa using unstarted))
          · exact .here key next rest others same

theorem parted_nonempty (path other : List String) (parted : Parted path other) :
    ∃ key rest, other = key :: rest := by
  cases parted with
  | here _ next _ others _ => exact ⟨next, others, rfl⟩
  | later key _ others _ => exact ⟨key, others, rfl⟩

theorem resolve_beside (fresh : Json) (path other : List String) (value : Json)
    (parted : Parted path other) : resolve other (write fresh path value) = resolve other value := by
  induction parted generalizing value with
  | here key next rest others different =>
      rw [write, resolve, resolve, members, Fields.get_insert, if_neg different]
  | later key rest others parted ih =>
      rw [write, resolve, resolve, members, Fields.get_insert, if_pos rfl]
      cases Fields.get? key value.members with
      | some inner => exact ih inner
      | none =>
          obtain ⟨next, behind, rfl⟩ := parted_nonempty rest others parted
          exact ih .null

end Json

namespace Context

theorem insert_above (context : Context) (p q : String) (value : Json) (next : String)
    (rest : List String) (above : segments p = segments q ++ next :: rest) :
    ∃ inner, (context.insert p value).get? q =
      some (.obj (Fields.insert next inner ((context.get? q).getD .null).members)) := by
  have written := Json.resolve_written value (segments q) (next :: rest) context.root
  rw [← above] at written
  exact ⟨_, written⟩

theorem insert_resolved (context : Context) (p q : String) (value : Json) :
    (∀ rest, segments q = segments p ++ rest →
      (context.insert p value).get? q = Json.resolve rest value) ∧
    (¬ segments p <+: segments q → ¬ segments q <+: segments p →
      (context.insert p value).get? q = context.get? q) ∧
    ∀ next rest, segments p = segments q ++ next :: rest →
      ∃ fields, (context.insert p value).get? q = some (.obj fields) ∧
        (∀ old, context.get? q = some (.obj old) →
          Fields.keys fields =
            (if next ∈ Fields.keys old then Fields.keys old else Fields.keys old ++ [next]) ∧
          ∀ key, key ≠ next → Fields.get? key fields = Fields.get? key old) ∧
        ((∀ old, context.get? q ≠ some (.obj old)) → Fields.keys fields = [next]) := by
  refine ⟨?_, ?_, ?_⟩
  · intro rest below
    rw [get?, below]
    exact Json.resolve_below value (segments p) rest context.root
  · intro unfinished unstarted
    have parted := Json.parted_of_unrelated (segments p) (segments q) unfinished unstarted
    exact Json.resolve_beside value (segments p) (segments q) context.root parted
  · intro next rest above
    obtain ⟨inner, found⟩ := insert_above context p q value next rest above
    refine ⟨_, found, ?_, ?_⟩
    · intro old before
      rw [before]
      refine ⟨Fields.keys_insert next inner old, fun key different => ?_⟩
      exact (Fields.get_insert key next inner old).trans (if_neg different.symm)
    · intro other
      have bare : ((context.get? q).getD .null).members = [] := by
        cases before : context.get? q with
        | none => rfl
        | some value =>
            cases value with
            | obj old => exact absurd before (other old)
            | _ => rfl
      rw [bare]
      rfl

-- A text stands in the way of the written path, and one of its keys is empty.
def blocked : Context := ⟨.obj [("a", .obj [("", .str "text"), ("b", .null)]), ("c", .arr [])]⟩

def unblocked : Context := blocked.insert "a..d" (.obj [("e", .bool true)])

theorem written_through_text :
    segments "a..d.e" = segments "a..d" ++ ["e"] ∧ unblocked.get? "a..d.e" = some (.bool true) ∧
      unblocked.get? "a.b" = some .null ∧
      (∃ fields, unblocked.get? "a" = some (.obj fields) ∧ Fields.keys fields = ["", "b"]) ∧
      ∃ fields, unblocked.get? "a." = some (.obj fields) ∧ Fields.keys fields = ["d"] := by
  have below : segments "a..d.e" = segments "a..d" ++ ["e"] := by decide
  obtain ⟨inside, _, _⟩ := insert_resolved blocked "a..d" "a..d.e" (.obj [("e", .bool true)])
  obtain ⟨_, beside, _⟩ := insert_resolved blocked "a..d" "a.b" (.obj [("e", .bool true)])
  obtain ⟨_, _, above⟩ := insert_resolved blocked "a..d" "a" (.obj [("e", .bool true)])
  obtain ⟨_, _, instead⟩ := insert_resolved blocked "a..d" "a." (.obj [("e", .bool true)])
  obtain ⟨fields, found, kept, _⟩ := above "" ["d"] (by decide)
  obtain ⟨others, there, _, alone⟩ := instead "d" [] (by decide)
  refine ⟨below, inside ["e"] below, beside (by decide) (by decide), ⟨fields, found, ?_⟩,
    ⟨others, there, alone ?_⟩⟩
  · exact (kept [("", .str "text"), ("b", .null)] rfl).1
  · intro old same
    cases same

end Context

end RuleMatrix
