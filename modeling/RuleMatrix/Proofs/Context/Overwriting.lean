import RuleMatrix.Proofs.Context.Writing
import RuleMatrix.Proofs.Evaluation.Alike
import RuleMatrix.Proofs.Fields.Merge

set_option autoImplicit false

namespace RuleMatrix

namespace Json

theorem write_again (first second : Json) (path : List String) (value : Json) :
    write second path (write first path value) = write second path value := by
  induction path generalizing value with
  | nil => rfl
  | cons key rest ih =>
      rw [write, write, members, Fields.get_insert, if_pos rfl, Option.getD_some, ih,
        Fields.insert_again, write]

theorem members_object (value inner : Json) (key : String)
    (found : Fields.get? key value.members = some inner) : .obj value.members = value := by
  cases value with
  | obj fields => rfl
  | _ => cases found

theorem write_found (path : List String) (value fresh : Json)
    (found : resolve path value = some fresh) : write fresh path value = value := by
  induction path generalizing value with
  | nil => exact (Option.some.inj found).symm
  | cons key rest ih =>
      obtain ⟨inner, here, below⟩ := Option.bind_eq_some_iff.mp found
      rw [write, here, Option.getD_some, ih inner below, Fields.insert_found key inner _ here]
      exact members_object value inner key here

section Exchange

variable (equal : Number → Number → Bool) (reflexive : ∀ n, equal n n = true)

include reflexive

theorem agree_insert (key : String) (x y : Json) (fields : Fields)
    (formed : WellFormed (.obj fields)) (fine : WellFormed x) (same : agree equal x y = true) :
    agree equal (.obj (Fields.insert key x fields)) (.obj (Fields.insert key y fields)) = true := by
  have whole := insert_well_formed key x fields formed fine
  obtain ⟨before, after, each⟩ := Fields.insert_place key fields
  rw [each x] at whole ⊢
  rw [each y]
  exact agree_member equal reflexive before after key x y whole same

-- Both orders write the same members; above the place where the paths part, one key is written twice.
theorem write_exchanged (path other : List String) (parted : Parted path other) (v w value : Json)
    (fine : WellFormed v) (clean : WellFormed w) (formed : WellFormed value) :
    agree equal (write w other (write v path value)) (write v path (write w other value)) = true := by
  induction parted generalizing value with
  | here key next rest others different =>
      have whole := write_well_formed w (next :: others) _ clean
        (write_well_formed v (key :: rest) value fine formed)
      have apart : next ≠ key := different.symm
      simp only [write, members, Fields.get_insert, if_neg different, if_neg apart] at whole ⊢
      exact agree_permuted equal reflexive _ _ whole
        (Fields.insert_permuted next key _ _ value.members apart)
  | later key rest others parted ih =>
      have inside := inner_well_formed key value formed
      have whole := write_well_formed w others _ clean (write_well_formed v rest _ fine inside)
      simp only [write, members, Fields.get_insert, if_pos, Option.getD_some, Fields.insert_again]
      exact agree_insert equal reflexive key _ _ value.members (members_well_formed value formed)
        whole (ih _ inside)

end Exchange

end Json

namespace Context

-- Up to the order of keys, for any way to compare numbers that finds each equal to itself.
def SameUpToOrder (first second : Context) : Prop :=
  ∀ equal : Number → Number → Bool, (∀ n, equal n n = true) →
    Json.agree equal first.root second.root = true

theorem inserts_exchanged (context : Context) (p q : String) (v w : Json)
    (unfinished : ¬ segments p <+: segments q) (unstarted : ¬ segments q <+: segments p)
    (formed : context.root.WellFormed) (fine : v.WellFormed) (clean : w.WellFormed) :
    SameUpToOrder ((context.insert p v).insert q w) ((context.insert q w).insert p v) := by
  intro equal reflexive
  have parted := Json.parted_of_unrelated (segments p) (segments q) unfinished unstarted
  exact Json.write_exchanged equal reflexive _ _ parted v w context.root fine clean formed

theorem overwriting_laws (context : Context) (p q : String) (v w : Json) :
    (context.insert p v).insert p w = context.insert p w ∧
    (context.get? p = some v → context.insert p v = context) ∧
    (¬ segments p <+: segments q → ¬ segments q <+: segments p →
      context.root.WellFormed → v.WellFormed → w.WellFormed →
      SameUpToOrder ((context.insert p v).insert q w) ((context.insert q w).insert p v) ∧
      ∀ config : Config,
        config.evaluate ((context.insert p v).insert q w) =
            config.evaluate ((context.insert q w).insert p v) ∧
          config.report ((context.insert p v).insert q w) =
            config.report ((context.insert q w).insert p v)) := by
  refine ⟨?_, ?_, ?_⟩
  · exact congrArg Context.mk (Json.write_again v w (segments p) context.root)
  · exact fun found => congrArg Context.mk (Json.write_found (segments p) context.root v found)
  · intro unfinished unstarted formed fine clean
    have same := inserts_exchanged context p q v w unfinished unstarted formed fine clean
    have once : (context.insert p v).root.WellFormed :=
      Json.write_well_formed v (segments p) context.root fine formed
    have twice : ((context.insert p v).insert q w).root.WellFormed :=
      Json.write_well_formed w (segments q) _ clean once
    have alike := same Number.alike Json.number_alike_reflexive
    exact ⟨same, fun config => Config.alike_roots config _ _ twice alike⟩

def textRoot : Context := ⟨.str "text"⟩

def wholeObject : Config :=
  ⟨[⟨"whole", ⟨.and, [.leaf ⟨"a", .equal, .obj [("c", .bool true), ("b", .null)]⟩]⟩, none, []⟩]⟩

theorem exchanged_inserts_found_whole :
    (textRoot.insert "a.b" .null).get? "a.b" = some .null ∧
      (textRoot.insert "a.b" .null).insert "a.b" .null = textRoot.insert "a.b" .null ∧
      ((textRoot.insert "a.b" .null).insert "a.c" (.bool true)).root =
        .obj [("a", .obj [("b", .null), ("c", .bool true)])] ∧
      ((textRoot.insert "a.c" (.bool true)).insert "a.b" .null).root =
        .obj [("a", .obj [("c", .bool true), ("b", .null)])] ∧
      wholeObject.evaluate ((textRoot.insert "a.b" .null).insert "a.c" (.bool true)) =
        ⟨true, ["whole"], []⟩ ∧
      wholeObject.evaluate ((textRoot.insert "a.c" (.bool true)).insert "a.b" .null) =
        ⟨true, ["whole"], []⟩ := by
  have found : (textRoot.insert "a.b" .null).get? "a.b" = some .null := rfl
  obtain ⟨_, unchanged, _⟩ := overwriting_laws (textRoot.insert "a.b" .null) "a.b" "a.c" .null .null
  obtain ⟨_, _, exchanged⟩ := overwriting_laws textRoot "a.b" "a.c" .null (.bool true)
  obtain ⟨_, alike⟩ := exchanged (by decide) (by decide) trivial trivial trivial
  have first : wholeObject.evaluate ((textRoot.insert "a.b" .null).insert "a.c" (.bool true)) =
      ⟨true, ["whole"], []⟩ := rfl
  exact ⟨found, unchanged found, rfl, rfl, first, (alike wholeObject).1.symm.trans first⟩

end Context

end RuleMatrix
