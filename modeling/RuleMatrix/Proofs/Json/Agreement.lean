import Mathlib.Data.List.Perm.Subperm
import RuleMatrix.Proofs.Json.Structure
import RuleMatrix.Proofs.Sequence

set_option autoImplicit false

namespace RuleMatrix.Json

section Agreement

variable (equal : Number → Number → Bool)

theorem agree_items_iff (xs ys : List Json) :
    agreeItems equal xs ys = true ↔ List.Forall₂ (fun x y => agree equal x y = true) xs ys := by
  induction xs generalizing ys with
  | nil =>
      cases ys with
      | nil => exact iff_of_true rfl .nil
      | cons y others => exact iff_of_false nofun nofun
  | cons x rest ih =>
      cases ys with
      | nil => exact iff_of_false nofun nofun
      | cons y others =>
          change (agree equal x y && agreeItems equal rest others) = true ↔ _
          rw [Bool.and_eq_true, ih, List.forall₂_cons]

theorem agree_fields_iff (xs ys : Fields) :
    agreeFields equal xs ys = true ↔
      ∀ entry ∈ xs, ∃ y, Fields.get? entry.1 ys = some y ∧ agree equal entry.2 y = true := by
  induction xs with
  | nil => exact iff_of_true rfl (List.forall_mem_nil _)
  | cons entry rest ih =>
      change (_ && agreeFields equal rest ys) = true ↔ _
      rw [Bool.and_eq_true, ih, List.forall_mem_cons]
      cases Fields.get? entry.1 ys <;> simp

theorem agree_array_iff (xs ys : List Json) :
    agree equal (.arr xs) (.arr ys) = true ↔
      List.Forall₂ (fun x y => agree equal x y = true) xs ys :=
  agree_items_iff equal xs ys

theorem agree_object_iff (xs ys : Fields) :
    agree equal (.obj xs) (.obj ys) = true ↔
      xs.length = ys.length ∧
        ∀ entry ∈ xs, ∃ y, Fields.get? entry.1 ys = some y ∧ agree equal entry.2 y = true := by
  change (xs.length == ys.length && agreeFields equal xs ys) = true ↔ _
  rw [Bool.and_eq_true, beq_iff_eq, agree_fields_iff]

theorem agree_array_left (xs : List Json) (b : Json) (alike : agree equal (.arr xs) b = true) :
    ∃ ys, b = .arr ys ∧ List.Forall₂ (fun x y => agree equal x y = true) xs ys := by
  cases b with
  | arr ys => exact ⟨ys, rfl, (agree_array_iff equal xs ys).mp alike⟩
  | _ => cases alike

theorem agree_object_left (xs : Fields) (b : Json) (alike : agree equal (.obj xs) b = true) :
    ∃ ys, b = .obj ys ∧ xs.length = ys.length ∧
      ∀ entry ∈ xs, ∃ y, Fields.get? entry.1 ys = some y ∧ agree equal entry.2 y = true := by
  cases b with
  | obj ys => exact ⟨ys, rfl, (agree_object_iff equal xs ys).mp alike⟩
  | _ => cases alike

theorem agree_number_left (m : Number) (b : Json) (alike : agree equal (.num m) b = true) :
    ∃ n, b = .num n ∧ equal m n = true := by
  cases b with
  | num n => exact ⟨n, rfl, alike⟩
  | _ => cases alike

theorem agree_null_left (b : Json) (alike : agree equal .null b = true) : b = .null := by
  cases b with
  | null => rfl
  | _ => cases alike

theorem agree_bool_left (p : Bool) (b : Json) (alike : agree equal (.bool p) b = true) :
    b = .bool p := by
  cases b with
  | bool q => exact congrArg Json.bool (beq_iff_eq.mp alike).symm
  | _ => cases alike

theorem agree_text_left (s : String) (b : Json) (alike : agree equal (.str s) b = true) :
    b = .str s := by
  cases b with
  | str t => exact congrArg Json.str (beq_iff_eq.mp alike).symm
  | _ => cases alike

theorem agree_keys (xs ys : Fields) (distinct : Fields.Distinct xs)
    (alike : agree equal (.obj xs) (.obj ys) = true) :
    (Fields.keys xs).Perm (Fields.keys ys) := by
  obtain ⟨lengths, each⟩ := (agree_object_iff equal xs ys).mp alike
  have contained : Fields.keys xs ⊆ Fields.keys ys := by
    intro key member
    obtain ⟨entry, there, rfl⟩ := List.mem_map.mp member
    obtain ⟨y, found, _⟩ := each entry there
    exact Fields.member_key entry.1 y ys (Fields.get_member _ _ _ found)
  apply (List.subperm_of_subset distinct contained).perm_of_length_le
  simp [Fields.keys, lengths]

-- Keys are counted once, then each member on the right has its partner on the left.
theorem agree_object_right (xs ys : Fields) (distinct : Fields.Distinct xs)
    (alike : agree equal (.obj xs) (.obj ys) = true) :
    Fields.Distinct ys ∧
      ∀ entry ∈ ys, ∃ x, (entry.1, x) ∈ xs ∧ agree equal x entry.2 = true := by
  obtain ⟨_, each⟩ := (agree_object_iff equal xs ys).mp alike
  have keys := agree_keys equal xs ys distinct alike
  have otherDistinct : Fields.Distinct ys := keys.nodup_iff.mp distinct
  refine ⟨otherDistinct, ?_⟩
  rintro ⟨key, y⟩ member
  have known : key ∈ Fields.keys xs := keys.mem_iff.mpr (Fields.member_key key y ys member)
  obtain ⟨⟨_, x⟩, there, rfl⟩ := List.mem_map.mp known
  obtain ⟨other, found, same⟩ := each _ there
  have direct := Fields.get_of_member _ y ys otherDistinct member
  have unique : other = y := Option.some.inj (found.symm.trans direct)
  exact ⟨x, there, unique ▸ same⟩

theorem agree_well_formed (a b : Json) (formed : WellFormed a) (alike : agree equal a b = true) :
    WellFormed b := by
  induction a using nested_induction generalizing b with
  | null => exact agree_null_left equal b alike ▸ formed
  | bool p => exact agree_bool_left equal p b alike ▸ formed
  | str s => exact agree_text_left equal s b alike ▸ formed
  | num m =>
      obtain ⟨n, rfl, _⟩ := agree_number_left equal m b alike
      trivial
  | arr xs ih =>
      obtain ⟨ys, rfl, each⟩ := agree_array_left equal xs b alike
      have inner := (well_formed_array_iff xs).mp formed
      apply (well_formed_array_iff ys).mpr
      intro y member
      obtain ⟨x, there, same⟩ := Sequence.result_has_source _ xs ys each y member
      exact ih x there y (inner x there) same
  | obj xs ih =>
      obtain ⟨ys, rfl, _⟩ := agree_object_left equal xs b alike
      obtain ⟨distinct, inner⟩ := (well_formed_object_iff xs).mp formed
      obtain ⟨otherDistinct, partners⟩ := agree_object_right equal xs ys distinct alike
      refine (well_formed_object_iff ys).mpr ⟨otherDistinct, ?_⟩
      intro entry member
      obtain ⟨x, there, same⟩ := partners entry member
      exact ih _ there entry.2 (inner _ there) same

theorem items_chained (related : Json → Json → Prop) (xs ys zs : List Json)
    (each : ∀ x ∈ xs, ∀ y z, related x y → related y z → related x z)
    (first : List.Forall₂ related xs ys) (second : List.Forall₂ related ys zs) :
    List.Forall₂ related xs zs := by
  induction first generalizing zs with
  | nil => exact second
  | cons head tail ih =>
      obtain ⟨z, rest, next, later, rfl⟩ := List.forall₂_cons_left_iff.mp second
      exact .cons (each _ List.mem_cons_self _ z head next)
        (ih rest (fun x member => each x (List.mem_cons_of_mem _ member)) later)

theorem agree_transitive
    (transitive : ∀ l m n, equal l m = true → equal m n = true → equal l n = true)
    (a b c : Json) (first : agree equal a b = true) (second : agree equal b c = true) :
    agree equal a c = true := by
  induction a using nested_induction generalizing b c with
  | null => exact agree_null_left equal b first ▸ second
  | bool p => exact agree_bool_left equal p b first ▸ second
  | str s => exact agree_text_left equal s b first ▸ second
  | num l =>
      obtain ⟨m, rfl, lower⟩ := agree_number_left equal l b first
      obtain ⟨n, rfl, upper⟩ := agree_number_left equal m c second
      exact transitive l m n lower upper
  | arr xs ih =>
      obtain ⟨ys, rfl, lower⟩ := agree_array_left equal xs b first
      obtain ⟨zs, rfl, upper⟩ := agree_array_left equal ys c second
      exact (agree_array_iff equal xs zs).mpr (items_chained _ xs ys zs ih lower upper)
  | obj xs ih =>
      obtain ⟨ys, rfl, lowerLength, lower⟩ := agree_object_left equal xs b first
      obtain ⟨zs, rfl, upperLength, upper⟩ := agree_object_left equal ys c second
      apply (agree_object_iff equal xs zs).mpr
      refine ⟨lowerLength.trans upperLength, ?_⟩
      intro entry member
      obtain ⟨y, found, alike⟩ := lower entry member
      obtain ⟨z, further, next⟩ := upper (entry.1, y) (Fields.get_member _ _ _ found)
      exact ⟨z, further, ih entry member y z alike next⟩

theorem agree_symmetric (symmetric : ∀ m n, equal m n = true → equal n m = true)
    (a b : Json) (formed : WellFormed a) (alike : agree equal a b = true) :
    agree equal b a = true := by
  induction a using nested_induction generalizing b with
  | null =>
      obtain rfl := agree_null_left equal b alike
      exact alike
  | bool p =>
      obtain rfl := agree_bool_left equal p b alike
      exact alike
  | str s =>
      obtain rfl := agree_text_left equal s b alike
      exact alike
  | num m =>
      obtain ⟨n, rfl, same⟩ := agree_number_left equal m b alike
      exact symmetric m n same
  | arr xs ih =>
      obtain ⟨ys, rfl, each⟩ := agree_array_left equal xs b alike
      have inner := (well_formed_array_iff xs).mp formed
      apply (agree_array_iff equal ys xs).mpr
      apply List.Forall₂.flip
      apply Sequence.related_refined _ _ xs ys each
      exact fun x member y same => ih x member y (inner x member) same
  | obj xs ih =>
      obtain ⟨ys, rfl, lengths, _⟩ := agree_object_left equal xs b alike
      obtain ⟨distinct, inner⟩ := (well_formed_object_iff xs).mp formed
      obtain ⟨_, partners⟩ := agree_object_right equal xs ys distinct alike
      apply (agree_object_iff equal ys xs).mpr
      refine ⟨lengths.symm, ?_⟩
      rintro ⟨key, y⟩ member
      obtain ⟨x, there, same⟩ := partners _ member
      refine ⟨x, Fields.get_of_member key x xs distinct there, ?_⟩
      exact ih _ there y (inner _ there) same

section Reflexive

variable (reflexive : ∀ n, equal n n = true)

include reflexive

theorem agree_reflexive (a : Json) (formed : WellFormed a) : agree equal a a = true := by
  induction a using nested_induction with
  | null => rfl
  | bool p => exact beq_self_eq_true p
  | str s => exact beq_self_eq_true s
  | num n => exact reflexive n
  | arr items ih =>
      have inner := (well_formed_array_iff items).mp formed
      apply (agree_array_iff equal items items).mpr
      apply List.forall₂_same.mpr
      exact fun item member => ih item member (inner item member)
  | obj fields ih =>
      obtain ⟨distinct, inner⟩ := (well_formed_object_iff fields).mp formed
      apply (agree_object_iff equal fields fields).mpr
      refine ⟨rfl, fun entry member => ⟨entry.2, ?_, ih entry member (inner entry member)⟩⟩
      exact Fields.get_of_member entry.1 entry.2 fields distinct member

theorem agree_permuted (xs ys : Fields) (formed : WellFormed (.obj xs)) (permuted : xs.Perm ys) :
    agree equal (.obj xs) (.obj ys) = true := by
  have itself := agree_reflexive equal reflexive (.obj xs) formed
  obtain ⟨_, each⟩ := (agree_object_iff equal xs xs).mp itself
  apply (agree_object_iff equal xs ys).mpr
  refine ⟨permuted.length_eq, ?_⟩
  intro entry member
  rw [← Fields.get_permuted entry.1 xs ys formed.1 permuted]
  exact each entry member

theorem agree_item (before after : List Json) (x y : Json)
    (formed : WellFormed (.arr (before ++ x :: after))) (same : agree equal x y = true) :
    agree equal (.arr (before ++ x :: after)) (.arr (before ++ y :: after)) = true := by
  have inner := (well_formed_array_iff _).mp formed
  obtain ⟨front, rest⟩ := List.forall_mem_append.mp inner
  obtain ⟨_, back⟩ := List.forall_mem_cons.mp rest
  have kept : ∀ items : List Json, (∀ item ∈ items, WellFormed item) →
      List.Forall₂ (fun x y => agree equal x y = true) items items := by
    intro items fine
    apply List.forall₂_same.mpr
    exact fun item member => agree_reflexive equal reflexive item (fine item member)
  apply (agree_array_iff equal _ _).mpr
  exact List.rel_append (kept before front) (.cons same (kept after back))

theorem agree_member (before after : Fields) (key : String) (x y : Json)
    (formed : WellFormed (.obj (before ++ (key, x) :: after))) (same : agree equal x y = true) :
    agree equal (.obj (before ++ (key, x) :: after)) (.obj (before ++ (key, y) :: after)) = true := by
  obtain ⟨distinct, inner⟩ := (well_formed_object_iff _).mp formed
  have keys : Fields.keys (before ++ (key, y) :: after) =
      Fields.keys (before ++ (key, x) :: after) := by simp [Fields.keys]
  have otherDistinct : Fields.Distinct (before ++ (key, y) :: after) := by
    rw [Fields.Distinct, keys]
    exact distinct
  apply (agree_object_iff equal _ _).mpr
  refine ⟨by simp, ?_⟩
  intro entry member
  have kept (other : entry ∈ before ++ (key, y) :: after) :
      ∃ z, Fields.get? entry.1 (before ++ (key, y) :: after) = some z ∧
        agree equal entry.2 z = true :=
    ⟨entry.2, Fields.get_of_member entry.1 entry.2 _ otherDistinct other,
      agree_reflexive equal reflexive entry.2 (inner entry member)⟩
  rcases List.mem_append.mp member with front | rest
  · exact kept (List.mem_append_left _ front)
  · rcases List.mem_cons.mp rest with rfl | back
    · have there : (key, y) ∈ before ++ (key, y) :: after := by simp
      exact ⟨y, Fields.get_of_member key y _ otherDistinct there, same⟩
    · exact kept (List.mem_append_right _ (List.mem_cons_of_mem _ back))

end Reflexive

theorem agree_members (a b : Json) (formed : WellFormed a) (alike : agree equal a b = true)
    (key : String) :
    Option.Rel (fun x y => agree equal x y = true)
      (Fields.get? key a.members) (Fields.get? key b.members) := by
  cases a with
  | obj xs =>
      obtain ⟨ys, rfl, _, each⟩ := agree_object_left equal xs b alike
      have keys := agree_keys equal xs ys formed.1 alike
      change Option.Rel _ (Fields.get? key xs) (Fields.get? key ys)
      cases found : Fields.get? key xs with
      | none =>
          have absent : Fields.get? key ys = none := by
            rw [Fields.get_none_iff, ← keys.mem_iff]
            exact (Fields.get_none_iff key xs).mp found
          rw [absent]
          exact .none
      | some x =>
          obtain ⟨y, other, same⟩ := each _ (Fields.get_member key x xs found)
          rw [other]
          exact .some same
  | arr xs =>
      obtain ⟨ys, rfl, _⟩ := agree_array_left equal xs b alike
      exact .none
  | num m =>
      obtain ⟨n, rfl, _⟩ := agree_number_left equal m b alike
      exact .none
  | null =>
      obtain rfl := agree_null_left equal b alike
      exact .none
  | bool p =>
      obtain rfl := agree_bool_left equal p b alike
      exact .none
  | str s =>
      obtain rfl := agree_text_left equal s b alike
      exact .none

theorem agree_resolved (path : List String) (a b : Json) (formed : WellFormed a)
    (alike : agree equal a b = true) :
    Option.Rel (fun x y => agree equal x y = true) (resolve path a) (resolve path b) := by
  induction path generalizing a b with
  | nil => exact .some alike
  | cons key rest ih =>
      have step := agree_members equal a b formed alike key
      have inner := member_well_formed a
      rw [resolve, resolve]
      cases first : Fields.get? key a.members <;> cases second : Fields.get? key b.members
      · exact .none
      · rw [first, second] at step
        cases step
      · rw [first, second] at step
        cases step
      · rw [first, second] at step
        cases step with
        | some same => exact ih _ _ (inner _ key formed first) same

end Agreement

theorem number_alike_reflexive (n : Number) : n.alike n = true := beq_self_eq_true n.value

theorem alike_reflexive (a : Json) (formed : WellFormed a) : alike a a = true :=
  agree_reflexive Number.alike number_alike_reflexive a formed

theorem alike_transitive (a b c : Json) (first : alike a b = true) (second : alike b c = true) :
    alike a c = true := by
  refine agree_transitive Number.alike ?_ a b c first second
  intro l m n lower upper
  simp only [Number.alike, beq_iff_eq] at lower upper ⊢
  exact lower.trans upper

theorem alike_symmetric (a b : Json) (formed : WellFormed a) (same : alike a b = true) :
    alike b a = true := by
  refine agree_symmetric Number.alike ?_ a b formed same
  intro m n equal
  simp only [Number.alike, beq_iff_eq] at equal ⊢
  exact equal.symm

theorem alike_permuted (xs ys : Fields) (formed : WellFormed (.obj xs)) (permuted : xs.Perm ys) :
    alike (.obj xs) (.obj ys) = true :=
  agree_permuted Number.alike number_alike_reflexive xs ys formed permuted

theorem alike_item (before after : List Json) (x y : Json)
    (formed : WellFormed (.arr (before ++ x :: after))) (same : alike x y = true) :
    alike (.arr (before ++ x :: after)) (.arr (before ++ y :: after)) = true :=
  agree_item Number.alike number_alike_reflexive before after x y formed same

theorem alike_member (before after : Fields) (key : String) (x y : Json)
    (formed : WellFormed (.obj (before ++ (key, x) :: after))) (same : alike x y = true) :
    alike (.obj (before ++ (key, x) :: after)) (.obj (before ++ (key, y) :: after)) = true :=
  agree_member Number.alike number_alike_reflexive before after key x y formed same

theorem alike_left (a b c : Json) (formed : WellFormed a) (same : alike a b = true) :
    alike a c = alike b c := by
  apply Bool.eq_iff_iff.mpr
  constructor
  · exact alike_transitive b a c (alike_symmetric a b formed same)
  · exact alike_transitive a b c same

theorem alike_right (a b c : Json) (formed : WellFormed b) (same : alike b c = true) :
    alike a b = alike a c := by
  apply Bool.eq_iff_iff.mpr
  constructor
  · exact fun first => alike_transitive a b c first same
  · exact fun first => alike_transitive a c b first (alike_symmetric b c formed same)

end RuleMatrix.Json
