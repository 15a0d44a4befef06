import RuleMatrix.Proofs.Json.Agreement

set_option autoImplicit false

namespace RuleMatrix.Json

inductive Respelled : Json → Json → Prop where
  | unchanged (a : Json) : Respelled a a
  | again (a b c : Json) (first : Respelled a b) (second : Respelled b c) : Respelled a c
  | number (m n : Number) (equal : m.value = n.value) : Respelled (.num m) (.num n)
  | order (xs ys : Fields) (permuted : xs.Perm ys) : Respelled (.obj xs) (.obj ys)
  | item (before after : List Json) (x y : Json) (inner : Respelled x y) :
      Respelled (.arr (before ++ x :: after)) (.arr (before ++ y :: after))
  | member (before after : Fields) (key : String) (x y : Json) (inner : Respelled x y) :
      Respelled (.obj (before ++ (key, x) :: after)) (.obj (before ++ (key, y) :: after))

theorem respelled_alike (a b : Json) (formed : WellFormed a) (respelled : Respelled a b) :
    alike a b = true := by
  induction respelled with
  | unchanged a => exact alike_reflexive a formed
  | again a b c _ _ ih later =>
      have lower := ih formed
      exact alike_transitive a b c lower (later (agree_well_formed Number.alike a b formed lower))
  | number m n equal => exact beq_iff_eq.mpr equal
  | order xs ys permuted => exact alike_permuted xs ys formed permuted
  | item before after x y _ ih =>
      have inner := (well_formed_array_iff _).mp formed x (by simp)
      exact alike_item before after x y formed (ih inner)
  | member before after key x y _ ih =>
      have inner := ((well_formed_object_iff _).mp formed).2 (key, x) (by simp)
      exact alike_member before after key x y formed (ih inner)

-- Items are changed one after the other; those before the next one are as they are to be.
theorem items_respelled (before xs ys : List Json) (each : List.Forall₂ Respelled xs ys) :
    Respelled (.arr (before ++ xs)) (.arr (before ++ ys)) := by
  induction each generalizing before with
  | nil => exact .unchanged _
  | @cons x y rest others head _ ih =>
      refine .again _ _ _ (.item before rest x y head) ?_
      rw [List.append_cons before y rest, List.append_cons before y others]
      exact ih (before ++ [y])

def SameKeyRespelled (entry other : String × Json) : Prop :=
  entry.1 = other.1 ∧ Respelled entry.2 other.2

theorem members_respelled (before xs ys : Fields) (each : List.Forall₂ SameKeyRespelled xs ys) :
    Respelled (.obj (before ++ xs)) (.obj (before ++ ys)) := by
  induction each generalizing before with
  | nil => exact .unchanged _
  | @cons entry other rest others head _ ih =>
      obtain ⟨key, x⟩ := entry
      obtain ⟨_, y⟩ := other
      obtain ⟨rfl, inner⟩ := head
      refine .again _ _ _ (.member before rest key x y inner) ?_
      rw [List.append_cons before (key, y) rest, List.append_cons before (key, y) others]
      exact ih (before ++ [(key, y)])

theorem object_respelled (xs ys : Fields) (distinct : Fields.Distinct xs)
    (lengths : xs.length = ys.length)
    (each : ∀ entry ∈ xs, ∃ y, Fields.get? entry.1 ys = some y ∧ Respelled entry.2 y) :
    Respelled (.obj xs) (.obj ys) := by
  have aligned : ∀ entry ∈ xs, ∃ other, SameKeyRespelled entry other ∧ other ∈ ys := by
    intro entry member
    obtain ⟨y, found, inner⟩ := each entry member
    exact ⟨(entry.1, y), ⟨rfl, inner⟩, Fields.get_member entry.1 y ys found⟩
  obtain ⟨zs, related⟩ := Sequence.all_related _ xs aligned
  have contained : zs ⊆ ys := by
    intro other member
    obtain ⟨_, _, _, there⟩ := Sequence.result_has_source _ xs zs related other member
    exact there
  have keys : Fields.keys zs = Fields.keys xs := by
    apply Sequence.related_images Prod.fst Prod.fst xs zs
    exact Sequence.related_refined _ _ xs zs related fun _ _ _ both => both.1.1.symm
  have zsDistinct : Fields.Distinct zs := by
    rw [Fields.Distinct, keys]
    exact distinct
  have permuted : zs.Perm ys := by
    apply (List.subperm_of_subset zsDistinct.of_map contained).perm_of_length_le
    exact Nat.le_of_eq (lengths.symm.trans related.length_eq)
  have inner := Sequence.related_refined _ SameKeyRespelled xs zs related fun _ _ _ both => both.1
  exact .again _ _ _ (members_respelled [] xs zs inner) (.order zs ys permuted)

theorem alike_respelled (a b : Json) (formed : WellFormed a) (same : alike a b = true) :
    Respelled a b := by
  induction a using nested_induction generalizing b with
  | null => exact agree_null_left _ b same ▸ .unchanged .null
  | bool p => exact agree_bool_left _ p b same ▸ .unchanged (.bool p)
  | str s => exact agree_text_left _ s b same ▸ .unchanged (.str s)
  | num m =>
      obtain ⟨n, rfl, equal⟩ := agree_number_left _ m b same
      exact .number m n (beq_iff_eq.mp equal)
  | arr xs ih =>
      obtain ⟨ys, rfl, each⟩ := agree_array_left _ xs b same
      have inner := (well_formed_array_iff xs).mp formed
      apply items_respelled []
      apply Sequence.related_refined _ Respelled xs ys each
      exact fun x member y equal => ih x member y (inner x member) equal
  | obj xs ih =>
      obtain ⟨ys, rfl, lengths, each⟩ := agree_object_left _ xs b same
      obtain ⟨distinct, inner⟩ := (well_formed_object_iff xs).mp formed
      apply object_respelled xs ys distinct lengths
      intro entry member
      obtain ⟨y, found, equal⟩ := each entry member
      exact ⟨y, found, ih entry member y (inner entry member) equal⟩

theorem alike_iff_respelled (a b : Json) (formed : WellFormed a) :
    alike a b = true ↔ Respelled a b :=
  ⟨alike_respelled a b formed, respelled_alike a b formed⟩

-- Equality in kind and value is the finer of the two tests on numbers, so it adds nothing.
theorem number_alike_either (m n : Number) :
    alike (.num m) (.num n) = (m.same n || m.value == n.value) := by
  change (m.value == n.value) = _
  by_cases same : m.same n = true
  · have equal : m.value = n.value := by
      cases m with
      | int m fits =>
          cases n with
          | int n other =>
              obtain rfl := beq_iff_eq.mp same
              rfl
          | real y => cases same
      | real x =>
          cases n with
          | int n other => cases same
          | real y => exact beq_iff_eq.mp same
    rw [same, Bool.true_or, beq_iff_eq]
    exact equal
  · rw [Bool.eq_false_iff.mpr same, Bool.false_or]

theorem alike_equivalence_blind_to_spelling (a b c : Json) (formed : WellFormed a)
    (other : WellFormed b) :
    alike a a = true ∧ (alike a b = true → alike b a = true) ∧
      (alike a b = true → alike b c = true → alike a c = true) ∧
      (∀ a' b', Respelled a a' → Respelled b b' → alike a' b' = alike a b) ∧
      (alike a b = true ↔ Respelled a b) ∧
      ∀ m n, alike (.num m) (.num n) = (m.same n || m.value == n.value) := by
  refine ⟨alike_reflexive a formed, alike_symmetric a b formed, alike_transitive a b c, ?_,
    alike_iff_respelled a b formed, number_alike_either⟩
  intro a' b' left right
  calc alike a' b'
      = alike a b' := (alike_left a a' b' formed (respelled_alike a a' formed left)).symm
    _ = alike a b := (alike_right a b b' other (respelled_alike b b' other right)).symm

def wholeOne : Json := .num (.int 1 (by decide))

theorem one_representable : Representable Binary64.one := by
  refine ⟨1, 1074, by decide, by decide, ?_⟩
  rw [Nat.one_mul, Binary64.one]

def realOne : Json := .num (.real ⟨false, Binary64.one, one_representable⟩)

def written (one : Json) : Json := .arr [.obj [("p", .arr [one]), ("q", .null)]]

def turned (one : Json) : Json := .arr [.obj [("q", .null), ("p", .arr [one])]]

theorem one_inside_respelled :
    (written wholeOne).WellFormed ∧ Respelled (written wholeOne) (turned realOne) ∧
      alike (written wholeOne) (turned realOne) = true ∧
      alike (turned realOne) (written wholeOne) = true ∧
      alike (turned realOne) .null = alike (written wholeOne) .null := by
  have formed : (written wholeOne).WellFormed := by
    simp [written, wholeOne, WellFormed, WellFormedItems, WellFormedFields, Fields.Distinct,
      Fields.keys]
  have turnedFormed : (turned realOne).WellFormed := by
    simp [turned, realOne, WellFormed, WellFormedItems, WellFormedFields, Fields.Distinct,
      Fields.keys]
  have one : Respelled wholeOne realOne := .number _ _ (by decide +kernel)
  have inner : Respelled (.obj [("p", .arr [wholeOne]), ("q", .null)])
      (.obj [("p", .arr [realOne]), ("q", .null)]) :=
    .member [] [("q", .null)] "p" _ _ (.item [] [] _ _ one)
  have respelled : Respelled (written wholeOne) (turned realOne) :=
    .item [] [] _ _ (.again _ _ _ inner (.order _ _ (.swap _ _ _)))
  obtain ⟨_, back, _, _, ⟨_, found⟩, _⟩ := alike_equivalence_blind_to_spelling (written wholeOne)
    (turned realOne) (written wholeOne) formed turnedFormed
  obtain ⟨_, _, _, blind, _⟩ := alike_equivalence_blind_to_spelling (written wholeOne) .null .null
    formed trivial
  exact ⟨formed, respelled, found respelled, back (found respelled),
    blind (turned realOne) .null respelled (.unchanged .null)⟩

end RuleMatrix.Json
