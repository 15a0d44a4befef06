import RuleMatrix.Comparison.Holds
import RuleMatrix.Proofs.Json.Agreement

set_option autoImplicit false

namespace RuleMatrix

namespace Json

def BothAlike (a b : Option Json) : Prop := Option.Rel (fun x y => x.alike y = true) a b

theorem alike_shape (a b : Json) (same : a.alike b = true) :
    a = b ∨ (∃ m n, a = .num m ∧ b = .num n ∧ m.value = n.value) ∨
      (∃ xs ys, a = .arr xs ∧ b = .arr ys ∧ List.Forall₂ (fun x y => x.alike y = true) xs ys) ∨
        ∃ xs ys, a = .obj xs ∧ b = .obj ys := by
  cases a with
  | null => exact .inl (agree_null_left _ b same).symm
  | bool p => exact .inl (agree_bool_left _ p b same).symm
  | str s => exact .inl (agree_text_left _ s b same).symm
  | num m =>
      obtain ⟨n, rfl, equal⟩ := agree_number_left _ m b same
      exact .inr (.inl ⟨m, n, rfl, rfl, by simpa [Number.alike] using equal⟩)
  | arr xs =>
      obtain ⟨ys, rfl, each⟩ := agree_array_left _ xs b same
      exact .inr (.inr (.inl ⟨xs, ys, rfl, rfl, each⟩))
  | obj xs =>
      obtain ⟨ys, rfl, _⟩ := agree_object_left _ xs b same
      exact .inr (.inr (.inr ⟨xs, ys, rfl, rfl⟩))

theorem alike_null (a b : Json) (same : a.alike b = true) : a.isNull = b.isNull := by
  rcases alike_shape a b same with
    rfl | ⟨_, _, rfl, rfl, _⟩ | ⟨_, _, rfl, rfl, _⟩ | ⟨_, _, rfl, rfl⟩ <;> rfl

theorem alike_numeric (a b : Json) (same : a.alike b = true) : a.toNumeric? = b.toNumeric? := by
  rcases alike_shape a b same with
    rfl | ⟨m, n, rfl, rfl, equal⟩ | ⟨_, _, rfl, rfl, _⟩ | ⟨_, _, rfl, rfl⟩
  · rfl
  · simp only [toNumeric?, equal]
  · rfl
  · rfl

end Json

theorem any_alike (xs ys : List Json) (literal : Json) (formed : ∀ x ∈ xs, x.WellFormed)
    (each : List.Forall₂ (fun x y => x.alike y = true) xs ys) :
    (xs.any fun item => item.alike literal) = ys.any fun item => item.alike literal := by
  induction each with
  | nil => rfl
  | cons head tail ih =>
      rw [List.any_cons, List.any_cons, ih fun x member => formed x (List.mem_cons_of_mem _ member),
        Json.alike_left _ _ literal (formed _ List.mem_cons_self) head]

theorem relate_numbers_same (a b literal : Json) (same : a.toNumeric? = b.toNumeric?)
    (relation : Numeric → Numeric → Bool) :
    relateNumbers relation (some a) literal = relateNumbers relation (some b) literal := by
  simp only [relateNumbers, Option.bind_some, same]

theorem relate_numbers_same_literal (actual : Option Json) (b c : Json)
    (same : b.toNumeric? = c.toNumeric?) (relation : Numeric → Numeric → Bool) :
    relateNumbers relation actual b = relateNumbers relation actual c := by
  simp only [relateNumbers, same]

section Actual

variable (a b literal : Json) (formed : a.WellFormed) (same : a.alike b = true)

include same

theorem relate_texts_alike (relation : List Char → List Char → Bool) :
    relateTexts relation (some a) literal = relateTexts relation (some b) literal := by
  rcases Json.alike_shape a b same with
    rfl | ⟨_, _, rfl, rfl, _⟩ | ⟨_, _, rfl, rfl, _⟩ | ⟨_, _, rfl, rfl⟩ <;> rfl

include formed

theorem loosely_equal_alike : looselyEqual (some a) literal = looselyEqual (some b) literal := by
  have structural := Json.alike_left a b literal formed same
  rcases Json.alike_shape a b same with
    rfl | ⟨m, n, rfl, rfl, _⟩ | ⟨_, _, rfl, rfl, _⟩ | ⟨_, _, rfl, rfl⟩
  · rfl
  · have numeric := relate_numbers_same (.num m) (.num n) literal
      (Json.alike_numeric _ _ same) fun a b => a == b
    cases literal <;> simp [looselyEqual, Json.isNull, Json.isCompound, structural, numeric]
  · simp only [looselyEqual, structural, Json.isNull, Json.isCompound]
    rfl
  · simp only [looselyEqual, structural, Json.isNull, Json.isCompound]
    rfl

theorem containment_alike : containment? (some a) literal = containment? (some b) literal := by
  rcases Json.alike_shape a b same with
    rfl | ⟨_, _, rfl, rfl, _⟩ | ⟨xs, ys, rfl, rfl, each⟩ | ⟨_, _, rfl, rfl⟩
  · rfl
  · cases literal <;> rfl
  · exact congrArg some (any_alike xs ys literal ((Json.well_formed_array_iff xs).mp formed) each)
  · cases literal <;> rfl

end Actual

section Literal

variable (actual : Option Json) (b c : Json) (formed : b.WellFormed) (same : b.alike c = true)

include same

theorem relate_texts_alike_literal (relation : List Char → List Char → Bool) :
    relateTexts relation actual b = relateTexts relation actual c := by
  rcases Json.alike_shape b c same with
    rfl | ⟨_, _, rfl, rfl, _⟩ | ⟨_, _, rfl, rfl, _⟩ | ⟨_, _, rfl, rfl⟩
  · rfl
  all_goals
    rcases actual with _ | a
    · rfl
    · cases a <;> rfl

include formed

theorem loosely_equal_alike_literal : looselyEqual actual b = looselyEqual actual c := by
  cases actual with
  | none => exact Json.alike_null b c same
  | some a =>
      have structural := Json.alike_right a b c formed same
      rcases Json.alike_shape b c same with
        rfl | ⟨m, n, rfl, rfl, _⟩ | ⟨_, _, rfl, rfl, _⟩ | ⟨_, _, rfl, rfl⟩
      · rfl
      · have numeric := relate_numbers_same_literal (some a) (.num m) (.num n)
          (Json.alike_numeric _ _ same) fun a b => a == b
        cases a <;> simp [looselyEqual, Json.isNull, Json.isCompound, structural, numeric]
      · simp [looselyEqual, structural, Json.isNull, Json.isCompound]
      · simp [looselyEqual, structural, Json.isNull, Json.isCompound]

theorem containment_alike_literal : containment? actual b = containment? actual c := by
  rcases actual with _ | a
  · rfl
  · cases a with
    | arr items =>
        have each : (fun item : Json => item.alike b) = fun item => item.alike c :=
          funext fun item => Json.alike_right item b c formed same
        simp only [containment?, each]
    | str text =>
        rcases Json.alike_shape b c same with
          rfl | ⟨_, _, rfl, rfl, _⟩ | ⟨_, _, rfl, rfl, _⟩ | ⟨_, _, rfl, rfl⟩ <;> rfl
    | _ => rfl

end Literal

namespace Comparison

theorem holds_alike (comparison : Comparison) (a b : Json) (literal : Json)
    (formed : a.WellFormed) (same : a.alike b = true) :
    comparison.holds (some a) literal = comparison.holds (some b) literal := by
  cases comparison <;>
    simp only [holds, loosely_equal_alike a b literal formed same,
      containment_alike a b literal formed same, relate_texts_alike a b literal same,
      relate_numbers_same a b literal (Json.alike_numeric a b same)]

theorem holds_alike_literal (comparison : Comparison) (actual : Option Json) (b c : Json)
    (formed : b.WellFormed) (same : b.alike c = true) :
    comparison.holds actual b = comparison.holds actual c := by
  cases comparison <;>
    simp only [holds, loosely_equal_alike_literal actual b c formed same,
      containment_alike_literal actual b c formed same,
      relate_texts_alike_literal actual b c same,
      relate_numbers_same_literal actual b c (Json.alike_numeric b c same)]

theorem holds_both_alike (comparison : Comparison) (a b : Option Json) (literal : Json)
    (formed : ∀ value, a = some value → value.WellFormed) (same : Json.BothAlike a b) :
    comparison.holds a literal = comparison.holds b literal := by
  cases same with
  | none => rfl
  | some same => exact holds_alike comparison _ _ literal (formed _ rfl) same

end Comparison

end RuleMatrix
