import RuleMatrix.Proofs.Comparison.Alike

set_option autoImplicit false

namespace RuleMatrix

namespace Json

def Kind.Convertible (kind : Kind) : Prop :=
  kind = .number ∨ kind = .string ∨ kind = .boolean

theorem convertible_iff (kind : Kind) :
    kind.Convertible ↔ kind ∉ [Kind.null, .array, .object] := by
  cases kind <;> simp [Kind.Convertible]

def Mixed (a b : Json) : Prop := a.kind ≠ b.kind ∧ a.kind.Convertible ∧ b.kind.Convertible

theorem mixed_symmetric (a b : Json) (mixed : Mixed a b) : Mixed b a :=
  ⟨mixed.1.symm, mixed.2.2, mixed.2.1⟩

theorem convertible_simple (a : Json) (convertible : a.kind.Convertible) :
    a.isNull = false ∧ a.isCompound = false := by
  cases a with
  | num m => exact ⟨rfl, rfl⟩
  | str s => exact ⟨rfl, rfl⟩
  | bool p => exact ⟨rfl, rfl⟩
  | _ => rcases convertible with kind | kind | kind <;> cases kind

theorem alike_kind (a b : Json) (same : a.alike b = true) : a.kind = b.kind := by
  rcases alike_shape a b same with
    rfl | ⟨_, _, rfl, rfl, _⟩ | ⟨_, _, rfl, rfl, _⟩ | ⟨_, _, rfl, rfl⟩ <;> rfl

end Json

theorem Numeric.finite_same_iff (a b : Int) : (finite a == finite b) = true ↔ a = b := by
  rw [beq_iff_eq, finite.injEq]

theorem numbers_loosely_equal (m n : Number) :
    looselyEqual (some (.num m)) (.num n) = Json.alike (.num m) (.num n) := by
  rw [Bool.eq_iff_iff]
  exact (Numeric.finite_same_iff m.value n.value).trans beq_iff_eq.symm

-- Of the pairs of a number, a string and a boolean only those of one kind are left.
theorem loosely_equal_unmixed (a b : Json) (unmixed : ¬ Json.Mixed a b) :
    looselyEqual (some a) b = a.alike b := by
  cases a with
  | null => cases b <;> rfl
  | arr xs => cases b <;> rfl
  | obj xs => cases b <;> rfl
  | num m =>
      cases b with
      | num n => exact numbers_loosely_equal m n
      | str t => exact absurd ⟨nofun, .inl rfl, .inr (.inl rfl)⟩ unmixed
      | bool q => exact absurd ⟨nofun, .inl rfl, .inr (.inr rfl)⟩ unmixed
      | _ => rfl
  | str s =>
      cases b with
      | num n => exact absurd ⟨nofun, .inr (.inl rfl), .inl rfl⟩ unmixed
      | bool q => exact absurd ⟨nofun, .inr (.inl rfl), .inr (.inr rfl)⟩ unmixed
      | _ => rfl
  | bool p =>
      cases b with
      | num n => exact absurd ⟨nofun, .inr (.inr rfl), .inl rfl⟩ unmixed
      | str t => exact absurd ⟨nofun, .inr (.inr rfl), .inr (.inl rfl)⟩ unmixed
      | _ => rfl

theorem relate_numbers_iff (relation : Numeric → Numeric → Bool) (a b : Json) :
    relateNumbers relation (some a) b = true ↔
      ∃ x y, a.toNumeric? = some x ∧ b.toNumeric? = some y ∧ relation x y = true := by
  rw [relateNumbers, Option.bind_some]
  cases a.toNumeric? with
  | none => simp
  | some x =>
      cases b.toNumeric? with
      | none => simp
      | some y => simp

theorem loosely_equal_mixed (a b : Json) (mixed : Json.Mixed a b) :
    looselyEqual (some a) b = true ↔
      ∃ number, a.toNumeric? = some number ∧ b.toNumeric? = some number := by
  obtain ⟨different, here, there⟩ := mixed
  obtain ⟨notNull, simple⟩ := Json.convertible_simple a here
  obtain ⟨otherNotNull, otherSimple⟩ := Json.convertible_simple b there
  have counted : looselyEqual (some a) b = relateNumbers (fun x y => x == y) (some a) b := by
    simp only [looselyEqual, notNull, otherNotNull, simple, otherSimple, Bool.or_false,
      Bool.false_eq_true, if_false]
    split
    · exact absurd rfl different
    · exact absurd rfl different
    · rfl
  rw [counted, relate_numbers_iff]
  constructor
  · rintro ⟨x, y, first, second, equal⟩
    obtain rfl := beq_iff_eq.mp equal
    exact ⟨x, first, second⟩
  · rintro ⟨number, first, second⟩
    exact ⟨number, number, first, second, beq_self_eq_true number⟩

theorem loosely_equal_symmetric (a b : Json) (formed : a.WellFormed) (other : b.WellFormed) :
    looselyEqual (some a) b = looselyEqual (some b) a := by
  by_cases mixed : Json.Mixed a b
  · rw [Bool.eq_iff_iff, loosely_equal_mixed a b mixed,
      loosely_equal_mixed b a (Json.mixed_symmetric a b mixed)]
    simp only [and_comm]
  · have unmixed : ¬ Json.Mixed b a := fun turned => mixed (Json.mixed_symmetric b a turned)
    rw [loosely_equal_unmixed a b mixed, loosely_equal_unmixed b a unmixed, Bool.eq_iff_iff]
    exact ⟨Json.alike_symmetric a b formed, Json.alike_symmetric b a other⟩

theorem loosely_equal_of_alike (a b : Json) (same : a.alike b = true) :
    looselyEqual (some a) b = true := by
  have unmixed : ¬ Json.Mixed a b := fun mixed => mixed.1 (Json.alike_kind a b same)
  rw [loosely_equal_unmixed a b unmixed]
  exact same

theorem null_loosely_equal (b : Json) : looselyEqual (some .null) b = b.isNull := by
  cases b <;> rfl

theorem loose_equality_extends_likeness (a b : Json) (formed : a.WellFormed)
    (other : b.WellFormed) :
    looselyEqual (some a) a = true ∧
      looselyEqual (some a) b = looselyEqual (some b) a ∧
      (a.alike b = true → looselyEqual (some a) b = true) ∧
      (a.kind = b.kind ∨ a.kind ∈ [Json.Kind.null, .array, .object] ∨
        b.kind ∈ [Json.Kind.null, .array, .object] → looselyEqual (some a) b = a.alike b) ∧
      (looselyEqual (some a) b ≠ a.alike b → Json.Mixed a b) ∧
      (Json.Mixed a b → (looselyEqual (some a) b = true ↔
        ∃ number, a.toNumeric? = some number ∧ b.toNumeric? = some number)) ∧
      looselyEqual none b = b.isNull ∧ looselyEqual (some .null) b = b.isNull := by
  have itself := loosely_equal_of_alike a a (Json.alike_reflexive a formed)
  refine ⟨itself, loosely_equal_symmetric a b formed other, loosely_equal_of_alike a b, ?_, ?_,
    loosely_equal_mixed a b, rfl, null_loosely_equal b⟩
  · intro apart
    apply loosely_equal_unmixed
    rintro ⟨different, here, there⟩
    rcases apart with same | left | right
    · exact different same
    · exact (Json.convertible_iff a.kind).mp here left
    · exact (Json.convertible_iff b.kind).mp there right
  · intro differ
    by_contra unmixed
    exact differ (loosely_equal_unmixed a b unmixed)

def flagAndName : Json := .obj [("flag", .bool true), ("name", .str "x")]

def nameAndFlag : Json := .obj [("name", .str "x"), ("flag", .bool true)]

theorem reordered_and_mixed_equal :
    flagAndName.WellFormed ∧ nameAndFlag.WellFormed ∧ flagAndName ≠ nameAndFlag ∧
      looselyEqual (some flagAndName) nameAndFlag = true ∧
      looselyEqual (some nameAndFlag) flagAndName = true ∧
      looselyEqual (some (.bool true)) (.num (.int 1 (by decide))) = true ∧
      looselyEqual (some (.num (.int 1 (by decide)))) (.bool true) = true ∧
      looselyEqual (some (.bool true)) .null = Json.alike (.bool true) .null := by
  have formed : flagAndName.WellFormed := by
    simp [flagAndName, Json.WellFormed, Json.WellFormedFields, Fields.Distinct, Fields.keys]
  have other : nameAndFlag.WellFormed := by
    simp [nameAndFlag, Json.WellFormed, Json.WellFormedFields, Fields.Distinct, Fields.keys]
  have orders : flagAndName ≠ nameAndFlag := by simp [flagAndName, nameAndFlag]
  have mixed : Json.Mixed (.bool true) (.num (.int 1 (by decide))) :=
    ⟨by decide, .inr (.inr rfl), .inl rfl⟩
  obtain ⟨_, back, kept, _⟩ := loose_equality_extends_likeness flagAndName nameAndFlag formed other
  obtain ⟨_, turned, _, _, _, counted, _⟩ := loose_equality_extends_likeness (.bool true)
    (.num (.int 1 (by decide))) trivial trivial
  obtain ⟨_, _, _, apart, _⟩ := loose_equality_extends_likeness (.bool true) .null trivial trivial
  have same : looselyEqual (some flagAndName) nameAndFlag = true := kept (by decide +kernel)
  have equal : looselyEqual (some (.bool true)) (.num (.int 1 (by decide))) = true :=
    (counted mixed).mpr ⟨Numeric.ofNat 1, rfl, by decide +kernel⟩
  exact ⟨formed, other, orders, same, back.symm.trans same, equal, turned.symm.trans equal,
    apart (.inr (.inr (by simp [Json.kind])))⟩

end RuleMatrix
