import Mathlib.Data.Int.ConditionallyCompleteOrder
import Mathlib.Order.ConditionallyCompleteLattice.Basic
import RuleMatrix.Proofs.Comparison.LooseEquality

set_option autoImplicit false

namespace RuleMatrix

namespace Numeric

def place : Numeric → WithBot (WithTop Int)
  | .negInfinity => ⊥
  | .finite units => WithBot.some (WithTop.some units)
  | .infinity => WithBot.some ⊤

theorem place_injective (x y : Numeric) (same : x.place = y.place) : x = y := by
  cases x <;> cases y <;> simp_all [place]

theorem lt_iff_place (x y : Numeric) : lt x y = true ↔ x.place < y.place := by
  cases x with
  | finite m =>
      cases y with
      | infinity => exact iff_of_true rfl (WithBot.coe_lt_coe.mpr (WithTop.coe_lt_top m))
      | _ => simp [lt, place]
  | _ => cases y <;> simp [lt, place]

theorem le_iff_place (x y : Numeric) : le x y = true ↔ x.place ≤ y.place := by
  rw [le, Bool.or_eq_true, lt_iff_place, beq_iff_eq, le_iff_lt_or_eq]
  exact or_congr_right ⟨fun same => congrArg place same, place_injective x y⟩

theorem le_not_lt (x y : Numeric) : le x y = !lt y x := by
  rw [Bool.eq_iff_iff, le_iff_place, Bool.not_eq_true', ← Bool.not_eq_true, lt_iff_place, not_lt]

theorem equal_iff_le (x y : Numeric) : x = y ↔ le x y = true ∧ le y x = true := by
  rw [le_iff_place, le_iff_place, ← le_antisymm_iff]
  exact ⟨fun same => congrArg place same, place_injective x y⟩

theorem one_of_three (x y : Numeric) : [lt x y, lt y x, le x y && le y x].count true = 1 := by
  rw [le_not_lt, le_not_lt]
  cases below : lt x y with
  | false => cases lt y x <;> rfl
  | true =>
      have above : lt y x = false := by
        rw [Bool.eq_false_iff, ne_eq, lt_iff_place]
        exact ((lt_iff_place x y).mp below).asymm
      rw [above]
      rfl

end Numeric

theorem related_nowhere (relation : Numeric → Numeric → Bool) (actual : Option Json)
    (literal : Json) (uncounted : actual.bind Json.toNumeric? = none ∨ literal.toNumeric? = none) :
    relateNumbers relation actual literal = false := by
  rw [relateNumbers]
  rcases uncounted with none | none
  · rw [none]
  · rw [none]
    cases actual.bind Json.toNumeric? <;> rfl

theorem related_counted (relation : Numeric → Numeric → Bool) (a b : Json) (x y : Numeric)
    (left : a.toNumeric? = some x) (right : b.toNumeric? = some y) :
    relateNumbers relation (some a) b = relation x y := by
  rw [relateNumbers, Option.bind_some, left, right]

theorem related_exchanged (relation : Numeric → Numeric → Bool) (a b : Json) :
    relateNumbers relation (some a) b = relateNumbers (fun x y => relation y x) (some b) a := by
  rw [relateNumbers, relateNumbers, Option.bind_some, Option.bind_some]
  cases a.toNumeric? <;> cases b.toNumeric? <;> rfl

theorem related_transitive (relation : Numeric → Numeric → Bool) (a b c : Json)
    (transitive : ∀ x y z, relation x y = true → relation y z = true → relation x z = true)
    (first : relateNumbers relation (some a) b = true)
    (second : relateNumbers relation (some b) c = true) :
    relateNumbers relation (some a) c = true := by
  obtain ⟨x, y, left, middle, below⟩ := (relate_numbers_iff relation a b).mp first
  obtain ⟨y', z, again, right, above⟩ := (relate_numbers_iff relation b c).mp second
  obtain rfl : y = y' := Option.some.inj (middle.symm.trans again)
  exact (relate_numbers_iff relation a c).mpr ⟨x, z, left, right, transitive x y z below above⟩

-- Of numbers, strings and booleans only two strings and two booleans are not compared as numbers.
theorem equal_as_numbers (a b : Json) (here : a.kind.Convertible) (there : b.kind.Convertible)
    (strings : ¬ (a.kind = .string ∧ b.kind = .string))
    (booleans : ¬ (a.kind = .boolean ∧ b.kind = .boolean)) :
    looselyEqual (some a) b = true ↔
      ∃ number, a.toNumeric? = some number ∧ b.toNumeric? = some number := by
  by_cases mixed : Json.Mixed a b
  · exact loosely_equal_mixed a b mixed
  · have same : a.kind = b.kind := by
      by_contra different
      exact mixed ⟨different, here, there⟩
    cases a with
    | num m =>
        cases b with
        | num n =>
            rw [numbers_loosely_equal]
            change (m.value == n.value) = true ↔ _
            rw [beq_iff_eq]
            constructor
            · intro equal
              refine ⟨.finite m.value, rfl, ?_⟩
              rw [equal]
              rfl
            · rintro ⟨number, left, right⟩
              exact Numeric.finite.inj (Option.some.inj (left.trans right.symm))
        | _ => cases same
    | str s => exact absurd ⟨rfl, same.symm⟩ strings
    | bool p => exact absurd ⟨rfl, same.symm⟩ booleans
    | _ => rcases here with kind | kind | kind <;> cases kind

namespace Comparison

def orderings : List Comparison := [.greater, .atLeast, .less, .atMost]

def exchanged : Comparison → Comparison
  | .greater => .less
  | .atLeast => .atMost
  | .less => .greater
  | .atMost => .atLeast
  | other => other

theorem ordering_relates (comparison : Comparison) (ordering : comparison ∈ orderings) :
    ∃ relation, ∀ actual literal,
      comparison.holds actual literal = relateNumbers relation actual literal := by
  simp only [orderings, List.mem_cons, List.not_mem_nil, or_false] at ordering
  rcases ordering with rfl | rfl | rfl | rfl <;> exact ⟨_, fun _ _ => rfl⟩

theorem holds_exchanged (comparison : Comparison) (a b : Json) (ordering : comparison ∈ orderings) :
    comparison.holds (some a) b = comparison.exchanged.holds (some b) a := by
  simp only [orderings, List.mem_cons, List.not_mem_nil, or_false] at ordering
  rcases ordering with rfl | rfl | rfl | rfl <;> exact related_exchanged _ a b

theorem orderings_are_one_total_order (a b c : Json) :
    (∀ comparison ∈ orderings, ∀ actual : Option Json,
      actual.bind Json.toNumeric? = none ∨ b.toNumeric? = none →
        comparison.holds actual b = false) ∧
    (∀ x y, a.toNumeric? = some x → b.toNumeric? = some y →
      (less.holds (some a) b = true ↔ x.place < y.place) ∧
      [less.holds (some a) b, greater.holds (some a) b,
        atMost.holds (some a) b && atLeast.holds (some a) b].count true = 1 ∧
      atMost.holds (some a) b = !greater.holds (some a) b ∧
      atLeast.holds (some a) b = !less.holds (some a) b) ∧
    (∀ comparison ∈ orderings,
      comparison.holds (some a) b = comparison.exchanged.holds (some b) a) ∧
    (less.holds (some a) b = true → less.holds (some b) c = true →
      less.holds (some a) c = true) ∧
    (atMost.holds (some a) b = true → atMost.holds (some b) c = true →
      atMost.holds (some a) c = true) ∧
    (a.kind.Convertible → b.kind.Convertible → ¬ (a.kind = .string ∧ b.kind = .string) →
      ¬ (a.kind = .boolean ∧ b.kind = .boolean) →
        (equal.holds (some a) b = true ↔
          atMost.holds (some a) b = true ∧ atLeast.holds (some a) b = true)) := by
  refine ⟨?_, ?_, fun comparison => holds_exchanged comparison a b, ?_, ?_, ?_⟩
  · intro comparison ordering actual uncounted
    obtain ⟨relation, relates⟩ := ordering_relates comparison ordering
    rw [relates]
    exact related_nowhere relation actual b uncounted
  · intro x y left right
    simp only [holds, related_counted _ a b x y left right]
    exact ⟨Numeric.lt_iff_place x y, Numeric.one_of_three x y, Numeric.le_not_lt x y,
      Numeric.le_not_lt y x⟩
  · apply related_transitive
    simp only [Numeric.lt_iff_place]
    exact fun x y z => lt_trans
  · apply related_transitive
    simp only [Numeric.le_iff_place]
    exact fun x y z => le_trans
  · intro here there strings booleans
    have counted := equal_as_numbers a b here there strings booleans
    simp only [holds, relate_numbers_iff]
    rw [counted]
    constructor
    · rintro ⟨number, left, right⟩
      obtain ⟨most, least⟩ := (Numeric.equal_iff_le number number).mp rfl
      exact ⟨⟨number, number, left, right, most⟩, number, number, left, right, least⟩
    · rintro ⟨⟨x, y, left, right, most⟩, x', y', left', right', least⟩
      obtain rfl : x = x' := Option.some.inj (left.symm.trans left')
      obtain rfl : y = y' := Option.some.inj (right.symm.trans right')
      obtain rfl := (Numeric.equal_iff_le x y).mpr ⟨most, least⟩
      exact ⟨x, left, right⟩

theorem false_below_one_below_infinity :
    greater.holds none (.num (.int 1 (by decide))) = false ∧
      greater.holds (some (.bool false)) (.num (.int 1 (by decide))) = false ∧
      less.holds (some (.bool false)) (.num (.int 1 (by decide))) = true ∧
      less.holds (some (.bool false)) (.str "Infinity") = true ∧
      atMost.holds (some (.bool false)) (.str "Infinity") = true ∧
      equal.holds (some (.bool false)) (.num (.int 1 (by decide))) = false := by
  obtain ⟨uncounted, counted, exchanged, lessChain, mostChain, equality⟩ :=
    orderings_are_one_total_order (.bool false) (.num (.int 1 (by decide))) (.str "Infinity")
  have below : less.holds (some (.bool false)) (.num (.int 1 (by decide))) = true := by
    decide +kernel
  obtain ⟨_, _, _, least⟩ := counted _ _ rfl rfl
  rw [below] at least
  refine ⟨uncounted greater (by decide) none (.inl rfl), ?_, below, ?_, ?_, ?_⟩
  · rw [exchanged greater (by decide)]
    decide +kernel
  · exact lessChain below (by decide +kernel)
  · exact mostChain (by decide +kernel) (by decide +kernel)
  · rw [Bool.eq_false_iff]
    intro equal
    have both := (equality (.inr (.inr rfl)) (.inl rfl) (by decide) (by decide)).mp equal
    exact Bool.false_ne_true (least.symm.trans both.2)

end Comparison

end RuleMatrix
