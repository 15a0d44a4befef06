import RuleMatrix.Proofs.Binary64.Rounding
import RuleMatrix.Proofs.Comparison.LooseEquality

set_option autoImplicit false

namespace RuleMatrix

namespace Number

def counted (n : Int) : Int := n.sign * Binary64.rounded n.natAbs 1

theorem value_counted (n : Int) (fits : InWord n) :
    (Number.int n fits).value = counted n * Binary64.one := by
  have scaled := Binary64.rounded_shifted n.natAbs 1074
  rw [value, counted, Binary64.one, scaled, Int.natCast_mul, Int.mul_assoc]

theorem counted_negated (n : Int) : counted (-n) = -counted n := by
  rw [counted, counted, Int.sign_neg, Int.natAbs_neg, Int.neg_mul]

theorem counted_natural (n : Nat) : counted n = Binary64.rounded n 1 := by
  by_cases zero : n = 0
  · have none := Binary64.rounded_of_significant 0 (Binary64.small_significant 0 (Nat.zero_le _))
    rw [zero, none]
    rfl
  · rw [counted, Int.sign_natCast_of_ne_zero zero, Int.natAbs_natCast, Int.one_mul]

theorem counted_magnitude (n : Int) : (counted n).natAbs = Binary64.rounded n.natAbs 1 := by
  obtain ⟨a, rfl | rfl⟩ := n.eq_nat_or_neg
  · rw [counted_natural, Int.natAbs_natCast, Int.natAbs_natCast]
  · rw [counted_negated, counted_natural, Int.natAbs_neg, Int.natAbs_neg, Int.natAbs_natCast,
      Int.natAbs_natCast]

theorem counted_significant (n : Int) : Binary64.Significant (counted n).natAbs := by
  rw [counted_magnitude]
  exact Binary64.rounded_significant n.natAbs

theorem counted_nearest (n other : Int) (fits : Binary64.Significant other.natAbs) :
    (n - counted n).natAbs ≤ (n - other).natAbs := by
  obtain ⟨a, side⟩ := n.eq_nat_or_neg
  have zero := Binary64.rounded_nearest a 0 (Binary64.small_significant 0 (Nat.zero_le _))
  have nearest := Binary64.rounded_nearest a other.natAbs fits
  rcases side with rfl | rfl
  · rw [counted_natural]
    omega
  · rw [counted_negated, counted_natural]
    omega

theorem counted_exact (n : Int) (small : n.natAbs ≤ twoPow 53) : counted n = n := by
  have itself := counted_nearest n n (Binary64.small_significant n.natAbs small)
  omega

theorem counted_monotone (m n : Int) (less : m ≤ n) : counted m ≤ counted n := by
  obtain ⟨a, rfl | rfl⟩ := m.eq_nat_or_neg
  · obtain ⟨b, rfl | rfl⟩ := n.eq_nat_or_neg
    · have kept := Binary64.rounded_monotone a b (by omega)
      rw [counted_natural, counted_natural]
      omega
    · have same : (a : Int) = -b := by omega
      rw [same]
  · obtain ⟨b, rfl | rfl⟩ := n.eq_nat_or_neg
    · rw [counted_negated, counted_natural, counted_natural]
      omega
    · have kept := Binary64.rounded_monotone b a (by omega)
      rw [counted_negated, counted_negated, counted_natural, counted_natural]
      omega

-- Beyond `2 ^ 53` a number counts as one that is no smaller than that.
theorem counted_apart (m n : Int) (small : m.natAbs < twoPow 53) (same : counted m = counted n) :
    m = n := by
  have exact := counted_exact m (Nat.le_of_lt small)
  by_cases other : n.natAbs ≤ twoPow 53
  · rw [← exact, same, counted_exact n other]
  · have limit := Binary64.rounded_of_significant _ (Binary64.small_significant _ (Nat.le_refl _))
    have kept := Binary64.rounded_monotone (twoPow 53) n.natAbs (by omega)
    rw [← counted_magnitude, limit, ← same, exact] at kept
    omega

end Number

structure ComparesAs (actual literal : Json) (a b : Int) : Prop where
  equal : Comparison.equal.holds (some actual) literal = true ↔ a = b
  notEqual : Comparison.notEqual.holds (some actual) literal = true ↔ a ≠ b
  greater : Comparison.greater.holds (some actual) literal = true ↔ a > b
  atLeast : Comparison.atLeast.holds (some actual) literal = true ↔ a ≥ b
  less : Comparison.less.holds (some actual) literal = true ↔ a < b
  atMost : Comparison.atMost.holds (some actual) literal = true ↔ a ≤ b

namespace Numeric

theorem finite_lt_iff (a b : Int) : lt (.finite a) (.finite b) = true ↔ a < b :=
  decide_eq_true_iff

theorem finite_le_iff (a b : Int) : le (.finite a) (.finite b) = true ↔ a ≤ b := by
  rw [le, Bool.or_eq_true, finite_lt_iff, finite_same_iff]
  omega

end Numeric

theorem numbers_compare (m n : Number) : ComparesAs (.num m) (.num n) m.value n.value where
  equal := Numeric.finite_same_iff m.value n.value
  notEqual := by
    change (!Comparison.equal.holds (some (.num m)) (.num n)) = true ↔ _
    rw [Bool.not_eq_true', ← Bool.not_eq_true]
    exact not_congr (Numeric.finite_same_iff m.value n.value)
  greater := Numeric.finite_lt_iff n.value m.value
  atLeast := Numeric.finite_le_iff n.value m.value
  less := Numeric.finite_lt_iff m.value n.value
  atMost := Numeric.finite_le_iff m.value n.value

theorem compares_reordered (actual literal : Json) (a b c d : Int)
    (compares : ComparesAs actual literal a b) (less : a < b ↔ c < d) (greater : b < a ↔ d < c) :
    ComparesAs actual literal c d where
  equal := compares.equal.trans (by omega)
  notEqual := compares.notEqual.trans (by omega)
  greater := compares.greater.trans (by omega)
  atLeast := compares.atLeast.trans (by omega)
  less := compares.less.trans (by omega)
  atMost := compares.atMost.trans (by omega)

theorem whole_values_compare (m n : Int) (fits : InWord m) (other : InWord n) :
    ComparesAs (.num (.int m fits)) (.num (.int n other)) (Number.counted m) (Number.counted n) := by
  have positive : (0 : Int) < Binary64.one := Int.natCast_pos.mpr (twoPow_pos 1074)
  have compares := numbers_compare (.int m fits) (.int n other)
  rw [Number.value_counted, Number.value_counted] at compares
  apply compares_reordered _ _ _ _ _ _ compares
  · exact Int.mul_lt_mul_right positive
  · exact Int.mul_lt_mul_right positive

def wholeItems (items : List { k : Int // InWord k }) : Json :=
  .arr (items.map fun item => .num (.int item.1 item.2))

theorem whole_items_contain_iff (items : List { k : Int // InWord k }) (n : Int)
    (fits : InWord n) :
    Comparison.contains.holds (some (wholeItems items)) (.num (.int n fits)) = true ↔
      ∃ item ∈ items, Number.counted item.1 = Number.counted n := by
  change ((items.map fun item => Json.num (.int item.1 item.2)).any
    fun item => item.alike (.num (.int n fits))) = true ↔ _
  rw [List.any_map, List.any_eq_true]
  have each (item : { k : Int // InWord k }) :
      Json.alike (.num (.int item.1 item.2)) (.num (.int n fits)) = true ↔
        Number.counted item.1 = Number.counted n := by
    rw [← numbers_loosely_equal]
    exact (whole_values_compare item.1 n item.2 fits).equal
  simp only [Function.comp_apply, each]

theorem whole_numbers_compare_as_counted (m n : Int) (fits : InWord m) (other : InWord n) :
    ComparesAs (.num (.int m fits)) (.num (.int n other)) (Number.counted m) (Number.counted n) ∧
      ((Number.counted m = Number.counted n → m = n) →
        ComparesAs (.num (.int m fits)) (.num (.int n other)) m n) ∧
      (Number.counted m = Number.counted n → m ≠ n →
        twoPow 53 ≤ m.natAbs ∧ twoPow 53 ≤ n.natAbs) ∧
      (∀ items, Comparison.contains.holds (some (wholeItems items)) (.num (.int n other)) = true ↔
        ∃ item ∈ items, Number.counted item.1 = Number.counted n) ∧
      Binary64.Significant (Number.counted n).natAbs ∧
      ∀ k : Int, Binary64.Significant k.natAbs → (n - Number.counted n).natAbs ≤ (n - k).natAbs := by
  have compares := whole_values_compare m n fits other
  refine ⟨compares, ?_, ?_, fun items => whole_items_contain_iff items n other,
    Number.counted_significant n, Number.counted_nearest n⟩
  · intro told
    have upward := Number.counted_monotone m n
    have downward := Number.counted_monotone n m
    apply compares_reordered _ _ _ _ _ _ compares
    · omega
    · omega
  · intro same different
    constructor
    · by_contra small
      exact different (Number.counted_apart m n (by omega) same)
    · by_contra small
      exact different (Number.counted_apart n m (by omega) same.symm).symm

theorem odd_neighbour_not_told_apart :
    ¬ ComparesAs (.num (.int 9007199254740993 (by decide)))
        (.num (.int 9007199254740992 (by decide))) 9007199254740993 9007199254740992 ∧
      Comparison.contains.holds (some (.arr [.num (.int 9007199254740993 (by decide))]))
        (.num (.int 9007199254740992 (by decide))) = true := by
  have equal : Comparison.equal.holds (some (.num (.int 9007199254740993 (by decide))))
      (.num (.int 9007199254740992 (by decide))) = true := by decide +kernel
  refine ⟨?_, by decide +kernel⟩
  intro compares
  exact absurd (compares.equal.mp equal) (by decide)

theorem even_neighbour_told_apart :
    Comparison.greater.holds (some (.num (.int 9007199254740994 (by decide))))
        (.num (.int 9007199254740992 (by decide))) = true ∧
      Comparison.equal.holds (some (.num (.int 9007199254740994 (by decide))))
        (.num (.int 9007199254740992 (by decide))) = false ∧
      Comparison.contains.holds (some (wholeItems [⟨9007199254740993, by decide⟩]))
        (.num (.int 9007199254740992 (by decide))) = true := by
  obtain ⟨_, exact, _, contains, _⟩ := whole_numbers_compare_as_counted 9007199254740994
    9007199254740992 (by decide) (by decide)
  have compares := exact fun same => absurd same (by decide +kernel)
  refine ⟨compares.greater.mpr (by decide), ?_, ?_⟩
  · rw [Bool.eq_false_iff]
    exact fun equal => absurd (compares.equal.mp equal) (by decide)
  · exact (contains _).mpr ⟨_, List.mem_singleton_self _, by decide +kernel⟩

end RuleMatrix
