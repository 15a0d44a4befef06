import RuleMatrix.Comparison.Holds
import RuleMatrix.Proofs.Comparison.NumericText

set_option autoImplicit false

namespace RuleMatrix.Numeric

def words : List (List Char) := ["inf".toList, "infinity".toList, "nan".toList]

-- What stands in no string that counts as a number, white space around it apart.
structure Unadorned (core : List Char) : Prop where
  noBlank : ∀ c ∈ core, Text.isWhiteSpace c = false
  noUnderscore : '_' ∉ core
  noOtherWord : ∀ negative sign word, Signed negative sign → core = sign ++ word →
    word.map Char.toLower ∈ words → word = "Infinity".toList
  noUnit : ∀ d number unit, DecimalText d number → core = number ++ unit →
    (∀ entry ∈ radixMarks, ¬ entry.1 <+: core) →
      (∀ c ∈ unit, isDigitOf 10 c = false ∧ c ≠ '.') → unit = []
  noSignedRadix : ∀ mark base rest, (mark, base) ∈ radixMarks → ∀ sign ∈ ['+', '-'],
    core ≠ sign :: (mark ++ rest) ∧ core ≠ mark ++ sign :: rest

theorem word_unsigned (word : List Char) (listed : word.map Char.toLower ∈ words) :
    ∀ c ∈ word.head?, c ≠ '+' ∧ c ≠ '-' := by
  have each : ∀ w ∈ words, w.head? ≠ some '+' ∧ w.head? ≠ some '-' := by decide
  intro c first
  have lowered := each _ listed
  rw [List.head?_map, Option.mem_def.mp first] at lowered
  constructor
  · rintro rfl
    exact lowered.1 rfl
  · rintro rfl
    exact lowered.2 rfl

theorem word_has_n (word : List Char) (listed : word.map Char.toLower ∈ words) :
    'n' ∈ word ∨ 'N' ∈ word := by
  have each : ∀ w ∈ words, 'n' ∈ w := by decide
  obtain ⟨c, member, same⟩ := List.mem_map.mp (each _ listed)
  rcases lower_case_n c same with rfl | rfl
  · exact .inl member
  · exact .inr member

theorem numeric_word (core : List Char) (x : Numeric) (spelled : NumericText x core) (negative : Bool)
    (sign word : List Char) (signed : Signed negative sign) (whole : core = sign ++ word)
    (listed : word.map Char.toLower ∈ words) : word = "Infinity".toList := by
  have letter : 'n' ∈ core ∨ 'N' ∈ core :=
    (word_has_n word listed).imp (fun small => whole ▸ List.mem_append_right sign small)
      fun capital => whole ▸ List.mem_append_right sign capital
  cases spelled with
  | empty => rcases letter with small | capital <;> contradiction
  | radix mark base digits marked given fits =>
      have known := radix_chars mark base digits marked given
      rcases letter with small | capital
      · exact absurd (known 'n' small) (by decide)
      · exact absurd (known 'N' capital) (by decide)
  | decimal d cs decimal =>
      have literal := decimal_literal core d decimal
      rcases letter with small | capital
      · exact absurd (literal 'n' small) (by decide)
      · exact absurd (literal 'N' capital) (by decide)
  | infinite minus sign' signed' =>
      have here := sign_split negative sign word signed (word_unsigned word listed)
      have there := sign_split minus sign' "Infinity".toList signed' (word_unsigned _ (by decide))
      rw [← whole] at here
      exact congrArg Prod.snd (here.symm.trans there)

theorem numeric_without_unit (core : List Char) (x : Numeric) (spelled : NumericText x core)
    (d : Decimal) (number unit : List Char) (counted : DecimalText d number)
    (whole : core = number ++ unit) (unmarked : ∀ entry ∈ radixMarks, ¬ entry.1 <+: core)
    (other : ∀ c ∈ unit, isDigitOf 10 c = false ∧ c ≠ '.') : unit = [] := by
  cases spelled with
  | empty => exact (List.append_eq_nil_iff.mp whole.symm).2
  | infinite negative sign signed =>
      obtain ⟨c, member, digit⟩ := decimal_digit number d counted
      have none := infinity_without_digits negative sign signed c (whole ▸ List.mem_append_left unit member)
      exact absurd (none.symm.trans digit) Bool.false_ne_true
  | radix mark base digits marked => exact absurd (List.prefix_append mark digits) (unmarked _ marked)
  | decimal e cs decimal =>
      by_contra filled
      obtain ⟨c, last⟩ := Option.isSome_iff_exists.mp (List.getLast?_isSome.mpr (decimal_filled core e decimal))
      obtain ⟨figure, point⟩ := other c (last_behind number unit c filled (whole ▸ last))
      rcases decimal_ends core e decimal c last with digit | dot
      · exact Bool.false_ne_true (figure.symm.trans digit)
      · exact point dot

theorem numeric_no_sign_before (core : List Char) (x : Numeric) (spelled : NumericText x core)
    (mark : List Char) (base : Nat) (rest : List Char) (marked : (mark, base) ∈ radixMarks)
    (sign : Char) (signed : sign ∈ ['+', '-']) : core ≠ sign :: (mark ++ rest) := by
  intro whole
  have inside (c : Char) (member : c ∈ mark) : c ∈ core :=
    whole ▸ List.mem_cons_of_mem sign (List.mem_append_left rest member)
  cases spelled with
  | empty => cases whole
  | infinite negative sign' signed' =>
      have zero := inside '0' (List.mem_of_mem_head? (mark_zero mark base marked).2)
      exact absurd (infinity_without_digits negative sign' signed' '0' zero) (by decide)
  | radix mark' base' digits marked' =>
      have first := congrArg List.head? whole
      rw [List.head?_append, (mark_zero mark' base' marked').2, List.head?_cons] at first
      exact absurd (Option.some.inj first ▸ signed) (by decide)
  | decimal d cs decimal =>
      obtain ⟨letter, inMark, notLiteral⟩ := marks_not_literal mark base marked
      have literal := decimal_literal core d decimal letter (inside letter inMark)
      exact Bool.false_ne_true (notLiteral.symm.trans literal)

theorem numeric_no_sign_behind (core : List Char) (x : Numeric) (spelled : NumericText x core)
    (mark : List Char) (base : Nat) (rest : List Char) (marked : (mark, base) ∈ radixMarks)
    (sign : Char) (signed : sign ∈ ['+', '-']) : core ≠ mark ++ sign :: rest := by
  rintro rfl
  obtain ⟨given, _⟩ := (marked_iff mark base (sign :: rest) marked).mp ⟨x, spelled⟩
  have digit := given.each sign List.mem_cons_self
  obtain ⟨plus, minus⟩ := digit_no_sign base (radix_base mark base marked) sign digit
  simp [plus, minus] at signed

theorem numeric_unadorned (core : List Char) (x : Numeric) (spelled : NumericText x core) :
    Unadorned core where
  noBlank := fun c member => (numeric_chars core x spelled c member).1
  noUnderscore := fun member => (numeric_chars core x spelled '_' member).2 rfl
  noOtherWord := numeric_word core x spelled
  noUnit := numeric_without_unit core x spelled
  noSignedRadix := fun mark base rest marked sign signed =>
    ⟨numeric_no_sign_before core x spelled mark base rest marked sign signed,
      numeric_no_sign_behind core x spelled mark base rest marked sign signed⟩

theorem strings_counted_by_grammar (s : String) (core : List Char)
    (trimmed : Text.Trimmed s.toList core) :
    ((∀ entry ∈ radixMarks, ¬ entry.1 <+: core) →
      ((Json.str s).toNumeric?.isSome = true ↔
        core = [] ∨ core ∈ ["Infinity".toList, "+Infinity".toList, "-Infinity".toList] ∨
          ∃ d, DecimalText d core)) ∧
    (∀ mark base digits, (mark, base) ∈ radixMarks → core = mark ++ digits →
      ((Json.str s).toNumeric?.isSome = true ↔
        DigitsOf base digits ∧ ofDigits base digits < twoPow 64)) ∧
    ((Json.str s).toNumeric?.isSome = true → Unadorned core) ∧
    Comparison.atMost.holds (some (.str s)) (.str s) = (Json.str s).toNumeric?.isSome := by
  have counted : (Json.str s).toNumeric?.isSome = true ↔ ∃ x, NumericText x core := by
    simp only [Option.isSome_iff_exists, string_iff s core trimmed]
  refine ⟨?_, ?_, ?_, ?_⟩
  · intro unmarked
    rw [counted]
    exact unmarked_iff core unmarked
  · rintro mark base digits marked rfl
    rw [counted]
    exact marked_iff mark base digits marked
  · intro some
    obtain ⟨x, spelled⟩ := counted.mp some
    exact numeric_unadorned core x spelled
  · -- A value that were no number would not be at most itself.
    change relateNumbers le _ _ = _
    rw [relateNumbers, Option.bind_some]
    cases (Json.str s).toNumeric? with
    | none => rfl
    | some x => simp [le]

theorem half_a_hundred_counted_and_signed_radix_not :
    (Json.str "\u3000-.5E+2\t").toNumeric?.isSome = true ∧
      Unadorned "-.5E+2".toList ∧
      (Json.str " 0XfF\n").toNumeric?.isSome = true ∧
      (Json.str "0x+1").toNumeric?.isSome = false := by
  obtain ⟨unmarked, _, unadorned, _⟩ := strings_counted_by_grammar "\u3000-.5E+2\t" "-.5E+2".toList
    ((Text.trim_iff _ _).mp (by decide))
  obtain ⟨_, capital, _, _⟩ := strings_counted_by_grammar " 0XfF\n" "0XfF".toList
    ((Text.trim_iff _ _).mp (by decide))
  obtain ⟨_, signed, _, _⟩ := strings_counted_by_grammar "0x+1" "0x+1".toList
    ((Text.trim_iff _ _).mp (by decide))
  have half : (Json.str "\u3000-.5E+2\t").toNumeric?.isSome = true :=
    (unmarked (by decide)).mpr (.inr (.inr ⟨_, (decimal_iff _ ⟨true, 5, 1⟩).mp (by decide)⟩))
  refine ⟨half, unadorned half, ?_, ?_⟩
  · exact (capital ['0', 'X'] 16 "fF".toList (by decide) rfl).mpr
      ⟨⟨by decide, List.all_eq_true.mp (by decide)⟩, by decide⟩
  · rw [Bool.eq_false_iff]
    intro counted
    have digits := (signed ['0', 'x'] 16 "+1".toList (by decide) rfl).mp counted
    exact absurd (digits.1.each '+' (by decide)) (by decide)

end RuleMatrix.Numeric
