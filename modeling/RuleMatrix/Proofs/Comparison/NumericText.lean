import RuleMatrix.Proofs.Comparison.DecimalText
import RuleMatrix.Proofs.Text.Blank

set_option autoImplicit false

namespace RuleMatrix.Numeric

def radixMarks : List (List Char × Nat) :=
  [(['0', 'x'], 16), (['0', 'X'], 16), (['0', 'o'], 8), (['0', 'O'], 8), (['0', 'b'], 2),
    (['0', 'B'], 2)]

inductive NumericText : Numeric → List Char → Prop where
  | empty : NumericText zero []
  | infinite (negative : Bool) (sign : List Char) (signed : Signed negative sign) :
      NumericText (if negative then .negInfinity else .infinity) (sign ++ "Infinity".toList)
  | radix (mark : List Char) (base : Nat) (digits : List Char) (marked : (mark, base) ∈ radixMarks)
      (given : DigitsOf base digits) (fits : ofDigits base digits < twoPow 64) :
      NumericText (ofNat (ofDigits base digits)) (mark ++ digits)
  | decimal (d : Decimal) (cs : List Char) (spelled : DecimalText d cs) : NumericText (ofDecimal d) cs

theorem literal_codes (c : Char) (literal : isLiteralChar c = true) :
    (43 ≤ c.toNat ∧ c.toNat ≤ 57) ∨ c = 'e' ∨ c = 'E' := by
  rw [isLiteralChar, Bool.or_eq_true] at literal
  rcases literal with digit | listed
  · have codes := decimal_digit_codes c digit
    exact .inl (by omega)
  · rw [List.contains_iff_mem] at listed
    simp only [List.mem_cons, List.not_mem_nil, or_false] at listed
    rcases listed with rfl | rfl | rfl | rfl | rfl
    · exact .inl (by decide)
    · exact .inr (.inl rfl)
    · exact .inr (.inr rfl)
    · exact .inl (by decide)
    · exact .inl (by decide)

theorem lower_case_n (c : Char) (same : c.toLower = 'n') : c = 'n' ∨ c = 'N' := by
  unfold Char.toLower at same
  split at same
  · rename_i capital
    right
    have code : (c.val + ('a'.val - 'A'.val)).toNat = 110 := congrArg Char.toNat same
    have shift : ('a'.val - 'A'.val).toNat = 32 := rfl
    have top : c.val.toNat ≤ 90 := capital.2
    have target : 'N'.val.toNat = 78 := rfl
    rw [UInt32.toNat_add] at code
    apply Char.ext
    apply UInt32.toNat_inj.mp
    omega
  · exact .inl same

-- Each of the words has an `n`, which may not stand in a decimal literal.
theorem words_left_out (cs : List Char) (literal : ∀ c ∈ cs, isLiteralChar c = true) :
    literal? cs = (decimal? cs).map .decimal := by
  obtain ⟨sign, _, whole⟩ := sign_split_sound (cs.map Char.toLower)
  unfold literal?
  generalize splitSign (cs.map Char.toLower) = parts at whole ⊢
  obtain ⟨negative, word⟩ := parts
  dsimp only at whole ⊢
  have absent : 'n' ∉ word := by
    intro member
    have inside : 'n' ∈ cs.map Char.toLower := whole ▸ List.mem_append_right sign member
    obtain ⟨c, there, same⟩ := List.mem_map.mp inside
    rcases lower_case_n c same with rfl | rfl
    · exact absurd (literal 'n' there) (by decide)
    · exact absurd (literal 'N' there) (by decide)
  rw [if_neg, if_neg]
  · rintro rfl
    exact absent (by decide)
  · rw [Bool.or_eq_true, decide_eq_true_iff, decide_eq_true_iff]
    rintro (rfl | rfl) <;> exact absent (by decide)

theorem admitted_decimal (cs : List Char) :
    (if cs.all isLiteralChar then (literal? cs).bind ofLiteral? else none) =
      (decimal? cs).map ofDecimal := by
  by_cases literal : cs.all isLiteralChar = true
  · rw [if_pos literal, words_left_out cs (List.all_eq_true.mp literal)]
    cases decimal? cs <;> rfl
  · rw [if_neg literal]
    cases read : decimal? cs with
    | none => rfl
    | some d =>
        have each := decimal_literal cs d ((decimal_iff cs d).mp read)
        exact absurd (List.all_eq_true.mpr each) literal

theorem radix_iff (cs : List Char) (base : Nat) (digits : List Char) :
    radix? cs = some (base, digits) ↔ ∃ mark, (mark, base) ∈ radixMarks ∧ cs = mark ++ digits := by
  constructor
  · intro read
    unfold radix? at read
    split at read <;> cases read
    · exact ⟨['0', 'x'], by decide, rfl⟩
    · exact ⟨['0', 'X'], by decide, rfl⟩
    · exact ⟨['0', 'o'], by decide, rfl⟩
    · exact ⟨['0', 'O'], by decide, rfl⟩
    · exact ⟨['0', 'b'], by decide, rfl⟩
    · exact ⟨['0', 'B'], by decide, rfl⟩
  · rintro ⟨mark, marked, rfl⟩
    simp only [radixMarks, List.mem_cons, Prod.mk.injEq, List.not_mem_nil, or_false] at marked
    rcases marked with
      ⟨rfl, rfl⟩ | ⟨rfl, rfl⟩ | ⟨rfl, rfl⟩ | ⟨rfl, rfl⟩ | ⟨rfl, rfl⟩ | ⟨rfl, rfl⟩ <;> rfl

theorem radix_base (mark : List Char) (base : Nat) (marked : (mark, base) ∈ radixMarks) : base ≤ 16 := by
  have bounded : ∀ entry ∈ radixMarks, entry.2 ≤ 16 := by decide
  exact bounded (mark, base) marked

theorem of_radix_iff (base : Nat) (digits : List Char) (x : Numeric) (hexadecimal : base ≤ 16) :
    ofRadix? base digits = some x ↔
      DigitsOf base digits ∧ ofDigits base digits < twoPow 64 ∧ ofNat (ofDigits base digits) = x := by
  rw [ofRadix?]
  by_cases signed : digits.head? = some '+'
  · rw [if_pos signed]
    refine ⟨nofun, fun all => ?_⟩
    have digit := all.1.each '+' (List.mem_of_mem_head? signed)
    exact absurd rfl (digit_no_sign base hexadecimal '+' digit).1
  · rw [if_neg signed, Option.map_eq_some_iff]
    simp only [natural_unsigned_iff _ base digits _ signed]
    constructor
    · rintro ⟨n, ⟨given, rfl, fits⟩, same⟩
      exact ⟨given, fits, same⟩
    · rintro ⟨given, fits, same⟩
      exact ⟨_, ⟨given, rfl, fits⟩, same⟩

theorem marks_not_literal (mark : List Char) (base : Nat) (marked : (mark, base) ∈ radixMarks) :
    ∃ c ∈ mark, isLiteralChar c = false := by
  have each : ∀ entry ∈ radixMarks, entry.1.all isLiteralChar = false := by decide
  have letter := each (mark, base) marked
  rw [List.all_eq_false] at letter
  simpa using letter

theorem decimal_unmarked (cs : List Char) (d : Decimal) (spelled : DecimalText d cs) :
    radix? cs = none := by
  cases read : radix? cs with
  | none => rfl
  | some entry =>
      obtain ⟨mark, marked, whole⟩ := (radix_iff cs entry.1 entry.2).mp read
      obtain ⟨c, inside, letter⟩ := marks_not_literal mark entry.1 marked
      have literal := decimal_literal cs d spelled c (whole ▸ List.mem_append_left _ inside)
      exact absurd (letter.symm.trans literal) Bool.false_ne_true

-- Each of the three words has a `y`, which is neither a digit of any base nor in a mark of one.
theorem read_without_word (cs : List Char) (nonempty : cs ≠ []) (absent : 'y' ∉ cs) :
    (∀ base digits, radix? cs = some (base, digits) → ofTrimmed? cs = ofRadix? base digits) ∧
      (radix? cs = none → ofTrimmed? cs = (decimal? cs).map ofDecimal) := by
  have plain : ¬ (decide (cs = "Infinity".toList) || decide (cs = "+Infinity".toList)) = true := by
    rw [Bool.or_eq_true, decide_eq_true_iff, decide_eq_true_iff]
    rintro (rfl | rfl) <;> exact absent (by decide)
  have minus : cs ≠ "-Infinity".toList := by
    rintro rfl
    exact absent (by decide)
  have filled : ¬ cs.isEmpty = true := fun none => nonempty (List.isEmpty_iff.mp none)
  constructor
  · intro base digits marked
    rw [ofTrimmed?, if_neg filled, if_neg plain, if_neg minus, marked]
  · intro unmarked
    rw [ofTrimmed?, if_neg filled, if_neg plain, if_neg minus, unmarked]
    exact admitted_decimal cs

theorem trimmed_sound (cs : List Char) (x : Numeric) (read : ofTrimmed? cs = some x) :
    NumericText x cs := by
  unfold ofTrimmed? at read
  split at read
  · rename_i none
    obtain rfl := List.isEmpty_iff.mp none
    obtain rfl := Option.some.inj read
    exact .empty
  · split at read
    · rename_i word
      obtain rfl := Option.some.inj read
      rw [Bool.or_eq_true, decide_eq_true_iff, decide_eq_true_iff] at word
      rcases word with rfl | rfl
      · exact .infinite false [] .bare
      · exact .infinite false ['+'] .plus
    · split at read
      · rename_i word
        obtain rfl := Option.some.inj read
        rw [word]
        exact .infinite true ['-'] .minus
      · split at read
        · rename_i base digits marked
          obtain ⟨mark, listed, rfl⟩ := (radix_iff cs base digits).mp marked
          obtain ⟨given, fits, rfl⟩ :=
            (of_radix_iff base digits x (radix_base mark base listed)).mp read
          exact .radix mark base digits listed given fits
        · rw [admitted_decimal] at read
          obtain ⟨d, spelled, rfl⟩ := Option.map_eq_some_iff.mp read
          exact .decimal d cs ((decimal_iff cs d).mp spelled)

theorem decimal_filled (cs : List Char) (d : Decimal) (spelled : DecimalText d cs) : cs ≠ [] := by
  rintro rfl
  have none : decimal? [] = none := rfl
  cases none.symm.trans ((decimal_iff [] d).mpr spelled)

theorem trimmed_complete (cs : List Char) (x : Numeric) (spelled : NumericText x cs) :
    ofTrimmed? cs = some x := by
  cases spelled with
  | empty => rfl
  | infinite negative sign signed => cases signed <;> decide
  | radix mark base digits marked given fits =>
      have read := (radix_iff (mark ++ digits) base digits).mpr ⟨mark, marked, rfl⟩
      have filled : mark ++ digits ≠ [] := List.append_ne_nil_of_right_ne_nil mark given.nonempty
      have absent : 'y' ∉ mark ++ digits := by
        rw [List.mem_append, not_or]
        constructor
        · have each : ∀ entry ∈ radixMarks, 'y' ∉ entry.1 := by decide
          exact each (mark, base) marked
        · intro member
          have digit := digit_of_larger base 16 'y' (radix_base mark base marked) (given.each 'y' member)
          exact absurd digit (by decide)
      rw [(read_without_word _ filled absent).1 base digits read]
      exact (of_radix_iff base digits _ (radix_base mark base marked)).mpr ⟨given, fits, rfl⟩
  | decimal d cs decimal =>
      have absent : 'y' ∉ cs := fun member =>
        absurd (decimal_literal cs d decimal 'y' member) (by decide)
      rw [(read_without_word cs (decimal_filled cs d decimal) absent).2 (decimal_unmarked cs d decimal),
        (decimal_iff cs d).mpr decimal]
      rfl

theorem trimmed_iff (cs : List Char) (x : Numeric) : ofTrimmed? cs = some x ↔ NumericText x cs :=
  ⟨trimmed_sound cs x, trimmed_complete cs x⟩

theorem string_iff (s : String) (core : List Char) (trimmed : Text.Trimmed s.toList core)
    (x : Numeric) : (Json.str s).toNumeric? = some x ↔ NumericText x core := by
  rw [← trimmed_iff, ← (Text.trim_iff s.toList core).mpr trimmed]
  rfl

theorem radix_chars (mark : List Char) (base : Nat) (digits : List Char)
    (marked : (mark, base) ∈ radixMarks) (given : DigitsOf base digits) (c : Char)
    (member : c ∈ mark ++ digits) : c ∈ ['x', 'X', 'o', 'O'] ∨ isDigitOf 16 c = true := by
  rcases List.mem_append.mp member with inside | behind
  · have each : ∀ entry ∈ radixMarks,
        entry.1.all (fun c => ['x', 'X', 'o', 'O'].contains c || isDigitOf 16 c) = true := by decide
    have known := List.all_eq_true.mp (each (mark, base) marked) c inside
    rwa [Bool.or_eq_true, List.contains_iff_mem] at known
  · exact .inr (digit_of_larger base 16 c (radix_base mark base marked) (given.each c behind))

theorem inner_chars (cs : List Char)
    (each : cs.all (fun c => !Text.isWhiteSpace c && c != '_') = true) :
    ∀ c ∈ cs, Text.isWhiteSpace c = false ∧ c ≠ '_' := by
  simpa using each

theorem numeric_chars (core : List Char) (x : Numeric) (spelled : NumericText x core) :
    ∀ c ∈ core, Text.isWhiteSpace c = false ∧ c ≠ '_' := by
  cases spelled with
  | empty => exact nofun
  | infinite negative sign signed => exact inner_chars _ (by cases signed <;> decide)
  | radix mark base digits marked given fits =>
      intro c member
      rcases radix_chars mark base digits marked given c member with letter | digit
      · exact inner_chars ['x', 'X', 'o', 'O'] (by decide) c letter
      · have codes := digit_codes c digit
        refine ⟨Text.visible_not_blank c (by omega) (by omega), ?_⟩
        rintro rfl
        exact absurd digit (by decide)
  | decimal d cs decimal =>
      intro c member
      have literal := decimal_literal core d decimal c member
      constructor
      · rcases literal_codes c literal with ⟨low, high⟩ | rfl | rfl
        · exact Text.visible_not_blank c (by omega) (by omega)
        · decide
        · decide
      · rintro rfl
        exact absurd literal (by decide)

theorem mark_zero (mark : List Char) (base : Nat) (marked : (mark, base) ∈ radixMarks) :
    mark.length = 2 ∧ mark.head? = some '0' := by
  have each : ∀ entry ∈ radixMarks, entry.1.length = 2 ∧ entry.1.head? = some '0' := by decide
  exact each (mark, base) marked

theorem infinity_without_digits (negative : Bool) (sign : List Char) (signed : Signed negative sign) :
    ∀ c ∈ sign ++ "Infinity".toList, isDigitOf 10 c = false := by
  have none : (sign ++ "Infinity".toList).any (isDigitOf 10) = false := by
    cases signed <;> decide
  exact fun c member => Bool.eq_false_iff.mpr (List.any_eq_false.mp none c member)

theorem unmarked_iff (core : List Char) (unmarked : ∀ entry ∈ radixMarks, ¬ entry.1 <+: core) :
    (∃ x, NumericText x core) ↔
      core = [] ∨ core ∈ ["Infinity".toList, "+Infinity".toList, "-Infinity".toList] ∨
        ∃ d, DecimalText d core := by
  constructor
  · rintro ⟨x, spelled⟩
    cases spelled with
    | empty => exact .inl rfl
    | infinite negative sign signed => exact .inr (.inl (by cases signed <;> decide))
    | radix mark base digits marked => exact absurd (List.prefix_append mark digits) (unmarked _ marked)
    | decimal d cs decimal => exact .inr (.inr ⟨d, decimal⟩)
  · rintro (rfl | word | ⟨d, decimal⟩)
    · exact ⟨_, .empty⟩
    · simp only [List.mem_cons, List.not_mem_nil, or_false] at word
      rcases word with rfl | rfl | rfl
      · exact ⟨_, .infinite false [] .bare⟩
      · exact ⟨_, .infinite false ['+'] .plus⟩
      · exact ⟨_, .infinite true ['-'] .minus⟩
    · exact ⟨_, .decimal d core decimal⟩

theorem marked_iff (mark : List Char) (base : Nat) (digits : List Char) (marked : (mark, base) ∈ radixMarks) :
    (∃ x, NumericText x (mark ++ digits)) ↔
      DigitsOf base digits ∧ ofDigits base digits < twoPow 64 := by
  obtain ⟨length, zero⟩ := mark_zero mark base marked
  have zeroInside : '0' ∈ mark ++ digits := List.mem_append_left digits (List.mem_of_mem_head? zero)
  constructor
  · rintro ⟨x, spelled⟩
    generalize whole : mark ++ digits = core at spelled
    cases spelled with
    | empty => exact absurd (whole ▸ zeroInside) List.not_mem_nil
    | infinite negative sign signed =>
        exact absurd (infinity_without_digits negative sign signed '0' (whole ▸ zeroInside)) (by decide)
    | radix mark' base' digits' marked' given fits =>
        obtain ⟨rfl, rfl⟩ := List.append_inj whole (length.trans (mark_zero mark' base' marked').1.symm)
        have one : ∀ entry ∈ radixMarks, ∀ other ∈ radixMarks, entry.1 = other.1 → entry.2 = other.2 := by
          decide
        obtain rfl : base = base' := one _ marked _ marked' rfl
        exact ⟨given, fits⟩
    | decimal d cs decimal =>
        have read := decimal_unmarked core d decimal
        rw [(radix_iff core base digits).mpr ⟨mark, marked, whole.symm⟩] at read
        cases read
  · rintro ⟨given, fits⟩
    exact ⟨_, .radix mark base digits marked given fits⟩

end RuleMatrix.Numeric
