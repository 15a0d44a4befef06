import RuleMatrix.Json.Printer
import RuleMatrix.Proofs.Comparison.NumericText
import RuleMatrix.Proofs.Comparison.Ordering
import RuleMatrix.Proofs.Comparison.WholeNumbers
import RuleMatrix.Proofs.Json.NumberText

set_option autoImplicit false

namespace RuleMatrix

section SameNumber

variable (a b : Json) (same : a.toNumeric? = b.toNumeric?)
include same

theorem Comparison.orderings_same (comparison : Comparison) (ordering : comparison ∈ orderings) :
    (∀ literal, comparison.holds (some a) literal = comparison.holds (some b) literal) ∧
      ∀ actual, comparison.holds actual a = comparison.holds actual b := by
  obtain ⟨relation, relates⟩ := ordering_relates comparison ordering
  constructor
  · intro literal
    rw [relates, relates, relate_numbers_same a b literal same]
  · intro actual
    rw [relates, relates, relate_numbers_same_literal actual a b same]

-- Null, arrays and objects equal neither of the two.
theorem loosely_equal_same (literal : Json) (here : a.kind = .number ∨ a.kind = .string)
    (there : b.kind = .number ∨ b.kind = .string) (other : literal.kind ≠ .string) :
    looselyEqual (some a) literal = looselyEqual (some b) literal := by
  have each (x : Json) (kind : x.kind = .number ∨ x.kind = .string) :
      looselyEqual (some x) literal = true ↔ literal.kind.Convertible ∧
        ∃ number, x.toNumeric? = some number ∧ literal.toNumeric? = some number := by
    have convertible : x.kind.Convertible := kind.imp_right .inl
    by_cases counted : literal.kind.Convertible
    · rw [equal_as_numbers x literal convertible counted]
      · exact (and_iff_right counted).symm
      · exact fun both => other both.2
      · rintro ⟨boolean, _⟩
        rcases kind with number | string
        · cases number.symm.trans boolean
        · cases string.symm.trans boolean
    · refine iff_of_false ?_ fun both => counted both.1
      rw [loosely_equal_unmixed x literal fun mixed => counted mixed.2.2]
      exact fun alike => counted (Json.alike_kind x literal alike ▸ convertible)
  rw [Bool.eq_iff_iff, each a here, each b there, same]

end SameNumber

namespace Numeric

theorem of_nearest (d : Decimal) (x : Binary64) (nearest : d.nearest = some x) :
    ofDecimal d = .finite x.value := by
  rw [ofDecimal, nearest]

theorem natural_within_word (negative : Bool) (n : Nat) (fits : n ≤ twoPow 64) :
    ofDecimal ⟨negative, n, 0⟩ =
      .finite (if negative then -(Binary64.rounded (n * Binary64.one) 1 : Int)
        else Binary64.rounded (n * Binary64.one) 1) := by
  have finite := Binary64.word_below_overflow n fits
  apply of_nearest ⟨negative, n, 0⟩ ⟨negative, _, Binary64.representable_of_lt _ _ finite⟩
  rw [Decimal.nearest_whole, Binary64.nearest, dif_pos finite]

theorem word_counted (n : Int) (fits : InWord n) :
    ofDecimal ⟨n < 0, n.natAbs, 0⟩ = .finite (Number.int n fits).value := by
  have half : twoPow 63 ≤ twoPow 64 := twoPow_le (by decide)
  have within : n.natAbs ≤ twoPow 64 := by
    obtain ⟨low, high⟩ := fits
    omega
  rw [natural_within_word _ n.natAbs within, Number.value]
  rcases Int.lt_trichotomy n 0 with below | rfl | above
  · rw [if_pos (decide_eq_true below), Int.sign_eq_neg_one_of_neg below, Int.neg_one_mul]
  · have nothing := Binary64.rounded_of_significant 0 (Binary64.small_significant 0 (Nat.zero_le _))
    rw [Int.natAbs_zero, Nat.zero_mul, nothing]
    rfl
  · have natural : ¬ decide (n < 0) = true := by
      rw [decide_eq_true_iff]
      omega
    rw [if_neg natural, Int.sign_eq_one_of_pos above, Int.one_mul]

theorem whole_number_counted (m : Int) (n : Number) (read : Number.ofInt? m = some n) :
    ofDecimal ⟨m < 0, m.natAbs, 0⟩ = .finite n.value := by
  rw [Number.ofInt?] at read
  split at read
  · obtain rfl := Option.some.inj read
    exact word_counted m _
  · rw [← Decimal.nearest_whole] at read
    obtain ⟨x, nearest, rfl⟩ := Option.map_eq_some_iff.mp read
    exact of_nearest _ x nearest

theorem digits_counted (negative : Bool) (whole : List Char) (n : Number)
    (read : Json.ofLiteral negative whole none none = some n) :
    ofDecimal ⟨negative, ofDigits 10 whole, 0⟩ = .finite n.value := by
  rw [Json.ofLiteral] at read
  generalize ofDigits 10 whole = count at read ⊢
  by_cases minusZero : (negative && count == 0) = true
  · rw [if_pos minusZero] at read
    rw [Bool.and_eq_true, beq_iff_eq] at minusZero
    obtain ⟨rfl, rfl⟩ := minusZero
    obtain rfl := Option.some.inj read
    exact of_nearest _ _ (Decimal.nearest_zero true 0)
  · rw [if_neg minusZero] at read
    have counted := whole_number_counted _ n read
    have magnitude : (if negative = true then -(count : Int) else count).natAbs = count := by
      cases negative <;> simp
    have sign : decide ((if negative = true then -(count : Int) else count) < 0) = negative := by
      rw [Bool.and_eq_true, beq_iff_eq] at minusZero
      cases negative with
      | false => simp
      | true =>
          have positive : count ≠ 0 := fun zero => minusZero ⟨rfl, zero⟩
          simp only [if_true, decide_eq_true_eq]
          omega
    rwa [sign, magnitude] at counted

end Numeric

namespace Json

theorem numeral_counted (numeral : Numeral) (negative : Bool) (n : Number)
    (read : numeral.number negative = some n) :
    Numeric.ofDecimal (numeral.decimal negative) = .finite n.value := by
  by_cases real : numeral.fraction.isSome ∨ numeral.exponent.isSome
  · rw [Numeral.real_number numeral negative real] at read
    obtain ⟨x, nearest, rfl⟩ := Option.map_eq_some_iff.mp read
    exact Numeric.of_nearest _ x nearest
  · obtain ⟨whole, fraction, exponent⟩ := numeral
    rw [not_or, Option.not_isSome_iff_eq_none, Option.not_isSome_iff_eq_none] at real
    obtain ⟨rfl, rfl⟩ := real
    have alone : Numeral.decimal negative ⟨whole, none, none⟩ = ⟨negative, ofDigits 10 whole, 0⟩ :=
      congrArg (fun digits => Decimal.mk negative (ofDigits 10 digits) 0) (List.append_nil whole)
    rw [alone]
    exact Numeric.digits_counted negative whole n read

theorem fraction_pointed (fraction : Option (List Char)) (given : ∀ digits ∈ fraction, Digits digits) :
    Numeric.Pointed (fraction.getD []) (Numeral.fractionChars fraction) := by
  cases fraction with
  | none => exact .whole
  | some digits => exact .point digits (given digits rfl).each

theorem exponent_raised (exponent : Option Exponent) (given : ∀ e ∈ exponent, Digits e.digits) :
    Numeric.Raised ((exponent.map Exponent.value).getD 0) (Numeral.exponentChars exponent) := by
  cases exponent with
  | none => exact .plain
  | some e =>
      obtain ⟨negative, digits⟩ := e
      cases negative with
      | true => exact .power 'e' true ['-'] digits (.inl rfl) .minus (given _ rfl)
      | false => exact .power 'e' false ['+'] digits (.inl rfl) .plus (given _ rfl)

theorem numeral_decimal_text (numeral : Numeral) (negative : Bool) (formed : numeral.WellFormed) :
    Numeric.DecimalText (numeral.decimal negative)
      ((if negative then ['-'] else []) ++ numeral.chars) := by
  have signed : Numeric.Signed negative (if negative then ['-'] else []) := by
    cases negative with
    | true => exact .minus
    | false => exact .bare
  exact .spelled negative _ numeral.whole _ _ _ _ signed formed.whole.each
    (fraction_pointed numeral.fraction formed.fraction) (.inl formed.whole.nonempty)
    (exponent_raised numeral.exponent formed.exponent)

theorem number_text (n : Number) : Numeric.NumericText (.finite n.value) n.text := by
  obtain ⟨numeral, negative, writes⟩ := number_written n
  rw [writes.text, ← numeral_counted numeral negative n writes.value]
  exact .decimal _ _ (numeral_decimal_text numeral negative writes.formed)

theorem digits_text (digits : List Char) (given : Digits digits) :
    Numeric.NumericText (Numeric.ofDecimal ⟨false, ofDigits 10 digits, 0⟩) digits := by
  have spelled := Numeric.DecimalText.spelled false [] digits [] [] 0 [] .bare given.each .whole
    (.inl given.nonempty) .plain
  simp only [Decimal.ofParts, List.append_nil, List.nil_append] at spelled
  exact .decimal _ digits spelled

theorem bare_text_counted (core : List Char) (x : Numeric) (spelled : Numeric.NumericText x core) :
    (Json.str (String.ofList core)).toNumeric? = some x := by
  have trimmed : Text.Trimmed (String.ofList core).toList core := by
    rw [String.toList_ofList]
    exact Text.trimmed_itself core fun c member => (Numeric.numeric_chars core x spelled c member).1
  exact (Numeric.string_iff _ core trimmed x).mpr spelled

theorem decimal_digits_counted (n : Nat) :
    (Json.str (String.ofList (Nat.toDigits 10 n))).toNumeric? =
      some (Numeric.ofDecimal ⟨false, n, 0⟩) := by
  have counted := bare_text_counted _ _ (digits_text _ (written_digits n))
  rwa [of_digits_to_digits 10 (by decide) (by decide) n] at counted

theorem radix_digits_counted (s : String) (mark digits : List Char) (base : Nat)
    (marked : (mark, base) ∈ Numeric.radixMarks) (trimmed : Text.Trimmed s.toList (mark ++ digits))
    (given : DigitsOf base digits) :
    (Json.str s).toNumeric? =
      if ofDigits base digits < twoPow 64 then some (Numeric.ofNat (ofDigits base digits)) else none := by
  by_cases fits : ofDigits base digits < twoPow 64
  · rw [if_pos fits]
    exact (Numeric.string_iff s _ trimmed _).mpr (.radix mark base digits marked given fits)
  · rw [if_neg fits, Option.eq_none_iff_forall_ne_some]
    intro x counted
    have spelled := (Numeric.string_iff s _ trimmed x).mp counted
    exact fits ((Numeric.marked_iff mark base digits marked).mp ⟨x, spelled⟩).2

end Json

theorem number_and_its_text_interchangeable (n : Number) (shown : String)
    (written : shown = Json.text (.num n)) :
    (Json.str shown).toNumeric? = (Json.num n).toNumeric? ∧
    Comparison.equal.holds (some (.num n)) (.str shown) = true ∧
    Comparison.equal.holds (some (.str shown)) (.num n) = true ∧
    (∀ comparison ∈ Comparison.orderings, ∀ literal,
      comparison.holds (some (.str shown)) literal = comparison.holds (some (.num n)) literal) ∧
    ∀ literal : Json, literal.kind ≠ .string →
      Comparison.equal.holds (some (.str shown)) literal =
        Comparison.equal.holds (some (.num n)) literal := by
  obtain rfl := written
  have counted := Json.bare_text_counted n.text _ (Json.number_text n)
  have same : (Json.str (Json.text (.num n))).toNumeric? = (Json.num n).toNumeric? := counted
  have mixed : Json.Mixed (.num n) (.str (Json.text (.num n))) := ⟨nofun, .inl rfl, .inr (.inl rfl)⟩
  refine ⟨same, ?_, ?_, ?_, ?_⟩
  · exact (loosely_equal_mixed _ _ mixed).mpr ⟨_, rfl, counted⟩
  · exact (loosely_equal_mixed _ _ (Json.mixed_symmetric _ _ mixed)).mpr ⟨_, counted, rfl⟩
  · exact fun comparison ordering => (Comparison.orderings_same _ _ same comparison ordering).1
  · exact fun literal other => loosely_equal_same _ _ same literal (.inr rfl) (.inl rfl) other

theorem odd_number_beyond_precision_as_text :
    (Json.str "9007199254740993").toNumeric? =
        (Json.num (.int 9007199254740993 (by decide))).toNumeric? ∧
      Comparison.atMost.holds (some (.str "9007199254740993"))
        (.num (.int 9007199254740992 (by decide))) = true ∧
      Comparison.equal.holds (some (.str "9007199254740993"))
        (.num (.int 9007199254740992 (by decide))) = true := by
  obtain ⟨counted, _, _, orderings, equality⟩ := number_and_its_text_interchangeable
    (.int 9007199254740993 (by decide)) "9007199254740993" (by decide +kernel)
  refine ⟨counted, ?_, ?_⟩
  · rw [orderings _ (by decide)]
    decide +kernel
  · rw [equality _ (by decide)]
    decide +kernel

theorem radix_digits_agree_with_decimal (s plain : String) (mark digits : List Char) (base n : Nat)
    (marked : (mark, base) ∈ Numeric.radixMarks) (trimmed : Text.Trimmed s.toList (mark ++ digits))
    (given : DigitsOf base digits) (spells : ofDigits base digits = n)
    (written : plain = String.ofList (Nat.toDigits 10 n)) :
    ((Json.str s).toNumeric? = (Json.str plain).toNumeric? ↔ n < twoPow 64) ∧
    (n < twoPow 64 →
      (∀ m : Number,
        Comparison.equal.holds (some (.str s)) (.num m) =
          Comparison.equal.holds (some (.str plain)) (.num m) ∧
        Comparison.equal.holds (some (.num m)) (.str s) =
          Comparison.equal.holds (some (.num m)) (.str plain)) ∧
      ∀ comparison ∈ Comparison.orderings,
        (∀ literal, comparison.holds (some (.str s)) literal =
          comparison.holds (some (.str plain)) literal) ∧
        ∀ actual, comparison.holds actual (.str s) = comparison.holds actual (.str plain)) := by
  obtain rfl := written
  obtain rfl := spells
  have decimal := Json.decimal_digits_counted (ofDigits base digits)
  have radix := Json.radix_digits_counted s mark digits base marked trimmed given
  by_cases fits : ofDigits base digits < twoPow 64
  · have same : (Json.str s).toNumeric? =
        (Json.str (String.ofList (Nat.toDigits 10 (ofDigits base digits)))).toNumeric? := by
      rw [radix, if_pos fits, decimal, Numeric.natural_within_word false _ (Nat.le_of_lt fits)]
      rfl
    have orderings := Comparison.orderings_same _ _ same
    refine ⟨iff_of_true same fits, fun _ => ⟨fun m => ?_, orderings⟩⟩
    have equal := loosely_equal_same _ _ same (.num m) (.inr rfl) (.inr rfl) nofun
    have turned (text : String) : Comparison.equal.holds (some (.num m)) (.str text) =
        Comparison.equal.holds (some (.str text)) (.num m) :=
      loosely_equal_symmetric (.num m) (.str text) trivial trivial
    rw [turned, turned]
    exact ⟨equal, equal⟩
  · rw [radix, if_neg fits, decimal]
    exact ⟨iff_of_false nofun fits, fun small => absurd small fits⟩

theorem capital_hexadecimal_agrees_with_decimal :
    (Json.str " 0X00fF\t").toNumeric? = (Json.str "255").toNumeric? ∧
      Comparison.less.holds (some (.str " 0X00fF\t")) (.str "1e3") = true := by
  obtain ⟨counted, alike⟩ := radix_digits_agree_with_decimal " 0X00fF\t" "255" ['0', 'X']
    "00fF".toList 16 255 (by decide) ((Text.trim_iff _ _).mp (by decide))
    ⟨by decide, List.all_eq_true.mp (by decide)⟩ (by decide) (by decide)
  refine ⟨counted.mpr (by decide), ?_⟩
  rw [((alike (by decide)).2 .less (by decide)).1]
  decide +kernel

theorem seventeen_hexadecimal_digits_not_counted :
    ofDigits 16 "10000000000000000".toList = ofDigits 10 "18446744073709551616".toList ∧
      (Json.str "0x10000000000000000").toNumeric? ≠ (Json.str "18446744073709551616").toNumeric? ∧
      Comparison.greater.holds (some (.str "0x10000000000000000")) (.str "0") = false ∧
      Comparison.greater.holds (some (.str "18446744073709551616")) (.str "0") = true := by
  decide +kernel

end RuleMatrix
