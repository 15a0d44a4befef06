import RuleMatrix.Proofs.Json.Numeral

set_option autoImplicit false

namespace RuleMatrix.Json

namespace Numeral

def decimal (negative : Bool) (numeral : Numeral) : Decimal :=
  Decimal.ofParts negative numeral.whole (numeral.fraction.getD [])
    ((numeral.exponent.map Exponent.value).getD 0)

structure Spells (numeral : Numeral) (digits : List Char) (exponent : Int) : Prop where
  formed : numeral.WellFormed
  real : numeral.fraction.isSome ∨ numeral.exponent.isSome
  value : ∀ negative,
    (numeral.decimal negative).nearest = Decimal.nearest ⟨negative, ofDigits 10 digits, exponent⟩

theorem real_number (numeral : Numeral) (negative : Bool)
    (real : numeral.fraction.isSome ∨ numeral.exponent.isSome) :
    numeral.number negative = (numeral.decimal negative).nearest.map .real := by
  obtain ⟨whole, fraction, exponent⟩ := numeral
  cases fraction with
  | some digits => cases exponent <;> rfl
  | none =>
      cases exponent with
      | some e => rfl
      | none => rcases real with missing | missing <;> cases missing

theorem pointed_decimal (negative : Bool) (whole fraction : List Char) :
    decimal negative ⟨whole, some fraction, none⟩ =
      ⟨negative, ofDigits 10 (whole ++ fraction), -fraction.length⟩ :=
  congrArg (Decimal.mk negative _) (Int.zero_sub _)

theorem pointed_well_formed (whole fraction : List Char) (given : Digits whole)
    (shortest : whole = ['0'] ∨ whole.head? ≠ some '0') (more : Digits fraction) :
    WellFormed ⟨whole, some fraction, none⟩ :=
  ⟨given, shortest, fun _ same => Option.some.inj same ▸ more, nofun⟩

end Numeral

theorem digits_append (front back : List Char) (given : Digits front)
    (more : ∀ c ∈ back, isDigitOf 10 c = true) : Digits (front ++ back) :=
  ⟨fun none => given.nonempty (List.append_eq_nil_iff.mp none).1,
    List.forall_mem_append.mpr ⟨given.each, more⟩⟩

theorem zeros_are_digits (zeros : Nat) : ∀ c ∈ List.replicate zeros '0', isDigitOf 10 c = true := by
  intro c member
  rw [List.eq_of_mem_replicate member]
  decide

theorem zero_digits : Digits ['0'] := ⟨List.cons_ne_nil _ _, List.forall_mem_singleton.mpr (by decide)⟩

theorem written_digits (n : Nat) : Digits (Nat.toDigits 10 n) :=
  ⟨Nat.toDigits_ne_nil, to_digits_are_digits 10 (by decide) (by decide) n⟩

theorem exponent_value (power : Int) :
    Exponent.value ⟨power < 0, Nat.toDigits 10 power.natAbs⟩ = power := by
  have spelled := of_digits_to_digits 10 (by decide) (by decide) power.natAbs
  by_cases negative : power < 0
  · rw [Exponent.value, if_pos (decide_eq_true negative), spelled]
    omega
  · rw [Exponent.value, if_neg (by simpa using negative), spelled]
    omega

section Layout

variable (digits : List Char) (given : Digits digits) (started : digits.head? ≠ some '0')
include given started

theorem whole_spelled (zeros : Nat) :
    Numeral.Spells ⟨digits ++ List.replicate zeros '0', some ['0'], none⟩ digits zeros := by
  refine ⟨Numeral.pointed_well_formed _ _ ?_ ?_ zero_digits, .inl rfl, ?_⟩
  · exact digits_append digits _ given (zeros_are_digits zeros)
  · right
    rw [List.head?_append_of_ne_nil _ given.nonempty]
    exact started
  · intro negative
    have more : digits ++ List.replicate zeros '0' ++ ['0'] =
        digits ++ List.replicate (zeros + 1) '0' := by
      rw [List.append_assoc, List.replicate_succ']
    have coefficient : ofDigits 10 (digits ++ List.replicate (zeros + 1) '0') =
        ofDigits 10 digits * tenPow (zeros + 1) := by
      rw [of_digits_append, of_digits_zeros, List.length_replicate]
      rfl
    have shifted : -(['0'].length : Int) + (zeros + 1 : Nat) = zeros := by
      rw [List.length_singleton]
      omega
    rw [Numeral.pointed_decimal, more, coefficient, Decimal.nearest_shifted, shifted]

theorem split_spelled (places : Nat) (positive : 0 < places) (inside : places < digits.length) :
    Numeral.Spells ⟨digits.take (digits.length - places),
      some (digits.drop (digits.length - places)), none⟩ digits (-places) := by
  refine ⟨Numeral.pointed_well_formed _ _ ⟨?_, ?_⟩ ?_ ⟨?_, ?_⟩, .inl rfl, ?_⟩
  · rw [ne_eq, List.take_eq_nil_iff]
    rintro (none | none)
    · omega
    · exact given.nonempty none
  · exact fun c member => given.each c (List.mem_of_mem_take member)
  · right
    rw [List.head?_take, if_neg (by omega)]
    exact started
  · rw [ne_eq, List.drop_eq_nil_iff]
    omega
  · exact fun c member => given.each c (List.mem_of_mem_drop member)
  · intro negative
    have count : ((digits.drop (digits.length - places)).length : Int) = places := by
      rw [List.length_drop]
      omega
    rw [Numeral.pointed_decimal, List.take_append_drop, count]

omit started in
theorem leading_zeros_spelled (places : Nat) (beyond : digits.length ≤ places) :
    Numeral.Spells ⟨['0'], some (List.replicate (places - digits.length) '0' ++ digits), none⟩
      digits (-places) := by
  refine ⟨Numeral.pointed_well_formed _ _ zero_digits (.inl rfl) ⟨?_, ?_⟩, .inl rfl, ?_⟩
  · exact fun none => given.nonempty (List.append_eq_nil_iff.mp none).2
  · exact List.forall_mem_append.mpr ⟨zeros_are_digits _, given.each⟩
  · intro negative
    have coefficient : ofDigits 10 (['0'] ++ (List.replicate (places - digits.length) '0' ++ digits)) =
        ofDigits 10 digits := by
      rw [← List.append_assoc, of_digits_append, ← List.replicate_one, List.replicate_append_replicate,
        of_digits_zeros, Nat.zero_mul, Nat.zero_add]
    have count : ((List.replicate (places - digits.length) '0' ++ digits).length : Int) = places := by
      rw [List.length_append, List.length_replicate]
      omega
    rw [Numeral.pointed_decimal, coefficient, count]

theorem positional_spelled (exponent : Int) :
    ∃ numeral : Numeral, numeral.chars = Binary64.positional digits exponent ∧
      numeral.Spells digits exponent := by
  cases exponent with
  | ofNat zeros =>
      refine ⟨_, ?_, whole_spelled digits given started zeros⟩
      simp [Numeral.chars, Numeral.fractionChars, Numeral.exponentChars, Binary64.positional]
  | negSucc fewer =>
      by_cases inside : fewer + 1 < digits.length
      · refine ⟨_, ?_, split_spelled digits given started (fewer + 1) (Nat.succ_pos fewer) inside⟩
        simp [Numeral.chars, Numeral.fractionChars, Numeral.exponentChars, Binary64.positional, inside]
      · refine ⟨_, ?_, leading_zeros_spelled digits given (fewer + 1) (by omega)⟩
        simp [Numeral.chars, Numeral.fractionChars, Numeral.exponentChars, Binary64.positional, inside]

theorem scientific_spelled (exponent : Int) :
    ∃ numeral : Numeral, numeral.chars = Binary64.exponential digits (exponent + digits.length - 1) ∧
      numeral.Spells digits exponent := by
  cases digits with
  | nil => exact absurd rfl given.nonempty
  | cons first others =>
      have single : Digits [first] :=
        ⟨List.cons_ne_nil _ _, List.forall_mem_singleton.mpr (given.each first List.mem_cons_self)⟩
      generalize powerEq : exponent + (first :: others).length - 1 = power
      have written := written_digits power.natAbs
      have value := exponent_value power
      cases others with
      | nil =>
          have same : power = exponent := by
            rw [← powerEq, List.length_singleton]
            omega
          refine ⟨⟨[first], none, some ⟨power < 0, Nat.toDigits 10 power.natAbs⟩⟩, ?_,
            ⟨single, .inr started, nofun, fun _ given => Option.some.inj given ▸ written⟩, .inr rfl, ?_⟩
          · simp [Numeral.chars, Numeral.fractionChars, Numeral.exponentChars, Binary64.exponential]
          · intro negative
            change Decimal.nearest ⟨negative, ofDigits 10 [first], Exponent.value _ - 0⟩ = _
            rw [value, Int.sub_zero, same]
      | cons second more =>
          have same : power - (second :: more).length = exponent := by
            rw [← powerEq, List.length_cons]
            omega
          have rest : Digits (second :: more) :=
            ⟨List.cons_ne_nil _ _, fun c member => given.each c (List.mem_cons_of_mem _ member)⟩
          refine ⟨⟨[first], some (second :: more), some ⟨power < 0, Nat.toDigits 10 power.natAbs⟩⟩, ?_,
            ⟨single, .inr started, fun _ given => Option.some.inj given ▸ rest,
              fun _ given => Option.some.inj given ▸ written⟩, .inr rfl, ?_⟩
          · simp [Numeral.chars, Numeral.fractionChars, Numeral.exponentChars, Binary64.exponential]
          · intro negative
            change Decimal.nearest ⟨negative, ofDigits 10 (first :: second :: more),
              Exponent.value _ - (second :: more).length⟩ = _
            rw [value, same]

theorem layout_spelled (exponent : Int) :
    ∃ numeral : Numeral, numeral.chars = Binary64.layout digits exponent ∧
      numeral.Spells digits exponent := by
  unfold Binary64.layout
  dsimp only
  split
  · exact positional_spelled digits given started exponent
  · exact scientific_spelled digits given started exponent

end Layout

structure Numeral.Writes (numeral : Numeral) (negative : Bool) (n : Number) : Prop where
  formed : numeral.WellFormed
  value : numeral.number negative = some n
  text : n.text = (if negative then ['-'] else []) ++ numeral.chars

theorem whole_written (n : Int) (fits : InWord n) :
    Numeral.Writes ⟨Nat.toDigits 10 n.natAbs, none, none⟩ (n < 0) (.int n fits) := by
  have spelled := of_digits_to_digits 10 (by decide) (by decide) n.natAbs
  refine ⟨⟨written_digits n.natAbs, ?_, nofun, nofun⟩, ?_, ?_⟩
  · by_cases zero : n.natAbs = 0
    · left
      rw [zero]
      rfl
    · exact .inr (first_digit_nonzero 10 (by decide) (by decide) n.natAbs (Nat.pos_of_ne_zero zero))
  · have signed : (if decide (n < 0) = true then -(n.natAbs : Int) else n.natAbs) = n := by
      by_cases negative : n < 0
      · rw [if_pos (decide_eq_true negative)]
        omega
      · rw [if_neg (by simpa using negative)]
        omega
    have unsigned : ¬(decide (n < 0) && n.natAbs == 0) = true := by
      rw [Bool.and_eq_true, decide_eq_true_eq, beq_iff_eq]
      omega
    rw [Numeral.number, ofLiteral, spelled, if_neg unsigned, signed, Number.ofInt?, dif_pos fits]
  · simp [Number.text, Numeral.chars, Numeral.fractionChars, Numeral.exponentChars]

theorem zero_written (x : Binary64) (zero : x.units = 0) :
    Numeral.Writes ⟨['0'], some ['0'], none⟩ x.negative (.real x) := by
  refine ⟨Numeral.pointed_well_formed _ _ zero_digits (.inl rfl) zero_digits, ?_, ?_⟩
  · have none : ofDigits 10 (['0'] ++ ['0']) = 0 := of_digits_zeros 10 2
    have same : Binary64.zero x.negative = x := by
      obtain ⟨negative, units, fits⟩ := x
      obtain rfl : units = 0 := zero
      rfl
    rw [Numeral.real_number _ _ (.inl rfl), Numeral.pointed_decimal, none, Decimal.nearest_zero, same]
    rfl
  · rw [Number.text, Binary64.text, if_pos zero]
    rfl

theorem real_written (x : Binary64) : ∃ numeral : Numeral, numeral.Writes x.negative (.real x) := by
  by_cases zero : x.units = 0
  · exact ⟨_, zero_written x zero⟩
  · have started := first_digit_nonzero 10 (by decide) (by decide) _ (x.shortest_positive zero)
    have digits := written_digits x.shortest.coefficient
    obtain ⟨numeral, chars, spells⟩ := layout_spelled _ digits started x.shortest.exponent
    refine ⟨numeral, spells.formed, ?_, ?_⟩
    · have coefficient := of_digits_to_digits 10 (by decide) (by decide) x.shortest.coefficient
      rw [Numeral.real_number _ _ spells.real, spells.value, coefficient, x.shortest_reads_back]
      rfl
    · rw [Number.text, Binary64.text, if_neg zero, chars]

theorem number_written (n : Number) :
    ∃ (numeral : Numeral) (negative : Bool), numeral.Writes negative n := by
  cases n with
  | int n fits => exact ⟨_, _, whole_written n fits⟩
  | real x =>
      obtain ⟨numeral, writes⟩ := real_written x
      exact ⟨numeral, x.negative, writes⟩

theorem number_starts (n : Number) :
    ∃ c rest, n.text = c :: rest ∧ (c == '-' || isDigitOf 10 c) = true := by
  obtain ⟨numeral, negative, writes⟩ := number_written n
  rw [writes.text]
  cases negative with
  | true => exact ⟨'-', numeral.chars, rfl, rfl⟩
  | false =>
      obtain ⟨c, rest, same, digit⟩ := writes.formed.starts
      exact ⟨c, rest, same, by rw [digit, Bool.or_true]⟩

theorem number_one_line (n : Number) : '\n' ∉ n.text := by
  obtain ⟨numeral, negative, writes⟩ := number_written n
  rw [writes.text]
  cases negative with
  | true => simp [writes.formed.one_line]
  | false => exact writes.formed.one_line

theorem number_read_back (bounded : Bool) (n : Number) (rest : List Char) (ended : Ended rest) :
    readNumber bounded (n.text ++ rest) = .ok (n, rest) := by
  obtain ⟨numeral, negative, writes⟩ := number_written n
  have read := unsigned_read bounded negative numeral n rest writes.formed writes.value ended
  rw [writes.text]
  cases negative with
  | true => exact read
  | false =>
      obtain ⟨c, others, same, digit⟩ := writes.formed.starts
      have unsigned : c ≠ '-' := by
        rintro rfl
        exact absurd digit (by decide)
      change readNumber bounded (numeral.chars ++ rest) = _
      rw [← read, same, List.cons_append]
      unfold readNumber
      split
      · rename_i behind
        exact absurd (List.cons.inj behind).1 unsigned
      · rfl

end RuleMatrix.Json
