import Mathlib.Data.List.Induction
import Mathlib.Tactic.Ring
import RuleMatrix.Text.Digit

set_option autoImplicit false

namespace RuleMatrix

structure DigitsOf (base : Nat) (digits : List Char) : Prop where
  nonempty : digits ≠ []
  each : ∀ c ∈ digits, isDigitOf base c = true

theorem digit_of_larger (base larger : Nat) (c : Char) (wider : base ≤ larger)
    (digit : isDigitOf base c = true) : isDigitOf larger c = true :=
  decide_eq_true (Nat.lt_of_lt_of_le (of_decide_eq_true digit) wider)

theorem digit_codes (c : Char) (digit : isDigitOf 16 c = true) :
    (48 ≤ c.toNat ∧ c.toNat ≤ 57) ∨
      ((97 ≤ c.toNat ∧ c.toNat ≤ 102 ∨ 65 ≤ c.toNat ∧ c.toNat ≤ 70) ∧ 10 ≤ digitValue c) := by
  have small : digitValue c < 16 := of_decide_eq_true digit
  have figures : '0' ≤ c ∧ c ≤ '9' ↔ 48 ≤ c.toNat ∧ c.toNat ≤ 57 := Iff.rfl
  have letters : 'a' ≤ c ∧ c ≤ 'f' ↔ 97 ≤ c.toNat ∧ c.toNat ≤ 102 := Iff.rfl
  have capitals : 'A' ≤ c ∧ c ≤ 'F' ↔ 65 ≤ c.toNat ∧ c.toNat ≤ 70 := Iff.rfl
  simp only [digitValue, figures, letters, capitals] at small ⊢
  split_ifs at small ⊢ <;> omega

theorem decimal_digit_codes (c : Char) (digit : isDigitOf 10 c = true) :
    48 ≤ c.toNat ∧ c.toNat ≤ 57 := by
  have small : digitValue c < 10 := of_decide_eq_true digit
  have codes := digit_codes c (digit_of_larger 10 16 c (by decide) digit)
  omega

theorem digits_of_iff (base : Nat) (digits : List Char) :
    (!digits.isEmpty && digits.all (isDigitOf base)) = true ↔ DigitsOf base digits := by
  rw [Bool.and_eq_true, Bool.not_eq_true', List.isEmpty_eq_false_iff, List.all_eq_true]
  exact ⟨fun both => ⟨both.1, both.2⟩, fun given => ⟨given.nonempty, given.each⟩⟩

theorem digits_read_iff (limit base : Nat) (digits : List Char) (n : Nat) :
    (if digits.isEmpty || !digits.all (isDigitOf base) then none
      else if ofDigits base digits < limit then some (ofDigits base digits) else none) = some n ↔
      DigitsOf base digits ∧ ofDigits base digits = n ∧ n < limit := by
  have given : (digits.isEmpty || !digits.all (isDigitOf base)) = false ↔ DigitsOf base digits := by
    rw [← digits_of_iff, Bool.or_eq_false_iff, Bool.and_eq_true, Bool.not_eq_true', Bool.not_eq_false']
  rw [← given]
  cases digits.isEmpty || !digits.all (isDigitOf base) with
  | true => simp
  | false =>
      by_cases fits : ofDigits base digits < limit
      · rw [if_neg Bool.false_ne_true, if_pos fits, Option.some.injEq]
        exact ⟨fun same => ⟨rfl, same, same ▸ fits⟩, fun all => all.2.1⟩
      · rw [if_neg Bool.false_ne_true, if_neg fits]
        exact ⟨nofun, fun all => absurd (all.2.1 ▸ all.2.2) fits⟩

theorem natural_unsigned_iff (limit base : Nat) (digits : List Char) (n : Nat)
    (unsigned : digits.head? ≠ some '+') :
    natural? limit base digits = some n ↔
      DigitsOf base digits ∧ ofDigits base digits = n ∧ n < limit := by
  rw [← digits_read_iff]
  unfold natural?
  split
  · exact absurd rfl unsigned
  · rfl

theorem natural_signed_iff (limit base : Nat) (digits : List Char) (n : Nat) :
    natural? limit base ('+' :: digits) = some n ↔
      DigitsOf base digits ∧ ofDigits base digits = n ∧ n < limit :=
  digits_read_iff limit base digits n

theorem digit_char_value (d : Nat) (small : d < 16) : digitValue (Nat.digitChar d) = d := by
  have each : ∀ d < 16, digitValue (Nat.digitChar d) = d := by decide
  exact each d small

theorem digit_of_base (base d : Nat) (hexadecimal : base ≤ 16) (small : d < base) :
    isDigitOf base (Nat.digitChar d) = true := by
  rw [isDigitOf, digit_char_value d (by omega)]
  exact decide_eq_true small

theorem of_digits_from (base total : Nat) (digits : List Char) :
    digits.foldl (fun total c => total * base + digitValue c) total =
      total * base ^ digits.length + ofDigits base digits := by
  induction digits generalizing total with
  | nil => simp [ofDigits]
  | cons c rest ih =>
      have first := ih (digitValue c)
      have whole : ofDigits base (c :: rest) =
          rest.foldl (fun total c => total * base + digitValue c) (digitValue c) := by
        simp [ofDigits]
      rw [List.foldl_cons, ih, whole, first, List.length_cons, pow_succ]
      ring

theorem of_digits_append (base : Nat) (front back : List Char) :
    ofDigits base (front ++ back) = ofDigits base front * base ^ back.length + ofDigits base back := by
  rw [ofDigits, List.foldl_append]
  exact of_digits_from base (ofDigits base front) back

theorem of_digits_zeros (base zeros : Nat) : ofDigits base (List.replicate zeros '0') = 0 := by
  induction zeros with
  | zero => rfl
  | succ zeros ih =>
      have zero : ofDigits base ['0'] = 0 := by
        have value : digitValue '0' = 0 := by decide
        simp [ofDigits, value]
      rw [List.replicate_succ', of_digits_append, ih, zero, Nat.zero_mul]

section Written

variable (base : Nat) (proper : 1 < base)
include proper

-- A number below the base is one digit; any other is the digits of the quotient and a last one.
theorem written_induction {motive : Nat → List Char → Prop}
    (single : ∀ n < base, motive n [Nat.digitChar n])
    (longer : ∀ n, 0 < n / base → motive (n / base) (Nat.toDigits base (n / base)) →
      motive n (Nat.toDigits base (n / base) ++ [Nat.digitChar (n % base)])) (n : Nat) :
    motive n (Nat.toDigits base n) := by
  induction n using Nat.strongRecOn with
  | ind n ih =>
      rw [Nat.toDigits_eq_if proper]
      by_cases small : n < base
      · rw [if_pos small]
        exact single n small
      · rw [if_neg small]
        have fewer : n / base < n := Nat.div_lt_self (by omega) proper
        exact longer n (Nat.div_pos (by omega) (by omega)) (ih (n / base) fewer)

variable (hexadecimal : base ≤ 16)
include hexadecimal

theorem of_digits_to_digits (n : Nat) : ofDigits base (Nat.toDigits base n) = n := by
  have single : ∀ d < base, ofDigits base [Nat.digitChar d] = d := by
    intro d small
    simp [ofDigits, digit_char_value d (by omega)]
  induction n using written_induction base proper with
  | single n small => exact single n small
  | longer n more ih =>
      have last : n % base < base := Nat.mod_lt n (by omega)
      rw [of_digits_append, ih, single _ last, List.length_singleton, pow_one, Nat.div_add_mod']

theorem to_digits_are_digits (n : Nat) : ∀ c ∈ Nat.toDigits base n, isDigitOf base c = true := by
  induction n using written_induction base proper with
  | single n small => exact List.forall_mem_singleton.mpr (digit_of_base base n hexadecimal small)
  | longer n more ih =>
      have last : n % base < base := Nat.mod_lt n (by omega)
      refine List.forall_mem_append.mpr ⟨ih, List.forall_mem_singleton.mpr ?_⟩
      exact digit_of_base base _ hexadecimal last

theorem first_digit_nonzero (n : Nat) (positive : 0 < n) :
    (Nat.toDigits base n).head? ≠ some '0' := by
  induction n using written_induction base proper with
  | single n small =>
      intro zero
      have value := digit_char_value n (by omega)
      have none : digitValue '0' = 0 := by decide
      rw [Option.some.inj zero, none] at value
      omega
  | longer n more ih =>
      rw [List.head?_append, Option.or_of_isSome (List.isSome_head?.mpr Nat.toDigits_ne_nil)]
      exact ih more

end Written

theorem decimal_digit_char (c : Char) (digit : isDigitOf 10 c = true) :
    Nat.digitChar (digitValue c) = c := by
  have each : ∀ code < 58, 48 ≤ code →
      Nat.digitChar (digitValue (Char.ofNat code)) = Char.ofNat code := by decide
  obtain ⟨least, greatest⟩ := decimal_digit_codes c digit
  have same := each c.toNat (by omega) least
  rwa [Char.ofNat_toNat] at same

-- The digits of a number without the one that zero is written with.
def significant (n : Nat) : List Char := if n = 0 then [] else Nat.toDigits 10 n

theorem significant_next (n d : Nat) (small : d < 10) (positive : n * 10 + d ≠ 0) :
    significant (n * 10 + d) = significant n ++ [Nat.digitChar d] := by
  rw [significant, if_neg positive, Nat.toDigits_eq_if (by decide)]
  by_cases single : n * 10 + d < 10
  · obtain rfl : n = 0 := by omega
    rw [if_pos single, significant, if_pos rfl, Nat.zero_mul, Nat.zero_add, List.nil_append]
  · have quotient : (n * 10 + d) / 10 = n := by omega
    have remainder : (n * 10 + d) % 10 = d := by omega
    rw [if_neg single, quotient, remainder, significant, if_neg (by omega)]

theorem zeros_before_significant (digits : List Char) (each : ∀ c ∈ digits, isDigitOf 10 c = true) :
    ∃ zeros, digits = List.replicate zeros '0' ++ significant (ofDigits 10 digits) := by
  induction digits using List.reverseRecOn with
  | nil => exact ⟨0, rfl⟩
  | append_singleton front c ih =>
      obtain ⟨others, one⟩ := List.forall_mem_append.mp each
      obtain ⟨zeros, spelled⟩ := ih others
      have last := List.forall_mem_singleton.mp one
      have char := decimal_digit_char c last
      have whole : ofDigits 10 (front ++ [c]) = ofDigits 10 front * 10 + digitValue c := by
        rw [of_digits_append]
        simp [ofDigits]
      rw [whole]
      by_cases nothing : ofDigits 10 front * 10 + digitValue c = 0
      · have empty : ofDigits 10 front = 0 := by omega
        have zero : digitValue c = 0 := by omega
        rw [empty, significant, if_pos rfl, List.append_nil] at spelled
        refine ⟨zeros + 1, ?_⟩
        rw [nothing, significant, if_pos rfl, List.append_nil, List.replicate_succ', ← spelled,
          ← char, zero]
        rfl
      · refine ⟨zeros, ?_⟩
        rw [significant_next _ _ (of_decide_eq_true last) nothing, char, ← List.append_assoc,
          ← spelled]

theorem decimal_spelling_iff (digits : List Char) (n : Nat) :
    DigitsOf 10 digits ∧ ofDigits 10 digits = n ↔
      ∃ zeros, digits = List.replicate zeros '0' ++ Nat.toDigits 10 n := by
  constructor
  · rintro ⟨⟨nonempty, each⟩, rfl⟩
    obtain ⟨zeros, spelled⟩ := zeros_before_significant digits each
    by_cases nothing : ofDigits 10 digits = 0
    · rw [nothing, significant, if_pos rfl, List.append_nil] at spelled
      cases zeros with
      | zero => exact absurd spelled nonempty
      | succ zeros => exact ⟨zeros, by rw [nothing, spelled, List.replicate_succ']; rfl⟩
    · rw [significant, if_neg nothing] at spelled
      exact ⟨zeros, spelled⟩
  · rintro ⟨zeros, rfl⟩
    have zero : isDigitOf 10 '0' = true := by decide
    refine ⟨⟨List.append_ne_nil_of_right_ne_nil _ Nat.toDigits_ne_nil, ?_⟩, ?_⟩
    · refine List.forall_mem_append.mpr ⟨fun c member => ?_, to_digits_are_digits 10 (by decide) (by decide) n⟩
      exact List.eq_of_mem_replicate member ▸ zero
    · rw [of_digits_append, of_digits_zeros, Nat.zero_mul, Nat.zero_add,
        of_digits_to_digits 10 (by decide) (by decide)]

theorem natural_decimal_iff (limit : Nat) (cs : List Char) (n : Nat) :
    natural? limit 10 cs = some n ↔
      ∃ sign zeros, (sign = [] ∨ sign = ['+']) ∧ n < limit ∧
        cs = sign ++ (List.replicate zeros '0' ++ Nat.toDigits 10 n) := by
  constructor
  · intro read
    by_cases signed : cs.head? = some '+'
    · obtain ⟨digits, rfl⟩ := List.head?_eq_some_iff.mp signed
      obtain ⟨given, value, fits⟩ := (natural_signed_iff limit 10 digits n).mp read
      obtain ⟨zeros, spelled⟩ := (decimal_spelling_iff digits n).mp ⟨given, value⟩
      exact ⟨['+'], zeros, .inr rfl, fits, congrArg (List.cons '+') spelled⟩
    · obtain ⟨given, value, fits⟩ := (natural_unsigned_iff limit 10 cs n signed).mp read
      obtain ⟨zeros, spelled⟩ := (decimal_spelling_iff cs n).mp ⟨given, value⟩
      exact ⟨[], zeros, .inl rfl, fits, spelled⟩
  · rintro ⟨sign, zeros, plain, fits, rfl⟩
    obtain ⟨given, value⟩ := (decimal_spelling_iff _ n).mpr ⟨zeros, rfl⟩
    rcases plain with rfl | rfl
    · refine (natural_unsigned_iff limit 10 _ n fun signed => ?_).mpr ⟨given, value, fits⟩
      have digit := given.each '+' (List.mem_of_head? signed)
      cases digit
    · exact (natural_signed_iff limit 10 _ n).mpr ⟨given, value, fits⟩

end RuleMatrix
