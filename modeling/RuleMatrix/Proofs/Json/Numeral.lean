import RuleMatrix.Json.NumberReader
import RuleMatrix.Proofs.Decimal.Shortest
import RuleMatrix.Proofs.Sequence

set_option autoImplicit false

namespace RuleMatrix.Json

abbrev Digits (digits : List Char) : Prop := DigitsOf 10 digits

structure Numeral where
  whole : List Char
  fraction : Option (List Char)
  exponent : Option Exponent

-- What may stand behind a number without being taken for a part of it.
def Ended (rest : List Char) : Prop :=
  ∀ c ∈ rest.head?, isDigitOf 10 c = false ∧ c ≠ '.' ∧ c ≠ 'e' ∧ c ≠ 'E'

namespace Numeral

def fractionChars : Option (List Char) → List Char
  | none => []
  | some digits => '.' :: digits

def exponentChars : Option Exponent → List Char
  | none => []
  | some e => 'e' :: (if e.negative then '-' else '+') :: e.digits

def chars (numeral : Numeral) : List Char :=
  numeral.whole ++ (fractionChars numeral.fraction ++ exponentChars numeral.exponent)

structure WellFormed (numeral : Numeral) : Prop where
  whole : Digits numeral.whole
  shortest : numeral.whole = ['0'] ∨ numeral.whole.head? ≠ some '0'
  fraction : ∀ digits ∈ numeral.fraction, Digits digits
  exponent : ∀ e ∈ numeral.exponent, Digits e.digits

def number (negative : Bool) (numeral : Numeral) : Option Number :=
  ofLiteral negative numeral.whole numeral.fraction numeral.exponent

end Numeral

theorem digits_read (digits rest : List Char) (given : Digits digits)
    (stop : ∀ c ∈ rest.head?, isDigitOf 10 c = false) :
    readDigits (digits ++ rest) = .ok (digits, rest) := by
  have taken := Sequence.run_taken (isDigitOf 10) digits rest given.each stop
  have left := Sequence.run_dropped (isDigitOf 10) digits rest given.each stop
  unfold readDigits
  rw [taken, left]
  cases digits with
  | nil => exact absurd rfl given.nonempty
  | cons digit others => rfl

theorem whole_read (digits rest : List Char) (given : Digits digits)
    (shortest : digits = ['0'] ∨ digits.head? ≠ some '0')
    (stop : ∀ c ∈ rest.head?, isDigitOf 10 c = false) :
    readWhole (digits ++ rest) = .ok (digits, rest) := by
  have read := digits_read digits rest given stop
  rcases shortest with rfl | started
  · cases rest with
    | nil => exact read
    | cons c others => simp [readWhole, stop c rfl]
  · cases digits with
    | nil => exact absurd rfl given.nonempty
    | cons digit others =>
        have nonzero : digit ≠ '0' := fun zero => started (congrArg some zero)
        rw [← read, List.cons_append]
        unfold readWhole
        split
        · rename_i same
          exact absurd (List.cons.inj same).1 nonzero
        · rfl

theorem exponent_read (exponent : Option Exponent) (rest : List Char)
    (given : ∀ e ∈ exponent, Digits e.digits) (ended : Ended rest) :
    readExponent (Numeral.exponentChars exponent ++ rest) = .ok (exponent, rest) := by
  cases exponent with
  | none =>
      change readExponent rest = _
      unfold readExponent
      split
      · exact absurd rfl (ended 'e' rfl).2.2.1
      · exact absurd rfl (ended 'E' rfl).2.2.2
      · rfl
  | some e =>
      have read := digits_read e.digits rest (given e rfl) fun c first => (ended c first).1
      obtain ⟨negative, digits⟩ := e
      cases negative <;>
        simp [Numeral.exponentChars, readExponent, readSigned, read, bind, Except.bind]

theorem exponent_starts (exponent : Option Exponent) (rest : List Char) (ended : Ended rest) :
    ∀ c ∈ (Numeral.exponentChars exponent ++ rest).head?, isDigitOf 10 c = false ∧ c ≠ '.' := by
  cases exponent with
  | none => exact fun c first => ⟨(ended c first).1, (ended c first).2.1⟩
  | some e =>
      rintro c first
      obtain rfl : 'e' = c := Option.some.inj first
      exact ⟨by decide, by decide⟩

theorem fraction_read (fraction : Option (List Char)) (rest : List Char)
    (given : ∀ digits ∈ fraction, Digits digits)
    (stop : ∀ c ∈ rest.head?, isDigitOf 10 c = false ∧ c ≠ '.') :
    readFraction (Numeral.fractionChars fraction ++ rest) = .ok (fraction, rest) := by
  cases fraction with
  | none =>
      change readFraction rest = _
      unfold readFraction
      split
      · exact absurd rfl (stop '.' rfl).2
      · rfl
  | some digits =>
      have read := digits_read digits rest (given digits rfl) fun c first => (stop c first).1
      simp [Numeral.fractionChars, readFraction, read, bind, Except.bind]

theorem fraction_starts (fraction : Option (List Char)) (rest : List Char)
    (stop : ∀ c ∈ rest.head?, isDigitOf 10 c = false ∧ c ≠ '.') :
    ∀ c ∈ (Numeral.fractionChars fraction ++ rest).head?, isDigitOf 10 c = false := by
  cases fraction with
  | none => exact fun c first => (stop c first).1
  | some digits =>
      rintro c first
      obtain rfl : '.' = c := Option.some.inj first
      decide

theorem unsigned_read (bounded negative : Bool) (numeral : Numeral) (n : Number) (rest : List Char)
    (formed : numeral.WellFormed) (value : numeral.number negative = some n) (ended : Ended rest) :
    readUnsigned bounded negative (numeral.chars ++ rest) = .ok (n, rest) := by
  have behind := exponent_starts numeral.exponent rest ended
  have first := whole_read numeral.whole _ formed.whole formed.shortest
    (fraction_starts numeral.fraction _ behind)
  have second := fraction_read numeral.fraction _ formed.fraction behind
  have third := exponent_read numeral.exponent rest formed.exponent ended
  rw [Numeral.number] at value
  rw [Numeral.chars, List.append_assoc, List.append_assoc, readUnsigned]
  simp only [first, second, third, bind, Except.bind, value]

theorem Digits.one_line (digits : List Char) (given : Digits digits) : '\n' ∉ digits :=
  fun member => absurd (given.each '\n' member) (by decide)

theorem Numeral.WellFormed.starts (numeral : Numeral) (formed : numeral.WellFormed) :
    ∃ c rest, numeral.chars = c :: rest ∧ isDigitOf 10 c = true := by
  obtain ⟨c, digits, same⟩ := List.exists_cons_of_ne_nil formed.whole.nonempty
  have digit := formed.whole.each c (same ▸ List.mem_cons_self)
  exact ⟨c, _, by rw [Numeral.chars, same, List.cons_append], digit⟩

theorem Numeral.WellFormed.one_line (numeral : Numeral) (formed : numeral.WellFormed) :
    '\n' ∉ numeral.chars := by
  have fraction : '\n' ∉ fractionChars numeral.fraction := by
    cases given : numeral.fraction with
    | none => exact List.not_mem_nil
    | some digits => simp [fractionChars, (formed.fraction digits given).one_line]
  have exponent : '\n' ∉ exponentChars numeral.exponent := by
    cases given : numeral.exponent with
    | none => exact List.not_mem_nil
    | some e =>
        have sign : '\n' ≠ if e.negative then '-' else '+' := by
          cases e.negative <;> decide
        simp [exponentChars, sign, (formed.exponent e given).one_line]
  simp [Numeral.chars, formed.whole.one_line, fraction, exponent]

end RuleMatrix.Json
