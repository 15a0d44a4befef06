import RuleMatrix.Json.Printer
import RuleMatrix.Json.StringReader
import RuleMatrix.Proofs.Sequence
import RuleMatrix.Proofs.Text.Digit

set_option autoImplicit false

namespace RuleMatrix.Json

inductive Escaped (c : Char) : List Char → Prop where
  | letter (letter : Char) (printed : letter ≠ '\n')
      (read : ∀ paired rest, readEscape paired (letter :: rest) = .ok (c, rest)) :
      Escaped c ['\\', letter]
  | digits (control : c.toNat < 32) :
      Escaped c ['\\', 'u', '0', '0', Nat.digitChar (c.toNat / 16), Nat.digitChar (c.toNat % 16)]
  | plain (unquoted : c ≠ '"') (unescaped : c ≠ '\\') (shown : ¬ c.toNat < 32) : Escaped c [c]

theorem escape_form (c : Char) : Escaped c (escape c) := by
  unfold escape
  by_cases quote : c = '"'
  · subst quote
    exact .letter '"' (by decide) fun _ _ => rfl
  by_cases backslash : c = '\\'
  · subst backslash
    exact .letter '\\' (by decide) fun _ _ => rfl
  by_cases backspace : c = '\x08'
  · subst backspace
    exact .letter 'b' (by decide) fun _ _ => rfl
  by_cases tab : c = '\t'
  · subst tab
    exact .letter 't' (by decide) fun _ _ => rfl
  by_cases newline : c = '\n'
  · subst newline
    exact .letter 'n' (by decide) fun _ _ => rfl
  by_cases feed : c = '\x0c'
  · subst feed
    exact .letter 'f' (by decide) fun _ _ => rfl
  by_cases carriage : c = '\r'
  · subst carriage
    exact .letter 'r' (by decide) fun _ _ => rfl
  rw [if_neg quote, if_neg backslash, if_neg backspace, if_neg tab, if_neg newline, if_neg feed,
    if_neg carriage]
  by_cases control : c.toNat < 32
  · rw [if_pos control]
    exact .digits control
  · rw [if_neg control]
    exact .plain quote backslash control

theorem hex_read_back (high low : Nat) (rest : List Char) (small : high < 16) (small' : low < 16) :
    readHex ('0' :: '0' :: Nat.digitChar high :: Nat.digitChar low :: rest) =
      .ok (high * 16 + low, rest) := by
  have zero : isDigitOf 16 '0' = true := by decide
  have first := digit_of_base 16 high (by decide) small
  have second := digit_of_base 16 low (by decide) small'
  have spelled : ofDigits 16 ['0', '0', Nat.digitChar high, Nat.digitChar low] = high * 16 + low := by
    have none : digitValue '0' = 0 := by decide
    simp [ofDigits, none, digit_char_value high small, digit_char_value low small']
  simp [readHex, zero, first, second, spelled]

theorem control_read_back (paired : Bool) (c : Char) (rest : List Char) (control : c.toNat < 32) :
    readUnicode paired ('0' :: '0' :: Nat.digitChar (c.toNat / 16) ::
      Nat.digitChar (c.toNat % 16) :: rest) = .ok (c, rest) := by
  have read := hex_read_back (c.toNat / 16) (c.toNat % 16) rest (by omega) (by omega)
  have whole : c.toNat / 16 * 16 + c.toNat % 16 = c.toNat := Nat.div_add_mod' c.toNat 16
  have leading : isLeading c.toNat = false := by
    simp only [isLeading, Bool.and_eq_false_iff, decide_eq_false_iff_not]
    omega
  have trailing : isTrailing c.toNat = false := by
    simp only [isTrailing, Bool.and_eq_false_iff, decide_eq_false_iff_not]
    omega
  rw [whole] at read
  simp [readUnicode, read, bind, Except.bind, leading, trailing, Char.ofNat_toNat]

theorem Escaped.read_back (paired : Bool) (c : Char) (word rest : List Char)
    (form : Escaped c word) : readUnit paired (word ++ rest) = .ok (some c, rest) := by
  cases form with
  | letter letter _ read =>
      change (readEscape paired (letter :: rest) >>= _) = _
      rw [read]
      rfl
  | digits control =>
      change (readUnicode paired ('0' :: '0' :: _ :: _ :: rest) >>= _) = _
      rw [control_read_back paired c rest control]
      rfl
  | plain unquoted unescaped shown =>
      rw [List.singleton_append, readUnit]
      · rw [if_neg shown]
      · exact unquoted
      · exact unescaped

theorem Escaped.nonempty (c : Char) (word : List Char) (form : Escaped c word) :
    1 ≤ word.length := by
  cases form <;> simp

theorem Escaped.one_line (c : Char) (word : List Char) (form : Escaped c word) : '\n' ∉ word := by
  have digit : ∀ d < 16, Nat.digitChar d ≠ '\n' := by decide
  cases form with
  | letter letter printed _ => simp [Ne.symm printed]
  | digits control =>
      have high := digit (c.toNat / 16) (by omega)
      have low := digit (c.toNat % 16) (by omega)
      simp [Ne.symm high, Ne.symm low]
  | plain _ _ shown =>
      rw [List.mem_singleton]
      rintro rfl
      exact shown (by decide)

theorem units_read_back (paired : Bool) (steps : Nat) (content rest : List Char)
    (enough : content.length < steps) :
    readUnits paired steps (content.flatMap escape ++ '"' :: rest) = .ok (content, rest) := by
  induction content generalizing steps with
  | nil =>
      obtain ⟨fewer, rfl⟩ := Nat.exists_eq_add_one_of_ne_zero (Nat.ne_of_gt enough)
      rfl
  | cons c others ih =>
      obtain ⟨fewer, rfl⟩ := Nat.exists_eq_add_one_of_ne_zero (Nat.ne_of_gt (Nat.zero_lt_of_lt enough))
      have left := ih fewer (Nat.lt_of_succ_lt_succ enough)
      rw [List.flatMap_cons, List.append_assoc, readUnits,
        (escape_form c).read_back]
      change (readUnits paired fewer (others.flatMap escape ++ '"' :: rest) >>= _) = _
      rw [left]
      rfl

theorem escaped_length (content : List Char) : content.length ≤ (content.flatMap escape).length := by
  induction content with
  | nil => exact Nat.le_refl _
  | cons c others ih =>
      have one := (escape_form c).nonempty
      rw [List.flatMap_cons, List.length_append, List.length_cons]
      omega

theorem string_read_back (paired : Bool) (s : String) (rest : List Char) :
    readString paired (s.toList.flatMap escape ++ '"' :: rest) = .ok (s, rest) := by
  have short := escaped_length s.toList
  have enough : s.toList.length < (s.toList.flatMap escape ++ '"' :: rest).length + 1 := by
    rw [List.length_append]
    omega
  rw [readString, units_read_back paired _ s.toList rest enough]
  change Except.ok (String.ofList s.toList, rest) = _
  rw [String.ofList_toList]

theorem quoted_one_line (s : String) : '\n' ∉ quoted s := by
  have units : ∀ c ∈ s.toList, '\n' ∉ escape c := fun c _ => (escape_form c).one_line
  simpa [quoted] using units

end RuleMatrix.Json
