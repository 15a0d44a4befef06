import Mathlib.Tactic.SplitIfs
import RuleMatrix.Text.Lossy

set_option autoImplicit false

namespace RuleMatrix.Text

theorem byte_value (n : Nat) (small : n < 256) : (UInt8.ofNat n).toNat = n :=
  UInt8.toNat_ofNat_of_lt' small

section Turn

variable (rest : List UInt8)

theorem alone_shown (n : Nat) (low : n < 128) :
    lossyFrom 0 [] (UInt8.ofNat n :: rest) = Char.ofNat n :: lossyFrom 0 [] rest := by
  have byte := byte_value n (by omega)
  have first : UInt8.ofNat n < 0x80 := by
    rw [UInt8.lt_iff_toNat_lt, byte]
    exact low
  rw [lossyFrom, if_pos first, byte]

theorem opening_shown (n bits : Nat) (range : UInt8 × UInt8) (others : List (UInt8 × UInt8))
    (high : 128 ≤ n) (small : n < 256) (opens : opening (UInt8.ofNat n) = (bits, range :: others)) :
    lossyFrom 0 [] (UInt8.ofNat n :: rest) = lossyFrom bits (range :: others) rest := by
  have first : ¬ UInt8.ofNat n < 0x80 := by
    rw [UInt8.lt_iff_toNat_lt, byte_value n small]
    exact Nat.not_lt.mpr high
  rw [lossyFrom, if_neg first, opens]

-- The byte with which an encoded character goes on, where it gives the lowest six bits of `n`.
def Follows (range : UInt8 × UInt8) (n : Nat) : Prop :=
  range.1.toNat ≤ n % 64 + 128 ∧ n % 64 + 128 ≤ range.2.toNat

theorem tail_follows (n : Nat) : Follows (0x80, 0xBF) n := by
  change 128 ≤ n % 64 + 128 ∧ n % 64 + 128 ≤ 191
  omega

theorem following_shown (bits n : Nat) (range : UInt8 × UInt8) (others : List (UInt8 × UInt8))
    (follows : Follows range n) :
    lossyFrom bits (range :: others) (UInt8.ofNat (n % 64 + 128) :: rest) =
      if others.isEmpty then Char.ofNat (64 * bits + n % 64) :: lossyFrom 0 [] rest
      else lossyFrom (64 * bits + n % 64) others rest := by
  obtain ⟨above, below⟩ := follows
  have byte := byte_value (n % 64 + 128) (by omega)
  have inside : ¬ (UInt8.ofNat (n % 64 + 128) < range.1 ∨ range.2 < UInt8.ofNat (n % 64 + 128)) := by
    rw [UInt8.lt_iff_toNat_lt, UInt8.lt_iff_toNat_lt, byte]
    omega
  have low : (n % 64 + 128) % 64 = n % 64 := by omega
  rw [lossyFrom, if_neg inside, byte, low]

end Turn

theorem two_opened : ∀ k < 32, 2 ≤ k → opening (UInt8.ofNat (k + 192)) = (k, [(0x80, 0xBF)]) := by
  decide

theorem three_opened : ∀ k < 16, opening (UInt8.ofNat (k + 224)) =
    (k, [if k = 0 then (0xA0, 0xBF) else if k = 13 then (0x80, 0x9F) else (0x80, 0xBF),
      (0x80, 0xBF)]) := by
  decide

theorem four_opened : ∀ k < 5, opening (UInt8.ofNat (k + 240)) =
    (k, [if k = 0 then (0x90, 0xBF) else if k = 4 then (0x80, 0x8F) else (0x80, 0xBF),
      (0x80, 0xBF), (0x80, 0xBF)]) := by
  decide

-- The first two bytes fix the nine highest bits of a code, so the second is bounded where the code
-- would be too small for its length or stand for half a pair.
theorem three_begun (code : Nat) (long : 2047 < code) (short : code ≤ 65535)
    (whole : code < 0xD800 ∨ 0xDFFF < code) :
    ∃ range, Follows range (code / 64) ∧
      opening (UInt8.ofNat (code / 4096 % 16 + 224)) = (code / 4096 % 16, [range, (0x80, 0xBF)]) := by
  refine ⟨_, ?_, three_opened (code / 4096 % 16) (by omega)⟩
  split_ifs
  · change 160 ≤ code / 64 % 64 + 128 ∧ code / 64 % 64 + 128 ≤ 191
    omega
  · change 128 ≤ code / 64 % 64 + 128 ∧ code / 64 % 64 + 128 ≤ 159
    omega
  · exact tail_follows (code / 64)

theorem four_begun (code : Nat) (long : 65535 < code) (short : code < 0x110000) :
    ∃ range, Follows range (code / 4096) ∧
      opening (UInt8.ofNat (code / 262144 % 8 + 240)) =
        (code / 262144 % 8, [range, (0x80, 0xBF), (0x80, 0xBF)]) := by
  refine ⟨_, ?_, four_opened (code / 262144 % 8) (by omega)⟩
  split_ifs
  · change 144 ≤ code / 4096 % 64 + 128 ∧ code / 4096 % 64 + 128 ≤ 191
    omega
  · change 128 ≤ code / 4096 % 64 + 128 ∧ code / 4096 % 64 + 128 ≤ 143
    omega
  · exact tail_follows (code / 4096)

theorem char_shown (c : Char) (rest : List UInt8) :
    lossyFrom 0 [] (String.utf8EncodeChar c ++ rest) = c :: lossyFrom 0 [] rest := by
  have valid : c.val.toNat < 0xD800 ∨ (0xDFFF < c.val.toNat ∧ c.val.toNat < 0x110000) := c.valid
  have back : Char.ofNat c.val.toNat = c := Char.ofNat_toNat c
  unfold String.utf8EncodeChar
  generalize c.val.toNat = code at valid back
  dsimp only
  split_ifs with one two three
  · rw [List.singleton_append, alone_shown rest code (by omega), back]
  · have opens := two_opened (code / 64 % 32) (by omega) (by omega)
    have together : 64 * (code / 64 % 32) + code % 64 = code := by omega
    rw [List.cons_append, List.singleton_append,
      opening_shown _ _ _ _ _ (by omega) (by omega) opens,
      following_shown _ _ code _ _ (tail_follows code), together, back]
    rfl
  · obtain ⟨range, second, opens⟩ := three_begun code (by omega) three (by omega)
    have together : 64 * (64 * (code / 4096 % 16) + code / 64 % 64) + code % 64 = code := by omega
    rw [List.cons_append, List.cons_append, List.singleton_append,
      opening_shown _ _ _ _ _ (by omega) (by omega) opens,
      following_shown _ _ (code / 64) _ _ second, if_neg (by decide),
      following_shown _ _ code _ _ (tail_follows code), together, back]
    rfl
  · obtain ⟨range, second, opens⟩ := four_begun code (by omega) (by omega)
    have together :
        64 * (64 * (64 * (code / 262144 % 8) + code / 4096 % 64) + code / 64 % 64) + code % 64 =
          code := by
      omega
    rw [List.cons_append, List.cons_append, List.cons_append, List.singleton_append,
      opening_shown _ _ _ _ _ (by omega) (by omega) opens,
      following_shown _ _ (code / 4096) _ _ second, if_neg (by decide),
      following_shown _ _ (code / 64) _ _ (tail_follows (code / 64)), if_neg (by decide),
      following_shown _ _ code _ _ (tail_follows code), together, back]
    rfl

theorem chars_shown (cs : List Char) (rest : List UInt8) :
    lossyFrom 0 [] (cs.flatMap String.utf8EncodeChar ++ rest) = cs ++ lossyFrom 0 [] rest := by
  induction cs with
  | nil => rfl
  | cons c others ih => rw [List.flatMap_cons, List.append_assoc, char_shown, ih, List.cons_append]

theorem lossy_text (text : String) : lossy text.toUTF8 = text := by
  have bytes : text.toUTF8.data.toList = text.toList.flatMap String.utf8EncodeChar := by
    change text.toByteArray.data.toList = _
    rw [← String.utf8Encode_toList, List.utf8Encode, List.data_toByteArray, List.toList_toArray]
  have shown : lossyFrom 0 [] (text.toList.flatMap String.utf8EncodeChar) = text.toList := by
    simpa [lossyFrom] using chars_shown text.toList []
  rw [lossy, bytes, shown, String.ofList_toList]

example : lossy ⟨#[0x61, 0xE2, 0x82, 0xC3, 0xA4, 0xFF]⟩ = "a\uFFFDä\uFFFD" := by decide

end RuleMatrix.Text
