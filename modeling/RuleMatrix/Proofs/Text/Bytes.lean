set_option autoImplicit false

namespace RuleMatrix.Text

instance lawfulBytes : LawfulBEq ByteArray where
  rfl {bytes} := beq_self_eq_true bytes.data
  eq_of_beq same := ByteArray.ext (eq_of_beq same)

theorem bytes_same (first second : ByteArray) (same : first.data.toList = second.data.toList) :
    first = second :=
  ByteArray.ext (Array.toList_inj.mp same)

theorem decoded_iff (bytes : ByteArray) (text : String) :
    String.fromUTF8? bytes = some text ↔ bytes = text.toUTF8 := by
  constructor
  · intro decoded
    unfold String.fromUTF8? at decoded
    split at decoded
    · obtain rfl := Option.some.inj decoded
      rfl
    · cases decoded
  · rintro rfl
    exact dif_pos text.isValidUTF8

theorem bytes_before_iff (part : String) (word : ByteArray) :
    part.toUTF8.data.toList.isPrefixOf word.data.toList = true ↔
      ∃ behind, word = part.toUTF8 ++ behind := by
  rw [List.isPrefixOf_iff_prefix]
  constructor
  · rintro ⟨behind, whole⟩
    exact ⟨⟨behind.toArray⟩, bytes_same _ _ (by rw [ByteArray.toList_data_append]; exact whole.symm)⟩
  · rintro ⟨behind, rfl⟩
    exact ⟨behind.data.toList, ByteArray.toList_data_append.symm⟩

end RuleMatrix.Text
