import RuleMatrix.Comparison.Holds
import RuleMatrix.Proofs.Text.Lowercase

set_option autoImplicit false

namespace RuleMatrix

open Text

theorem prefix_found_iff (part after : List Char) :
    (lowercase part).isPrefixOf (lowercase (part ++ after)) = true ↔ StandsAlone [] part after := by
  have lengths := within_length [] [] [] after part
  rw [← lowercase_alone] at lengths
  have whole : lowercase (part ++ after) =
      lowercaseWithin after [] part ++ lowercaseAfter (part.reverse ++ []) after :=
    lowercase_after_append [] part after
  rw [List.isPrefixOf_iff_prefix, List.prefix_iff_eq_take, whole, lengths, List.take_left,
    ← part_kept_iff, List.reverse_nil, eq_comm]

theorem suffix_found_iff (before part : List Char) :
    (lowercase part).isSuffixOf (lowercase (before ++ part)) = true ↔
      StandsAlone before part [] := by
  have lengths := within_length [] [] before.reverse [] part
  rw [← lowercase_alone] at lengths
  have whole := lowercase_parts before part []
  rw [List.append_nil, List.append_nil, lowercaseAfter, List.append_nil] at whole
  rw [List.isSuffixOf_iff_suffix, List.suffix_iff_eq_drop, whole, lengths, List.length_append,
    Nat.add_sub_cancel, List.drop_left, ← part_kept_iff, eq_comm]

theorem standing_found (before part after : List Char) (alone : StandsAlone before part after) :
    occursIn (lowercase part) (lowercase (before ++ part ++ after)) = true := by
  rw [occurs_iff, lowercase_parts, (part_kept_iff before part after).mpr alone]
  exact List.infix_append _ _ _

theorem letter_in_lower_case : lowercaseChar 'a' = ['a'] := by decide +kernel

theorem letter_cased : meetsCased ['a'] = true := by decide +kernel

-- A letter behind takes the final form away, and gives it to nothing.
theorem ends_not_found (part : List Char) (ends : EndsInSigma part) :
    occursIn (lowercase part) (lowercase ([] ++ part ++ ['a'])) = false := by
  have altered : ¬ StandsAlone [] part ['a'] := fun alone => alone.1 ⟨ends, letter_cased⟩
  apply altered_not_found 'ς' [] part ['a'] (.inl rfl) altered
  · intro u v _ final
    obtain ⟨cased, closed⟩ := (sigma_final_iff _ _).mp final
    rw [List.reverse_nil, List.append_nil] at cased
    refine (sigma_final_iff _ _).mpr ⟨cased, ?_⟩
    rw [Bool.eq_false_iff]
    exact fun more => Bool.false_ne_true (closed.symm.trans (meets_cased_more v ['a'] more))
  · rfl
  · rw [lowercaseAfter, if_neg (by decide), letter_in_lower_case, lowercaseAfter]
    decide

-- A letter before gives the final form to a sigma without it, and takes it from none.
theorem leads_not_found (part : List Char) (leads : LeadsWithSigma part []) :
    occursIn (lowercase part) (lowercase (['a'] ++ part ++ [])) = false := by
  have altered : ¬ StandsAlone ['a'] part [] := fun alone => alone.2 ⟨leads, letter_cased⟩
  apply altered_not_found 'σ' ['a'] part [] (.inr rfl) altered
  · intro u v _ plain
    refine (sigma_either _ _).resolve_left fun final => ?_
    obtain ⟨cased, closed⟩ := (sigma_final_iff _ _).mp final
    have stays : sigma (u.reverse ++ ['a'].reverse) (v ++ []) = 'ς' := by
      rw [List.append_nil]
      exact (sigma_final_iff _ _).mpr ⟨meets_cased_more u.reverse _ cased, closed⟩
    exact absurd (stays.symm.trans plain) (by decide)
  · rw [lowercaseWithin, if_neg (by decide), letter_in_lower_case, lowercaseWithin]
    decide
  · rfl

theorem parts_found_unless_sigma_turns (p r q : String) :
    (Comparison.startsWith.holds (some (.str (p ++ r))) (.str p) = true ↔
      ¬ (EndsInSigma p.toList ∧ meetsCased r.toList = true)) ∧
    (Comparison.endsWith.holds (some (.str (r ++ p))) (.str p) = true ↔
      ¬ (LeadsWithSigma p.toList [] ∧ meetsCased r.toList.reverse = true)) ∧
    (¬ (EndsInSigma p.toList ∧ meetsCased q.toList = true) →
      ¬ (LeadsWithSigma p.toList q.toList ∧ meetsCased r.toList.reverse = true) →
      Comparison.contains.holds (some (.str (r ++ p ++ q))) (.str p) = true) ∧
    ((∀ before after : String,
      Comparison.contains.holds (some (.str (before ++ p ++ after))) (.str p) = true) ↔
      ¬ EndsInSigma p.toList ∧ ¬ LeadsWithSigma p.toList []) := by
  have contained (before after : String) :
      Comparison.contains.holds (some (.str (before ++ p ++ after))) (.str p) =
        occursIn (lowercase p.toList) (lowercase (before.toList ++ p.toList ++ after.toList)) := by
    rw [← String.toList_append, ← String.toList_append]
    rfl
  refine ⟨?_, ?_, ?_, ?_, ?_⟩
  · change (lowercase p.toList).isPrefixOf (lowercase (p ++ r).toList) = true ↔ _
    rw [String.toList_append, prefix_found_iff]
    exact and_iff_left fun both => Bool.false_ne_true both.2
  · change (lowercase p.toList).isSuffixOf (lowercase (r ++ p).toList) = true ↔ _
    rw [String.toList_append, suffix_found_iff]
    exact and_iff_right fun both => Bool.false_ne_true both.2
  · intro closed opened
    rw [contained]
    exact standing_found _ _ _ ⟨closed, opened⟩
  · intro always
    constructor
    · intro ends
      have found := always "" "a"
      rw [contained] at found
      exact Bool.false_ne_true ((ends_not_found p.toList ends).symm.trans found)
    · intro leads
      have found := always "a" ""
      rw [contained] at found
      exact Bool.false_ne_true ((leads_not_found p.toList leads).symm.trans found)
  · rintro ⟨closed, opened⟩ before after
    rw [contained]
    apply standing_found
    exact ⟨fun both => closed both.1, fun both => opened (leads_alone _ _ both.1)⟩

theorem sigma_inside_not_final :
    Comparison.startsWith.holds (some (.str ("ΝΗΣ" ++ "Ι"))) (.str "ΝΗΣ") = false ∧
      Comparison.contains.holds (some (.str ("" ++ "ΝΗΣ" ++ "Ι"))) (.str "ΝΗΣ") = false ∧
      Comparison.endsWith.holds (some (.str ("ΝΗ" ++ "Σ"))) (.str "Σ") = false := by
  decide +kernel

theorem word_with_final_sigma_found :
    Comparison.startsWith.holds (some (.str ("ΟΔΟΣ" ++ " 1"))) (.str "ΟΔΟΣ") = true ∧
      Comparison.endsWith.holds (some (.str ("Η " ++ "ΟΔΟΣ"))) (.str "ΟΔΟΣ") = true ∧
      Comparison.contains.holds (some (.str ("Η " ++ "ΟΔΟΣ" ++ " 1"))) (.str "ΟΔΟΣ") = true := by
  have goesOn : meetsCased " 1".toList ≠ true := by decide +kernel
  have goesBack : meetsCased "Η ".toList.reverse ≠ true := by decide +kernel
  obtain ⟨_, ends, contains, _⟩ := parts_found_unless_sigma_turns "ΟΔΟΣ" "Η " " 1"
  obtain ⟨starts, _⟩ := parts_found_unless_sigma_turns "ΟΔΟΣ" " 1" ""
  exact ⟨starts.mpr fun both => goesOn both.2, ends.mpr fun both => goesBack both.2,
    contains (fun both => goesOn both.2) fun both => goesBack both.2⟩

end RuleMatrix
