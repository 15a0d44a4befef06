import RuleMatrix.Proofs.Text.Pieces
import RuleMatrix.Text.Lowercase

set_option autoImplicit false

namespace RuleMatrix.Text

-- The lower-case form of a part; the characters before it are given in reverse.
def lowercaseWithin (after : List Char) : List Char → List Char → List Char
  | _, [] => []
  | before, c :: rest =>
      if c = 'Σ' then sigma before (rest ++ after) :: lowercaseWithin after (c :: before) rest
      else lowercaseChar c ++ lowercaseWithin after (c :: before) rest

theorem lowercase_after_append (before part after : List Char) :
    lowercaseAfter before (part ++ after) =
      lowercaseWithin after before part ++ lowercaseAfter (part.reverse ++ before) after := by
  induction part generalizing before with
  | nil => rfl
  | cons c rest ih =>
      rw [List.cons_append, lowercaseAfter, lowercaseWithin, ih, List.reverse_cons,
        List.append_assoc, List.singleton_append]
      by_cases capital : c = 'Σ'
      · rw [if_pos capital, if_pos capital, List.cons_append]
      · rw [if_neg capital, if_neg capital, List.append_assoc]

theorem lowercase_alone (part : List Char) : lowercase part = lowercaseWithin [] [] part := by
  have whole := lowercase_after_append [] part []
  rwa [List.append_nil, lowercaseAfter, List.append_nil] at whole

theorem lowercase_parts (before part after : List Char) :
    lowercase (before ++ part ++ after) =
      lowercaseWithin (part ++ after) [] before ++ lowercaseWithin after before.reverse part ++
        lowercaseAfter (part.reverse ++ before.reverse) after := by
  rw [lowercase, List.append_assoc, lowercase_after_append, lowercase_after_append,
    List.append_nil, List.append_assoc]

theorem each_sigma_cons (c : Char) (rest : List Char) (holds : List Char → List Char → Prop) :
    (∀ u v, c :: rest = u ++ 'Σ' :: v → holds u v) ↔
      (c = 'Σ' → holds [] rest) ∧ ∀ u v, rest = u ++ 'Σ' :: v → holds (c :: u) v := by
  constructor
  · intro each
    refine ⟨?_, fun u v same => each (c :: u) v (congrArg (c :: ·) same)⟩
    rintro rfl
    exact each [] rest rfl
  · rintro ⟨here, later⟩ u v same
    cases u with
    | nil =>
        obtain ⟨rfl, rfl⟩ := List.cons.inj same
        exact here rfl
    | cons d others =>
        obtain ⟨rfl, tail⟩ := List.cons.inj same
        exact later others v tail

section Surroundings

variable (before after other behind : List Char)

theorem within_length (part : List Char) :
    (lowercaseWithin after before part).length = (lowercaseWithin behind other part).length := by
  induction part generalizing before other with
  | nil => rfl
  | cons c rest ih =>
      have tail := ih (c :: before) (c :: other)
      rw [lowercaseWithin, lowercaseWithin]
      by_cases capital : c = 'Σ'
      · rw [if_pos capital, if_pos capital, List.length_cons, List.length_cons, tail]
      · rw [if_neg capital, if_neg capital, List.length_append, List.length_append, tail]

theorem within_same_iff (part : List Char) :
    lowercaseWithin after before part = lowercaseWithin behind other part ↔
      ∀ u v, part = u ++ 'Σ' :: v →
        sigma (u.reverse ++ before) (v ++ after) = sigma (u.reverse ++ other) (v ++ behind) := by
  induction part generalizing before other with
  | nil => simp [lowercaseWithin]
  | cons c rest ih =>
      have tail := ih (c :: before) (c :: other)
      have reversed (u w : List Char) : (c :: u).reverse ++ w = u.reverse ++ c :: w := by simp
      rw [each_sigma_cons]
      simp only [reversed, ← tail]
      rw [lowercaseWithin, lowercaseWithin]
      by_cases capital : c = 'Σ'
      · rw [if_pos capital, if_pos capital, List.cons.injEq]
        exact and_congr_left fun _ => ⟨fun same _ => same, fun given => given capital⟩
      · rw [if_neg capital, if_neg capital, List.append_cancel_left_eq]
        exact (and_iff_right fun same => absurd same capital).symm

end Surroundings

theorem meets_cased_cons (c : Char) (rest : List Char) :
    meetsCased (c :: rest) = if isCaseIgnorable c then meetsCased rest else isCased c := by
  by_cases ignorable : isCaseIgnorable c = true
  · rw [if_pos ignorable, meetsCased, List.dropWhile_cons_of_pos ignorable, meetsCased]
  · rw [if_neg ignorable, meetsCased, List.dropWhile_cons_of_neg ignorable]

theorem meets_cased_append (cs others : List Char) :
    meetsCased (cs ++ others) =
      if cs.all isCaseIgnorable then meetsCased others else meetsCased cs := by
  induction cs with
  | nil => rfl
  | cons c rest ih =>
      rw [List.cons_append, meets_cased_cons, meets_cased_cons, ih, List.all_cons]
      by_cases ignorable : isCaseIgnorable c = true
      · rw [if_pos ignorable, if_pos ignorable, ignorable, Bool.true_and]
      · rw [if_neg ignorable, if_neg ignorable, Bool.eq_false_iff.mpr ignorable,
          Bool.false_and, if_neg Bool.false_ne_true]

theorem ignorable_meets_none (cs : List Char) (ignorable : cs.all isCaseIgnorable = true) :
    meetsCased cs = false := by
  have whole := meets_cased_append cs []
  rw [List.append_nil, if_pos ignorable] at whole
  exact whole

theorem meets_cased_more (cs others : List Char) (cased : meetsCased cs = true) :
    meetsCased (cs ++ others) = true := by
  rw [meets_cased_append, if_neg]
  · exact cased
  · intro ignorable
    exact Bool.false_ne_true ((ignorable_meets_none cs ignorable).symm.trans cased)

section Sigma

variable (before after outer behind : List Char)

theorem sigma_final_iff :
    sigma before after = 'ς' ↔ meetsCased before = true ∧ meetsCased after = false := by
  rw [sigma]
  cases meetsCased before <;> cases meetsCased after <;> decide

theorem sigma_either : sigma before after = 'ς' ∨ sigma before after = 'σ' := by
  rw [sigma]
  cases meetsCased before <;> cases meetsCased after <;> decide

-- A final sigma loses its form where the word goes on; one that begins a word takes it behind one.
theorem sigma_same_iff :
    sigma (before ++ outer) (after ++ behind) = sigma before after ↔
      ¬ (meetsCased before = true ∧ after.all isCaseIgnorable = true ∧ meetsCased behind = true) ∧
      ¬ (before.all isCaseIgnorable = true ∧ meetsCased (after ++ behind) = false ∧
        meetsCased outer = true) := by
  have front := ignorable_meets_none before
  have back := ignorable_meets_none after
  rw [sigma, sigma, meets_cased_append, meets_cased_append]
  generalize before.all isCaseIgnorable = blankBefore at *
  generalize after.all isCaseIgnorable = blankAfter at *
  generalize meetsCased before = casedBefore at *
  generalize meetsCased after = casedAfter at *
  generalize meetsCased outer = casedOuter
  generalize meetsCased behind = casedBehind
  revert blankBefore blankAfter casedBefore casedAfter casedOuter casedBehind
  decide

end Sigma

-- A capital sigma ends the part, and in it a word, but for ignorable characters behind it.
def EndsInSigma (part : List Char) : Prop :=
  ∃ u v, part = u ++ 'Σ' :: v ∧ meetsCased u.reverse = true ∧ v.all isCaseIgnorable = true

-- A capital sigma begins the part, but for ignorable characters, and no letter of its word follows.
def LeadsWithSigma (part after : List Char) : Prop :=
  ∃ u v, part = u ++ 'Σ' :: v ∧ u.all isCaseIgnorable = true ∧ meetsCased (v ++ after) = false

-- The word of a sigma at either end of the part does not go on beyond that end.
def StandsAlone (before part after : List Char) : Prop :=
  ¬ (EndsInSigma part ∧ meetsCased after = true) ∧
    ¬ (LeadsWithSigma part after ∧ meetsCased before.reverse = true)

theorem part_kept_iff (before part after : List Char) :
    lowercaseWithin after before.reverse part = lowercase part ↔ StandsAlone before part after := by
  have same := within_same_iff before.reverse after [] [] part
  simp only [List.append_nil, sigma_same_iff, List.all_reverse] at same
  rw [lowercase_alone, same]
  constructor
  · intro each
    constructor
    · rintro ⟨⟨u, v, split, cased, ignorable⟩, goesOn⟩
      exact (each u v split).1 ⟨cased, ignorable, goesOn⟩
    · rintro ⟨⟨u, v, split, ignorable, ends⟩, goesBack⟩
      exact (each u v split).2 ⟨ignorable, ends, goesBack⟩
  · rintro ⟨closed, opened⟩ u v split
    exact ⟨fun ⟨cased, ignorable, goesOn⟩ => closed ⟨⟨u, v, split, cased, ignorable⟩, goesOn⟩,
      fun ⟨ignorable, ends, goesBack⟩ => opened ⟨⟨u, v, split, ignorable, ends⟩, goesBack⟩⟩

theorem leads_alone (part after : List Char) (leads : LeadsWithSigma part after) :
    LeadsWithSigma part [] := by
  obtain ⟨u, v, split, ignorable, ends⟩ := leads
  refine ⟨u, v, split, ignorable, ?_⟩
  rw [List.append_nil, Bool.eq_false_iff]
  exact fun cased => Bool.false_ne_true (ends.symm.trans (meets_cased_more v after cased))

section Counting

variable (mark : Char) (before after other behind : List Char)

theorem within_same_or_fewer (part : List Char) (known : mark = 'ς' ∨ mark = 'σ')
    (each : ∀ u v, part = u ++ 'Σ' :: v → sigma (u.reverse ++ before) (v ++ after) = mark →
      sigma (u.reverse ++ other) (v ++ behind) = mark) :
    lowercaseWithin after before part = lowercaseWithin behind other part ∨
      (lowercaseWithin after before part).count mark <
        (lowercaseWithin behind other part).count mark := by
  induction part generalizing before other with
  | nil => exact .inl rfl
  | cons c rest ih =>
      obtain ⟨here, later⟩ := (each_sigma_cons c rest _).mp each
      have tail := ih (c :: before) (c :: other) (by simpa using later)
      rw [lowercaseWithin, lowercaseWithin]
      by_cases capital : c = 'Σ'
      · rw [if_pos capital, if_pos capital]
        by_cases same : sigma before (rest ++ after) = sigma other (rest ++ behind)
        · rw [same]
          rcases tail with equal | fewer
          · exact .inl (congrArg _ equal)
          · right
            rw [List.count_cons, List.count_cons]
            omega
        · have lost : sigma before (rest ++ after) ≠ mark :=
            fun kept => same (kept.trans (here capital kept).symm)
          have gained : sigma other (rest ++ behind) = mark := by
            have first := sigma_either before (rest ++ after)
            have second := sigma_either other (rest ++ behind)
            grind
          right
          rw [List.count_cons_of_ne lost, gained, List.count_cons_self]
          rcases tail with equal | fewer
          · rw [equal]
            exact Nat.lt_succ_self _
          · omega
      · rw [if_neg capital, if_neg capital]
        rcases tail with equal | fewer
        · exact .inl (congrArg _ equal)
        · right
          rw [List.count_append, List.count_append]
          omega

end Counting

-- Surroundings that hold no mark of their own do not make up for one that they take away.
theorem altered_not_found (mark : Char) (before part after : List Char)
    (known : mark = 'ς' ∨ mark = 'σ') (altered : ¬ StandsAlone before part after)
    (lost : ∀ u v, part = u ++ 'Σ' :: v →
      sigma (u.reverse ++ before.reverse) (v ++ after) = mark → sigma u.reverse v = mark)
    (front : (lowercaseWithin (part ++ after) [] before).count mark = 0)
    (back : (lowercaseAfter (part.reverse ++ before.reverse) after).count mark = 0) :
    occursIn (lowercase part) (lowercase (before ++ part ++ after)) = false := by
  have either := within_same_or_fewer mark before.reverse after [] [] part known
    (by simpa using lost)
  rw [← lowercase_alone] at either
  have fewer := either.resolve_left fun kept => altered ((part_kept_iff before part after).mp kept)
  rw [Bool.eq_false_iff]
  intro found
  have inside := ((occurs_iff _ _).mp found).sublist.count_le mark
  rw [lowercase_parts, List.count_append, List.count_append, front, back] at inside
  omega

end RuleMatrix.Text
