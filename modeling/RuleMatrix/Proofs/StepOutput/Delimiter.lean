import Mathlib.Order.Bounds.Basic
import RuleMatrix.Proofs.StepOutput

set_option autoImplicit false

namespace RuleMatrix.StepOutput

open Text

inductive Search (value : List Char) : Nat → List Char → List Char → Prop where
  | clear (mark : List Char) (absent : occursIn mark value = false) : Search value 0 mark mark
  | longer (turns : Nat) (mark settled : List Char) (occurs : occursIn mark value = true)
      (later : Search value turns (mark ++ ['_']) settled) : Search value (turns + 1) mark settled

-- By induction on the room that the value leaves for the mark.
theorem search_ends (value mark : List Char) : ∃ turns settled, Search value turns mark settled := by
  induction room : value.length + 1 - mark.length generalizing mark with
  | zero =>
      have absent : occursIn mark value = false := by
        rw [Bool.eq_false_iff, ne_eq, occurs_iff]
        intro occurs
        have short := occurs.length_le
        omega
      exact ⟨0, mark, .clear mark absent⟩
  | succ left ih =>
      cases occurs : occursIn mark value with
      | false => exact ⟨0, mark, .clear mark occurs⟩
      | true =>
          have smaller : value.length + 1 - (mark ++ ['_']).length = left := by
            rw [List.length_append, List.length_singleton]
            omega
          obtain ⟨turns, settled, later⟩ := ih (mark ++ ['_']) smaller
          exact ⟨turns + 1, settled, .longer turns mark settled occurs later⟩

theorem one_longer (mark : List Char) (count : Nat) :
    mark ++ ['_'] ++ List.replicate count '_' = mark ++ List.replicate (count + 1) '_' := by
  rw [List.append_assoc, List.replicate_succ, List.singleton_append]

theorem search_settled (value mark settled : List Char) (turns : Nat)
    (search : Search value turns mark settled) :
    settled = mark ++ List.replicate turns '_' ∧ ¬ settled <:+: value ∧
      ∀ count < turns, mark ++ List.replicate count '_' <:+: value := by
  induction search with
  | clear mark absent =>
      refine ⟨(List.append_nil mark).symm, ?_, fun count fewer => absurd fewer (Nat.not_lt_zero count)⟩
      rwa [← occurs_iff, Bool.not_eq_true]
  | longer turns mark settled occurs _ ih =>
      obtain ⟨same, absent, tried⟩ := ih
      refine ⟨same.trans (one_longer mark turns), absent, ?_⟩
      intro count fewer
      cases count with
      | zero =>
          rw [List.replicate_zero, List.append_nil]
          exact (occurs_iff mark value).mp occurs
      | succ count => exact one_longer mark count ▸ tried count (Nat.lt_of_succ_lt_succ fewer)

theorem fewer_underscores_occur (value : List Char) (count : Nat) (fewer : count < underscores value) :
    delimiter count <:+: value := by
  have tried : ∀ known, occursIn (delimiter known) value = true → delimiter known <:+: value :=
    fun known => (occurs_iff _ _).mp
  unfold underscores at fewer
  cases chosen : (List.range value.length).find? fun count => !occursIn (delimiter count) value with
  | none =>
      rw [chosen, Option.getD_none] at fewer
      exact tried count (by simpa using List.find?_range_eq_none.mp chosen count fewer)
  | some first =>
      rw [chosen, Option.getD_some] at fewer
      obtain ⟨_, _, before⟩ := List.find?_range_eq_some.mp chosen
      exact tried count (by simpa using before count fewer)

theorem underscores_least (value : List Char) :
    IsLeast {count | ¬ delimiter count <:+: value} (underscores value) := by
  refine ⟨mark_absent value, ?_⟩
  intro count absent
  exact Nat.le_of_not_lt fun fewer => absent (fewer_underscores_occur value count fewer)

theorem search_iff (value settled : List Char) (turns : Nat) :
    Search value turns "ghadelimiter".toList settled ↔
      turns = underscores value ∧ settled = delimiter (underscores value) := by
  have sound (turns : Nat) (settled : List Char)
      (search : Search value turns "ghadelimiter".toList settled) :
      turns = underscores value ∧ settled = delimiter (underscores value) := by
    obtain ⟨rfl, absent, tried⟩ := search_settled value _ settled turns search
    have least : IsLeast {count | ¬ delimiter count <:+: value} turns :=
      ⟨absent, fun count missing => Nat.le_of_not_lt fun fewer => missing (tried count fewer)⟩
    obtain rfl := least.unique (underscores_least value)
    exact ⟨rfl, rfl⟩
  constructor
  · exact sound turns settled
  · rintro ⟨rfl, rfl⟩
    obtain ⟨others, mark, search⟩ := search_ends value "ghadelimiter".toList
    obtain ⟨rfl, rfl⟩ := sound others mark search
    exact search

theorem delimiter_search_ends_with_least (name value : List Char) (broken : '\n' ∈ value) :
    ∃ count,
      (∀ turns settled, Search value turns "ghadelimiter".toList settled ↔
        turns = count ∧ settled = delimiter count) ∧
      line name value = name ++ "<<".toList ++ delimiter count ++ '\n' :: value ++
        '\n' :: delimiter count ++ ['\n'] ∧
      delimiter count = "ghadelimiter".toList ++ List.replicate count '_' ∧
      IsLeast {fewer | ¬ delimiter fewer <:+: value} count ∧
      (0 < count → delimiter (count - 1) <:+: value ∧ (delimiter count).length ≤ value.length + 1) := by
  have written : line name value = block name value := if_pos (List.contains_iff_mem.mpr broken)
  refine ⟨underscores value, fun turns settled => search_iff value settled turns, written, rfl,
    underscores_least value, fun grown => ?_⟩
  have before := fewer_underscores_occur value (underscores value - 1) (Nat.sub_one_lt_of_lt grown)
  refine ⟨before, ?_⟩
  have short := before.length_le
  unfold delimiter at short ⊢
  rw [List.length_append, List.length_replicate] at short ⊢
  omega

def crowded : List Char := "ghadelimiter__\nghadelimiter".toList

theorem crowded_value_takes_three_turns :
    '\n' ∈ crowded ∧ Search crowded 3 "ghadelimiter".toList (delimiter 3) ∧
      line ['m'] crowded = "m<<ghadelimiter___\nghadelimiter__\nghadelimiter\nghadelimiter___\n".toList := by
  have broken : '\n' ∈ crowded := by decide +kernel
  have search : Search crowded 3 "ghadelimiter".toList (delimiter 3) := by
    have grown : delimiter 3 = "ghadelimiter".toList ++ ['_'] ++ ['_'] ++ ['_'] := by decide +kernel
    rw [grown]
    refine .longer _ _ _ (by decide +kernel) (.longer _ _ _ (by decide +kernel) ?_)
    exact .longer _ _ _ (by decide +kernel) (.clear _ (by decide +kernel))
  obtain ⟨count, ends, text, _⟩ := delimiter_search_ends_with_least ['m'] crowded broken
  obtain ⟨rfl, _⟩ := (ends 3 (delimiter 3)).mp search
  refine ⟨broken, search, text.trans ?_⟩
  decide +kernel

end RuleMatrix.StepOutput
