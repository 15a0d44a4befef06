import Mathlib.Data.List.TakeWhile
import RuleMatrix.Proofs.Sequence
import RuleMatrix.Text.Blank

set_option autoImplicit false

namespace RuleMatrix.Text

structure Trimmed (cs core : List Char) : Prop where
  around : ∃ front back, cs = front ++ core ++ back ∧
    (∀ c ∈ front, isWhiteSpace c = true) ∧ ∀ c ∈ back, isWhiteSpace c = true
  first : ∀ c ∈ core.head?, isWhiteSpace c = false
  last : ∀ c ∈ core.getLast?, isWhiteSpace c = false

theorem trim_trimmed (cs : List Char) : Trimmed cs (trim cs) := by
  unfold trim
  generalize opened : cs.dropWhile isWhiteSpace = rest
  have first := Sequence.behind_run isWhiteSpace cs
  rw [opened] at first
  have whole : rest =
      (rest.reverse.dropWhile isWhiteSpace).reverse ++ (rest.reverse.takeWhile isWhiteSpace).reverse := by
    rw [← List.reverse_append, List.takeWhile_append_dropWhile, List.reverse_reverse]
  refine ⟨⟨cs.takeWhile isWhiteSpace, (rest.reverse.takeWhile isWhiteSpace).reverse, ?_, ?_, ?_⟩, ?_, ?_⟩
  · rw [List.append_assoc, ← whole, ← opened, List.takeWhile_append_dropWhile]
  · exact fun c member => List.mem_takeWhile_imp member
  · exact fun c member => List.mem_takeWhile_imp (List.mem_reverse.mp member)
  · intro c found
    apply first c
    rw [whole, List.head?_append, Option.mem_def.mp found]
    rfl
  · rw [List.getLast?_reverse]
    exact Sequence.behind_run isWhiteSpace rest.reverse

theorem trim_iff (cs core : List Char) : trim cs = core ↔ Trimmed cs core := by
  constructor
  · rintro rfl
    exact trim_trimmed cs
  · rintro ⟨⟨front, back, rfl, blank, behind⟩, first, last⟩
    unfold trim
    by_cases none : core = []
    · have all : ∀ c ∈ front ++ back, isWhiteSpace c = true := List.forall_mem_append.mpr ⟨blank, behind⟩
      rw [none, List.append_nil, List.dropWhile_eq_nil_iff.mpr all]
      rfl
    · have start : ∀ c ∈ (core ++ back).head?, isWhiteSpace c = false := by
        rwa [List.head?_append_of_ne_nil core none]
      have turned : ∀ c ∈ back.reverse, isWhiteSpace c = true :=
        fun c member => behind c (List.mem_reverse.mp member)
      have ended : ∀ c ∈ core.reverse.head?, isWhiteSpace c = false := by
        rwa [List.head?_reverse]
      rw [List.append_assoc, Sequence.run_dropped isWhiteSpace front (core ++ back) blank start,
        List.reverse_append, Sequence.run_dropped isWhiteSpace back.reverse core.reverse turned ended,
        List.reverse_reverse]

theorem trimmed_itself (core : List Char) (clear : ∀ c ∈ core, isWhiteSpace c = false) :
    Trimmed core core where
  around := ⟨[], [], (List.append_nil core).symm, nofun, nofun⟩
  first := fun c found => clear c (List.mem_of_mem_head? found)
  last := fun c found => clear c (List.mem_of_mem_getLast? found)

theorem visible_not_blank (c : Char) (above : 33 ≤ c.toNat) (below : c.toNat ≤ 126) :
    isWhiteSpace c = false := by
  simp only [isWhiteSpace, whiteSpaceRanges, List.any_cons, List.any_nil, Bool.or_false,
    Bool.or_eq_false_iff, Bool.and_eq_false_iff, decide_eq_false_iff_not]
  omega

end RuleMatrix.Text
