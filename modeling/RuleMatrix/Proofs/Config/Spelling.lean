import RuleMatrix.Config.Json

set_option autoImplicit false

namespace RuleMatrix

namespace Connective

theorem spelled_iff (word : String) (connective : Connective) :
    ofSpelling? word = some connective ↔ word = connective.spelling := by
  unfold ofSpelling?
  by_cases conjunction : word = "and"
  · subst conjunction
    cases connective <;> simp [spelling]
  · by_cases disjunction : word = "or"
    · subst disjunction
      cases connective <;> simp [spelling]
    · cases connective <;> simp [spelling, conjunction, disjunction]

theorem read_iff (given : Json) (connective : Connective) :
    ofJson given = .ok connective ↔ given = .str connective.spelling := by
  cases given with
  | str word =>
      rw [ofJson, Json.str.injEq, ← spelled_iff]
      cases ofSpelling? word <;> simp
  | _ => simp [ofJson]

theorem word_iff (word : String) :
    (∃ connective : Connective, word = connective.spelling) ↔ word = "and" ∨ word = "or" := by
  constructor
  · intro spelled
    obtain ⟨connective, rfl⟩ := spelled
    cases connective
    · exact .inl rfl
    · exact .inr rfl
  · intro words
    rcases words with rfl | rfl
    · exact ⟨.and, rfl⟩
    · exact ⟨.or, rfl⟩

end Connective

namespace Comparison

theorem spelled_iff (word : String) (comparison : Comparison) :
    ofSpelling? word = some comparison ↔ word = comparison.spelling := by
  constructor
  · intro found
    have hit := List.find?_some found
    exact (beq_iff_eq.mp hit).symm
  · intro same
    subst same
    cases comparison <;> rfl

theorem read_iff (given : Json) (comparison : Comparison) :
    ofJson given = .ok comparison ↔ given = .str comparison.spelling := by
  cases given with
  | str word =>
      rw [ofJson, Json.str.injEq, ← spelled_iff]
      cases ofSpelling? word <;> simp
  | _ => simp [ofJson]

end Comparison

end RuleMatrix
