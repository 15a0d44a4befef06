import RuleMatrix.Json.Printer
import RuleMatrix.Json.Reader
import RuleMatrix.Proofs.Json.Quoting

set_option autoImplicit false

namespace RuleMatrix.Json

section Outcomes

variable {α β : Type}

def outcome (read : Except Fault α) : Except Cause α := read.mapError Fault.cause

def within (levels depth : Nat) (value : α) : Except Cause α :=
  if depth ≤ levels then .ok value else .error .recursionLimit

theorem outcome_ok_iff (read : Except Fault α) (value : α) :
    outcome read = .ok value ↔ read = .ok value :=
  Sequence.map_error_ok_iff read Fault.cause value

theorem outcome_bind (first : Except Fault α) (later : α → Except Fault β) :
    outcome (first >>= later) = outcome first >>= fun value => outcome (later value) := by
  cases first <;> rfl

theorem outcome_within (first : Except Fault α) (later : α → Except Fault β)
    (levels depth levels' depth' : Nat) (value : α) (result : β)
    (read : outcome first = within levels depth value)
    (alike : depth ≤ levels ↔ depth' ≤ levels') (same : later value = .ok result) :
    outcome (first >>= later) = within levels' depth' result := by
  rw [outcome_bind, read]
  unfold within
  by_cases fits : depth ≤ levels
  · rw [if_pos fits, if_pos (alike.mp fits)]
    exact congrArg outcome same
  · rw [if_neg fits, if_neg fun other => fits (alike.mpr other)]
    rfl

-- Of two readers in a row, the one with more brackets decides.
theorem outcome_both (first : Except Fault α) (later : α → Except Fault β)
    (levels depth depth' : Nat) (value : α) (result : β)
    (read : outcome first = within levels depth value)
    (then_read : outcome (later value) = within levels depth' result) :
    outcome (first >>= later) = within levels (max depth depth') result := by
  rw [outcome_bind, read]
  unfold within at then_read ⊢
  by_cases fits : depth ≤ levels
  · have both : max depth depth' ≤ levels ↔ depth' ≤ levels := Nat.max_le.trans (and_iff_right fits)
    rw [if_pos fits, if_congr both rfl rfl]
    exact then_read
  · rw [if_neg fits, if_neg fun both => fits (Nat.max_le.mp both).1]
    rfl

end Outcomes

theorem skip_blanks_shown (c : Char) (rest : List Char) (shown : isBlank c = false) :
    skipBlanks (c :: rest) = c :: rest :=
  List.dropWhile_cons_of_neg (by simp [shown])

section Loops

variable {α : Type} (levels depth depth' steps : Nat) (cs rest : List Char)

theorem items_stop (item : Reader α) (first : α)
    (read : outcome (item cs) = within levels depth (first, ']' :: rest)) :
    outcome (readItems item (steps + 1) cs) = within levels depth ([first], rest) := by
  rw [readItems]
  exact outcome_within (item cs) _ levels depth _ _ _ ([first], rest) read Iff.rfl rfl

theorem items_continue (item : Reader α) (first : α) (others : List α) (c : Char)
    (behind : List Char) (shown : isBlank c = false) (unclosed : c ≠ ']')
    (read : outcome (item cs) = within levels depth (first, ',' :: c :: behind))
    (more : outcome (readItems item steps (c :: behind)) = within levels depth' (others, rest)) :
    outcome (readItems item (steps + 1) cs) =
      within levels (max depth depth') (first :: others, rest) := by
  have comma := skip_blanks_shown ',' (c :: behind) (by decide)
  have there := skip_blanks_shown c behind shown
  rw [readItems]
  refine outcome_both (item cs) _ levels depth depth' _ _ read ?_
  dsimp only
  rw [comma]
  split
  · rename_i nothing
    cases nothing
  · rename_i same
    exact absurd (List.cons.inj same).1 (by decide)
  · rename_i same
    obtain ⟨_, rfl⟩ := List.cons.inj same
    rw [there]
    split
    · rename_i same
      exact absurd (List.cons.inj same).1 unclosed
    · exact outcome_within _ _ levels depth' _ _ _ (first :: others, rest) more Iff.rfl rfl
  · rename_i other
    exact absurd rfl (other _)

theorem members_stop (member : Reader (String × α)) (first : String × α)
    (read : outcome (member cs) = within levels depth (first, '\x7d' :: rest)) :
    outcome (readMembers member (steps + 1) cs) = within levels depth ([first], rest) := by
  rw [readMembers]
  exact outcome_within (member cs) _ levels depth _ _ _ ([first], rest) read Iff.rfl rfl

theorem members_continue (member : Reader (String × α)) (first : String × α)
    (others : List (String × α)) (key : String) (behind : List Char)
    (read : outcome (member cs) = within levels depth (first, ',' :: (quoted key ++ behind)))
    (more : outcome (readMembers member steps (quoted key ++ behind)) =
      within levels depth' (others, rest)) :
    outcome (readMembers member (steps + 1) cs) =
      within levels (max depth depth') (first :: others, rest) := by
  rw [readMembers]
  refine outcome_both (member cs) _ levels depth depth' _ _ read ?_
  exact outcome_within _ _ levels depth' _ _ _ (first :: others, rest) more Iff.rfl rfl

omit levels depth depth' steps cs in
theorem member_value (paired : Bool) (value : String → Reader α) (key : String) :
    readMember paired value (quoted key ++ ':' :: rest) =
      value key rest >>= fun read => .ok ((key, read.1), read.2) := by
  have name := string_read_back paired key (':' :: rest)
  rw [quoted, List.cons_append, List.append_assoc, List.singleton_append, readMember, name]
  rfl

end Loops

end RuleMatrix.Json
