import Mathlib.Data.List.Basic
import RuleMatrix.Text.Pieces

set_option autoImplicit false

namespace RuleMatrix.Text

theorem occurs_iff (part cs : List Char) : occursIn part cs = true ↔ part <:+: cs := by
  induction cs with
  | nil => simp [occursIn]
  | cons c rest ih => simp [occursIn, List.infix_cons_iff, ih]

section Pieces

variable {α : Type} [DecidableEq α]

theorem pieces_split (separator : α) (cs : List α) : piecesOf separator cs = cs.splitOn separator := by
  induction cs with
  | nil => rfl
  | cons c rest ih =>
      rw [piecesOf, ih, List.splitOn_cons_eq_if_modifyHead]
      cases cut : rest.splitOn separator with
      | nil => exact absurd cut (List.splitOn_ne_nil separator rest)
      | cons piece others => simp [List.modifyHead]

theorem pieces_append (separator : α) (cs others : List α) :
    piecesOf separator (cs ++ separator :: others) = piecesOf separator cs ++ piecesOf separator others := by
  rw [pieces_split, pieces_split, pieces_split, List.splitOn_append_cons_self]

theorem single_piece (separator : α) (cs : List α) (absent : separator ∉ cs) :
    piecesOf separator cs = [cs] := by
  rw [pieces_split, List.splitOn_eq_singleton absent]

theorem pieces_injective (separator : α) (cs others : List α)
    (same : piecesOf separator cs = piecesOf separator others) : cs = others := by
  rw [pieces_split, pieces_split] at same
  have joined := congrArg [separator].intercalate same
  rwa [List.intercalate_splitOn, List.intercalate_splitOn] at joined

end Pieces

theorem part_of_joined (mark : List Char) (parts : List (List Char)) (part : List Char)
    (member : part ∈ parts) : part <:+: mark.intercalate parts := by
  induction parts with
  | nil => cases member
  | cons first others ih =>
      by_cases alone : others = []
      · subst alone
        obtain rfl := List.mem_singleton.mp member
        exact List.intercalate_singleton ▸ List.infix_rfl
      · rw [List.intercalate_cons_of_ne_nil alone]
        rcases List.mem_cons.mp member with rfl | later
        · rw [List.append_assoc]
          exact (List.prefix_append part _).isInfix
        · exact (ih later).trans (List.suffix_append _ _).isInfix

theorem piece_occurs (separator : Char) (cs piece : List Char) (member : piece ∈ piecesOf separator cs) :
    piece <:+: cs := by
  have part := part_of_joined [separator] (piecesOf separator cs) piece member
  rwa [pieces_split, List.intercalate_splitOn] at part

theorem cut_unique (stops : Char → Bool) (first second rest others : List Char) (c d : Char)
    (clear : ∀ x ∈ first, stops x = false) (apart : ∀ x ∈ second, stops x = false)
    (here : stops c = true) (there : stops d = true)
    (same : first ++ c :: rest = second ++ d :: others) : first = second ∧ c = d ∧ rest = others := by
  induction first generalizing second with
  | nil =>
      cases second with
      | nil => exact ⟨rfl, List.cons.inj same⟩
      | cons x more =>
          have inside := apart c ((List.cons.inj same).1 ▸ List.mem_cons_self)
          cases here.symm.trans inside
  | cons x more ih =>
      cases second with
      | nil =>
          have inside := clear d ((List.cons.inj same).1 ▸ List.mem_cons_self)
          cases there.symm.trans inside
      | cons y later =>
          obtain ⟨rfl, tail⟩ := List.cons.inj same
          obtain ⟨rfl, equal, behind⟩ := ih later (List.forall_mem_cons.mp clear).2
            (List.forall_mem_cons.mp apart).2 tail
          exact ⟨rfl, equal, behind⟩

end RuleMatrix.Text
