import RuleMatrix.Proofs.FileStore.Append
import RuleMatrix.Proofs.Text.Pieces
import RuleMatrix.StepOutput

set_option autoImplicit false

namespace RuleMatrix.StepOutput

open Text

def mark (value : List Char) : List Char := delimiter (underscores value)

theorem delimiter_long (count : Nat) : count < (delimiter count).length := by
  have named : 0 < "ghadelimiter".toList.length := by decide +kernel
  unfold delimiter
  rw [List.length_append, List.length_replicate]
  exact Nat.lt_add_of_pos_left named

theorem mark_absent (value : List Char) : ¬mark value <:+: value := by
  intro occurs
  rw [← occurs_iff, mark, underscores] at occurs
  cases chosen : (List.range value.length).find? fun count => !occursIn (delimiter count) value with
  | none =>
      rw [chosen] at occurs
      have short := ((occurs_iff _ _).mp occurs).length_le
      exact absurd (delimiter_long value.length) (Nat.not_lt.mpr short)
  | some count =>
      have clear := List.find?_some chosen
      rw [chosen] at occurs
      rw [Option.getD_some] at occurs
      simp [occurs] at clear

theorem mark_one_line (value : List Char) : '\n' ∉ mark value := by
  have named : '\n' ∉ "ghadelimiter".toList := by decide +kernel
  intro inside
  unfold mark delimiter at inside
  rcases List.mem_append.mp inside with first | later
  · exact named first
  · cases List.eq_of_mem_replicate later

theorem block_lines (value later : List Char) :
    (piecesOf '\n' (value ++ '\n' :: (mark value ++ '\n' :: later))).takeWhile (· ≠ mark value) =
      piecesOf '\n' value := by
  have inside : ∀ piece ∈ piecesOf '\n' value, decide (piece ≠ mark value) = true := by
    intro piece member
    have occurs := piece_occurs '\n' value piece member
    exact decide_eq_true fun same => mark_absent value (same ▸ occurs)
  rw [pieces_append, pieces_append, single_piece '\n' _ (mark_one_line value),
    List.takeWhile_append_of_pos inside, List.singleton_append,
    List.takeWhile_cons_of_neg (by simp), List.append_nil]

theorem block_unambiguous (value other later behind : List Char) (same : mark value = mark other)
    (text : value ++ '\n' :: (mark value ++ '\n' :: later) =
      other ++ '\n' :: (mark other ++ '\n' :: behind)) : value = other ∧ later = behind := by
  have lines := block_lines value later
  rw [text, same, block_lines] at lines
  obtain rfl := pieces_injective '\n' other value lines
  have tail := (List.cons.inj (List.append_cancel_left text)).2
  exact ⟨rfl, (List.cons.inj (List.append_cancel_left tail)).2⟩

def endsName (c : Char) : Bool := c == '=' || c == '<'

def Plain (name : List Char) : Prop := '\n' ∉ name ∧ '=' ∉ name ∧ '<' ∉ name

instance (name : List Char) : Decidable (Plain name) := inferInstanceAs (Decidable (_ ∧ _))

theorem Plain.clear (name : List Char) (plain : Plain name) : ∀ c ∈ name, endsName c = false := by
  intro c member
  have equals : c ≠ '=' := fun same => plain.2.1 (same ▸ member)
  have angle : c ≠ '<' := fun same => plain.2.2 (same ▸ member)
  simp [endsName, equals, angle]

theorem name_cut (name other rest behind : List Char) (c d : Char) (plain : Plain name)
    (clean : Plain other) (here : endsName c = true) (there : endsName d = true)
    (same : name ++ c :: rest = other ++ d :: behind) : name = other ∧ c = d ∧ rest = behind :=
  cut_unique endsName name other rest behind c d plain.clear clean.clear here there same

theorem line_cut (first second rest behind : List Char) (whole : '\n' ∉ first) (single : '\n' ∉ second)
    (same : first ++ '\n' :: rest = second ++ '\n' :: behind) : first = second ∧ rest = behind := by
  have clear : ∀ cs : List Char, '\n' ∉ cs → ∀ c ∈ cs, (c == '\n') = false :=
    fun cs absent c member => beq_eq_false_iff_ne.mpr fun equal => absent (equal ▸ member)
  obtain ⟨equal, _, tail⟩ := cut_unique (· == '\n') first second rest behind '\n' '\n'
    (clear first whole) (clear second single) rfl rfl same
  exact ⟨equal, tail⟩

theorem line_flat (name value later : List Char) (flat : '\n' ∉ value) :
    line name value ++ later = name ++ '=' :: (value ++ '\n' :: later) := by
  simp [line, flat]

theorem line_block (name value later : List Char) (broken : '\n' ∈ value) :
    line name value ++ later =
      name ++ '<' :: ('<' :: (mark value ++ '\n' :: (value ++ '\n' :: (mark value ++ '\n' :: later)))) := by
  simp [line, block, mark, broken]

theorem line_unambiguous (name value other changed later behind : List Char) (plain : Plain name)
    (clean : Plain other) (same : line name value ++ later = line other changed ++ behind) :
    name = other ∧ value = changed ∧ later = behind := by
  by_cases broken : '\n' ∈ value
  · rw [line_block name value later broken] at same
    by_cases parted : '\n' ∈ changed
    · rw [line_block other changed behind parted] at same
      obtain ⟨rfl, _, tail⟩ := name_cut _ _ _ _ _ _ plain clean rfl rfl same
      obtain ⟨marked, body⟩ := line_cut _ _ _ _ (mark_one_line value) (mark_one_line changed)
        (List.cons.inj tail).2
      exact ⟨rfl, block_unambiguous value changed later behind marked body⟩
    · rw [line_flat other changed behind parted] at same
      obtain ⟨_, signs, _⟩ := name_cut _ _ _ _ _ _ plain clean rfl rfl same
      cases signs
  · rw [line_flat name value later broken] at same
    by_cases parted : '\n' ∈ changed
    · rw [line_block other changed behind parted] at same
      obtain ⟨_, signs, _⟩ := name_cut _ _ _ _ _ _ plain clean rfl rfl same
      cases signs
    · rw [line_flat other changed behind parted] at same
      obtain ⟨rfl, _, tail⟩ := name_cut _ _ _ _ _ _ plain clean rfl rfl same
      obtain ⟨rfl, rest⟩ := line_cut _ _ _ _ broken parted tail
      exact ⟨rfl, rfl, rest⟩

def framed (outputs : List (String × String)) : List Char :=
  outputs.flatMap fun output => line output.1.toList output.2.toList

theorem line_nonempty (name value : List Char) : line name value ≠ [] := by
  by_cases broken : '\n' ∈ value
  · rw [← List.append_nil (line name value), line_block name value [] broken]
    simp
  · rw [← List.append_nil (line name value), line_flat name value [] broken]
    simp

theorem framed_unambiguous (first second : List (String × String))
    (plain : ∀ output ∈ first, Plain output.1.toList) (clean : ∀ output ∈ second, Plain output.1.toList)
    (same : framed first = framed second) : first = second := by
  induction first generalizing second with
  | nil =>
      cases second with
      | nil => rfl
      | cons output rest =>
          exact absurd (List.append_eq_nil_iff.mp same.symm).1 (line_nonempty _ _)
  | cons output rest ih =>
      cases second with
      | nil => exact absurd (List.append_eq_nil_iff.mp same).1 (line_nonempty _ _)
      | cons other more =>
          obtain ⟨named, plain⟩ := List.forall_mem_cons.mp plain
          obtain ⟨called, clean⟩ := List.forall_mem_cons.mp clean
          obtain ⟨name, value, tail⟩ := line_unambiguous _ _ _ _ _ _ named called same
          have head : output = other := Prod.ext (String.toList_inj.mp name) (String.toList_inj.mp value)
          rw [head, ih more plain clean tail]

def writeAll (store : FileStore) (path : ByteArray) (outputs : List (String × String)) :
    Except FileError FileStore :=
  outputs.foldlM (fun store output => write store path output.1 output.2) store

def contentAfter (store : FileStore) (path : ByteArray) (outputs : List (String × String)) :
    Except FileError ByteArray := do
  (← writeAll store path outputs).read path

theorem outputs_written (store : FileStore) (path : ByteArray) (place : Location) (old : ByteArray)
    (outputs : List (String × String)) (holds : store.Holds path place old) :
    ∃ written, writeAll store path outputs = .ok written ∧
      written.Holds path place (old ++ (String.ofList (framed outputs)).toUTF8) := by
  induction outputs generalizing store old with
  | nil =>
      have same : old ++ (String.ofList (framed [])).toUTF8 = old := ByteArray.append_empty
      rw [same]
      exact ⟨store, rfl, holds⟩
  | cons output rest ih =>
      have takes := holds.takes
      have first := FileStore.append_taken store path place old (text output.1 output.2).toUTF8 takes
      have between := FileStore.held_after store path place old
        (old ++ (text output.1 output.2).toUTF8) takes
      obtain ⟨written, later, after⟩ := ih _ _ between
      have joined : text output.1 output.2 ++ String.ofList (framed rest) =
          String.ofList (framed (output :: rest)) := (String.ofList_append).symm
      have content : (text output.1 output.2).toUTF8 ++ (String.ofList (framed rest)).toUTF8 =
          (String.ofList (framed (output :: rest))).toUTF8 := congrArg String.toByteArray joined
      rw [ByteArray.append_assoc, content] at after
      refine ⟨written, ?_, after⟩
      rw [writeAll, List.foldlM_cons, write, first]
      exact later

theorem content_after (store : FileStore) (path : ByteArray) (place : Location)
    (outputs : List (String × String)) (empty : store.Holds path place ByteArray.empty) :
    contentAfter store path outputs = .ok (String.ofList (framed outputs)).toUTF8 := by
  obtain ⟨written, later, after⟩ := outputs_written store path place _ outputs empty
  rw [ByteArray.empty_append] at after
  rw [contentAfter, later]
  exact FileStore.held_read written path place _ after

theorem outputs_unambiguous (store : FileStore) (path : ByteArray) (place : Location)
    (empty : store.Holds path place ByteArray.empty) (first second : List (String × String))
    (plain : ∀ output ∈ first ++ second, Plain output.1.toList) :
    contentAfter store path first = .ok (String.ofList (framed first)).toUTF8 ∧
      (contentAfter store path first = contentAfter store path second → first = second) ∧
      ∀ before name value later, first = before ++ (name, value) :: later → '\n' ∈ value.toList →
        ∃ mark behind, '\n' ∉ mark ∧
          framed first = framed before ++ name.toList ++ '<' :: '<' :: mark ++ '\n' :: behind ∧
          behind = value.toList ++ '\n' :: mark ++ '\n' :: framed later ∧
          (piecesOf '\n' behind).takeWhile (· ≠ mark) = piecesOf '\n' value.toList := by
  have content := content_after store path place first empty
  refine ⟨content, ?_, ?_⟩
  · intro same
    rw [content, content_after store path place second empty] at same
    have texts := String.toByteArray_inj.mp (Except.ok.inj same)
    obtain ⟨here, there⟩ := List.forall_mem_append.mp plain
    exact framed_unambiguous first second here there (String.ofList_injective texts)
  · rintro before name value later rfl broken
    have block := line_block name.toList value.toList (framed later) broken
    refine ⟨mark value.toList, _, mark_one_line _, ?_, rfl, ?_⟩
    · have parts : framed (before ++ (name, value) :: later) =
          framed before ++ (line name.toList value.toList ++ framed later) := by
        simp [framed]
      rw [parts, block]
      simp
    · have lines := block_lines value.toList (framed later)
      rwa [List.append_assoc, List.cons_append]

def emptyFile : FileStore := ⟨[], [(["out".toUTF8], .file ByteArray.empty)]⟩

-- A value that looks as if it closed its block and began another output.
theorem fake_block_told_apart :
    emptyFile.Holds "out".toUTF8 ["out".toUTF8] ByteArray.empty ∧
      contentAfter emptyFile "out".toUTF8 [("a", "x\nghadelimiter\nb=1")] ≠
        contentAfter emptyFile "out".toUTF8 [("a", "x\n"), ("b", "1")] := by
  have empty : emptyFile.Holds "out".toUTF8 ["out".toUTF8] ByteArray.empty := ⟨by decide +kernel, rfl⟩
  have told := outputs_unambiguous emptyFile "out".toUTF8 ["out".toUTF8] empty
    [("a", "x\nghadelimiter\nb=1")] [("a", "x\n"), ("b", "1")] (by decide +kernel)
  refine ⟨empty, fun same => ?_⟩
  exact absurd (told.2.1 same) (by decide +kernel)

end RuleMatrix.StepOutput
