import RuleMatrix.Proofs.Json.Loops
import RuleMatrix.Proofs.Json.NumberText
import RuleMatrix.Proofs.Json.Structure

set_option autoImplicit false

namespace RuleMatrix.Json

theorem number_char_differs (c other : Char) (starts : (c == '-' || isDigitOf 10 c) = true)
    (never : (other == '-' || isDigitOf 10 other) = false) : c ≠ other := by
  rintro rfl
  rw [never] at starts
  cases starts

theorem number_char_shown (c : Char) (starts : (c == '-' || isDigitOf 10 c) = true) :
    isBlank c = false := by
  have space := number_char_differs c ' ' starts (by decide)
  have tab := number_char_differs c '\t' starts (by decide)
  have newline := number_char_differs c '\n' starts (by decide)
  have carriage := number_char_differs c '\r' starts (by decide)
  simp [isBlank, space, tab, newline, carriage]

theorem value_starts (value : Json) :
    ∃ c rest, chars value = c :: rest ∧ isBlank c = false ∧ c ≠ ']' := by
  cases value with
  | null => exact ⟨'n', _, by rw [chars], by decide, by decide⟩
  | bool b =>
      cases b with
      | true => exact ⟨'t', _, by rw [chars], by decide, by decide⟩
      | false => exact ⟨'f', _, by rw [chars], by decide, by decide⟩
  | num n =>
      obtain ⟨c, rest, same, starts⟩ := number_starts n
      have unclosed := number_char_differs c ']' starts (by decide)
      exact ⟨c, rest, by rw [chars, same], number_char_shown c starts, unclosed⟩
  | str s => exact ⟨'"', _, by rw [chars, quoted], by decide, by decide⟩
  | arr items => cases items <;> exact ⟨'[', _, by rw [chars], by decide, by decide⟩
  | obj fields => cases fields <;> exact ⟨'\x7b', _, by rw [chars], by decide, by decide⟩

def itemsChars : List Json → List Char
  | [] => [']']
  | item :: rest => chars item ++ itemsTail rest

def fieldsChars : Fields → List Char
  | [] => ['\x7d']
  | (key, value) :: rest => quoted key ++ ':' :: (chars value ++ fieldsTail rest)

theorem array_chars (items : List Json) : chars (.arr items) = '[' :: itemsChars items := by
  cases items <;> rw [chars, itemsChars]

theorem object_chars (fields : Fields) : chars (.obj fields) = '\x7b' :: fieldsChars fields := by
  cases fields <;> rw [chars, fieldsChars]

theorem items_tail_ended (items : List Json) (rest : List Char) : Ended (itemsTail items ++ rest) := by
  cases items <;> (rintro c first; obtain rfl := Option.some.inj first; decide)

theorem fields_tail_ended (fields : Fields) (rest : List Char) : Ended (fieldsTail fields ++ rest) := by
  cases fields <;> (rintro c first; obtain rfl := Option.some.inj first; decide)

section Restored

variable (reader : Reader Json) (levels : Nat)

def Restores (value : Json) : Prop :=
  ∀ rest, Ended rest → outcome (reader (chars value ++ rest)) = within levels (nesting value) (value, rest)

theorem items_restored (first : Json) (others : List Json) (steps : Nat) (rest : List Char)
    (each : ∀ item ∈ first :: others, Restores reader levels item)
    (enough : others.length < steps) :
    outcome (readItems reader steps (chars first ++ (itemsTail others ++ rest))) =
      within levels (nestingItems (first :: others)) (first :: others, rest) := by
  induction others generalizing first steps with
  | nil =>
      obtain ⟨fewer, rfl⟩ := Nat.exists_eq_add_one_of_ne_zero (Nat.ne_of_gt enough)
      have head := each first List.mem_cons_self (itemsTail [] ++ rest) (items_tail_ended [] rest)
      have single : nestingItems [first] = nesting first := Nat.max_zero _
      rw [single]
      exact items_stop levels _ fewer _ rest reader first head
  | cons second more ih =>
      obtain ⟨fewer, rfl⟩ :=
        Nat.exists_eq_add_one_of_ne_zero (Nat.ne_of_gt (Nat.zero_lt_of_lt enough))
      obtain ⟨here, later⟩ := List.forall_mem_cons.mp each
      have head := here _ (items_tail_ended (second :: more) rest)
      have tail := ih second fewer later (Nat.lt_of_succ_lt_succ enough)
      obtain ⟨c, behind, same, shown, unclosed⟩ := value_starts second
      have following : itemsTail (second :: more) ++ rest =
          ',' :: c :: (behind ++ (itemsTail more ++ rest)) := by
        rw [itemsTail, same, List.cons_append, List.append_assoc, List.cons_append]
      rw [following] at head ⊢
      rw [same, List.cons_append] at tail
      exact items_continue levels _ _ fewer _ rest reader first _ c _ shown unclosed head tail

theorem items_text_long (items : List Json) : items.length < (itemsTail items).length := by
  induction items with
  | nil => exact Nat.zero_lt_one
  | cons item rest ih =>
      rw [itemsTail, List.length_cons, List.length_cons, List.length_append]
      omega

theorem array_restored (items : List Json) (rest : List Char)
    (each : ∀ item ∈ items, Restores reader levels item) :
    outcome (readArray reader (itemsChars items ++ rest)) =
      within levels (nestingItems items) (items, rest) := by
  cases items with
  | nil => exact (if_pos (Nat.zero_le levels)).symm
  | cons first others =>
      obtain ⟨c, behind, same, shown, unclosed⟩ := value_starts first
      have enough : others.length < (chars first ++ (itemsTail others ++ rest)).length := by
        have long := items_text_long others
        rw [List.length_append, List.length_append]
        omega
      have read := items_restored reader levels first others _ rest each enough
      rw [itemsChars, List.append_assoc]
      rw [same, List.cons_append] at read ⊢
      rw [← read, readArray, skip_blanks_shown c _ shown]
      congr 1
      split
      · rename_i nothing
        cases nothing
      · rename_i behind
        exact absurd (List.cons.inj behind).1 unclosed
      · rfl

theorem member_restored (paired : Bool) (key : String) (value : Json) (rest : List Char)
    (here : Restores reader levels value) (ended : Ended rest) :
    outcome (readMember paired (fun _ => reader) (quoted key ++ ':' :: (chars value ++ rest))) =
      within levels (nesting value) ((key, value), rest) := by
  rw [member_value]
  exact outcome_within _ _ levels _ _ _ _ ((key, value), rest) (here rest ended) Iff.rfl rfl

theorem members_restored (paired : Bool) (key : String) (first : Json) (others : Fields)
    (steps : Nat) (rest : List Char)
    (each : ∀ entry ∈ (key, first) :: others, Restores reader levels entry.2)
    (enough : others.length < steps) :
    outcome (readMembers (readMember paired fun _ => reader) steps
        (quoted key ++ ':' :: (chars first ++ (fieldsTail others ++ rest)))) =
      within levels (nestingFields ((key, first) :: others)) ((key, first) :: others, rest) := by
  induction others generalizing key first steps with
  | nil =>
      obtain ⟨fewer, rfl⟩ := Nat.exists_eq_add_one_of_ne_zero (Nat.ne_of_gt enough)
      have here := each (key, first) List.mem_cons_self
      have head := member_restored reader levels paired key first _ here (fields_tail_ended [] rest)
      have single : nestingFields [(key, first)] = nesting first := Nat.max_zero _
      rw [single]
      exact members_stop levels _ fewer _ rest _ (key, first) head
  | cons second more ih =>
      obtain ⟨next, value⟩ := second
      obtain ⟨fewer, rfl⟩ :=
        Nat.exists_eq_add_one_of_ne_zero (Nat.ne_of_gt (Nat.zero_lt_of_lt enough))
      obtain ⟨here, later⟩ := List.forall_mem_cons.mp each
      have ended := fields_tail_ended ((next, value) :: more) rest
      have head := member_restored reader levels paired key first _ here ended
      have tail := ih next value fewer later (Nat.lt_of_succ_lt_succ enough)
      have following : fieldsTail ((next, value) :: more) ++ rest =
          ',' :: (quoted next ++ ':' :: (chars value ++ (fieldsTail more ++ rest))) := by
        simp [fieldsTail]
      rw [following] at head ⊢
      exact members_continue levels _ _ fewer _ rest _ (key, first) _ next _ head tail

theorem fields_text_long (fields : Fields) : fields.length < (fieldsTail fields).length := by
  induction fields with
  | nil => exact Nat.zero_lt_one
  | cons entry rest ih =>
      obtain ⟨key, value⟩ := entry
      rw [fieldsTail, List.length_cons, List.length_cons, List.length_append, List.length_cons,
        List.length_append]
      omega

theorem object_restored (paired : Bool) (fields : Fields) (rest : List Char)
    (each : ∀ entry ∈ fields, Restores reader levels entry.2) :
    outcome (readObject (readMember paired fun _ => reader) (fieldsChars fields ++ rest)) =
      within levels (nestingFields fields) (fields, rest) := by
  cases fields with
  | nil => exact (if_pos (Nat.zero_le levels)).symm
  | cons entry others =>
      obtain ⟨key, first⟩ := entry
      have text : fieldsChars ((key, first) :: others) ++ rest =
          quoted key ++ ':' :: (chars first ++ (fieldsTail others ++ rest)) := by
        simp [fieldsChars]
      have enough : others.length <
          (quoted key ++ ':' :: (chars first ++ (fieldsTail others ++ rest))).length := by
        have long := fields_text_long others
        rw [List.length_append, List.length_cons, List.length_append, List.length_append]
        omega
      rw [text, ← members_restored reader levels paired key first others _ rest each enough]
      rfl

end Restored

theorem plain_char (c : Char) (rest : List Char) (lenient : Bool) (nested : Option (Reader Json))
    (starts : (c == '-' || isDigitOf 10 c) = true) :
    readValueWith lenient nested (c :: rest) =
      readNumber (!lenient) (c :: rest) >>= fun read => .ok (.num read.1, read.2) := by
  have differs : ∀ other, (other == '-' || isDigitOf 10 other) = false → c ≠ other :=
    fun other => number_char_differs c other starts
  rw [readValueWith, skip_blanks_shown c rest (number_char_shown c starts)]
  split
  · rename_i nothing
    cases nothing
  · rename_i same
    exact absurd (List.cons.inj same).1 (differs 'n' (by decide))
  · rename_i same
    exact absurd (List.cons.inj same).1 (differs 't' (by decide))
  · rename_i same
    exact absurd (List.cons.inj same).1 (differs 'f' (by decide))
  · rename_i same
    exact absurd (List.cons.inj same).1 (differs '"' (by decide))
  · rename_i same
    exact absurd (List.cons.inj same).1 (differs '[' (by decide))
  · rename_i same
    exact absurd (List.cons.inj same).1 (differs '\x7b' (by decide))
  · rename_i same
    obtain ⟨rfl, rfl⟩ := List.cons.inj same
    rw [if_pos starts]

theorem number_restored (lenient : Bool) (nested : Option (Reader Json)) (n : Number)
    (rest : List Char) (ended : Ended rest) :
    readValueWith lenient nested (n.text ++ rest) = .ok (.num n, rest) := by
  have read := number_read_back (!lenient) n rest ended
  obtain ⟨c, others, same, starts⟩ := number_starts n
  rw [same, List.cons_append] at read ⊢
  rw [plain_char c _ lenient nested starts, read]
  rfl

theorem string_restored (lenient : Bool) (nested : Option (Reader Json)) (s : String)
    (rest : List Char) : readValueWith lenient nested (quoted s ++ rest) = .ok (.str s, rest) := by
  have read := string_read_back (!lenient) s rest
  rw [quoted, List.cons_append, List.append_assoc, List.singleton_append]
  change (readString (!lenient) _ >>= fun read => Except.ok (Json.str read.1, read.2)) = _
  rw [read]
  rfl

theorem scalar_restored (reader : Reader Json) (levels : Nat) (value : Json)
    (flat : nesting value = 0)
    (read : ∀ rest, Ended rest → reader (chars value ++ rest) = .ok (value, rest)) :
    Restores reader levels value := by
  intro rest ended
  rw [read rest ended, flat]
  exact (if_pos (Nat.zero_le levels)).symm

theorem value_restored (lenient : Bool) (value : Json) (formed : WellFormed value) (levels : Nat) :
    Restores (readValue lenient levels) levels value := by
  induction value using nested_induction generalizing levels with
  | null =>
      refine scalar_restored _ levels .null rfl fun rest _ => ?_
      rw [chars]
      cases levels <;> rfl
  | bool b =>
      refine scalar_restored _ levels (.bool b) rfl fun rest _ => ?_
      cases b <;> rw [chars] <;> cases levels <;> rfl
  | num n =>
      refine scalar_restored _ levels (.num n) rfl fun rest ended => ?_
      rw [chars]
      cases levels <;> exact number_restored lenient _ n rest ended
  | str s =>
      refine scalar_restored _ levels (.str s) rfl fun rest _ => ?_
      rw [chars]
      cases levels <;> exact string_restored lenient _ s rest
  | arr items ih =>
      intro rest ended
      rw [array_chars]
      cases levels with
      | zero => exact (if_neg (Nat.not_succ_le_zero _)).symm
      | succ levels =>
          have inner := (well_formed_array_iff items).mp formed
          have each : ∀ item ∈ items, Restores (readValue lenient levels) levels item :=
            fun item member => ih item member (inner item member) levels
          have read := array_restored _ levels items rest each
          have deeper : nestingItems items ≤ levels ↔ nesting (.arr items) ≤ levels + 1 :=
            Nat.add_le_add_iff_right.symm
          exact outcome_within _ _ levels _ (levels + 1) _ _ (Json.arr items, rest) read deeper rfl
  | obj fields ih =>
      intro rest ended
      rw [object_chars]
      cases levels with
      | zero => exact (if_neg (Nat.not_succ_le_zero _)).symm
      | succ levels =>
          obtain ⟨distinct, inner⟩ := (well_formed_object_iff fields).mp formed
          have each : ∀ entry ∈ fields, Restores (readValue lenient levels) levels entry.2 :=
            fun entry member => ih entry member (inner entry member) levels
          have read := object_restored _ levels (!lenient) fields rest each
          have deeper : nestingFields fields ≤ levels ↔ nesting (.obj fields) ≤ levels + 1 :=
            Nat.add_le_add_iff_right.symm
          have kept := Fields.of_pairs_distinct fields distinct
          have same : Except.ok (Json.obj (Fields.ofPairs fields), rest) =
              (Except.ok (Json.obj fields, rest) : Except Fault _) := by rw [kept]
          exact outcome_within _ _ levels _ (levels + 1) _ _ (Json.obj fields, rest) read deeper same

theorem nothing_ended : Ended [] := fun _ missing => nomatch missing

theorem located_cause {α : Type} (verdict : Except Fault α) (cs : List Char) :
    (verdict.mapError (Fault.locate · cs)).mapError ReadError.cause = outcome verdict := by
  cases verdict <;> rfl

theorem text_restored (levels : Nat) (value : Json) (formed : WellFormed value) :
    (ofText levels value.text).mapError ReadError.cause = within levels (nesting value) value := by
  have read := value_restored false value formed levels [] nothing_ended
  rw [List.append_nil] at read
  change (((readValue false levels value.text.toList >>= fun read =>
    readEnd read.2 >>= fun _ => Except.ok read.1)).mapError _).mapError _ = _
  rw [located_cause, text, String.toList_ofList]
  exact outcome_within _ _ levels _ levels _ _ value read Iff.rfl rfl

theorem text_read_back (levels : Nat) (value : Json) (formed : WellFormed value)
    (fits : nesting value ≤ levels) : ofText levels value.text = .ok value := by
  have read := text_restored levels value formed
  rw [within, if_pos fits] at read
  exact (Sequence.map_error_ok_iff _ _ _).mp read

theorem text_injective (a b : Json) (formed : WellFormed a) (other : WellFormed b)
    (same : a.text = b.text) : a = b := by
  have first := text_read_back (max a.nesting b.nesting) a formed (Nat.le_max_left _ _)
  have second := text_read_back (max a.nesting b.nesting) b other (Nat.le_max_right _ _)
  rw [same] at first
  exact Except.ok.inj (first.symm.trans second)

theorem deep_text_refused (levels : Nat) (value : Json) (formed : WellFormed value)
    (deep : levels < nesting value) :
    ∃ e, ofText levels value.text = .error e ∧ e.cause = .recursionLimit := by
  have read := text_restored levels value formed
  rw [within, if_neg (Nat.not_le.mpr deep)] at read
  cases told : ofText levels value.text with
  | ok value =>
      rw [told] at read
      cases read
  | error e =>
      rw [told] at read
      exact ⟨e, rfl, Except.error.inj read⟩

theorem items_tail_one_line (items : List Json) (each : ∀ item ∈ items, '\n' ∉ chars item) :
    '\n' ∉ itemsTail items := by
  induction items with
  | nil => simp [itemsTail]
  | cons item rest ih =>
      obtain ⟨head, others⟩ := List.forall_mem_cons.mp each
      simp [itemsTail, head, ih others]

theorem fields_tail_one_line (fields : Fields) (each : ∀ entry ∈ fields, '\n' ∉ chars entry.2) :
    '\n' ∉ fieldsTail fields := by
  induction fields with
  | nil => simp [fieldsTail]
  | cons entry rest ih =>
      obtain ⟨key, value⟩ := entry
      obtain ⟨head, others⟩ := List.forall_mem_cons.mp each
      simp [fieldsTail, quoted_one_line, head, ih others]

theorem text_one_line (value : Json) : '\n' ∉ chars value := by
  induction value using nested_induction with
  | null => simp [chars]
  | bool b => cases b <;> simp [chars]
  | num n =>
      rw [chars]
      exact number_one_line n
  | str s =>
      rw [chars]
      exact quoted_one_line s
  | arr items ih =>
      cases items with
      | nil => simp [chars]
      | cons item rest =>
          obtain ⟨head, others⟩ := List.forall_mem_cons.mp ih
          simp [chars, head, items_tail_one_line rest others]
  | obj fields ih =>
      cases fields with
      | nil => simp [chars]
      | cons entry rest =>
          obtain ⟨key, value⟩ := entry
          obtain ⟨head, others⟩ := List.forall_mem_cons.mp ih
          simp [chars, quoted_one_line, head, fields_tail_one_line rest others]

end RuleMatrix.Json
