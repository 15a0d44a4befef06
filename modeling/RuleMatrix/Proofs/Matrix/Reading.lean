import RuleMatrix.Matrix.Reader
import RuleMatrix.Proofs.Json.Reading
import RuleMatrix.Proofs.Json.RoundTrip

set_option autoImplicit false

namespace RuleMatrix.Matrix

open Json

def WellFormed (matrix : Matrix) : Prop := ∀ entry ∈ matrix.entries, (Json.obj entry).WellFormed

-- Of the 127 brackets that a text may have open, two stand around the entries.
def Shallow (matrix : Matrix) : Prop := ∀ entry ∈ matrix.entries, (Json.obj entry).nesting ≤ 125

instance (matrix : Matrix) : Decidable matrix.Shallow :=
  inferInstanceAs (Decidable (∀ entry ∈ matrix.entries, _))

def objects (matrix : Matrix) : List Json := matrix.entries.map .obj

theorem shallow_iff (matrix : Matrix) : nestingItems matrix.objects ≤ 125 ↔ matrix.Shallow := by
  rw [nesting_items_le_iff, objects, List.forall_mem_map]
  rfl

theorem objects_well_formed (matrix : Matrix) (formed : matrix.WellFormed) :
    ∀ value ∈ matrix.objects, value.WellFormed := by
  rw [objects, List.forall_mem_map]
  exact formed

theorem entries_of_objects (matrix : Matrix) :
    (matrix.objects.mapM entry?).map Matrix.mk = some matrix := by
  obtain ⟨entries⟩ := matrix
  have each : (entries.map Json.obj).mapM entry? = some entries := by
    induction entries with
    | nil => rfl
    | cons entry rest ih =>
        rw [List.map_cons, List.mapM_cons, ih]
        rfl
  rw [objects, each]
  rfl

theorem entries_restored (items : List Json) (rest : List Char)
    (formed : ∀ item ∈ items, item.WellFormed) :
    outcome (readEntries (chars (.arr items) ++ rest)) =
      within 125 (nestingItems items) (items, rest) := by
  have each : ∀ item ∈ items, Restores (readValue false 125) 125 item :=
    fun item member => value_restored false item (formed item member) 125
  rw [array_chars]
  exact array_restored (readValue false 125) 125 items rest each

theorem include_restored (items : List Json) (rest : List Char)
    (formed : ∀ item ∈ items, item.WellFormed) :
    outcome (readMember true readInclude (quoted "include" ++ ':' :: (chars (.arr items) ++ rest))) =
      within 125 (nestingItems items) (("include", some items), rest) := by
  have listed : readInclude "include" (chars (.arr items) ++ rest) =
      readEntries (chars (.arr items) ++ rest) >>= fun read => .ok (some read.1, read.2) :=
    if_pos rfl
  have value : outcome (readInclude "include" (chars (.arr items) ++ rest)) =
      within 125 (nestingItems items) (some items, rest) := by
    rw [listed]
    exact outcome_within _ _ 125 _ 125 _ _ (some items, rest) (entries_restored items rest formed)
      Iff.rfl rfl
  rw [member_value]
  exact outcome_within _ _ 125 _ 125 _ _ (("include", some items), rest) value Iff.rfl rfl

theorem lists_restored (items : List Json) (formed : ∀ item ∈ items, item.WellFormed) :
    outcome (readLists (chars (.obj [("include", .arr items)]))) =
      within 125 (nestingItems items) ([items], []) := by
  have member := include_restored items ['\x7d'] formed
  have members : outcome (readObject (readMember true readInclude)
      (fieldsChars [("include", .arr items)])) =
      within 125 (nestingItems items) ([("include", some items)], []) :=
    members_stop 125 _ _ _ [] (readMember true readInclude) ("include", some items) member
  rw [object_chars]
  exact outcome_within _ _ 125 _ 125 _ _ ([items], []) members Iff.rfl rfl

theorem text_parsed (matrix : Matrix) (formed : matrix.WellFormed) :
    parse? matrix.text = if matrix.Shallow then some matrix else none := by
  have lists := lists_restored matrix.objects (objects_well_formed matrix formed)
  rw [text, Json.text, parse?, String.toList_ofList]
  change outcome (readLists (chars matrix.toJson)) = _ at lists
  by_cases shallow : matrix.Shallow
  · rw [within, if_pos ((shallow_iff matrix).mpr shallow)] at lists
    rw [(outcome_ok_iff _ _).mp lists, if_pos shallow]
    exact entries_of_objects matrix
  · rw [within, if_neg (mt (shallow_iff matrix).mp shallow)] at lists
    rw [if_neg shallow]
    split
    · rename_i read
      rw [read] at lists
      cases lists
    · rfl

def Readable (value : Json) : Prop := value.WellFormed ∧ value.nesting ≤ 125

theorem entries_readable : Ensures readEntries fun items => ∀ item ∈ items, Readable item := by
  intro cs items rest read
  have each : Ensures (readValue false 125) Readable := fun cs value rest read =>
    ⟨value_well_formed false 125 cs value rest read, value_nesting false 125 cs value rest read⟩
  unfold readEntries at read
  split at read
  · exact array_ensured Readable _ each _ items rest read
  · cases read

def Listed (given : Option (List Json)) : Prop := ∀ items ∈ given, ∀ item ∈ items, Readable item

theorem include_readable (key : String) : Ensures (readInclude key) Listed := by
  intro cs listed rest read
  by_cases named : key = "include"
  · rw [readInclude, if_pos named] at read
    obtain ⟨⟨items, behind⟩, step, same⟩ := (Sequence.bind_ok_iff _ _ _).mp read
    cases same
    intro others given
    exact Option.some.inj given ▸ entries_readable cs items _ step
  · rw [readInclude, if_neg named] at read
    obtain ⟨_, _, same⟩ := (Sequence.bind_ok_iff _ _ _).mp read
    cases same
    nofun

theorem lists_readable (cs rest : List Char) (lists : List (List Json))
    (read : readLists cs = .ok (lists, rest)) : ∀ items ∈ lists, ∀ item ∈ items, Readable item := by
  unfold readLists at read
  split at read
  · exact array_ensured _ readEntries entries_readable _ lists rest read
  · obtain ⟨⟨pairs, behind⟩, step, same⟩ := (Sequence.bind_ok_iff _ _ _).mp read
    cases same
    have member := member_ensured Listed true readInclude include_readable
    have each := object_ensured Listed _ member _ pairs _ step
    intro items listed
    obtain ⟨pair, present, given⟩ := List.mem_filterMap.mp listed
    exact each pair present items given
  · cases read

theorem entries_source (items : List Json) (entries : List Fields)
    (found : items.mapM entry? = some entries) : items = entries.map .obj := by
  induction items generalizing entries with
  | nil =>
      obtain rfl := Option.some.inj found
      rfl
  | cons value rest ih =>
      rw [List.mapM_cons] at found
      obtain ⟨first, head, later⟩ := Option.bind_eq_some_iff.mp found
      obtain ⟨others, tail, same⟩ := Option.bind_eq_some_iff.mp later
      obtain rfl := Option.some.inj same
      cases value with
      | obj fields =>
          obtain rfl := Option.some.inj head
          rw [ih others tail]
          rfl
      | _ => cases head

theorem parsed_readable (text : String) (matrix : Matrix) (read : parse? text = some matrix) :
    matrix.WellFormed ∧ matrix.Shallow := by
  unfold parse? at read
  split at read
  · rename_i items rest step
    by_cases ended : (skipBlanks rest).isEmpty = true
    · rw [if_pos ended] at read
      obtain ⟨entries, found, rfl⟩ := Option.map_eq_some_iff.mp read
      have each := lists_readable _ rest [items] step items List.mem_cons_self
      have readable : ∀ entry ∈ entries, Readable (.obj entry) := by
        intro entry member
        rw [entries_source items entries found] at each
        exact each (.obj entry) (List.mem_map_of_mem member)
      exact ⟨fun entry member => (readable entry member).1, fun entry member => (readable entry member).2⟩
    · rw [if_neg ended] at read
      cases read
  · cases read

theorem items_joined (items : List Json) :
    [','].intercalate (items.map chars) ++ [']'] = itemsChars items := by
  cases items with
  | nil => rfl
  | cons first others =>
      induction others generalizing first with
      | nil => rw [List.map_singleton, List.intercalate_singleton, itemsChars, itemsTail]
      | cons second more ih =>
          have joined := ih second
          rw [List.map_cons] at joined
          rw [List.map_cons, List.map_cons, List.intercalate_cons_cons, List.append_assoc,
            List.append_assoc, joined]
          rfl

theorem serialized_text (matrix : Matrix) : matrix.serialized = matrix.text := by
  have joined := items_joined matrix.objects
  have whole : chars matrix.toJson = '\x7b' :: (quoted "include" ++
      ':' :: (chars (.arr matrix.objects) ++ ['\x7d'])) := by
    rw [toJson, object_chars, fieldsChars, fieldsTail]
    rfl
  have each : matrix.entries.map (fun entry => chars (.obj entry)) = matrix.objects.map chars :=
    List.map_map.symm
  rw [serialized, text, Json.text, whole, array_chars, ← joined, each]
  simp

theorem text_reads_back_within_limit (matrix : Matrix) (formed : matrix.WellFormed) :
    toString matrix = matrix.text ∧ matrix.serialized = matrix.text ∧
      ((∀ entry ∈ matrix.entries, (Json.obj entry).nesting ≤ 125) →
        parse? matrix.text = some matrix) ∧
      ((∃ entry ∈ matrix.entries, 125 < (Json.obj entry).nesting) → parse? matrix.text = none) ∧
      ∀ text found, parse? text = some found → parse? found.text = some found := by
  have parsed := text_parsed matrix formed
  refine ⟨rfl, serialized_text matrix, ?_, ?_, ?_⟩
  · exact fun shallow => parsed.trans (if_pos shallow)
  · intro deeper
    obtain ⟨entry, member, deep⟩ := deeper
    have refused : ¬matrix.Shallow := fun shallow => Nat.not_le.mpr deep (shallow entry member)
    rw [parsed, if_neg refused]
  · intro text found read
    obtain ⟨well, shallow⟩ := parsed_readable text found read
    exact (text_parsed found well).trans (if_pos shallow)

def mixedEntries : Matrix :=
  ⟨[[("b", .str "\"é\n"), ("a", .arr [.num (.int (-7) (by decide)), .num (.real (.zero true)), .null])], []]⟩

def entriesInList : String := "[ [\x7b\"b\": \"x\\n\", \"a\": null\x7d] ]"

theorem mixed_entries_read_back :
    mixedEntries.WellFormed ∧ parse? mixedEntries.text = some mixedEntries ∧
      ∃ found, parse? entriesInList = some found ∧ parse? found.text = some found := by
  have formed : mixedEntries.WellFormed := by
    simp [WellFormed, mixedEntries, Json.WellFormed, WellFormedFields, WellFormedItems,
      Fields.Distinct, Fields.keys]
  obtain ⟨_, _, whole, _, again⟩ := text_reads_back_within_limit mixedEntries formed
  have shallow : ∀ entry ∈ mixedEntries.entries, (Json.obj entry).nesting ≤ 125 := by
    simp [mixedEntries, nesting, nestingFields, nestingItems]
  have readable : (parse? entriesInList).isSome = true := by decide +kernel
  obtain ⟨found, read⟩ := Option.isSome_iff_exists.mp readable
  exact ⟨formed, whole shallow, found, read, again entriesInList found read⟩

end RuleMatrix.Matrix
