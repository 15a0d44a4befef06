import RuleMatrix.Matrix
import RuleMatrix.Proofs.Json.RoundTrip
import RuleMatrix.Proofs.Sequence.Firsts

set_option autoImplicit false

namespace RuleMatrix.Matrix

open Sequence

theorem entry_text_injective (a b : Fields) (formed : (Json.obj a).WellFormed)
    (other : (Json.obj b).WellFormed) (same : entryText a = entryText b) : a = b :=
  Json.obj.inj (Json.text_injective (.obj a) (.obj b) formed other same)

-- The texts seen are those of all entries before, also of the ones dropped.
theorem distinct_firsts (before : List Fields) (seen : List String) (outputs : List Fields)
    (texts : ∀ text, text ∈ seen ↔ text ∈ before.map entryText)
    (formed : ∀ entry ∈ before ++ outputs, (Json.obj entry).WellFormed) :
    Firsts before outputs (distinct seen outputs) := by
  induction outputs generalizing before seen with
  | nil => exact .nil before
  | cons entry rest ih =>
      have one : (Json.obj entry).WellFormed := formed entry (by simp)
      have others : ∀ other ∈ before ++ [entry] ++ rest, (Json.obj other).WellFormed := by
        simpa using formed
      have known_iff : entryText entry ∈ seen ↔ entry ∈ before := by
        rw [texts, List.mem_map]
        constructor
        · rintro ⟨other, member, same⟩
          have fine := formed other (List.mem_append_left _ member)
          exact entry_text_injective other entry fine one same ▸ member
        · exact fun member => ⟨entry, member, rfl⟩
      by_cases known : entryText entry ∈ seen
      · rw [distinct, if_pos (List.contains_iff_mem.mpr known)]
        refine .again before entry rest _ (known_iff.mp known) (ih _ seen ?_ others)
        intro text
        rw [List.map_append, List.mem_append, ← texts, List.map_singleton, List.mem_singleton]
        exact ⟨.inl, fun there => there.elim id fun same => same ▸ known⟩
      · rw [distinct, if_neg (mt List.contains_iff_mem.mp known)]
        refine .fresh before entry rest _ (mt known_iff.mpr known) (ih _ (entryText entry :: seen) ?_ others)
        intro text
        rw [List.map_append, List.mem_append, ← texts, List.map_singleton, List.mem_singleton,
          List.mem_cons, or_comm]

theorem entries_firsts (outputs : List Fields)
    (formed : ∀ entry ∈ outputs, (Json.obj entry).WellFormed) :
    Firsts [] outputs (ofOutputs outputs).entries :=
  distinct_firsts [] [] outputs (fun _ => Iff.rfl) formed

theorem of_outputs_of_firsts (outputs kept : List Fields) (firsts : Firsts [] outputs kept)
    (formed : ∀ entry ∈ outputs, (Json.obj entry).WellFormed) : ofOutputs outputs = ⟨kept⟩ :=
  congrArg Matrix.mk (firsts_unique [] outputs _ kept (entries_firsts outputs formed) firsts)

theorem repeats_alone_dropped (outputs more : List Fields)
    (formed : ∀ entry ∈ outputs ++ more, (Json.obj entry).WellFormed) :
    Firsts [] outputs (ofOutputs outputs).entries ∧
      (ofOutputs outputs).entries.Sublist outputs ∧
      (ofOutputs outputs).entries.Nodup ∧
      (∀ entry ∈ outputs, entry ∈ (ofOutputs outputs).entries) ∧
      ofOutputs (ofOutputs outputs).entries = ofOutputs outputs ∧
      ofOutputs (outputs ++ more) = ofOutputs ((ofOutputs outputs).entries ++ more) := by
  have parts := List.forall_mem_append.mp formed
  have firsts := entries_firsts outputs parts.1
  have kept := firsts_sublist [] outputs _ firsts
  have keptFormed : ∀ entry ∈ (ofOutputs outputs).entries, (Json.obj entry).WellFormed :=
    fun entry member => parts.1 entry (kept.subset member)
  have bothFormed : ∀ entry ∈ (ofOutputs outputs).entries ++ more, (Json.obj entry).WellFormed :=
    List.forall_mem_append.mpr ⟨keptFormed, parts.2⟩
  refine ⟨firsts, kept, firsts_nodup [] outputs _ firsts, ?_, ?_, ?_⟩
  · exact fun entry member => (mem_firsts_iff [] outputs _ firsts entry).mpr ⟨member, List.not_mem_nil⟩
  · exact of_outputs_of_firsts _ _ (firsts_themselves outputs _ firsts) keptFormed
  · have later := distinct_firsts outputs (outputs.map entryText) more (fun _ => Iff.rfl) formed
    obtain ⟨whole, shorter⟩ := firsts_in_parts outputs _ firsts more _ later
    rw [of_outputs_of_firsts _ _ whole formed, of_outputs_of_firsts _ _ shorter bothFormed]

def zeroEntry (zero : Number) : Fields := [("z", .num zero)]

def turnedEntry (first second : String) : Fields := [("o", .obj [(first, .null), (second, .null)])]

theorem zero_in_word : InWord 0 := by decide

def nearRepeats : List Fields :=
  [zeroEntry (.int 0 zero_in_word), zeroEntry (.real (.zero false)), zeroEntry (.real (.zero true)),
    turnedEntry "a" "b", turnedEntry "b" "a"]

theorem near_repeats_kept :
    (∀ entry ∈ nearRepeats ++ nearRepeats, (Json.obj entry).WellFormed) ∧
      (ofOutputs nearRepeats).entries.Nodup ∧
      ofOutputs (nearRepeats ++ nearRepeats) =
        ofOutputs ((ofOutputs nearRepeats).entries ++ nearRepeats) ∧
      (ofOutputs (nearRepeats ++ nearRepeats)).text = (Matrix.mk nearRepeats).text := by
  have formed : ∀ entry ∈ nearRepeats ++ nearRepeats, (Json.obj entry).WellFormed := by
    simp [nearRepeats, zeroEntry, turnedEntry, Json.WellFormed, Json.WellFormedFields,
      Fields.Distinct, Fields.keys]
  obtain ⟨_, _, apart, _, _, parts⟩ := repeats_alone_dropped nearRepeats nearRepeats formed
  exact ⟨formed, apart, parts, by decide +kernel⟩

end RuleMatrix.Matrix
