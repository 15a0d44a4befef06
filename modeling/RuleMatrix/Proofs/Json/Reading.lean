import RuleMatrix.Json.Reader
import RuleMatrix.Proofs.Json.Structure
import RuleMatrix.Proofs.Sequence

set_option autoImplicit false

namespace RuleMatrix.Json

def Ensures {α : Type} (reader : Reader α) (holds : α → Prop) : Prop :=
  ∀ cs value rest, reader cs = .ok (value, rest) → holds value

section Loops

variable {α : Type} (holds : α → Prop)

theorem items_ensured (item : Reader α) (ensured : Ensures item holds) (steps : Nat) :
    Ensures (readItems item steps) fun items => ∀ x ∈ items, holds x := by
  induction steps with
  | zero =>
      intro cs items rest read
      cases read
  | succ steps ih =>
      intro cs items rest read
      obtain ⟨⟨first, behind⟩, step, later⟩ := (Sequence.bind_ok_iff _ _ _).mp read
      have head := ensured cs first behind step
      dsimp only at later
      split at later
      · cases later
      · cases later
        exact List.forall_mem_singleton.mpr head
      · split at later
        · cases later
        · obtain ⟨⟨others, left⟩, tail, same⟩ := (Sequence.bind_ok_iff _ _ _).mp later
          cases same
          exact List.forall_mem_cons.mpr ⟨head, ih _ others left tail⟩
      · cases later

theorem array_ensured (item : Reader α) (ensured : Ensures item holds) :
    Ensures (readArray item) fun items => ∀ x ∈ items, holds x := by
  intro cs items rest read
  unfold readArray at read
  split at read
  · cases read
  · cases read
    exact List.forall_mem_nil holds
  · exact items_ensured holds item ensured _ _ items rest read

theorem member_ensured (paired : Bool) (value : String → Reader α)
    (ensured : ∀ key, Ensures (value key) holds) :
    Ensures (readMember paired value) fun member => holds member.2 := by
  intro cs member rest read
  unfold readMember at read
  split at read
  · cases read
  · obtain ⟨⟨key, behind⟩, _, later⟩ := (Sequence.bind_ok_iff _ _ _).mp read
    dsimp only at later
    split at later
    · cases later
    · obtain ⟨⟨content, left⟩, step, same⟩ := (Sequence.bind_ok_iff _ _ _).mp later
      cases same
      exact ensured key _ content left step
    · cases later
  · cases read

theorem members_ensured (member : Reader (String × α))
    (ensured : Ensures member fun entry => holds entry.2) (steps : Nat) :
    Ensures (readMembers member steps) fun entries => ∀ entry ∈ entries, holds entry.2 := by
  induction steps with
  | zero =>
      intro cs entries rest read
      cases read
  | succ steps ih =>
      intro cs entries rest read
      obtain ⟨⟨first, behind⟩, step, later⟩ := (Sequence.bind_ok_iff _ _ _).mp read
      have head := ensured cs first behind step
      dsimp only at later
      split at later
      · cases later
      · cases later
        exact List.forall_mem_singleton.mpr head
      · split at later
        · cases later
        · obtain ⟨⟨others, left⟩, tail, same⟩ := (Sequence.bind_ok_iff _ _ _).mp later
          cases same
          exact List.forall_mem_cons.mpr ⟨head, ih _ others left tail⟩
      · cases later

theorem object_ensured (member : Reader (String × α))
    (ensured : Ensures member fun entry => holds entry.2) :
    Ensures (readObject member) fun entries => ∀ entry ∈ entries, holds entry.2 := by
  intro cs entries rest read
  unfold readObject at read
  split at read
  · cases read
  · cases read
    exact List.forall_mem_nil _
  · exact members_ensured holds member ensured _ _ entries rest read

end Loops

theorem word_read (value result : Json) (word cs rest : List Char)
    (read : readWord value word cs = .ok (result, rest)) : result = value := by
  induction word generalizing cs with
  | nil =>
      cases read
      rfl
  | cons letter word ih =>
      cases cs with
      | nil => cases read
      | cons c others =>
          by_cases same : letter = c
          · rw [readWord, if_pos same] at read
            exact ih others read
          · rw [readWord, if_neg same] at read
            cases read

theorem value_with_ensured (lenient : Bool) (nested : Option (Reader Json)) (holds : Json → Prop)
    (scalar : ∀ value, value.isCompound = false → holds value)
    (array : ∀ inner, nested = some inner → Ensures (readArray inner) fun items => holds (.arr items))
    (object : ∀ inner, nested = some inner → Ensures (readObject (readMember (!lenient) fun _ => inner))
      fun pairs => holds (.obj (Fields.ofPairs pairs))) :
    Ensures (readValueWith lenient nested) holds := by
  intro cs value rest read
  unfold readValueWith at read
  split at read
  · cases read
  · exact word_read _ value _ _ rest read ▸ scalar _ rfl
  · exact word_read _ value _ _ rest read ▸ scalar _ rfl
  · exact word_read _ value _ _ rest read ▸ scalar _ rfl
  · obtain ⟨⟨content, behind⟩, _, same⟩ := (Sequence.bind_ok_iff _ _ _).mp read
    cases same
    exact scalar _ rfl
  · cases nested with
    | none => cases read
    | some inner =>
        obtain ⟨⟨items, behind⟩, step, same⟩ := (Sequence.bind_ok_iff _ _ _).mp read
        cases same
        exact array inner rfl _ items _ step
  · cases nested with
    | none => cases read
    | some inner =>
        obtain ⟨⟨pairs, behind⟩, step, same⟩ := (Sequence.bind_ok_iff _ _ _).mp read
        cases same
        exact object inner rfl _ pairs _ step
  · split at read
    · obtain ⟨⟨n, behind⟩, _, same⟩ := (Sequence.bind_ok_iff _ _ _).mp read
      cases same
      exact scalar _ rfl
    · cases read

-- Induction on the brackets that may be opened: what is read inside one is read with fewer.
theorem value_ensured (lenient : Bool) (holds : Nat → Json → Prop)
    (scalar : ∀ levels value, value.isCompound = false → holds levels value)
    (array : ∀ levels items, (∀ item ∈ items, holds levels item) → holds (levels + 1) (.arr items))
    (object : ∀ levels pairs, (∀ entry ∈ pairs, holds levels entry.2) →
      holds (levels + 1) (.obj (Fields.ofPairs pairs))) (levels : Nat) :
    Ensures (readValue lenient levels) (holds levels) := by
  induction levels with
  | zero => exact value_with_ensured lenient none _ (scalar 0) nofun nofun
  | succ levels ih =>
      refine value_with_ensured lenient _ _ (scalar (levels + 1)) ?_ ?_
      · intro inner given cs items rest read
        obtain rfl := Option.some.inj given
        exact array levels items (array_ensured (holds levels) _ ih cs items rest read)
      · intro inner given cs pairs rest read
        obtain rfl := Option.some.inj given
        have member := member_ensured (holds levels) (!lenient) _ fun _ => ih
        exact object levels pairs (object_ensured (holds levels) _ member cs pairs rest read)

theorem value_well_formed (lenient : Bool) (levels : Nat) :
    Ensures (readValue lenient levels) WellFormed := by
  refine value_ensured lenient (fun _ => WellFormed) ?_ ?_ ?_ levels
  · exact fun _ value flat => scalar_well_formed value flat
  · exact fun _ items each => (well_formed_array_iff items).mpr each
  · exact fun _ pairs each => extend_well_formed [] pairs ⟨List.nodup_nil, trivial⟩ each

theorem value_nesting (lenient : Bool) (levels : Nat) :
    Ensures (readValue lenient levels) fun value => nesting value ≤ levels := by
  refine value_ensured lenient (fun levels value => nesting value ≤ levels) ?_ ?_ ?_ levels
  · exact fun levels value flat => scalar_nesting value flat ▸ Nat.zero_le levels
  · exact fun levels items each => (nesting_array_le_iff levels items).mpr each
  · intro levels pairs each
    have kept := Fields.of_pairs_each (fun value => nesting value ≤ levels) pairs each
    exact (nesting_object_le_iff levels _).mpr kept

theorem read_ensured (levels : Nat) (holds : Json → Prop) (ensured : Ensures (readValue false levels) holds)
    (text : String) (value : Json) (read : ofText levels text = .ok value) : holds value := by
  have verdict := (Sequence.map_error_ok_iff _ _ _).mp read
  obtain ⟨⟨first, rest⟩, step, later⟩ := (Sequence.bind_ok_iff _ _ _).mp verdict
  obtain ⟨_, _, same⟩ := (Sequence.bind_ok_iff _ _ _).mp later
  cases same
  exact ensured _ _ rest step

theorem read_well_formed (levels : Nat) (text : String) (value : Json)
    (read : ofText levels text = .ok value) : WellFormed value :=
  read_ensured levels WellFormed (value_well_formed false levels) text value read

theorem read_nesting (levels : Nat) (text : String) (value : Json)
    (read : ofText levels text = .ok value) : nesting value ≤ levels :=
  read_ensured levels _ (value_nesting false levels) text value read

end RuleMatrix.Json
