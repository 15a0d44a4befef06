import RuleMatrix.Context
import RuleMatrix.Proofs.Fields

set_option autoImplicit false

namespace RuleMatrix.Json

-- The recursor asks for motives of the two kinds of lists; this is the principle without them.
theorem nested_induction {motive : Json → Prop}
    (null : motive .null) (bool : ∀ b, motive (.bool b)) (num : ∀ n, motive (.num n))
    (str : ∀ s, motive (.str s))
    (arr : ∀ items, (∀ item ∈ items, motive item) → motive (.arr items))
    (obj : ∀ fields, (∀ entry ∈ fields, motive entry.2) → motive (.obj fields)) :
    ∀ value, motive value
  | .null => null
  | .bool b => bool b
  | .num n => num n
  | .str s => str s
  | .arr items => arr items fun item _ => nested_induction null bool num str arr obj item
  | .obj fields => obj fields fun entry _ => nested_induction null bool num str arr obj entry.2
termination_by value => sizeOf value
decreasing_by
  · have smaller := List.sizeOf_lt_of_mem ‹item ∈ items›
    simp only [Json.arr.sizeOf_spec]
    omega
  · have smaller := List.sizeOf_lt_of_mem ‹entry ∈ fields›
    obtain ⟨key, value⟩ := entry
    simp only [Prod.mk.sizeOf_spec, Json.obj.sizeOf_spec] at smaller ⊢
    omega

theorem scalar_well_formed (value : Json) (scalar : value.isCompound = false) : WellFormed value := by
  cases value with
  | arr items => cases scalar
  | obj fields => cases scalar
  | _ => trivial

theorem scalar_nesting (value : Json) (scalar : value.isCompound = false) : nesting value = 0 := by
  cases value with
  | arr items => cases scalar
  | obj fields => cases scalar
  | _ => rfl

theorem well_formed_items_iff (items : List Json) :
    WellFormedItems items ↔ ∀ item ∈ items, WellFormed item := by
  induction items with
  | nil => simp [WellFormedItems]
  | cons item rest ih => simp [WellFormedItems, ih]

theorem well_formed_fields_iff (fields : Fields) :
    WellFormedFields fields ↔ ∀ entry ∈ fields, WellFormed entry.2 := by
  induction fields with
  | nil => simp [WellFormedFields]
  | cons entry rest ih => simp [WellFormedFields, ih]

theorem well_formed_array_iff (items : List Json) :
    WellFormed (.arr items) ↔ ∀ item ∈ items, WellFormed item :=
  well_formed_items_iff items

theorem well_formed_object_iff (fields : Fields) :
    WellFormed (.obj fields) ↔ Fields.Distinct fields ∧ ∀ entry ∈ fields, WellFormed entry.2 :=
  and_congr_right fun _ => well_formed_fields_iff fields

theorem nesting_items_le_iff (levels : Nat) (items : List Json) :
    nestingItems items ≤ levels ↔ ∀ item ∈ items, nesting item ≤ levels := by
  induction items with
  | nil => simp [nestingItems]
  | cons item rest ih => rw [nestingItems, Nat.max_le, ih, List.forall_mem_cons]

theorem nesting_fields_le_iff (levels : Nat) (fields : Fields) :
    nestingFields fields ≤ levels ↔ ∀ entry ∈ fields, nesting entry.2 ≤ levels := by
  induction fields with
  | nil => simp [nestingFields]
  | cons entry rest ih => rw [nestingFields, Nat.max_le, ih, List.forall_mem_cons]

theorem nesting_array_le_iff (levels : Nat) (items : List Json) :
    nesting (.arr items) ≤ levels + 1 ↔ ∀ item ∈ items, nesting item ≤ levels := by
  rw [nesting, Nat.add_le_add_iff_right, nesting_items_le_iff]

theorem nesting_object_le_iff (levels : Nat) (fields : Fields) :
    nesting (.obj fields) ≤ levels + 1 ↔ ∀ entry ∈ fields, nesting entry.2 ≤ levels := by
  rw [nesting, Nat.add_le_add_iff_right, nesting_fields_le_iff]

theorem members_well_formed (value : Json) (formed : WellFormed value) :
    WellFormed (.obj value.members) := by
  cases value with
  | obj fields => exact formed
  | _ => exact ⟨List.nodup_nil, trivial⟩

theorem member_well_formed (value inner : Json) (key : String) (formed : WellFormed value)
    (found : Fields.get? key value.members = some inner) : WellFormed inner := by
  have parts := (well_formed_object_iff value.members).mp (members_well_formed value formed)
  exact parts.2 (key, inner) (Fields.get_member key inner value.members found)

theorem member_nesting (levels : Nat) (value inner : Json) (key : String)
    (fits : nesting value ≤ levels + 1) (found : Fields.get? key value.members = some inner) :
    nesting inner ≤ levels := by
  have member := Fields.get_member key inner value.members found
  cases value with
  | obj fields => exact (nesting_object_le_iff levels fields).mp fits (key, inner) member
  | _ => cases member

theorem object_well_formed (fields : Fields) (distinct : Fields.Distinct fields)
    (each : ∀ key value, Fields.get? key fields = some value → WellFormed value) :
    WellFormed (.obj fields) := by
  refine (well_formed_object_iff fields).mpr ⟨distinct, ?_⟩
  intro entry member
  exact each entry.1 entry.2 (Fields.get_of_member entry.1 entry.2 fields distinct member)

theorem insert_well_formed (key : String) (fresh : Json) (fields : Fields)
    (formed : WellFormed (.obj fields)) (fine : WellFormed fresh) :
    WellFormed (.obj (Fields.insert key fresh fields)) := by
  apply object_well_formed
  · exact Fields.insert_distinct key fresh fields formed.1
  · intro other value found
    rw [Fields.get_insert] at found
    by_cases same : key = other
    · rw [if_pos same] at found
      exact Option.some.inj found ▸ fine
    · rw [if_neg same] at found
      exact member_well_formed (.obj fields) value other formed found

theorem extend_well_formed (fields more : Fields) (formed : WellFormed (.obj fields))
    (each : ∀ entry ∈ more, WellFormed entry.2) : WellFormed (.obj (Fields.extend fields more)) := by
  induction more generalizing fields with
  | nil => exact formed
  | cons entry rest ih =>
      obtain ⟨fine, others⟩ := List.forall_mem_cons.mp each
      exact ih _ (insert_well_formed entry.1 entry.2 fields formed fine) others

theorem resolved_well_formed (path : List String) (value inner : Json) (formed : WellFormed value)
    (found : resolve path value = some inner) : WellFormed inner := by
  induction path generalizing value with
  | nil => exact Option.some.inj found ▸ formed
  | cons key rest ih =>
      obtain ⟨next, step, later⟩ := Option.bind_eq_some_iff.mp found
      exact ih next (member_well_formed value next key formed step) later

theorem inner_well_formed (key : String) (value : Json) (formed : WellFormed value) :
    WellFormed ((Fields.get? key value.members).getD .null) := by
  cases found : Fields.get? key value.members with
  | none => trivial
  | some inner => exact member_well_formed value inner key formed found

theorem write_well_formed (fresh : Json) (path : List String) (value : Json)
    (fine : WellFormed fresh) (formed : WellFormed value) : WellFormed (write fresh path value) := by
  induction path generalizing value with
  | nil => exact fine
  | cons key rest ih =>
      rw [write]
      apply insert_well_formed key _ _ (members_well_formed value formed)
      exact ih _ (inner_well_formed key value formed)

end RuleMatrix.Json
