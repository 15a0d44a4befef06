import RuleMatrix.Proofs.Fields

set_option autoImplicit false

namespace RuleMatrix.Fields

theorem insert_again (key : String) (first second : Json) (fields : Fields) :
    insert key second (insert key first fields) = insert key second fields := by
  induction fields with
  | nil => simp [insert]
  | cons entry rest ih => by_cases same : entry.1 = key <;> simp [insert, same, ih]

-- Both sides keep the known key where it is; only a fresh other key is appended.
theorem insert_swapped (key other : String) (fresh value : Json) (fields : Fields)
    (known : key ∈ keys fields) (different : other ≠ key) :
    insert key fresh (insert other value fields) = insert other value (insert key fresh fields) := by
  induction fields with
  | nil => cases known
  | cons entry rest ih =>
      by_cases here : entry.1 = key
      · have apart : key ≠ other := different.symm
        simp [insert, here, apart]
      · have later : key ∈ keys rest := (List.mem_cons.mp known).resolve_left (Ne.symm here)
        by_cases there : entry.1 = other
        · simp [insert, there, different]
        · simp [insert, here, there, ih later]

-- The order differs only where both keys are new.
theorem insert_permuted (key other : String) (fresh value : Json) (fields : Fields)
    (different : key ≠ other) :
    (insert key fresh (insert other value fields)).Perm
      (insert other value (insert key fresh fields)) := by
  by_cases known : key ∈ keys fields
  · rw [insert_swapped key other fresh value fields known different.symm]
  · by_cases there : other ∈ keys fields
    · rw [insert_swapped other key value fresh fields there different]
    · have absent : key ∉ keys (fields ++ [(other, value)]) := by
        simpa [keys, different] using known
      have missing : other ∉ keys (fields ++ [(key, fresh)]) := by
        simpa [keys, different.symm] using there
      rw [insert_fresh other value fields there, insert_fresh key fresh fields known,
        insert_fresh key fresh _ absent, insert_fresh other value _ missing, List.append_assoc,
        List.append_assoc]
      exact (List.Perm.swap _ _ _).append_left fields

theorem extend_after_known (key : String) (value : Json) (fields more : Fields)
    (known : key ∈ keys fields) (absent : key ∉ keys more) :
    extend (insert key value fields) more = insert key value (extend fields more) := by
  induction more generalizing fields with
  | nil => rfl
  | cons entry rest ih =>
      have different : entry.1 ≠ key := fun same => absent (same ▸ List.mem_cons_self)
      have later : key ∉ keys rest := fun member => absent (List.mem_cons_of_mem _ member)
      have still : key ∈ keys (insert entry.1 entry.2 fields) := by
        rw [keys_insert]
        split
        · exact known
        · exact List.mem_append_left _ known
      rw [extend_cons, extend_cons, ← ih _ still later,
        insert_swapped key entry.1 value entry.2 fields known different]

theorem extend_insert (key : String) (value : Json) (fields more : Fields)
    (distinct : Distinct more) :
    extend fields (insert key value more) = insert key value (extend fields more) := by
  induction more generalizing fields with
  | nil => rfl
  | cons entry rest ih =>
      obtain ⟨absent, restDistinct⟩ := List.nodup_cons.mp distinct
      by_cases same : entry.1 = key
      · subst same
        have known : entry.1 ∈ keys (insert entry.1 entry.2 fields) := by
          rw [keys_insert]
          split
          · assumption
          · exact List.mem_append_right _ (List.mem_singleton_self _)
        rw [insert, if_pos rfl, extend_cons, extend_cons,
          ← extend_after_known entry.1 value _ rest known absent, insert_again]
      · rw [insert, if_neg same, extend_cons, extend_cons]
        exact ih (insert entry.1 entry.2 fields) restDistinct

theorem extend_distinct (fields more : Fields) (distinct : Distinct fields) :
    Distinct (extend fields more) := by
  induction more generalizing fields with
  | nil => exact distinct
  | cons entry rest ih => exact ih _ (insert_distinct entry.1 entry.2 fields distinct)

theorem extend_associative (fields more others : Fields) (distinct : Distinct more) :
    extend (extend fields more) others = extend fields (extend more others) := by
  induction others generalizing more with
  | nil => rfl
  | cons entry rest ih =>
      rw [extend_cons, extend_cons, ← extend_insert entry.1 entry.2 fields more distinct]
      exact ih _ (insert_distinct entry.1 entry.2 more distinct)

theorem merge_distinct (objects : List Fields) : Distinct (merge objects) := by
  rw [merge_flatten]
  exact extend_distinct [] _ List.nodup_nil

theorem merge_append (objects others : List Fields) :
    merge (objects ++ others) = merge [merge objects, merge others] := by
  have start : extend [] (merge objects) = merge objects :=
    extend_fresh [] (merge objects) (merge_distinct objects)
  calc merge (objects ++ others)
      = extend (merge objects) others.flatten := by
        rw [merge_flatten, merge_flatten, List.flatten_append, extend, List.foldl_append]
        rfl
    _ = extend (merge objects) (extend [] others.flatten) :=
        extend_associative (merge objects) [] others.flatten List.nodup_nil
    _ = extend (extend [] (merge objects)) (merge others) := by rw [start, merge_flatten others]

theorem insert_found (key : String) (value : Json) (fields : Fields)
    (found : get? key fields = some value) : insert key value fields = fields := by
  induction fields with
  | nil => cases found
  | cons entry rest ih =>
      by_cases same : entry.1 = key
      · simp only [get?, if_pos same, Option.some.injEq] at found
        rw [insert, if_pos same, ← found]
      · simp only [get?, if_neg same] at found
        rw [insert, if_neg same, ih found]

theorem extend_found (fields more : Fields)
    (found : ∀ entry ∈ more, get? entry.1 fields = some entry.2) : extend fields more = fields := by
  induction more with
  | nil => rfl
  | cons entry rest ih =>
      obtain ⟨here, others⟩ := List.forall_mem_cons.mp found
      rw [extend_cons, insert_found entry.1 entry.2 fields here, ih others]

section Copies

variable (object : Fields) (distinct : Distinct object)

include distinct

theorem extend_itself : extend object object = object :=
  extend_found object object fun entry member =>
    get_of_member entry.1 entry.2 object distinct member

theorem copies_absorbed (objects : List Fields)
    (each : ∀ other ∈ objects, other = object ∨ other = []) :
    objects.foldl extend object = object := by
  induction objects with
  | nil => rfl
  | cons other rest ih =>
      obtain ⟨here, later⟩ := List.forall_mem_cons.mp each
      have kept : extend object other = object := by
        rcases here with rfl | rfl
        · exact extend_itself other distinct
        · rfl
      rw [List.foldl_cons, kept, ih later]

theorem merge_copies (objects : List Fields)
    (each : ∀ other ∈ objects, other = object ∨ other = []) (one : object ∈ objects) :
    merge objects = object := by
  induction objects with
  | nil => cases one
  | cons other rest ih =>
      obtain ⟨here, later⟩ := List.forall_mem_cons.mp each
      by_cases same : other = object
      · have start : merge (object :: rest) = rest.foldl extend object :=
          congrArg (rest.foldl extend) (extend_fresh [] object distinct)
        rw [same, start, copies_absorbed object distinct rest later]
      · have empty : other = [] := here.resolve_left same
        have inside := (List.mem_cons.mp one).resolve_left (Ne.symm same)
        rw [empty, ← ih later inside]
        rfl

end Copies

theorem merge_without_empty (objects : List Fields) :
    merge (objects.filter fun object => !object.isEmpty) = merge objects := by
  rw [merge_flatten, merge_flatten, List.flatten_filter_not_isEmpty]

end RuleMatrix.Fields
