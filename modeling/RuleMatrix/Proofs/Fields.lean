import Mathlib.Data.List.Nodup
import RuleMatrix.Json.Value

set_option autoImplicit false

namespace RuleMatrix.Fields

theorem get_append (key : String) (fields more : Fields) :
    get? key (fields ++ more) = (get? key fields).or (get? key more) := by
  induction fields with
  | nil => rfl
  | cons entry rest ih =>
      by_cases same : entry.1 = key <;> simp [get?, same, ih]

theorem get_beside (key other : String) (value : Json) (before after : Fields)
    (different : other ≠ key) :
    get? key (before ++ (other, value) :: after) = get? key (before ++ after) := by
  rw [get_append, get_append, get?, if_neg different]

theorem get_none_iff (key : String) (fields : Fields) :
    get? key fields = none ↔ key ∉ keys fields := by
  induction fields with
  | nil => simp [get?, keys]
  | cons entry rest ih =>
      by_cases same : entry.1 = key
      · simp [get?, keys, same]
      · simp only [get?, if_neg same, ih, keys, List.map_cons, List.mem_cons]
        simp [Ne.symm same]

theorem get_member (key : String) (value : Json) (fields : Fields)
    (found : get? key fields = some value) : (key, value) ∈ fields := by
  induction fields with
  | nil => simp [get?] at found
  | cons entry rest ih =>
      obtain ⟨known, content⟩ := entry
      by_cases same : known = key
      · simp only [get?, if_pos same, Option.some.injEq] at found
        simp [same, found]
      · simp only [get?, if_neg same] at found
        exact List.mem_cons_of_mem _ (ih found)

theorem member_key (key : String) (value : Json) (fields : Fields)
    (member : (key, value) ∈ fields) : key ∈ keys fields :=
  List.mem_map_of_mem (f := Prod.fst) member

theorem get_of_member (key : String) (value : Json) (fields : Fields)
    (distinct : Distinct fields) (member : (key, value) ∈ fields) :
    get? key fields = some value := by
  induction fields with
  | nil => cases member
  | cons entry rest ih =>
      obtain ⟨absent, restDistinct⟩ := List.nodup_cons.mp distinct
      rcases List.mem_cons.mp member with head | tail
      · simp [get?, ← head]
      · have different : entry.1 ≠ key := by
          intro same
          exact absent (same ▸ member_key key value rest tail)
        simp only [get?, if_neg different]
        exact ih restDistinct tail

theorem distinct_reverse (fields : Fields) (distinct : Distinct fields) :
    Distinct fields.reverse := by
  unfold Distinct keys at distinct ⊢
  rw [List.map_reverse, List.nodup_reverse]
  exact distinct

theorem get_reverse (key : String) (fields : Fields) (distinct : Distinct fields) :
    get? key fields.reverse = get? key fields := by
  cases found : get? key fields with
  | none =>
      rw [get_none_iff] at found ⊢
      simpa [keys] using found
  | some value =>
      apply get_of_member _ _ _ (distinct_reverse fields distinct)
      exact List.mem_reverse.mpr (get_member key value fields found)

theorem get_permuted (key : String) (fields others : Fields) (distinct : Distinct fields)
    (permuted : fields.Perm others) : get? key fields = get? key others := by
  have names : (keys fields).Perm (keys others) := permuted.map Prod.fst
  cases found : get? key fields with
  | none =>
      symm
      rw [get_none_iff] at found ⊢
      exact fun member => found (names.mem_iff.mpr member)
  | some value =>
      have member := permuted.mem_iff.mp (get_member key value fields found)
      exact (get_of_member key value others (names.nodup_iff.mp distinct) member).symm

theorem get_insert (key known : String) (fresh : Json) (fields : Fields) :
    get? key (insert known fresh fields) =
      if known = key then some fresh else get? key fields := by
  induction fields with
  | nil => rfl
  | cons entry rest ih =>
      by_cases same : entry.1 = known
      · by_cases hit : known = key <;> simp [insert, get?, same, hit]
      · by_cases hit : known = key
        · subst hit
          simp [insert, get?, same, ih]
        · simp [insert, get?, same, ih, hit]

theorem keys_insert (key : String) (fresh : Json) (fields : Fields) :
    keys (insert key fresh fields) =
      if key ∈ keys fields then keys fields else keys fields ++ [key] := by
  induction fields with
  | nil => rfl
  | cons entry rest ih =>
      by_cases same : entry.1 = key
      · simp [insert, keys, same]
      · have rest_keys : keys (insert key fresh (entry :: rest)) =
            entry.1 :: keys (insert key fresh rest) := by simp [insert, keys, same]
        rw [rest_keys, ih]
        by_cases known : key ∈ keys rest
        · have there : key ∈ keys (entry :: rest) := List.mem_cons_of_mem _ known
          rw [if_pos known, if_pos there]
          rfl
        · have absent : key ∉ keys (entry :: rest) := by
            intro there
            rcases List.mem_cons.mp there with head | tail
            · exact same head.symm
            · exact known tail
          rw [if_neg known, if_neg absent]
          rfl

theorem insert_place (key : String) (fields : Fields) :
    ∃ before after, ∀ value, insert key value fields = before ++ (key, value) :: after := by
  induction fields with
  | nil => exact ⟨[], [], fun value => rfl⟩
  | cons entry rest ih =>
      by_cases same : entry.1 = key
      · exact ⟨[], rest, fun value => by rw [insert, if_pos same, same, List.nil_append]⟩
      · obtain ⟨before, after, each⟩ := ih
        exact ⟨entry :: before, after, fun value => by
          rw [insert, if_neg same, each value, List.cons_append]⟩

theorem insert_distinct (key : String) (fresh : Json) (fields : Fields)
    (distinct : Distinct fields) : Distinct (insert key fresh fields) := by
  unfold Distinct
  rw [keys_insert]
  by_cases known : key ∈ keys fields
  · rw [if_pos known]
    exact distinct
  · rw [if_neg known]
    refine List.nodup_append.mpr ⟨distinct, List.nodup_singleton key, ?_⟩
    intro other there fresh member same
    exact known (List.mem_singleton.mp member ▸ same ▸ there)

theorem extend_cons (fields : Fields) (entry : String × Json) (more : Fields) :
    extend fields (entry :: more) = extend (insert entry.1 entry.2 fields) more := rfl

theorem extend_concat (fields more : Fields) (entry : String × Json) :
    extend fields (more ++ [entry]) = insert entry.1 entry.2 (extend fields more) := by
  rw [extend, List.foldl_append]
  rfl

theorem get_extend (key : String) (fields more : Fields) :
    get? key (extend fields more) = (get? key more.reverse).or (get? key fields) := by
  induction more generalizing fields with
  | nil => rfl
  | cons entry rest ih =>
      rw [extend_cons, ih, get_insert, List.reverse_cons, get_append, Option.or_assoc]
      by_cases same : entry.1 = key <;> simp [get?, same]

theorem insert_fresh (key : String) (value : Json) (fields : Fields) (fresh : key ∉ keys fields) :
    insert key value fields = fields ++ [(key, value)] := by
  induction fields with
  | nil => rfl
  | cons entry rest ih =>
      have different : entry.1 ≠ key := fun same => fresh (same ▸ List.mem_cons_self)
      have others := ih fun member => fresh (List.mem_cons_of_mem _ member)
      rw [insert, if_neg different, others]
      rfl

theorem extend_fresh (fields more : Fields) (distinct : Distinct (fields ++ more)) :
    extend fields more = fields ++ more := by
  induction more generalizing fields with
  | nil => exact (List.append_nil fields).symm
  | cons entry rest ih =>
      have apart : fields ++ [entry] ++ rest = fields ++ entry :: rest := List.append_cons _ _ _ |>.symm
      have fresh : entry.1 ∉ keys fields := by
        unfold Distinct keys at distinct
        rw [List.map_append, List.map_cons, List.nodup_append] at distinct
        exact fun member => distinct.2.2 _ member _ List.mem_cons_self rfl
      rw [extend_cons, insert_fresh entry.1 entry.2 fields fresh, ih _ (apart.symm ▸ distinct), apart]

theorem of_pairs_distinct (fields : Fields) (distinct : Distinct fields) :
    ofPairs fields = fields := extend_fresh [] fields distinct

theorem erase_known (known more : List String) (key : String) (member : key ∈ known) :
    (known ++ key :: more).eraseDups = (known ++ more).eraseDups := by
  simp [List.eraseDups_append, List.removeAll, member]

theorem erase_distinct (words : List String) (distinct : words.Nodup) :
    words.eraseDups = words := by
  induction words with
  | nil => rfl
  | cons word rest ih =>
      obtain ⟨absent, restDistinct⟩ := List.nodup_cons.mp distinct
      have kept : (rest.filter fun other => !other == word) = rest := by
        apply List.filter_eq_self.mpr
        intro other member
        simpa using fun same : other = word => absent (same ▸ member)
      rw [List.eraseDups_cons, kept, ih restDistinct]

theorem keys_extend (fields more : Fields) (distinct : Distinct fields) :
    keys (extend fields more) = (keys fields ++ keys more).eraseDups := by
  induction more generalizing fields with
  | nil =>
      change keys fields = (keys fields ++ []).eraseDups
      rw [List.append_nil, erase_distinct _ distinct]
  | cons entry rest ih =>
      rw [extend_cons, ih _ (insert_distinct entry.1 entry.2 fields distinct), keys_insert]
      change _ = (keys fields ++ entry.1 :: keys rest).eraseDups
      by_cases known : entry.1 ∈ keys fields
      · rw [if_pos known, erase_known _ _ _ known]
      · rw [if_neg known, List.append_assoc]
        rfl

theorem merge_flatten (objects : List Fields) : merge objects = extend [] objects.flatten := by
  unfold merge extend
  rw [List.foldl_flatten]

theorem keys_merge (objects : List Fields) :
    keys (merge objects) = (objects.flatMap keys).eraseDups := by
  have order : keys objects.flatten = objects.flatMap keys := List.map_flatten
  rw [merge_flatten, keys_extend [] _ List.nodup_nil, order]
  rfl

section Values

variable (holds : Json → Prop)

theorem insert_each (key : String) (fresh : Json) (fields : Fields) (fine : holds fresh)
    (each : ∀ entry ∈ fields, holds entry.2) : ∀ entry ∈ insert key fresh fields, holds entry.2 := by
  induction fields with
  | nil => exact List.forall_mem_singleton.mpr fine
  | cons first rest ih =>
      obtain ⟨here, others⟩ := List.forall_mem_cons.mp each
      by_cases same : first.1 = key
      · rw [insert, if_pos same]
        exact List.forall_mem_cons.mpr ⟨fine, others⟩
      · rw [insert, if_neg same]
        exact List.forall_mem_cons.mpr ⟨here, ih others⟩

theorem extend_each (fields more : Fields) (each : ∀ entry ∈ fields, holds entry.2)
    (others : ∀ entry ∈ more, holds entry.2) : ∀ entry ∈ extend fields more, holds entry.2 := by
  induction more generalizing fields with
  | nil => exact each
  | cons first rest ih =>
      obtain ⟨here, later⟩ := List.forall_mem_cons.mp others
      exact ih _ (insert_each holds first.1 first.2 fields here each) later

theorem of_pairs_each (pairs : Fields) (each : ∀ entry ∈ pairs, holds entry.2) :
    ∀ entry ∈ ofPairs pairs, holds entry.2 :=
  extend_each holds [] pairs (List.forall_mem_nil _) each

theorem merge_each (objects : List Fields)
    (each : ∀ object ∈ objects, ∀ entry ∈ object, holds entry.2) :
    ∀ entry ∈ merge objects, holds entry.2 := by
  rw [merge_flatten]
  apply extend_each holds [] _ (List.forall_mem_nil _)
  intro entry member
  obtain ⟨object, inside, there⟩ := List.mem_flatten.mp member
  exact each object inside entry there

end Values

theorem get_flatten_reverse (key : String) (objects : List Fields)
    (distinct : ∀ object ∈ objects, Distinct object) :
    get? key objects.flatten.reverse = objects.reverse.findSome? (get? key) := by
  induction objects with
  | nil => rfl
  | cons object rest ih =>
      have first := get_reverse key object (distinct object List.mem_cons_self)
      have others := ih fun other member => distinct other (List.mem_cons_of_mem _ member)
      rw [List.flatten_cons, List.reverse_append, get_append, others, first, List.reverse_cons,
        List.findSome?_append, List.findSome?_singleton]

theorem get_merge (key : String) (objects : List Fields)
    (distinct : ∀ object ∈ objects, Distinct object) :
    get? key (merge objects) = objects.reverse.findSome? (get? key) := by
  rw [merge_flatten, get_extend, get_flatten_reverse key objects distinct]
  exact Option.or_none

end RuleMatrix.Fields
