import Mathlib.Data.List.Forall2
import Mathlib.Data.List.Nodup

set_option autoImplicit false

namespace RuleMatrix.Sequence

variable {ε ζ α β : Type}

theorem bind_ok_iff (first : Except ε α) (later : α → Except ε β) (result : β) :
    (first >>= later) = .ok result ↔ ∃ value, first = .ok value ∧ later value = .ok result := by
  cases first with
  | error e => simp [bind, Except.bind]
  | ok value => simp [bind, Except.bind]

theorem map_ok_iff (step : Except ε α) (wrap : α → β) (result : β) :
    step.map wrap = .ok result ↔ ∃ value, step = .ok value ∧ wrap value = result := by
  cases step <;> simp [Except.map]

theorem map_error_of_ok (value : α) (wrap : ε → ζ) : (Except.ok value).mapError wrap = .ok value :=
  rfl

theorem map_error_ok_iff (step : Except ε α) (wrap : ε → ζ) (result : α) :
    step.mapError wrap = .ok result ↔ step = .ok result := by
  cases step with
  | error e => exact ⟨nofun, nofun⟩
  | ok value => rw [map_error_of_ok, Except.ok.injEq, Except.ok.injEq]

theorem to_option_ok (step : Except ε α) (result : α) (found : step.toOption = some result) :
    step = .ok result := by
  cases step with
  | error e => cases found
  | ok value => exact congrArg Except.ok (Option.some.inj found)

theorem all_ok_iff (step : α → Except ε β) (items : List α) (results : List β) :
    items.mapM step = .ok results ↔
      List.Forall₂ (fun item result => step item = .ok result) items results := by
  induction items generalizing results with
  | nil => cases results <;> simp [pure, Except.pure]
  | cons item rest ih =>
      rw [List.mapM_cons, bind_ok_iff, List.forall₂_cons_left_iff]
      constructor
      · intro steps
        obtain ⟨first, head, tail⟩ := steps
        obtain ⟨others, read, same⟩ := (bind_ok_iff _ _ _).mp tail
        exact ⟨first, others, head, (ih others).mp read, (Except.ok.inj same).symm⟩
      · intro read
        obtain ⟨first, others, head, read, rfl⟩ := read
        exact ⟨first, head, (bind_ok_iff _ _ _).mpr ⟨others, (ih others).mpr read, rfl⟩⟩

theorem all_same (step : α → Except ε β) (items others : List α)
    (each : List.Forall₂ (fun item other => step other = step item) items others) :
    others.mapM step = items.mapM step := by
  induction each with
  | nil => rfl
  | cons head _ ih => rw [List.mapM_cons, List.mapM_cons, head, ih]

theorem map_error_iff (step : Except ε α) (wrap : α → β) (e : ε) :
    step.map wrap = .error e ↔ step = .error e := by
  cases step <;> simp [Except.map]

-- The first item at which a step fails; nothing is asked of the items after it.
def FailsFirst (step : α → Except ε β) (items : List α) (e : ε) : Prop :=
  ∃ before item after, items = before ++ item :: after ∧
    (∀ earlier ∈ before, ∃ result, step earlier = .ok result) ∧ step item = .error e

theorem none_fails (step : α → Except ε β) (e : ε) : ¬ FailsFirst step [] e := by
  rintro ⟨before, item, after, same, _⟩
  exact List.append_ne_nil_of_right_ne_nil before (List.cons_ne_nil item after) same.symm

theorem fails_first_cons_iff (step : α → Except ε β) (item : α) (rest : List α) (e : ε) :
    FailsFirst step (item :: rest) e ↔
      step item = .error e ∨ (∃ result, step item = .ok result) ∧ FailsFirst step rest e := by
  constructor
  · rintro ⟨before, failed, after, same, fine, fails⟩
    cases before with
    | nil =>
        obtain ⟨rfl, _⟩ := List.cons.inj same
        exact .inl fails
    | cons first others =>
        obtain ⟨rfl, tail⟩ := List.cons.inj same
        obtain ⟨head, later⟩ := List.forall_mem_cons.mp fine
        exact .inr ⟨head, others, failed, after, tail, later, fails⟩
  · rintro (fails | ⟨head, before, failed, after, rfl, fine, fails⟩)
    · exact ⟨[], item, rest, rfl, List.forall_mem_nil _, fails⟩
    · exact ⟨item :: before, failed, after, rfl, List.forall_mem_cons.mpr ⟨head, fine⟩, fails⟩

theorem all_error_iff (step : α → Except ε β) (items : List α) (e : ε) :
    items.mapM step = .error e ↔ FailsFirst step items e := by
  induction items with
  | nil => exact ⟨nofun, fun fails => absurd fails (none_fails step e)⟩
  | cons item rest ih =>
      rw [List.mapM_cons, fails_first_cons_iff, ← ih]
      cases step item with
      | error other => simp [bind, Except.bind]
      | ok first => cases rest.mapM step <;> simp [bind, Except.bind, pure, Except.pure]

theorem some_fails_iff (step : α → Except ε β) (items : List α) :
    (∃ e, FailsFirst step items e) ↔ ∃ item ∈ items, ∃ e, step item = .error e := by
  induction items with
  | nil => exact ⟨fun fails => absurd fails.choose_spec (none_fails step _), nofun⟩
  | cons item rest ih =>
      simp only [fails_first_cons_iff, List.exists_mem_cons_iff, ← ih]
      cases step item <;> simp

theorem fails_first_map (step : α → Except ε β) {γ : Type} (wrap : β → γ) (items : List α) (e : ε) :
    FailsFirst (fun item => (step item).map wrap) items e ↔ FailsFirst step items e := by
  have succeeds (item : α) :
      (∃ result, (step item).map wrap = .ok result) ↔ ∃ result, step item = .ok result := by
    cases step item <;> simp [Except.map]
  simp only [FailsFirst, map_error_iff, succeeds]

inductive Interleaved : List α → List α → List α → Prop where
  | nil : Interleaved [] [] []
  | left (item : α) (first second whole : List α) (rest : Interleaved first second whole) :
      Interleaved (item :: first) second (item :: whole)
  | right (item : α) (first second whole : List α) (rest : Interleaved first second whole) :
      Interleaved first (item :: second) (item :: whole)

theorem kept_and_left_out (keep : α → Bool) (items : List α) :
    Interleaved (items.filter keep) (items.filter fun item => !keep item) items := by
  induction items with
  | nil => exact .nil
  | cons item rest ih =>
      by_cases kept : keep item = true
      · rw [List.filter_cons_of_pos kept, List.filter_cons_of_neg (by simp [kept])]
        exact .left item _ _ rest ih
      · rw [List.filter_cons_of_neg kept, List.filter_cons_of_pos (by simpa using kept)]
        exact .right item _ _ rest ih

theorem interleaved_map (wrap : α → β) (first second whole : List α)
    (interleaved : Interleaved first second whole) :
    Interleaved (first.map wrap) (second.map wrap) (whole.map wrap) := by
  induction interleaved with
  | nil => exact .nil
  | left item _ _ _ _ ih => exact .left (wrap item) _ _ _ ih
  | right item _ _ _ _ ih => exact .right (wrap item) _ _ _ ih

theorem interleaved_perm (first second whole : List α)
    (interleaved : Interleaved first second whole) : (first ++ second).Perm whole := by
  induction interleaved with
  | nil => exact .refl []
  | left item _ _ _ _ ih => exact ih.cons item
  | right item _ _ _ _ ih => exact List.perm_middle.trans (ih.cons item)

theorem interleaved_disjoint (first second whole : List α)
    (interleaved : Interleaved first second whole) (distinct : whole.Nodup) :
    first.Disjoint second :=
  List.disjoint_of_nodup_append ((interleaved_perm first second whole interleaved).nodup_iff.mpr distinct)

theorem all_related (related : α → β → Prop) (items : List α)
    (each : ∀ item ∈ items, ∃ result, related item result) :
    ∃ results, List.Forall₂ related items results := by
  induction items with
  | nil => exact ⟨[], .nil⟩
  | cons item rest ih =>
      obtain ⟨first, head⟩ := each item List.mem_cons_self
      obtain ⟨others, tail⟩ := ih fun other member => each other (List.mem_cons_of_mem _ member)
      exact ⟨first :: others, .cons head tail⟩

theorem result_has_source (related : α → β → Prop) (items : List α) (results : List β)
    (each : List.Forall₂ related items results) (result : β) (member : result ∈ results) :
    ∃ item ∈ items, related item result := by
  induction each with
  | nil => cases member
  | cons head tail ih =>
      rcases List.mem_cons.mp member with rfl | later
      · exact ⟨_, List.mem_cons_self, head⟩
      · obtain ⟨item, inside, same⟩ := ih later
        exact ⟨item, List.mem_cons_of_mem _ inside, same⟩

theorem related_refined (related finer : α → β → Prop) (items : List α) (results : List β)
    (each : List.Forall₂ related items results)
    (step : ∀ item ∈ items, ∀ result, related item result → finer item result) :
    List.Forall₂ finer items results := by
  induction each with
  | nil => exact .nil
  | cons head tail ih =>
      have first := step _ List.mem_cons_self _ head
      exact .cons first (ih fun item member => step item (List.mem_cons_of_mem _ member))

theorem related_images {γ : Type} (left : α → γ) (right : β → γ) (items : List α)
    (results : List β) (each : List.Forall₂ (fun item result => right result = left item) items results) :
    results.map right = items.map left := by
  induction each with
  | nil => rfl
  | cons head tail ih => rw [List.map_cons, List.map_cons, head, ih]

theorem lookup_first [BEq α] [LawfulBEq α] [DecidableEq α] (known wanted : α) (item : β)
    (rest : List (α × β)) :
    ((known, item) :: rest).lookup wanted = if known = wanted then some item else rest.lookup wanted := by
  by_cases same : known = wanted
  · simp [same]
  · simp [List.lookup_cons, same, beq_eq_false_iff_ne.mpr (Ne.symm same)]

theorem lookup_unknown [BEq α] [LawfulBEq α] (entries : List (α × β)) (key : α)
    (unknown : key ∉ entries.map Prod.fst) : entries.lookup key = none := by
  refine List.lookup_eq_none_iff.mpr fun entry member => ?_
  exact bne_iff_ne.mpr fun same => unknown (same ▸ List.mem_map_of_mem member)

theorem lookup_member [BEq α] [LawfulBEq α] (entries : List (α × β))
    (once : (entries.map Prod.fst).Nodup) (key : α) (item : β) (member : (key, item) ∈ entries) :
    entries.lookup key = some item := by
  obtain ⟨before, after, rfl⟩ := List.append_of_mem member
  refine List.lookup_eq_some_iff.mpr ⟨before, after, rfl, fun other inside => bne_iff_ne.mpr fun same => ?_⟩
  rw [List.map_append, List.map_cons] at once
  have apart := (List.nodup_append.mp once).2.2 other.1 (List.mem_map_of_mem inside) key (by simp)
  exact apart same.symm

section Run

variable (keep : α → Bool) (run rest : List α) (kept : ∀ item ∈ run, keep item = true)
  (stop : ∀ item ∈ rest.head?, keep item = false)
include kept stop

theorem run_taken : (run ++ rest).takeWhile keep = run := by
  rw [List.takeWhile_append_of_pos kept]
  cases rest with
  | nil => exact List.append_nil run
  | cons item others => rw [List.takeWhile_cons_of_neg (by simp [stop item rfl]), List.append_nil]

theorem run_dropped : (run ++ rest).dropWhile keep = rest := by
  rw [List.dropWhile_append_of_pos kept]
  cases rest with
  | nil => rfl
  | cons item others => exact List.dropWhile_cons_of_neg (by simp [stop item rfl])

end Run

theorem behind_run (keep : α → Bool) (items : List α) :
    ∀ item ∈ (items.dropWhile keep).head?, keep item = false := by
  intro item first
  have stopped := List.head?_dropWhile_not keep items
  rw [Option.mem_def.mp first] at stopped
  simpa using stopped

end RuleMatrix.Sequence
