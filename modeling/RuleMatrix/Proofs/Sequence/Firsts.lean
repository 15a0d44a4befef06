import Mathlib.Data.List.Nodup

set_option autoImplicit false

namespace RuleMatrix.Sequence

variable {α : Type}

inductive Firsts : List α → List α → List α → Prop where
  | nil (before : List α) : Firsts before [] []
  | fresh (before : List α) (item : α) (rest kept : List α) (new : item ∉ before)
      (others : Firsts (before ++ [item]) rest kept) : Firsts before (item :: rest) (item :: kept)
  | again (before : List α) (item : α) (rest kept : List α) (known : item ∈ before)
      (others : Firsts (before ++ [item]) rest kept) : Firsts before (item :: rest) kept

theorem firsts_unique (before items kept others : List α) (first : Firsts before items kept)
    (second : Firsts before items others) : kept = others := by
  induction first generalizing others with
  | nil before =>
      cases second
      rfl
  | fresh before item rest kept new _ ih =>
      cases second with
      | fresh _ _ _ more _ tail => rw [ih more tail]
      | again _ _ _ _ known _ => exact absurd known new
  | again before item rest kept known _ ih =>
      cases second with
      | fresh _ _ _ _ new _ => exact absurd known new
      | again _ _ _ _ _ tail => exact ih others tail

theorem firsts_same_before (before others items kept : List α)
    (same : ∀ item, item ∈ before ↔ item ∈ others) (firsts : Firsts before items kept) :
    Firsts others items kept := by
  induction firsts generalizing others with
  | nil before => exact .nil others
  | fresh before item rest kept new _ ih =>
      refine .fresh others item rest kept (fun there => new ((same item).mpr there)) (ih _ ?_)
      simp [same]
  | again before item rest kept known _ ih =>
      refine .again others item rest kept ((same item).mp known) (ih _ ?_)
      simp [same]

theorem firsts_sublist (before items kept : List α) (firsts : Firsts before items kept) :
    kept.Sublist items := by
  induction firsts with
  | nil before => exact .slnil
  | fresh before item rest kept _ _ ih => exact ih.cons_cons item
  | again before item rest kept _ _ ih => exact ih.cons item

theorem mem_firsts_iff (before items kept : List α) (firsts : Firsts before items kept) (item : α) :
    item ∈ kept ↔ item ∈ items ∧ item ∉ before := by
  induction firsts with
  | nil before => simp
  | fresh before first rest kept new _ ih =>
      rw [List.mem_cons, List.mem_cons, ih, List.mem_append, List.mem_singleton]
      by_cases same : item = first
      · simp [same, new]
      · simp [same]
  | again before first rest kept known _ ih =>
      rw [List.mem_cons, ih, List.mem_append, List.mem_singleton]
      by_cases same : item = first
      · simp [same, known]
      · simp [same]

theorem firsts_nodup (before items kept : List α) (firsts : Firsts before items kept) :
    kept.Nodup := by
  induction firsts with
  | nil before => exact List.nodup_nil
  | fresh before item rest kept _ others ih =>
      refine List.nodup_cons.mpr ⟨fun later => ?_, ih⟩
      have unseen := ((mem_firsts_iff _ rest kept others item).mp later).2
      exact unseen (List.mem_append_right before (List.mem_singleton_self item))
  | again before item rest kept _ _ ih => exact ih

theorem firsts_append (before items more kept others : List α) (first : Firsts before items kept)
    (second : Firsts (before ++ items) more others) :
    Firsts before (items ++ more) (kept ++ others) := by
  induction first with
  | nil before => simpa using second
  | fresh before item rest kept new _ ih =>
      exact .fresh before item _ _ new (ih (by simpa using second))
  | again before item rest kept known _ ih =>
      exact .again before item _ _ known (ih (by simpa using second))

theorem firsts_of_nodup (before items : List α) (distinct : items.Nodup)
    (apart : ∀ item ∈ items, item ∉ before) : Firsts before items items := by
  induction items generalizing before with
  | nil => exact .nil before
  | cons item rest ih =>
      obtain ⟨absent, restDistinct⟩ := List.nodup_cons.mp distinct
      obtain ⟨new, others⟩ := List.forall_mem_cons.mp apart
      refine .fresh before item rest rest new (ih _ restDistinct ?_)
      intro other member there
      rcases List.mem_append.mp there with known | same
      · exact others other member known
      · exact absent (List.mem_singleton.mp same ▸ member)

section Again

variable (items kept : List α) (firsts : Firsts [] items kept)

include firsts

theorem firsts_themselves : Firsts [] kept kept :=
  firsts_of_nodup [] kept (firsts_nodup [] items kept firsts) fun _ _ => List.not_mem_nil

theorem firsts_in_parts (more others : List α) (second : Firsts items more others) :
    Firsts [] (items ++ more) (kept ++ others) ∧ Firsts [] (kept ++ more) (kept ++ others) := by
  have same : ∀ item, item ∈ items ↔ item ∈ kept := by
    intro item
    simp [mem_firsts_iff [] items kept firsts]
  have again := firsts_same_before items kept more others same second
  exact ⟨firsts_append [] items more kept others firsts second,
    firsts_append [] kept more kept others (firsts_themselves items kept firsts) again⟩

end Again

end RuleMatrix.Sequence
