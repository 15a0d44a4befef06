import Mathlib.Data.List.Nodup
import RuleMatrix.Config

set_option autoImplicit false

namespace RuleMatrix.Config

theorem get_rule (config : Config) (name : String) (rule : Rule)
    (found : config.get? name = some rule) : rule ∈ config.rules ∧ rule.name = name :=
  ⟨List.mem_of_find?_eq_some found, by simpa using List.find?_some found⟩

theorem get_some_iff (config : Config) (name : String) :
    (∃ rule, config.get? name = some rule) ↔ name ∈ config.names := by
  rw [← Option.isSome_iff_exists, get?, List.find?_isSome, names, List.mem_map]
  simp

theorem get_of_rule (config : Config) (distinct : config.names.Nodup) (rule : Rule)
    (member : rule ∈ config.rules) : config.get? rule.name = some rule := by
  obtain ⟨rules⟩ := config
  induction rules with
  | nil => cases member
  | cons first rest ih =>
      rw [names, List.map_cons] at distinct
      obtain ⟨absent, restDistinct⟩ := List.nodup_cons.mp distinct
      rcases List.mem_cons.mp member with rfl | later
      · simp [get?]
      · have different : first.name ≠ rule.name := by
          intro same
          exact absent (List.mem_map.mpr ⟨rule, later, same.symm⟩)
        rw [get?, List.find?_cons_of_neg (by simpa using different)]
        exact ih restDistinct later

theorem get_all (config : Config) (distinct : config.names.Nodup) (rules : List Rule)
    (inside : ∀ rule ∈ rules, rule ∈ config.rules) :
    (rules.map Rule.name).mapM config.get? = some rules := by
  induction rules with
  | nil => rfl
  | cons rule rest ih =>
      obtain ⟨member, others⟩ := List.forall_mem_cons.mp inside
      rw [List.map_cons, List.mapM_cons, get_of_rule config distinct rule member, ih others]
      rfl

theorem named_once (config : Config) (distinct : config.names.Nodup) (name : String) (rule : Rule)
    (found : config.get? name = some rule) :
    (config.rules.filter fun other => other.name == name) = [rule] := by
  obtain ⟨member, rfl⟩ := get_rule config name rule found
  obtain ⟨before, after, split⟩ := List.append_of_mem member
  rw [names, split, List.map_append, List.map_cons] at distinct
  obtain ⟨absent, _⟩ := List.nodup_cons.mp (List.nodup_middle.mp distinct)
  have others (rules : List Rule) (apart : rule.name ∉ rules.map Rule.name) :
      (rules.filter fun other => other.name == rule.name) = [] := by
    rw [List.filter_eq_nil_iff]
    intro other inside same
    rw [beq_iff_eq] at same
    exact apart (same ▸ List.mem_map_of_mem (f := Rule.name) inside)
  rw [List.mem_append, not_or] at absent
  simp [split, List.filter_append, others before absent.1, others after absent.2]

end RuleMatrix.Config
