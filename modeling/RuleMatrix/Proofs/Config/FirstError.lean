import RuleMatrix.Proofs.Config.Reading
import RuleMatrix.Proofs.Fields.Merge

set_option autoImplicit false

namespace RuleMatrix

open Sequence

namespace Condition

def readAt (rule : String) (limit depth : Nat) (item : Json) : Except ConfigError Condition :=
  ofJson rule (childrenOfJson rule limit (limit - depth)) item

theorem children_one_by_one (rule : String) (limit depth : Nat) (room : depth ≤ limit)
    (items : List Json) :
    childrenOfJson rule limit (limit + 1 - depth) (.arr items) =
      items.mapM (readAt rule limit depth) := by
  rw [Nat.succ_sub room]
  rfl

structure Entered (limit depth : Nat) (fields : Fields) (items : List Json) : Prop where
  operator : ∃ connective : Connective, Fields.get? "operator" fields = some (.str connective.spelling)
  conditions : Fields.get? "conditions" fields = some (.arr items)
  room : depth + 1 ≤ limit

theorem entered_refused_iff (rule : String) (limit depth : Nat) (fields : Fields) (items : List Json)
    (entered : Entered limit depth fields items) (e : ConfigError) :
    readAt rule limit depth (.obj fields) = .error e ↔
      FailsFirst (readAt rule limit (depth + 1)) items e := by
  obtain ⟨⟨connective, operator⟩, conditions, room⟩ := entered
  have levels : limit - depth = limit + 1 - (depth + 1) := by omega
  rw [readAt, ofJson, Grammar.spelled_group_read rule _ fields connective _ operator conditions, levels,
    children_one_by_one rule limit (depth + 1) room, map_error_iff, all_error_iff]

-- A node that cannot be read, and not for a node inside it.
structure AtFault (rule : String) (limit depth : Nat) (item : Json) (e : ConfigError) : Prop where
  refused : readAt rule limit depth item = .error e
  itself : ∀ fields items, item = .obj fields → ¬ Entered limit depth fields items

-- A place among nodes: what comes before it and behind it on each level, and the groups around it.
inductive Place where
  | among (before after : List Json)
  | within (before : List Json) (around : Fields) (inner : Place) (after : List Json)

namespace Place

def fill (node : Json) : Place → List Json
  | .among before after => before ++ node :: after
  | .within before around inner after =>
      before ++ .obj (Fields.insert "conditions" (.arr (inner.fill node)) around) :: after

def depth (outer : Nat) : Place → Nat
  | .among _ _ => outer
  | .within _ _ inner _ => inner.depth (outer + 1)

-- The reader gets to the place: it can read all that comes before and enter the groups around it.
inductive Reached (rule : String) (limit : Nat) : Nat → Place → Prop where
  | among (outer : Nat) (before after : List Json)
      (fine : ∀ earlier ∈ before, ∃ node, readAt rule limit outer earlier = .ok node) :
      Reached rule limit outer (.among before after)
  | within (outer : Nat) (before : List Json) (around : Fields) (inner : Place) (after : List Json)
      (connective : Connective)
      (fine : ∀ earlier ∈ before, ∃ node, readAt rule limit outer earlier = .ok node)
      (operator : Fields.get? "operator" around = some (.str connective.spelling))
      (room : outer + 1 ≤ limit)
      (below : Reached rule limit (outer + 1) inner) :
      Reached rule limit outer (.within before around inner after)

inductive SameBefore : Place → Place → Prop where
  | among (before after others : List Json) :
      SameBefore (.among before after) (.among before others)
  | within (before : List Json) (around : Fields) (inner changed : Place) (after others : List Json)
      (same : SameBefore inner changed) :
      SameBefore (.within before around inner after) (.within before around changed others)

theorem filled_group_entered (limit outer : Nat) (around : Fields) (connective : Connective)
    (items : List Json) (operator : Fields.get? "operator" around = some (.str connective.spelling))
    (room : outer + 1 ≤ limit) :
    Entered limit outer (Fields.insert "conditions" (.arr items) around) items := by
  refine ⟨⟨connective, ?_⟩, ?_, room⟩
  · rw [Fields.get_insert, if_neg (by decide)]
    exact operator
  · rw [Fields.get_insert, if_pos rfl]

section Faults

variable (rule : String) (limit : Nat)

theorem same_before_reached (outer : Nat) (place other : Place) (same : place.SameBefore other)
    (reached : place.Reached rule limit outer) : other.Reached rule limit outer := by
  induction same generalizing outer with
  | among before after others =>
      cases reached with
      | among _ _ _ fine => exact .among outer before others fine
  | within before around inner changed after others same ih =>
      cases reached with
      | within _ _ _ _ _ connective fine operator room below =>
          exact .within outer before around changed others connective fine operator room
            (ih (outer + 1) below)

theorem same_before_depth (outer : Nat) (place other : Place) (same : place.SameBefore other) :
    other.depth outer = place.depth outer := by
  induction same generalizing outer with
  | among before after others => rfl
  | within before around inner changed after others same ih => exact ih (outer + 1)

theorem reached_fault_decides (outer : Nat) (place : Place) (node : Json) (e : ConfigError)
    (reached : place.Reached rule limit outer)
    (refused : readAt rule limit (place.depth outer) node = .error e) :
    FailsFirst (readAt rule limit outer) (place.fill node) e := by
  induction reached with
  | among outer before after fine => exact ⟨before, node, after, rfl, fine, refused⟩
  | within outer before around inner after connective fine operator room below ih =>
      have entered := filled_group_entered limit outer around connective (inner.fill node) operator room
      have group_refused := (entered_refused_iff rule limit outer _ _ entered e).mpr (ih refused)
      exact ⟨before, _, after, rfl, fine, group_refused⟩

-- Each group entered leaves less room below it, so the way down to the fault ends.
theorem fault_found (outer spare : Nat) (balance : outer + spare = limit) (items : List Json)
    (e : ConfigError) (fails : FailsFirst (readAt rule limit outer) items e) :
    ∃ (place : Place) (node : Json), items = place.fill node ∧ place.Reached rule limit outer ∧
      AtFault rule limit (place.depth outer) node e := by
  induction spare generalizing outer items with
  | zero =>
      obtain ⟨before, item, after, rfl, fine, refused⟩ := fails
      refine ⟨.among before after, item, rfl, .among outer before after fine, refused, ?_⟩
      intro fields inside _ entered
      have room : outer + 1 ≤ limit := entered.room
      omega
  | succ spare ih =>
      obtain ⟨before, item, after, rfl, fine, refused⟩ := fails
      by_cases group : ∃ fields inside, item = .obj fields ∧ Entered limit outer fields inside
      · obtain ⟨fields, inside, rfl, entered⟩ := group
        have inner := (entered_refused_iff rule limit outer fields inside entered e).mp refused
        obtain ⟨place, node, rfl, reached, fault⟩ := ih (outer + 1) (by omega) inside inner
        obtain ⟨connective, operator⟩ := entered.operator
        refine ⟨.within before fields place after, node, ?_, ?_, fault⟩
        · rw [fill, Fields.insert_found "conditions" _ fields entered.conditions]
        · exact .within outer before fields place after connective fine operator entered.room reached
      · refine ⟨.among before after, item, rfl, .among outer before after fine, refused, ?_⟩
        exact fun fields inside same entered => group ⟨fields, inside, same, entered⟩

structure FirstFault (outer : Nat) (place : Place) (node : Json) (e : ConfigError) : Prop where
  reached : place.Reached rule limit outer
  fault : AtFault rule limit (place.depth outer) node e

theorem first_fault_iff (depth : Nat) (room : depth ≤ limit) (items : List Json) (e : ConfigError) :
    FailsFirst (readAt rule limit depth) items e ↔
      ∃ (place : Place) (node : Json), items = place.fill node ∧
        FirstFault rule limit depth place node e := by
  constructor
  · intro fails
    obtain ⟨place, node, filled, reached, fault⟩ :=
      fault_found rule limit depth (limit - depth) (Nat.add_sub_cancel' room) items e fails
    exact ⟨place, node, filled, reached, fault⟩
  · rintro ⟨place, node, rfl, first⟩
    exact reached_fault_decides rule limit depth place node e first.reached first.fault.refused

theorem first_fault_decides (depth : Nat) (place other : Place) (node : Json) (e : ConfigError)
    (first : FirstFault rule limit depth place node e) (same : place.SameBefore other) :
    FailsFirst (readAt rule limit depth) (other.fill node) e := by
  apply reached_fault_decides rule limit depth other node e
  · exact same_before_reached rule limit depth place other same first.reached
  · rw [same_before_depth depth place other same]
    exact first.fault.refused

end Faults

end Place

end Condition

open Condition (readAt Entered AtFault Place)

namespace Grammar

-- A definition with nothing wrong in it besides, perhaps, its conditions.
structure Headed (fields : Fields) : Prop where
  file : ∀ value, given? "conditions-file" fields = some value → ∃ path, value = .str path
  operator : ∀ value, given? "operator" fields = some value → value = .str "and" ∨ value = .str "or"
  outputs : ∀ value, given? "outputs" fields = some value → ∃ members, value = .obj members

theorem headed_read (fields : Fields) (headed : Headed fields) :
    ∃ file connective outputs, Rule.fileOf fields = .ok file ∧
      Rule.connectiveOf fields = .ok connective ∧ Rule.outputsOf fields = .ok outputs := by
  obtain ⟨file, fileRead⟩ : ∃ file, Rule.fileOf fields = .ok file := by
    rw [file_of_given]
    cases found : given? "conditions-file" fields with
    | none => exact ⟨none, rfl⟩
    | some value =>
        obtain ⟨path, rfl⟩ := headed.file value found
        exact ⟨Rule.namedFile path, rfl⟩
  obtain ⟨connective, connectiveRead⟩ : ∃ connective, Rule.connectiveOf fields = .ok connective := by
    rw [connective_of_given]
    cases found : given? "operator" fields with
    | none => exact ⟨.and, rfl⟩
    | some value =>
        rcases headed.operator value found with rfl | rfl
        · exact ⟨.and, rfl⟩
        · exact ⟨.or, rfl⟩
  obtain ⟨outputs, outputsRead⟩ : ∃ outputs, Rule.outputsOf fields = .ok outputs := by
    rw [outputs_of_given]
    cases found : given? "outputs" fields with
    | none => exact ⟨[], rfl⟩
    | some value =>
        obtain ⟨members, rfl⟩ := headed.outputs value found
        exact ⟨members, rfl⟩
  exact ⟨file, connective, outputs, fileRead, connectiveRead, outputsRead⟩

theorem headed_refused_iff (limits : Limits) (name : String) (fields : Fields) (items : List Json)
    (headed : Headed fields) (conditions : Fields.get? "conditions" fields = some (.arr items))
    (room : 1 ≤ limits.depth) (e : ConfigError) :
    Rule.ofFields limits name fields = .error e ↔
      FailsFirst (readAt name limits.depth 1) items e := by
  obtain ⟨file, connective, outputs, fileRead, connectiveRead, outputsRead⟩ := headed_read fields headed
  have given : given? "conditions" fields = some (.arr items) := by
    rw [given?, conditions]
    rfl
  have present : ¬ (given? "conditions" fields = none ∧ file = none) := by simp [given]
  have children := Condition.children_one_by_one name limits.depth 1 room items
  rw [Nat.add_sub_cancel] at children
  rw [headed_rule_read limits name fields file connective outputs fileRead present connectiveRead
    outputsRead, map_error_iff, given, Rule.childrenOf, children, all_error_iff]

end Grammar

namespace Config

theorem single_definition (limits : Limits) (entry : String × Json) :
    ofJson limits (.obj [entry]) =
      (Rule.ofJson limits entry.1 entry.2).map fun rule => ⟨[rule]⟩ := by
  rw [ofJson, List.mapM_cons, List.mapM_nil]
  cases Rule.ofJson limits entry.1 entry.2 <;> rfl

theorem definitions_concatenated (limits : Limits) (definitions : Fields) (parts : List Config)
    (each : List.Forall₂ (fun entry part => ofJson limits (.obj [entry]) = .ok part)
      definitions parts) :
    ofJson limits (.obj definitions) = .ok ⟨parts.flatMap Config.rules⟩ := by
  have rules : List.Forall₂ (fun entry rule => Rule.ofJson limits entry.1 entry.2 = .ok rule)
      definitions (parts.flatMap Config.rules) := by
    induction each with
    | nil => exact .nil
    | cons head tail ih =>
        rw [single_definition] at head
        obtain ⟨rule, read, rfl⟩ := (map_ok_iff _ _ _).mp head
        exact .cons read ih
  rw [ofJson, (all_ok_iff _ _ _).mpr rules]
  rfl

theorem definitions_refused_iff (limits : Limits) (definitions : Fields) (e : ConfigError) :
    ofJson limits (.obj definitions) = .error e ↔
      FailsFirst (fun entry => ofJson limits (.obj [entry])) definitions e := by
  have whole : ofJson limits (.obj definitions) =
      (definitions.mapM fun entry => Rule.ofJson limits entry.1 entry.2).map Config.mk := by
    rw [ofJson]
    cases definitions.mapM fun entry => Rule.ofJson limits entry.1 entry.2 <;> rfl
  simp only [single_definition]
  rw [whole, map_error_iff, all_error_iff, fails_first_map]

theorem definition_refused_iff (limits : Limits) (name : String) (fields : Fields)
    (items : List Json) (e : ConfigError) (headed : Grammar.Headed fields)
    (conditions : Fields.get? "conditions" fields = some (.arr items)) (room : 1 ≤ limits.depth) :
    ofJson limits (.obj [(name, .obj fields)]) = .error e ↔
      FailsFirst (readAt name limits.depth 1) items e := by
  rw [single_definition, map_error_iff]
  exact Grammar.headed_refused_iff limits name fields items headed conditions room e

theorem first_error_in_order_reported (limits : Limits) :
    (∀ definitions parts,
      List.Forall₂ (fun entry part => ofJson limits (.obj [entry]) = .ok part) definitions parts →
        ofJson limits (.obj definitions) = .ok ⟨parts.flatMap Config.rules⟩) ∧
    (∀ definitions e, ofJson limits (.obj definitions) = .error e ↔
      FailsFirst (fun entry => ofJson limits (.obj [entry])) definitions e) ∧
    (∀ name fields items e, Grammar.Headed fields →
      Fields.get? "conditions" fields = some (.arr items) → 1 ≤ limits.depth →
        (ofJson limits (.obj [(name, .obj fields)]) = .error e ↔
          FailsFirst (readAt name limits.depth 1) items e)) ∧
    (∀ name depth fields items e, Entered limits.depth depth fields items →
      (readAt name limits.depth depth (.obj fields) = .error e ↔
        FailsFirst (readAt name limits.depth (depth + 1)) items e)) ∧
    (∀ name depth items, (∃ e, FailsFirst (readAt name limits.depth depth) items e) ↔
      ∃ item ∈ items, ∃ e, readAt name limits.depth depth item = .error e) ∧
    (∀ name depth items e, depth ≤ limits.depth →
      (FailsFirst (readAt name limits.depth depth) items e ↔
        ∃ (place : Place) (node : Json), items = place.fill node ∧
          place.FirstFault name limits.depth depth node e)) ∧
    ∀ name depth node e (place other : Place), place.FirstFault name limits.depth depth node e →
      place.SameBefore other → FailsFirst (readAt name limits.depth depth) (other.fill node) e := by
  refine ⟨definitions_concatenated limits, definitions_refused_iff limits,
    definition_refused_iff limits, ?_, ?_, ?_, ?_⟩
  · intro name depth fields items e entered
    exact Condition.entered_refused_iff name limits.depth depth fields items entered e
  · exact fun name depth items => some_fails_iff (readAt name limits.depth depth) items
  · intro name depth items e room
    exact Place.first_fault_iff name limits.depth depth room items e
  · intro name depth node e place other first same
    exact Place.first_fault_decides name limits.depth depth place other node e first same

def fineLeaf : Json := .obj [("field", .str "a"), ("op", .str "=")]

def faultyLeaf : Json := .obj [("field", .str "b"), ("op", .str "~")]

def nestedPlace : Place :=
  .within [fineLeaf] [("operator", .str "or"), ("conditions", .null)]
    (.among [fineLeaf] [.null, .obj []]) [.arr []]

def clearedPlace : Place :=
  .within [fineLeaf] [("operator", .str "or"), ("conditions", .null)] (.among [fineLeaf] []) []

def threeDefinitions (place : Place) : Json :=
  .obj [("fine", .obj [("conditions-file", .str "f")]),
    ("faulty", .obj [("conditions", .arr (place.fill faultyLeaf))]), ("later", .null)]

theorem nested_fault_reported_alone :
    ofJson ⟨2⟩ (threeDefinitions nestedPlace) = .error (.unknownComparison "~") ∧
      ofJson ⟨2⟩ (threeDefinitions clearedPlace) = .error (.unknownComparison "~") := by
  obtain ⟨_, whole, inside, _, _, _, kept⟩ := first_error_in_order_reported ⟨2⟩
  have fine : ∃ node, readAt "faulty" 2 1 fineLeaf = .ok node := ⟨.leaf ⟨"a", .equal, .null⟩, rfl⟩
  have deeper : ∃ node, readAt "faulty" 2 2 fineLeaf = .ok node := ⟨.leaf ⟨"a", .equal, .null⟩, rfl⟩
  have first : nestedPlace.FirstFault "faulty" 2 1 faultyLeaf (.unknownComparison "~") := by
    constructor
    · refine .within 1 _ _ _ _ .or (List.forall_mem_singleton.mpr fine) rfl (Nat.le_refl 2) ?_
      exact .among 2 _ _ (List.forall_mem_singleton.mpr deeper)
    · refine ⟨rfl, fun fields items same entered => ?_⟩
      obtain ⟨connective, operator⟩ := entered.operator
      cases same
      cases operator
  have refused (place : Place) (same : nestedPlace.SameBefore place) :
      ofJson ⟨2⟩ (threeDefinitions place) = .error (.unknownComparison "~") := by
    refine (whole _ _).mpr ⟨[_], _, [_], rfl, List.forall_mem_singleton.mpr ⟨_, rfl⟩, ?_⟩
    have headed : Grammar.Headed [("conditions", .arr (place.fill faultyLeaf))] := by
      constructor <;> · intro value given; cases given
    refine (inside "faulty" _ _ _ headed rfl (by decide)).mpr ?_
    exact kept "faulty" 1 faultyLeaf _ nestedPlace place first same
  refine ⟨refused nestedPlace ?_, refused clearedPlace ?_⟩
  · exact .within _ _ _ _ _ _ (.among _ _ _)
  · exact .within _ _ _ _ _ _ (.among _ _ _)

end Config

end RuleMatrix
