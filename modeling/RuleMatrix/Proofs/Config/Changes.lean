import Mathlib.Data.List.DropRight
import Mathlib.Data.List.Induction
import RuleMatrix.Config.Draft
import RuleMatrix.Proofs.Fields

set_option autoImplicit false

namespace RuleMatrix

namespace Sequence

variable {α β γ : Type}

-- What the last of the items gives that give anything.
def lastGiven (gives : α → Option β) (items : List α) : Option β := (items.filterMap gives).getLast?

-- What the items behind that one add, or all of them if none starts anew.
def addedSince (starts : α → Option β) (adds : α → Option γ) (items : List α) : List γ :=
  (items.rtakeWhile fun item => (starts item).isNone).filterMap adds

theorem last_given_concat (gives : α → Option β) (items : List α) (item : α) :
    lastGiven gives (items ++ [item]) = (gives item).or (lastGiven gives items) := by
  rw [lastGiven, List.filterMap_append]
  cases given : gives item with
  | none => simp [lastGiven, given]
  | some value => simp [given]

theorem added_since_concat (starts : α → Option β) (adds : α → Option γ) (items : List α) (item : α) :
    addedSince starts adds (items ++ [item]) =
      if (starts item).isNone then addedSince starts adds items ++ (adds item).toList else [] := by
  rw [addedSince, List.rtakeWhile_concat]
  cases starts item with
  | none => cases added : adds item <;> simp [addedSince, added]
  | some value => rfl

end Sequence

namespace Draft

namespace Change

def connective? : Change → Option Connective
  | .combine connective => some connective
  | _ => none

def conditions? : Change → Option (List Condition)
  | .conditions given => some given
  | _ => none

def condition? : Change → Option Condition
  | .when condition => some condition
  | _ => none

def file? : Change → Option String
  | .conditionsFile path => some path
  | _ => none

def outputs? : Change → Option Fields
  | .outputs given => some given
  | _ => none

def output? : Change → Option (String × Json)
  | .output key value => some (key, value)
  | _ => none

end Change

open Sequence

def startingConditions (changes : List Change) : List Condition :=
  (lastGiven Change.conditions? changes).getD []

def laterConditions (changes : List Change) : List Condition :=
  addedSince Change.conditions? Change.condition? changes

def startingOutputs (changes : List Change) : Fields := (lastGiven Change.outputs? changes).getD []

def laterOutputs (changes : List Change) : Fields :=
  addedSince Change.outputs? Change.output? changes

-- A draft as its changes describe it. Of outputs with one key the first gives the place and the last
-- the value.
structure Described (changes : List Change) (draft : Draft) : Prop where
  connective : draft.connective = (lastGiven Change.connective? changes).getD .and
  conditions : draft.conditions.getD [] = startingConditions changes ++ laterConditions changes
  unconditional : draft.conditions = none ↔
    ∀ change ∈ changes, change.condition? = none ∧ change.conditions? = none
  file : draft.conditionsFile = lastGiven Change.file? changes
  outputs : draft.outputs = Fields.extend (startingOutputs changes) (laterOutputs changes)
  keys : Fields.keys draft.outputs =
    (Fields.keys (startingOutputs changes) ++ Fields.keys (laterOutputs changes)).eraseDups
  values : ∀ key, Fields.get? key draft.outputs =
    (Fields.get? key (laterOutputs changes).reverse).or (Fields.get? key (startingOutputs changes))

theorem of_changes_concat (changes : List Change) (change : Change) :
    ofChanges (changes ++ [change]) = (ofChanges changes).apply change := by
  rw [ofChanges, List.foldl_append]
  rfl

theorem connective_described (changes : List Change) :
    (ofChanges changes).connective = (lastGiven Change.connective? changes).getD .and := by
  induction changes using List.reverseRecOn with
  | nil => rfl
  | append_singleton changes change ih =>
      rw [of_changes_concat, last_given_concat]
      cases change <;> simp [apply, Change.connective?, ih]

theorem file_described (changes : List Change) :
    (ofChanges changes).conditionsFile = lastGiven Change.file? changes := by
  induction changes using List.reverseRecOn with
  | nil => rfl
  | append_singleton changes change ih =>
      rw [of_changes_concat, last_given_concat]
      cases change <;> simp [apply, Change.file?, ih]

theorem conditions_described (changes : List Change) :
    (ofChanges changes).conditions.getD [] = startingConditions changes ++ laterConditions changes := by
  induction changes using List.reverseRecOn with
  | nil => rfl
  | append_singleton changes change ih =>
      rw [startingConditions, laterConditions] at ih ⊢
      rw [of_changes_concat, last_given_concat, added_since_concat]
      cases change <;> simp [apply, Change.conditions?, Change.condition?, ih]

theorem unconditional_described (changes : List Change) :
    (ofChanges changes).conditions = none ↔
      ∀ change ∈ changes, change.condition? = none ∧ change.conditions? = none := by
  induction changes using List.reverseRecOn with
  | nil => exact ⟨fun _ => List.forall_mem_nil _, fun _ => rfl⟩
  | append_singleton changes change ih =>
      rw [of_changes_concat, List.forall_mem_append, List.forall_mem_singleton, ← ih]
      cases change <;> simp [apply, Change.conditions?, Change.condition?]

theorem outputs_described (changes : List Change) :
    (ofChanges changes).outputs = Fields.extend (startingOutputs changes) (laterOutputs changes) := by
  induction changes using List.reverseRecOn with
  | nil => rfl
  | append_singleton changes change ih =>
      rw [startingOutputs, laterOutputs] at ih ⊢
      rw [of_changes_concat, last_given_concat, added_since_concat]
      cases change with
      | output key value => simp [apply, Change.outputs?, Change.output?, ih, Fields.extend_concat]
      | outputs given => rfl
      | _ => simp [apply, Change.outputs?, Change.output?, ih]

-- The outputs given at once come as objects, whose keys are distinct.
theorem of_changes_described (changes : List Change)
    (objects : ∀ given ∈ changes.filterMap Change.outputs?, Fields.Distinct given) :
    Described changes (ofChanges changes) := by
  have outputs := outputs_described changes
  have distinct : Fields.Distinct (startingOutputs changes) := by
    rw [startingOutputs]
    cases last : lastGiven Change.outputs? changes with
    | none => exact List.nodup_nil
    | some given => exact objects given (List.mem_of_getLast? last)
  exact {
    connective := connective_described changes
    conditions := conditions_described changes
    unconditional := unconditional_described changes
    file := file_described changes
    outputs := outputs
    keys := by rw [outputs, Fields.keys_extend _ _ distinct]
    values := fun key => by rw [outputs, Fields.get_extend] }

end Draft

end RuleMatrix
