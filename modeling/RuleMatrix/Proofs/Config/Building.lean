import RuleMatrix.Proofs.Config.Changes
import RuleMatrix.Proofs.Config.Compiled
import RuleMatrix.Proofs.Config.Encoding

set_option autoImplicit false

namespace RuleMatrix

namespace Draft

def namedFile (draft : Draft) : Option String := draft.conditionsFile.filter fun path => path ≠ ""

def rule (name : String) (draft : Draft) : Rule :=
  ⟨name, ⟨draft.connective, draft.conditions.getD []⟩, draft.namedFile, draft.outputs⟩

structure Sound (limits : Limits) (draft : Draft) : Prop where
  source : draft.conditions = none → draft.namedFile ≠ none
  depth : ∀ given, draft.conditions = some given →
    Condition.NestsWithin limits.depth (.group draft.connective given)

-- The fault of a draft behind others that have used some names: the first of the three that it has.
inductive Fault (limits : Limits) (used : List String) (name : String) (draft : Draft) :
    ConfigError → Prop where
  | repeated (known : name ∈ used) : Fault limits used name draft (.repeatedName name)
  | bare (fresh : name ∉ used) (conditions : draft.conditions = none)
      (file : draft.namedFile = none) : Fault limits used name draft (.noConditions name)
  | deep (fresh : name ∉ used) (given : List Condition) (conditions : draft.conditions = some given)
      (exceeds : ¬ Condition.NestsWithin limits.depth (.group draft.connective given)) :
      Fault limits used name draft (.tooDeep name limits.depth)

theorem root_nests_iff (limits : Limits) (draft : Draft) (given : List Condition) :
    Condition.NestsWithin limits.depth (.group draft.connective given) ↔
      Group.depth ⟨draft.connective, given⟩ ≤ limits.depth :=
  Condition.nests_within_iff limits.depth _

theorem named_file_kept (draft : Draft) :
    draft.conditionsFile.bind Rule.namedFile = draft.namedFile := by
  rw [namedFile]
  cases draft.conditionsFile with
  | none => rfl
  | some path => by_cases empty : path = "" <;> simp [Rule.namedFile, Option.filter, empty]

section Build

variable (limits : Limits) (used : List String) (name : String) (draft : Draft)

theorem build_sound_iff (rule : Rule) :
    draft.build limits name = .ok rule ↔ draft.Sound limits ∧ draft.rule name = rule := by
  rw [build_ok_iff, named_file_kept]
  simp only [← root_nests_iff]
  exact ⟨fun built => ⟨⟨built.1, built.2.1⟩, built.2.2⟩,
    fun fine => ⟨fine.1.source, fine.1.depth, fine.2⟩⟩

theorem fault_told (fresh : name ∉ used) (e : ConfigError) (fault : draft.Fault limits used name e) :
    draft.build limits name = .error e := by
  have file := draft.named_file_kept
  cases fault with
  | repeated known => exact absurd known fresh
  | bare _ conditions named => simp [build, file, conditions, named]
  | deep _ given conditions exceeds =>
      have deeper := Nat.not_le.mp (mt (root_nests_iff limits draft given).mpr exceeds)
      simp [build, conditions, deeper]

theorem sound_or_fault :
    (name ∉ used ∧ draft.Sound limits) ∨ ∃ e, draft.Fault limits used name e := by
  by_cases fresh : name ∉ used
  · cases conditions : draft.conditions with
    | none =>
        by_cases named : draft.namedFile = none
        · exact .inr ⟨_, .bare fresh conditions named⟩
        · exact .inl ⟨fresh, fun _ => named, by simp [conditions]⟩
    | some given =>
        by_cases nests : Condition.NestsWithin limits.depth (.group draft.connective given)
        · refine .inl ⟨fresh, by simp [conditions], fun other same => ?_⟩
          obtain rfl := Option.some.inj (conditions.symm.trans same)
          exact nests
        · exact .inr ⟨_, .deep fresh given conditions nests⟩
  · exact .inr ⟨_, .repeated (not_not.mp fresh)⟩

theorem fault_same_names (others : List String) (same : ∀ other, other ∈ used ↔ other ∈ others)
    (e : ConfigError) (fault : draft.Fault limits used name e) : draft.Fault limits others name e := by
  cases fault with
  | repeated known => exact .repeated ((same name).mp known)
  | bare fresh conditions file => exact .bare (mt (same name).mpr fresh) conditions file
  | deep fresh given conditions exceeds =>
      exact .deep (mt (same name).mpr fresh) given conditions exceeds

end Build

end Draft

namespace Config

structure Buildable (limits : Limits) (drafts : List (String × Draft)) : Prop where
  names : (drafts.map Prod.fst).Nodup
  sound : ∀ entry ∈ drafts, entry.2.Sound limits

def FirstFault (limits : Limits) (drafts : List (String × Draft)) (e : ConfigError) : Prop :=
  ∃ before name draft after, drafts = before ++ (name, draft) :: after ∧ Buildable limits before ∧
    draft.Fault limits (before.map Prod.fst) name e

theorem each_built_iff (limits : Limits) (drafts : List (String × Draft)) (rules : List Rule) :
    List.Forall₂ (fun entry rule => entry.2.build limits entry.1 = .ok rule) drafts rules ↔
      (∀ entry ∈ drafts, entry.2.Sound limits) ∧
        (drafts.map fun entry => entry.2.rule entry.1) = rules := by
  simp only [Draft.build_sound_iff]
  rw [List.forall₂_and_left, ← List.forall₂_eq_eq_eq, List.forall₂_map_left_iff]

theorem built_iff (limits : Limits) (drafts : List (String × Draft)) (config : Config) :
    build limits drafts = .ok config ↔
      Buildable limits drafts ∧ ⟨drafts.map fun entry => entry.2.rule entry.1⟩ = config := by
  constructor
  · intro built
    obtain ⟨distinct, each⟩ := built_steps limits drafts config built
    obtain ⟨sound, rules⟩ := (each_built_iff limits drafts config.rules).mp each
    exact ⟨⟨distinct, sound⟩, congrArg Config.mk rules⟩
  · rintro ⟨buildable, rfl⟩
    have unused : ∀ entry ∈ drafts, entry.1 ∉ ([] : List String) := fun _ _ => List.not_mem_nil
    have steps := (each_built_iff limits drafts _).mpr ⟨buildable.sound, rfl⟩
    rw [build, build_unused limits [] drafts buildable.names unused, (Sequence.all_ok_iff _ _ _).mpr steps]
    rfl

theorem fault_refused (limits : Limits) (seen : List String) (name : String) (draft : Draft)
    (after : List (String × Draft)) (e : ConfigError) (fault : draft.Fault limits seen name e) :
    buildAfter limits seen ((name, draft) :: after) = .error e := by
  rw [buildAfter]
  by_cases known : name ∈ seen
  · rw [if_pos (List.contains_iff_mem.mpr known)]
    cases fault with
    | repeated _ => rfl
    | bare fresh _ _ => exact absurd known fresh
    | deep fresh _ _ _ => exact absurd known fresh
  · rw [if_neg (mt List.contains_iff_mem.mp known),
      draft.fault_told limits seen name known e fault]
    rfl

-- The names of the drafts that were built are added to those seen before, the last one in front.
theorem refused_at_fault (limits : Limits) (seen : List String) (before after : List (String × Draft))
    (name : String) (draft : Draft) (e : ConfigError) (buildable : Buildable limits before)
    (unused : ∀ entry ∈ before, entry.1 ∉ seen)
    (fault : draft.Fault limits ((before.map Prod.fst).reverse ++ seen) name e) :
    buildAfter limits seen (before ++ (name, draft) :: after) = .error e := by
  induction before generalizing seen with
  | nil => exact fault_refused limits seen name draft after e fault
  | cons entry rest ih =>
      obtain ⟨_, distinct⟩ := List.nodup_cons.mp buildable.names
      obtain ⟨sound, others⟩ := List.forall_mem_cons.mp buildable.sound
      obtain ⟨fresh, later⟩ := List.forall_mem_cons.mp unused
      have first := (Draft.build_sound_iff limits entry.1 entry.2 _).mpr ⟨sound, rfl⟩
      have apart := unused_behind seen entry rest buildable.names later
      rw [List.map_cons, List.reverse_cons, List.append_assoc, List.singleton_append] at fault
      have refused := ih (entry.1 :: seen) ⟨distinct, others⟩ apart fault
      rw [List.cons_append, buildAfter, if_neg (mt List.contains_iff_mem.mp fresh), first]
      change (buildAfter limits (entry.1 :: seen) _ >>= _) = _
      rw [refused]
      rfl

theorem first_fault_refused (limits : Limits) (drafts : List (String × Draft)) (e : ConfigError)
    (faulty : FirstFault limits drafts e) : build limits drafts = .error e := by
  obtain ⟨before, name, draft, after, rfl, buildable, fault⟩ := faulty
  have same : ∀ other, other ∈ before.map Prod.fst ↔ other ∈ (before.map Prod.fst).reverse ++ [] := by
    simp
  have behind := draft.fault_same_names limits _ name _ same e fault
  have unused : ∀ entry ∈ before, entry.1 ∉ ([] : List String) := fun _ _ => List.not_mem_nil
  rw [build, refused_at_fault limits [] before after name draft e buildable unused behind]
  rfl

theorem buildable_or_faulty (limits : Limits) (drafts : List (String × Draft)) :
    Buildable limits drafts ∨ ∃ e, FirstFault limits drafts e := by
  induction drafts using List.reverseRecOn with
  | nil => exact .inl ⟨List.nodup_nil, List.forall_mem_nil _⟩
  | append_singleton drafts entry ih =>
      obtain ⟨name, draft⟩ := entry
      rcases ih with buildable | ⟨e, before, other, faulty, after, rfl, buildable, fault⟩
      · rcases draft.sound_or_fault limits (drafts.map Prod.fst) name with ⟨fresh, sound⟩ | ⟨e, fault⟩
        · refine .inl ⟨?_, List.forall_mem_append.mpr ⟨buildable.sound, List.forall_mem_singleton.mpr sound⟩⟩
          rw [List.map_append, List.map_singleton]
          exact List.nodup_append_comm.mp (List.nodup_cons.mpr ⟨fresh, buildable.names⟩)
        · exact .inr ⟨e, drafts, name, draft, [], rfl, buildable, fault⟩
      · refine .inr ⟨e, before, other, faulty, after ++ [(name, draft)], ?_, buildable, fault⟩
        rw [List.append_assoc, List.cons_append]

theorem refused_iff (limits : Limits) (drafts : List (String × Draft)) (e : ConfigError) :
    build limits drafts = .error e ↔ FirstFault limits drafts e := by
  constructor
  · intro refused
    rcases buildable_or_faulty limits drafts with buildable | ⟨other, faulty⟩
    · have built := (built_iff limits drafts _).mpr ⟨buildable, rfl⟩
      cases refused.symm.trans built
    · have told := first_fault_refused limits drafts other faulty
      exact Except.error.inj (told.symm.trans refused) ▸ faulty
  · exact first_fault_refused limits drafts e

def draftsOf (calls : List (String × List Draft.Change)) : List (String × Draft) :=
  calls.map fun entry => (entry.1, Draft.ofChanges entry.2)

theorem rules_follow_their_changes (limits : Limits) (calls : List (String × List Draft.Change))
    (objects : ∀ entry ∈ calls, ∀ given ∈ entry.2.filterMap Draft.Change.outputs?,
      Fields.Distinct given) :
    (∀ entry ∈ calls, Draft.Described entry.2 (Draft.ofChanges entry.2)) ∧
      (∀ config, build limits (draftsOf calls) = .ok config ↔
        Buildable limits (draftsOf calls) ∧
          ⟨(draftsOf calls).map fun entry => entry.2.rule entry.1⟩ = config) ∧
      ∀ e, build limits (draftsOf calls) = .error e ↔ FirstFault limits (draftsOf calls) e := by
  refine ⟨?_, built_iff limits (draftsOf calls), refused_iff limits (draftsOf calls)⟩
  exact fun entry member => Draft.of_changes_described entry.2 (objects entry member)

-- Changes that start anew among changes that add, and an empty file name that takes back another.
def mixedChanges : List Draft.Change :=
  [.when (.leaf ⟨"x", .equal, .null⟩), .output "k" .null, .conditions [],
    .when (.leaf ⟨"y", .equal, .null⟩), .outputs [("j", .null), ("k", .null)],
    .output "l" .null, .output "j" (.bool true), .conditionsFile "f", .combine .or, .conditionsFile ""]

def mixedRule : Rule :=
  ⟨"mixed", ⟨.or, [.leaf ⟨"y", .equal, .null⟩]⟩, none,
    [("j", .bool true), ("k", .null), ("l", .null)]⟩

def mixedCalls : List (String × List Draft.Change) :=
  [("mixed", mixedChanges), ("bare", [.conditionsFile "f", .conditionsFile ""]), ("mixed", [])]

-- Its second rule needs two levels.
def deepCalls : List (String × List Draft.Change) :=
  [("mixed", mixedChanges), ("deep", [.when (.group .and [])]), ("deep", [])]

theorem mixed_changes_followed :
    (∀ entry ∈ mixedCalls, ∀ given ∈ entry.2.filterMap Draft.Change.outputs?,
      Fields.Distinct given) ∧
      build ⟨1⟩ (draftsOf (mixedCalls.take 1)) = .ok ⟨[mixedRule]⟩ ∧
      build ⟨1⟩ (draftsOf mixedCalls) = .error (.noConditions "bare") ∧
      build ⟨1⟩ (draftsOf deepCalls) = .error (.tooDeep "deep" 1) ∧
      build ⟨2⟩ (draftsOf deepCalls) = .error (.repeatedName "deep") := by
  have objects : ∀ entry ∈ mixedCalls, ∀ given ∈ entry.2.filterMap Draft.Change.outputs?,
      Fields.Distinct given := by
    simp [mixedCalls, mixedChanges, Draft.Change.outputs?, Fields.Distinct, Fields.keys]
  have one : build ⟨1⟩ (draftsOf (mixedCalls.take 1)) = .ok ⟨[mixedRule]⟩ := rfl
  obtain ⟨_, built, _⟩ := rules_follow_their_changes ⟨1⟩ (mixedCalls.take 1)
    fun entry member => objects entry (List.mem_of_mem_take member)
  obtain ⟨_, _, refused⟩ := rules_follow_their_changes ⟨1⟩ mixedCalls objects
  have deepObjects : ∀ entry ∈ deepCalls, ∀ given ∈ entry.2.filterMap Draft.Change.outputs?,
      Fields.Distinct given := by
    simp [deepCalls, mixedChanges, Draft.Change.outputs?, Fields.Distinct, Fields.keys]
  obtain ⟨_, _, tooDeep⟩ := rules_follow_their_changes ⟨1⟩ deepCalls deepObjects
  obtain ⟨_, shallow, _⟩ := rules_follow_their_changes ⟨2⟩ (deepCalls.take 2)
    fun entry member => deepObjects entry (List.mem_of_mem_take member)
  obtain ⟨_, _, repeated⟩ := rules_follow_their_changes ⟨2⟩ deepCalls deepObjects
  have first := ((built ⟨[mixedRule]⟩).mp one).1
  have levels : ¬ Condition.NestsWithin 1 (.group .and [.group .and []]) := by
    rintro ⟨⟩
    rename_i each
    cases each _ List.mem_cons_self
  have both := ((shallow _).mp rfl).1
  refine ⟨objects, one, (refused _).mpr ⟨_, "bare", _, _, rfl, first, ?_⟩,
    (tooDeep _).mpr ⟨_, "deep", _, _, rfl, first, ?_⟩,
    (repeated _).mpr ⟨_, "deep", _, _, rfl, both, ?_⟩⟩
  · exact .bare (by decide) rfl rfl
  · exact .deep (by decide) _ rfl levels
  · exact .repeated (by decide)

end Config

end RuleMatrix
