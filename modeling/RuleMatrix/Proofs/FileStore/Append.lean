import Mathlib.Data.List.DropRight
import RuleMatrix.FileStore
import RuleMatrix.Proofs.Sequence
import RuleMatrix.Proofs.Text.Bytes

set_option autoImplicit false

namespace RuleMatrix.FileStore

theorem lookup_set_entry (place other : Location) (entry : Entry) (entries : List (Location × Entry)) :
    (setEntry place entry entries).lookup other =
      if place = other then some entry else entries.lookup other := by
  induction entries with
  | nil => exact Sequence.lookup_first place other entry []
  | cons first rest ih =>
      obtain ⟨known, old⟩ := first
      by_cases here : known = place
      · subst here
        rw [setEntry, if_pos rfl, Sequence.lookup_first, Sequence.lookup_first]
        by_cases same : known = other <;> simp [same]
      · rw [setEntry, if_neg here, Sequence.lookup_first, Sequence.lookup_first, ih]
        by_cases same : known = other
        · simp [same, Ne.symm (same ▸ here)]
        · simp [same]

theorem entry_set (store : FileStore) (place other : Location) (entry : Entry) (inside : place ≠ []) :
    entry? (store.set place entry) other =
      if place = other then some entry else store.entry? other := by
  cases other with
  | nil => exact (if_neg inside).symm
  | cons name rest => exact lookup_set_entry place (name :: rest) entry store.entries

theorem directory_iff (store : FileStore) (here : Location) :
    store.checkDirectory here = .ok () ↔ store.entry? here = some .directory := by
  unfold checkDirectory
  cases store.entry? here with
  | none => exact ⟨nofun, nofun⟩
  | some entry =>
      cases entry with
      | directory => exact ⟨fun _ => rfl, fun _ => rfl⟩
      | file content => exact ⟨nofun, nofun⟩

theorem walk_step_iff (store : FileStore) (here place : Location) (name : ByteArray) (rest : List ByteArray) :
    store.walk here (name :: rest) = .ok place ↔
      store.entry? here = some .directory ∧ name.size ≤ 255 ∧
        store.walk (step here name) rest = .ok place := by
  rw [walk, Sequence.bind_ok_iff, ← directory_iff]
  by_cases long : 255 < name.size
  · rw [if_pos long]
    exact ⟨nofun, fun all => absurd all.2.1 (Nat.not_le.mpr long)⟩
  · rw [if_neg long]
    exact ⟨fun ⟨_, checked, later⟩ => ⟨checked, Nat.not_lt.mp long, later⟩,
      fun ⟨checked, _, later⟩ => ⟨(), checked, later⟩⟩

theorem walk_append (store : FileStore) (here : Location) (first second : List ByteArray) :
    store.walk here (first ++ second) = store.walk here first >>= fun place => store.walk place second := by
  induction first generalizing here with
  | nil => rfl
  | cons name rest ih =>
      rw [List.cons_append, walk, walk]
      cases store.checkDirectory here with
      | error e => rfl
      | ok _ =>
          by_cases long : 255 < name.size
          · simp [long, bind, Except.bind]
          · simp [long, bind, Except.bind, ih]

structure Opens (store : FileStore) (path : ByteArray) (parents : List ByteArray) (name : ByteArray)
    (here : Location) : Prop where
  given : names path = .ok (parents ++ [name])
  named : name ≠ "".toUTF8 ∧ name ≠ ".".toUTF8 ∧ name ≠ "..".toUTF8
  short : name.size ≤ 255
  way : store.walk (store.start path) parents = .ok here
  directory : store.entry? here = some .directory

theorem drop_slashes_shorter (given : List ByteArray) : (dropSlashes given).length ≤ given.length :=
  (List.rdropWhile_prefix _ given).length_le

theorem drop_slashes_keeps (parents : List ByteArray) (name : ByteArray) :
    dropSlashes (parents ++ [name]) = parents ++ [name] ↔ name ≠ "".toUTF8 := by
  constructor
  · rintro same rfl
    have dropped : dropSlashes (parents ++ ["".toUTF8]) = dropSlashes parents :=
      List.rdropWhile_concat_pos _ parents _ (decide_eq_true rfl)
    have shorter := drop_slashes_shorter parents
    rw [← dropped, same, List.length_append, List.length_singleton] at shorter
    exact absurd shorter (Nat.not_succ_le_self _)
  · intro named
    exact List.rdropWhile_concat_neg _ parents name (mt of_decide_eq_true named)

theorem target_opens (store : FileStore) (path : ByteArray) (place : Location)
    (found : store.target path = .ok place) :
    ∃ parents name here, store.Opens path parents name here ∧ place = here ++ [name] := by
  obtain ⟨given, names, located⟩ := (Sequence.bind_ok_iff _ _ _).mp found
  obtain ⟨here, way, entered⟩ := (Sequence.bind_ok_iff _ _ _).mp located
  obtain ⟨_, checked, chosen⟩ := (Sequence.bind_ok_iff _ _ _).mp entered
  have directory := (directory_iff store here).mp checked
  split at chosen
  · cases chosen
  · rename_i name last
    split at chosen
    · cases chosen
    · rename_i plain
      split at chosen
      · cases chosen
      · rename_i short
        simp only [Bool.or_eq_true, decide_eq_true_eq, not_or] at plain
        obtain ⟨⟨whole, dot⟩, dots⟩ := plain
        have same : dropSlashes given = given :=
          (List.rdropWhile_prefix _ given).eq_of_length_le (Nat.not_lt.mp whole)
        rw [same] at last way
        obtain ⟨parents, rfl⟩ := List.getLast?_eq_some_iff.mp last
        have named := (drop_slashes_keeps parents name).mp same
        rw [List.dropLast_concat] at way
        exact ⟨parents, name, here, ⟨names, ⟨named, dot, dots⟩, Nat.not_lt.mp short, way, directory⟩,
          (Except.ok.inj chosen).symm⟩

theorem opens_target (store : FileStore) (path : ByteArray) (parents : List ByteArray) (name : ByteArray)
    (here : Location) (opens : store.Opens path parents name here) :
    store.target path = .ok (here ++ [name]) := by
  obtain ⟨named, dot, dots⟩ := opens.named
  have same := (drop_slashes_keeps parents name).mpr named
  have checked := (directory_iff store here).mpr opens.directory
  rw [target, opens.given]
  simp only [bind, Except.bind]
  rw [same, List.dropLast_concat, opens.way]
  simp only [checked, List.getLast?_concat, Nat.lt_irrefl, dot, dots, Nat.not_lt.mpr opens.short,
    decide_false, Bool.or_self, Bool.false_eq_true, if_false]

theorem walk_kept (store written : FileStore) (here place : Location) (given : List ByteArray)
    (kept : ∀ place, store.entry? place = some .directory → written.entry? place = some .directory)
    (way : store.walk here given = .ok place) : written.walk here given = .ok place := by
  induction given generalizing here with
  | nil => exact way
  | cons name rest ih =>
      obtain ⟨directory, short, later⟩ := (walk_step_iff store here place name rest).mp way
      exact (walk_step_iff written here place name rest).mpr ⟨kept here directory, short, ih _ later⟩

theorem target_kept (store written : FileStore) (path : ByteArray) (place : Location)
    (start : written.workingDirectory = store.workingDirectory)
    (kept : ∀ place, store.entry? place = some .directory → written.entry? place = some .directory)
    (found : store.target path = .ok place) : written.target path = .ok place := by
  obtain ⟨parents, name, here, opens, rfl⟩ := target_opens store path place found
  have begins : written.start path = store.start path := by rw [FileStore.start, start, FileStore.start]
  have way := walk_kept store written _ here parents kept opens.way
  rw [← begins] at way
  have again : written.Opens path parents name here :=
    ⟨opens.given, opens.named, opens.short, way, kept here opens.directory⟩
  exact opens_target written path parents name here again

theorem target_found (store : FileStore) (path : ByteArray) (place : Location) (entry : Entry)
    (found : store.target path = .ok place) (there : store.entry? place = some entry) :
    store.find path = .ok entry := by
  obtain ⟨parents, name, here, opens, rfl⟩ := target_opens store path place found
  obtain ⟨named, dot, dots⟩ := opens.named
  have last : step here name = here ++ [name] := by
    rw [step, if_neg (not_or.mpr ⟨named, dot⟩), if_neg dots]
  have onward : store.walk here [name] = .ok (here ++ [name]) :=
    (walk_step_iff store here _ name []).mpr ⟨opens.directory, opens.short, congrArg Except.ok last⟩
  have way : store.walk (store.start path) (parents ++ [name]) = .ok (here ++ [name]) := by
    rw [walk_append, opens.way]
    exact onward
  rw [find, opens.given]
  simp only [bind, Except.bind]
  rw [way]
  simp [there]

theorem target_inside (store : FileStore) (path : ByteArray) (place : Location)
    (found : store.target path = .ok place) : place ≠ [] := by
  obtain ⟨_, name, here, _, rfl⟩ := target_opens store path place found
  exact List.append_ne_nil_of_right_ne_nil here (List.cons_ne_nil name [])

structure Holds (store : FileStore) (path : ByteArray) (place : Location) (content : ByteArray) :
    Prop where
  found : store.target path = .ok place
  there : store.entry? place = some (.file content)

-- The same, with no content for a file that is not there yet.
structure Takes (store : FileStore) (path : ByteArray) (place : Location) (old : ByteArray) : Prop where
  found : store.target path = .ok place
  holds : store.entry? place = some (.file old) ∨ store.entry? place = none ∧ old = ByteArray.empty

theorem Holds.takes (store : FileStore) (path : ByteArray) (place : Location) (content : ByteArray)
    (holds : store.Holds path place content) : store.Takes path place content :=
  ⟨holds.found, .inl holds.there⟩

theorem held_read (store : FileStore) (path : ByteArray) (place : Location) (content : ByteArray)
    (holds : store.Holds path place content) : store.read path = .ok content := by
  rw [read, target_found store path place _ holds.found holds.there]
  rfl

theorem append_ok_iff (store written : FileStore) (path : ByteArray) (content : ByteArray) :
    store.append path content = .ok written ↔
      ∃ place old, store.Takes path place old ∧ written = store.set place (.file (old ++ content)) := by
  constructor
  · intro appended
    obtain ⟨place, found, later⟩ := (Sequence.bind_ok_iff _ _ _).mp appended
    split at later
    · cases later
    · rename_i old there
      exact ⟨place, old, ⟨found, .inl there⟩, (Except.ok.inj later).symm⟩
    · rename_i missing
      have same : store.set place (.file (ByteArray.empty ++ content)) = written := by
        rw [ByteArray.empty_append]
        exact Except.ok.inj later
      exact ⟨place, ByteArray.empty, ⟨found, .inr ⟨missing, rfl⟩⟩, same.symm⟩
  · rintro ⟨place, old, takes, rfl⟩
    rw [append, takes.found]
    rcases takes.holds with there | ⟨missing, rfl⟩
    · simp [bind, Except.bind, there]
    · simp [bind, Except.bind, missing]

theorem append_taken (store : FileStore) (path : ByteArray) (place : Location) (old content : ByteArray)
    (takes : store.Takes path place old) :
    store.append path content = .ok (store.set place (.file (old ++ content))) :=
  (append_ok_iff store _ path content).mpr ⟨place, old, takes, rfl⟩

theorem held_after (store : FileStore) (path : ByteArray) (place : Location) (old fresh : ByteArray)
    (takes : store.Takes path place old) : (store.set place (.file fresh)).Holds path place fresh := by
  have inside := target_inside store path place takes.found
  have kept : ∀ other, store.entry? other = some .directory →
      entry? (store.set place (.file fresh)) other = some .directory := by
    intro other directory
    have apart : place ≠ other := by
      rintro rfl
      rcases takes.holds with there | ⟨missing, _⟩
      · cases there.symm.trans directory
      · cases missing.symm.trans directory
    rw [entry_set store place other _ inside, if_neg apart]
    exact directory
  exact ⟨target_kept store _ path place rfl kept takes.found,
    (entry_set store place place _ inside).trans (if_pos rfl)⟩

end RuleMatrix.FileStore
