import RuleMatrix.CommandLine.Arguments
import RuleMatrix.Proofs.FileStore.Append

set_option autoImplicit false

namespace RuleMatrix.CommandLine

def optionNames : List String :=
  ["--conditions-file", "--conditions-json", "--max-depth", "--output-file"]

inductive Gives : List ByteArray → List (String × ByteArray) → Prop where
  | nothing : Gives [] []
  | ended : Gives ["--".toUTF8] []
  | apart (name : String) (value : ByteArray) (rest : List ByteArray)
      (options : List (String × ByteArray)) (known : name ∈ optionNames)
      (plain : value = "-".toUTF8 ∨ ∀ behind, value ≠ "-".toUTF8 ++ behind)
      (later : Gives rest options) : Gives (name.toUTF8 :: value :: rest) ((name, value) :: options)
  | joined (name : String) (value : ByteArray) (rest : List ByteArray)
      (options : List (String × ByteArray)) (known : name ∈ optionNames)
      (later : Gives rest options) :
      Gives ((name.toUTF8 ++ "=".toUTF8 ++ value) :: rest) ((name, value) :: options)

theorem value_iff (word : ByteArray) :
    isValue word = true ↔ word = "-".toUTF8 ∨ ∀ behind, word ≠ "-".toUTF8 ++ behind := by
  rw [isValue, Bool.or_eq_true, decide_eq_true_iff, Bool.not_eq_true', ← Bool.not_eq_true,
    Text.bytes_before_iff, not_exists]

theorem option_known (setting : Setting) : setting.option ∈ optionNames := by
  cases setting <;> decide

theorem known_option (name : String) (known : name ∈ optionNames) :
    ∃ setting : Setting, setting.option = name := by
  simp only [optionNames, List.mem_cons, List.not_mem_nil, or_false] at known
  rcases known with rfl | rfl | rfl | rfl
  · exact ⟨.conditionsFile, rfl⟩
  · exact ⟨.conditionsJson, rfl⟩
  · exact ⟨.depth, rfl⟩
  · exact ⟨.outputFile, rfl⟩

theorem of_option_iff (name : List UInt8) (setting : Setting) :
    ofOption? name = some setting ↔ setting.option.toUTF8.data.toList = name := by
  constructor
  · intro found
    exact beq_iff_eq.mp (List.find?_eq_some_iff_append.mp found).1
  · rintro rfl
    cases setting <;> decide

-- No option has an equals sign, so the first one in a word ends the option.
theorem option_whole (setting : Setting) :
    ∀ byte ∈ setting.option.toUTF8.data.toList, (byte != '='.toUInt8) = true := by
  apply List.all_eq_true.mp
  cases setting <;> decide

section Words

variable (word : ByteArray) (setting : Setting)

theorem apart_iff : wordOf word = .option setting none ↔ word = setting.option.toUTF8 := by
  constructor
  · intro read
    unfold wordOf at read
    dsimp only at read
    split at read
    · rename_i found nothing
      rw [(Word.option.inj read).1] at found
      have whole := List.takeWhile_append_dropWhile (p := (· != '='.toUInt8)) (l := word.data.toList)
      rw [nothing, List.append_nil, ← (of_option_iff _ setting).mp found] at whole
      exact Text.bytes_same _ _ whole.symm
    · cases (Word.option.inj read).2
    · split_ifs at read
  · rintro rfl
    have whole := List.takeWhile_eq_self_iff.mpr (option_whole setting)
    have nothing := List.dropWhile_eq_nil_iff.mpr (option_whole setting)
    rw [wordOf, whole, nothing, (of_option_iff _ setting).mpr rfl]

theorem joined_iff (value : ByteArray) :
    wordOf word = .option setting (some value) ↔ word = setting.option.toUTF8 ++ "=".toUTF8 ++ value := by
  have parts : (setting.option.toUTF8 ++ "=".toUTF8 ++ value).data.toList =
      setting.option.toUTF8.data.toList ++ '='.toUInt8 :: value.data.toList := by
    rw [ByteArray.toList_data_append, ByteArray.toList_data_append, List.append_assoc]
    rfl
  constructor
  · intro read
    unfold wordOf at read
    dsimp only at read
    split at read
    · cases (Word.option.inj read).2
    · rename_i sign behind found cut
      obtain ⟨known, same⟩ := Word.option.inj read
      rw [known] at found
      obtain rfl := Option.some.inj same
      have whole := List.takeWhile_append_dropWhile (p := (· != '='.toUInt8)) (l := word.data.toList)
      have equals := Sequence.behind_run (· != '='.toUInt8) word.data.toList sign (by simp [cut])
      rw [cut, ← (of_option_iff _ setting).mp found] at whole
      refine Text.bytes_same _ _ (whole.symm.trans ?_)
      rw [parts, bne_eq_false_iff_eq.mp equals]
    · split_ifs at read
  · rintro rfl
    have stop : ∀ byte ∈ ('='.toUInt8 :: value.data.toList).head?, (byte != '='.toUInt8) = false := by
      simp
    rw [wordOf, parts, Sequence.run_taken _ _ _ (option_whole setting) stop,
      Sequence.run_dropped _ _ _ (option_whole setting) stop, (of_option_iff _ setting).mpr rfl]

theorem ending_iff : wordOf word = .ending ↔ word = "--".toUTF8 := by
  constructor
  · intro read
    unfold wordOf at read
    dsimp only at read
    split at read
    · cases read
    · cases read
    · split_ifs at read with help version ending
      exact ending
  · rintro rfl
    rfl

end Words

def item (option : Setting × ByteArray) : Item := .given option.1 option.2

def named (option : Setting × ByteArray) : String × ByteArray := (option.1.option, option.2)

theorem given_items (arguments : List ByteArray) (options : List (Setting × ByteArray))
    (given : Gives arguments (options.map named)) : items arguments = options.map item := by
  generalize same : options.map named = names at given
  induction given generalizing options with
  | nothing =>
      obtain rfl := List.map_eq_nil_iff.mp same
      rfl
  | ended =>
      obtain rfl := List.map_eq_nil_iff.mp same
      rfl
  | apart name value rest others known plain later ih =>
      obtain ⟨option, more, rfl, first, behind⟩ := List.map_eq_cons_iff.mp same
      obtain ⟨rfl, rfl⟩ := Prod.mk.inj first
      rw [items, (apart_iff _ option.1).mpr rfl]
      dsimp only
      rw [if_pos ((value_iff _).mpr plain), ih more behind]
      rfl
  | joined name value rest others known later ih =>
      obtain ⟨option, more, rfl, first, behind⟩ := List.map_eq_cons_iff.mp same
      obtain ⟨rfl, rfl⟩ := Prod.mk.inj first
      rw [items, (joined_iff _ option.1 _).mpr rfl]
      dsimp only
      rw [ih more behind]
      rfl

theorem stopped_ungiven (reason : Stop) (options : List (Setting × ByteArray))
    (same : [Item.stop reason] = options.map item) : False := by
  obtain ⟨_, _, _, first, _⟩ := List.map_eq_cons_iff.mp same.symm
  cases first

theorem first_given (setting : Setting) (value : ByteArray) (others : List Item)
    (options : List (Setting × ByteArray))
    (same : Item.given setting value :: others = options.map item) :
    ∃ more, options = (setting, value) :: more ∧ others = more.map item := by
  obtain ⟨_, more, rfl, first, behind⟩ := List.map_eq_cons_iff.mp same.symm
  obtain ⟨rfl, rfl⟩ := Item.given.inj first
  exact ⟨more, rfl, behind.symm⟩

theorem items_given (arguments : List ByteArray) (options : List (Setting × ByteArray))
    (same : items arguments = options.map item) : Gives arguments (options.map named) := by
  induction arguments using items.induct generalizing options with
  | case1 =>
      obtain rfl := List.map_eq_nil_iff.mp same.symm
      exact .nothing
  | case2 word rest setting value read ih =>
      rw [items, read] at same
      obtain ⟨more, rfl, behind⟩ := first_given setting value _ options same
      obtain rfl := (joined_iff word setting value).mp read
      exact .joined _ _ _ _ (option_known setting) (ih more behind)
  | case3 word setting read =>
      rw [items, read] at same
      exact (stopped_ungiven _ options same).elim
  | case4 word setting read value rest plain ih =>
      rw [items, read] at same
      dsimp only at same
      rw [if_pos plain] at same
      obtain ⟨more, rfl, behind⟩ := first_given setting value _ options same
      obtain rfl := (apart_iff word setting).mp read
      exact .apart _ _ _ _ (option_known setting) ((value_iff _).mp plain) (ih more behind)
  | case5 word setting read value rest dashed =>
      rw [items, read] at same
      dsimp only at same
      rw [if_neg dashed] at same
      exact (stopped_ungiven _ options same).elim
  | case6 word rest read last =>
      rw [items, read] at same
      dsimp only at same
      rw [if_pos last] at same
      obtain rfl := List.map_eq_nil_iff.mp same.symm
      obtain rfl := List.isEmpty_iff.mp last
      obtain rfl := (ending_iff word).mp read
      exact .ended
  | case7 word rest read more =>
      rw [items, read] at same
      dsimp only at same
      rw [if_neg more] at same
      exact (stopped_ungiven _ options same).elim
  | case8 word rest reason read =>
      rw [items, read] at same
      exact (stopped_ungiven _ options same).elim

end RuleMatrix.CommandLine
