import RuleMatrix.Proofs.CommandLine.Words
import RuleMatrix.Proofs.Text.Digit

set_option autoImplicit false

namespace RuleMatrix.CommandLine

inductive GivesText : Option ByteArray → Option String → Prop where
  | absent : GivesText none none
  | empty : GivesText (some "".toUTF8) none
  | text (text : String) (nonempty : text ≠ "") : GivesText (some text.toUTF8) (some text)

inductive GivesDepth : Option ByteArray → Nat → Prop where
  | standard : GivesDepth none 64
  | decimal (sign : List Char) (zeros depth : Nat) (plain : sign = [] ∨ sign = ['+'])
      (small : depth < 2 ^ 64) :
      GivesDepth (some (String.ofList
        (sign ++ (List.replicate zeros '0' ++ Nat.toDigits 10 depth))).toUTF8) depth

inductive GivesPath : Option ByteArray → Option ByteArray → Prop where
  | absent : GivesPath none none
  | path (path : ByteArray) (nonempty : path ≠ "".toUTF8) : GivesPath (some path) (some path)

def chosen (options : List (String × ByteArray)) (bindings : List (ByteArray × ByteArray))
    (option variableName : String) : Option ByteArray :=
  (options.lookup option).or (bindings.lookup variableName.toUTF8)

structure Asks (options : List (String × ByteArray)) (bindings : List (ByteArray × ByteArray))
    (settings : Settings) : Prop where
  once : (options.map Prod.fst).Nodup
  file : GivesText (chosen options bindings "--conditions-file" "INPUT_CONDITIONS-FILE")
    settings.input.file
  json : GivesText (chosen options bindings "--conditions-json" "INPUT_CONDITIONS-JSON")
    settings.input.json
  depth : GivesDepth (chosen options bindings "--max-depth" "INPUT_MAX-DEPTH") settings.limits.depth
  output : GivesPath (chosen options bindings "--output-file" "GITHUB_OUTPUT") settings.outputFile

def Asked (arguments : List ByteArray) (bindings : List (ByteArray × ByteArray))
    (settings : Settings) : Prop :=
  ∃ options, Gives arguments options ∧ Asks options bindings settings

theorem option_injective (first second : Setting) (same : first.option = second.option) :
    first = second := by
  have found := (of_option_iff _ first).mpr rfl
  rw [same, (of_option_iff _ second).mpr rfl] at found
  exact (Option.some.inj found).symm

structure Fine (options : List (Setting × ByteArray)) : Prop where
  once : (options.map Prod.fst).Nodup
  admitted : ∀ option ∈ options, option.1.value? option.2 ≠ none

def collected (options : List (Setting × ByteArray)) : Given :=
  fun setting => (options.lookup setting).bind setting.value?

theorem fine_before (options others : List (Setting × ByteArray)) (fine : Fine (options ++ others)) :
    Fine options :=
  ⟨fine.once.sublist ((List.sublist_append_left options others).map Prod.fst),
    fun option member => fine.admitted option (List.mem_append_left others member)⟩

theorem fine_concat_iff (options : List (Setting × ByteArray)) (setting : Setting)
    (bytes : ByteArray) :
    Fine (options ++ [(setting, bytes)]) ↔
      Fine options ∧ setting ∉ options.map Prod.fst ∧ setting.value? bytes ≠ none := by
  have names : (options ++ [(setting, bytes)]).map Prod.fst = (options.map Prod.fst).concat setting := by
    simp
  constructor
  · intro fine
    have once := fine.once
    rw [names, List.nodup_concat] at once
    exact ⟨fine_before options _ fine, once.1, fine.admitted (setting, bytes) (by simp)⟩
  · rintro ⟨fine, fresh, admitted⟩
    refine ⟨?_, List.forall_mem_append.mpr ⟨fine.admitted, List.forall_mem_singleton.mpr admitted⟩⟩
    rw [names, List.nodup_concat]
    exact ⟨fresh, fine.once⟩

section Collect

variable (done : List (Setting × ByteArray)) (fine : Fine done)

include fine in
theorem fine_lookup (setting : Setting) (bytes : ByteArray) (found : done.lookup setting = some bytes) :
    ∃ value, setting.value? bytes = some value := by
  obtain ⟨before, after, rfl, _⟩ := List.lookup_eq_some_iff.mp found
  have member : (setting, bytes) ∈ before ++ (setting, bytes) :: after := by simp
  exact Option.ne_none_iff_exists'.mp (fine.admitted _ member)

include fine in
theorem collected_none_iff (setting : Setting) :
    collected done setting = none ↔ setting ∉ done.map Prod.fst := by
  constructor
  · intro missing known
    rw [collected] at missing
    cases found : done.lookup setting with
    | none =>
        obtain ⟨option, member, rfl⟩ := List.mem_map.mp known
        have differs := List.lookup_eq_none_iff.mp found option member
        exact absurd rfl (bne_iff_ne.mp differs)
    | some bytes =>
        obtain ⟨value, read⟩ := fine_lookup done fine setting bytes found
        rw [found, Option.bind_some, read] at missing
        cases missing
  · intro unknown
    rw [collected, Sequence.lookup_unknown done setting unknown]
    rfl

theorem put_collected (setting : Setting) (bytes : ByteArray) (value : setting.Value)
    (fresh : setting ∉ done.map Prod.fst) (read : setting.value? bytes = some value) :
    (collected done).put setting value = collected (done ++ [(setting, bytes)]) := by
  funext other
  rw [collected, List.lookup_append, Sequence.lookup_first, Given.put]
  by_cases same : setting = other
  · subst same
    simp [Sequence.lookup_unknown done setting fresh, read]
  · simp [same, collected]

end Collect

theorem gather_iff (done rest : List (Setting × ByteArray)) (fine : Fine done) (given : Given) :
    gather (collected done) (rest.map item) = .ok given ↔
      Fine (done ++ rest) ∧ collected (done ++ rest) = given := by
  induction rest generalizing done with
  | nil =>
      rw [List.append_nil]
      exact ⟨fun same => ⟨fine, Except.ok.inj same⟩, fun both => congrArg Except.ok both.2⟩
  | cons option rest ih =>
      obtain ⟨setting, bytes⟩ := option
      have moved : done ++ (setting, bytes) :: rest = (done ++ [(setting, bytes)]) ++ rest := by simp
      rw [List.map_cons, item, gather, moved]
      cases known : collected done setting with
      | some value =>
          refine ⟨nofun, fun both => ?_⟩
          have fresh := ((fine_concat_iff done setting bytes).mp (fine_before _ rest both.1)).2.1
          cases known.symm.trans ((collected_none_iff done fine setting).mpr fresh)
      | none =>
          have fresh := (collected_none_iff done fine setting).mp known
          cases read : setting.value? bytes with
          | none =>
              refine ⟨nofun, fun both => ?_⟩
              exact absurd read ((fine_concat_iff done setting bytes).mp (fine_before _ rest both.1)).2.2
          | some value =>
              have further := (fine_concat_iff done setting bytes).mpr ⟨fine, fresh, by simp [read]⟩
              have put := put_collected done setting bytes value fresh read
              dsimp only
              rw [put]
              exact ih _ further

theorem gather_items (given result : Given) (words : List Item) (gathered : gather given words = .ok result) :
    ∃ options : List (Setting × ByteArray), words = options.map item := by
  induction words generalizing given with
  | nil => exact ⟨[], rfl⟩
  | cons first rest ih =>
      cases first with
      | stop reason => cases gathered
      | given setting bytes =>
          rw [gather] at gathered
          split at gathered
          · obtain ⟨options, same⟩ := ih _ gathered
            exact ⟨(setting, bytes) :: options, by rw [same]; rfl⟩
          · cases gathered

theorem lookup_named (options : List (Setting × ByteArray)) (setting : Setting) :
    (options.map named).lookup setting.option = options.lookup setting := by
  induction options with
  | nil => rfl
  | cons option rest ih =>
      obtain ⟨known, bytes⟩ := option
      rw [List.map_cons, named, Sequence.lookup_first, Sequence.lookup_first, ih]
      by_cases same : known = setting
      · simp [same]
      · simp [same, mt (option_injective known setting) same]

def readGiven {α : Type} (read : ByteArray → Option α) : Option ByteArray → Option (Option α)
  | none => some none
  | some bytes => (read bytes).map some

theorem value_of_chosen (options : List (Setting × ByteArray)) (fine : Fine options)
    (bindings : List (ByteArray × ByteArray)) (setting : Setting) :
    valueOf? (collected options) bindings setting =
      readGiven setting.value?
        (chosen (options.map named) bindings setting.option setting.variableName) := by
  rw [valueOf?, collected, chosen, lookup_named]
  cases found : options.lookup setting with
  | none => cases bindings.lookup setting.variableName.toUTF8 <;> rfl
  | some bytes =>
      obtain ⟨value, read⟩ := fine_lookup options fine setting bytes found
      simp [readGiven, read]

theorem gives_text_iff (given : Option ByteArray) (text : Option String) :
    (∃ read, readGiven String.fromUTF8? given = some read ∧ Input.given read = text) ↔
      GivesText given text := by
  constructor
  · rintro ⟨read, decoded, rfl⟩
    cases given with
    | none =>
        obtain rfl := Option.some.inj decoded
        exact .absent
    | some bytes =>
        obtain ⟨word, whole, rfl⟩ := Option.map_eq_some_iff.mp decoded
        obtain rfl := (Text.decoded_iff bytes word).mp whole
        by_cases empty : word = ""
        · subst empty
          exact .empty
        · have kept : Input.given (some word) = some word := by simp [Input.given, empty]
          rw [kept]
          exact .text word empty
  · rintro (_ | _ | ⟨word, nonempty⟩)
    · exact ⟨none, rfl, rfl⟩
    · exact ⟨some "", congrArg (Option.map some) ((Text.decoded_iff _ "").mpr rfl), rfl⟩
    · refine ⟨some word, congrArg (Option.map some) ((Text.decoded_iff _ word).mpr rfl), ?_⟩
      simp [Input.given, nonempty]

theorem depth_iff (bytes : ByteArray) (depth : Nat) :
    Setting.depth.value? bytes = some depth ↔ GivesDepth (some bytes) depth := by
  constructor
  · intro read
    obtain ⟨word, decoded, counted⟩ := Option.bind_eq_some_iff.mp read
    obtain ⟨sign, zeros, plain, small, spelled⟩ := (natural_decimal_iff _ _ depth).mp counted
    obtain rfl := (Text.decoded_iff bytes word).mp decoded
    have same : word = String.ofList (sign ++ (List.replicate zeros '0' ++ Nat.toDigits 10 depth)) := by
      rw [← spelled, String.ofList_toList]
    rw [same]
    exact .decimal sign zeros depth plain small
  · rintro (_ | ⟨sign, zeros, _, plain, small⟩)
    refine Option.bind_eq_some_iff.mpr ⟨_, (Text.decoded_iff _ _).mpr rfl, ?_⟩
    exact (natural_decimal_iff _ _ depth).mpr ⟨sign, zeros, plain, small, String.toList_ofList⟩

theorem gives_depth_iff (given : Option ByteArray) (depth : Nat) :
    (∃ read, readGiven Setting.depth.value? given = some read ∧ read.getD 64 = depth) ↔
      GivesDepth given depth := by
  cases given with
  | none =>
      constructor
      · rintro ⟨read, same, rfl⟩
        obtain rfl := Option.some.inj same
        exact .standard
      · rintro ⟨⟩
        exact ⟨none, rfl, rfl⟩
  | some bytes =>
      rw [← depth_iff]
      constructor
      · rintro ⟨read, same, rfl⟩
        obtain ⟨value, decoded, rfl⟩ := Option.map_eq_some_iff.mp same
        exact decoded
      · intro decoded
        exact ⟨some depth, congrArg (Option.map some) decoded, rfl⟩

theorem gives_path_iff (given path : Option ByteArray) :
    readGiven Setting.outputFile.value? given = some path ↔ GivesPath given path := by
  constructor
  · intro read
    cases given with
    | none =>
        obtain rfl := Option.some.inj read
        exact .absent
    | some bytes =>
        obtain ⟨found, value, rfl⟩ := Option.map_eq_some_iff.mp read
        obtain ⟨nonempty, same⟩ := Option.ite_none_left_eq_some.mp value
        obtain rfl := Option.some.inj same
        exact .path bytes nonempty
  · rintro (_ | ⟨bytes, nonempty⟩)
    · rfl
    · exact congrArg (Option.map some) (if_neg nonempty)

theorem named_once_iff (options : List (Setting × ByteArray)) :
    ((options.map named).map Prod.fst).Nodup ↔ (options.map Prod.fst).Nodup := by
  have names : (options.map named).map Prod.fst = (options.map Prod.fst).map Setting.option := by
    simp [named]
  rw [names]
  exact List.nodup_map_iff option_injective

theorem settings_iff (options : List (Setting × ByteArray)) (fine : Fine options)
    (bindings : List (ByteArray × ByteArray)) (settings : Settings) :
    settings? (collected options) bindings = some settings ↔
      Asks (options.map named) bindings settings := by
  have once := (named_once_iff options).mpr fine.once
  obtain ⟨⟨file, json⟩, ⟨depth⟩, output⟩ := settings
  simp only [settings?, value_of_chosen options fine]
  constructor
  · intro read
    obtain ⟨file, first, read⟩ := Option.bind_eq_some_iff.mp read
    obtain ⟨json, second, read⟩ := Option.bind_eq_some_iff.mp read
    obtain ⟨depth, third, read⟩ := Option.bind_eq_some_iff.mp read
    obtain ⟨output, fourth, read⟩ := Option.bind_eq_some_iff.mp read
    cases read
    exact ⟨once, (gives_text_iff _ _).mp ⟨file, first, rfl⟩, (gives_text_iff _ _).mp ⟨json, second, rfl⟩,
      (gives_depth_iff _ _).mp ⟨depth, third, rfl⟩, (gives_path_iff _ _).mp fourth⟩
  · intro asks
    obtain ⟨file, first, rfl⟩ := (gives_text_iff _ _).mpr asks.file
    obtain ⟨json, second, rfl⟩ := (gives_text_iff _ _).mpr asks.json
    obtain ⟨depth, third, rfl⟩ := (gives_depth_iff _ _).mpr asks.depth
    have fourth := (gives_path_iff _ _).mpr asks.output
    refine Option.bind_eq_some_iff.mpr ⟨file, first, ?_⟩
    refine Option.bind_eq_some_iff.mpr ⟨json, second, ?_⟩
    refine Option.bind_eq_some_iff.mpr ⟨depth, third, ?_⟩
    exact Option.bind_eq_some_iff.mpr ⟨output, fourth, rfl⟩

theorem admitted_of_asks (options : List (String × ByteArray)) (bindings : List (ByteArray × ByteArray))
    (settings : Settings) (asks : Asks options bindings settings) (setting : Setting) (bytes : ByteArray)
    (given : chosen options bindings setting.option setting.variableName = some bytes) :
    setting.value? bytes ≠ none := by
  have read : ∃ value, readGiven setting.value? (some bytes) = some value := by
    rw [← given]
    cases setting with
    | conditionsFile => exact ((gives_text_iff _ _).mpr asks.file).imp fun _ => And.left
    | conditionsJson => exact ((gives_text_iff _ _).mpr asks.json).imp fun _ => And.left
    | depth => exact ((gives_depth_iff _ _).mpr asks.depth).imp fun _ => And.left
    | outputFile => exact ⟨_, (gives_path_iff _ _).mpr asks.output⟩
  rintro nothing
  obtain ⟨value, found⟩ := read
  rw [readGiven, nothing] at found
  cases found

theorem fine_of_asks (options : List (Setting × ByteArray)) (bindings : List (ByteArray × ByteArray))
    (settings : Settings) (asks : Asks (options.map named) bindings settings) : Fine options := by
  have once := (named_once_iff options).mp asks.once
  refine ⟨once, fun option member => admitted_of_asks _ bindings settings asks option.1 option.2 ?_⟩
  rw [chosen, lookup_named, Sequence.lookup_member options once option.1 option.2 member]
  rfl

theorem gives_named (arguments : List ByteArray) (names : List (String × ByteArray))
    (gives : Gives arguments names) : ∃ options : List (Setting × ByteArray), names = options.map named := by
  induction gives with
  | nothing => exact ⟨[], rfl⟩
  | ended => exact ⟨[], rfl⟩
  | apart name value rest others known plain later ih =>
      obtain ⟨setting, rfl⟩ := known_option name known
      obtain ⟨options, rfl⟩ := ih
      exact ⟨(setting, value) :: options, rfl⟩
  | joined name value rest others known later ih =>
      obtain ⟨setting, rfl⟩ := known_option name known
      obtain ⟨options, rfl⟩ := ih
      exact ⟨(setting, value) :: options, rfl⟩

theorem request_iff (arguments : List ByteArray) (bindings : List (ByteArray × ByteArray))
    (settings : Settings) :
    request arguments bindings = .ok settings ↔ Asked arguments bindings settings := by
  have nothing : Fine [] := ⟨List.nodup_nil, List.forall_mem_nil _⟩
  rw [request, Sequence.bind_ok_iff]
  constructor
  · rintro ⟨given, gathered, read⟩
    obtain ⟨options, same⟩ := gather_items nothingGiven given _ gathered
    rw [same] at gathered
    obtain ⟨fine, rfl⟩ := (gather_iff [] options nothing given).mp gathered
    refine ⟨options.map named, items_given arguments options same, ?_⟩
    rw [← settings_iff options fine]
    split at read
    · rename_i found
      exact found.trans (congrArg some (Except.ok.inj read))
    · cases read
  · rintro ⟨names, gives, asks⟩
    obtain ⟨options, rfl⟩ := gives_named arguments names gives
    have fine := fine_of_asks options bindings settings asks
    have read := (settings_iff options fine bindings settings).mpr asks
    refine ⟨collected options, ?_, by rw [read]⟩
    rw [given_items arguments options gives]
    exact (gather_iff [] options nothing _).mpr ⟨fine, rfl⟩

end RuleMatrix.CommandLine
