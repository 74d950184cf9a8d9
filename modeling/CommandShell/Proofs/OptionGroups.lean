import CommandShell.CommandLine.Options
import Mathlib.Data.List.Basic

/-!
# Groups of options

The arguments are accepted exactly when they split from left to right into
switches and settings, each setting with the argument after it, whatever that
looks like.  Otherwise the first argument at which no group starts is told.  Of
accepted arguments it only matters which switches occur and which value each
setting is given last.
-/

namespace CommandShell

/-! ## Spellings -/

/-- The arguments that a switch is written as. -/
def OptionSwitch.spellings : OptionSwitch → List String
  | help => ["-h", "--help"]
  | version => ["-V", "--version"]
  | noHistory => ["--no-history"]
  | noBanner => ["--no-banner"]

/-- The arguments that a setting is written as, before its value. -/
def OptionSetting.spellings : OptionSetting → List String
  | config => ["--config"]
  | historyFile => ["--history-file"]
  | command => ["-c", "--command"]

theorem OptionSwitch.ofArgument?_eq_some_iff (argument : String) (option : OptionSwitch) :
    ofArgument? argument = some option ↔ argument ∈ option.spellings := by
  constructor
  · intro found
    unfold ofArgument? at found
    split at found <;> cases found <;> simp [spellings]
  · intro spelled
    cases option <;> simp only [spellings, List.mem_cons, List.not_mem_nil, or_false] at spelled
    · rcases spelled with rfl | rfl <;> rfl
    · rcases spelled with rfl | rfl <;> rfl
    · exact spelled ▸ rfl
    · exact spelled ▸ rfl

theorem OptionSetting.ofArgument?_eq_some_iff (argument : String) (option : OptionSetting) :
    ofArgument? argument = some option ↔ argument ∈ option.spellings := by
  constructor
  · intro found
    unfold ofArgument? at found
    split at found <;> cases found <;> simp [spellings]
  · intro spelled
    cases option <;> simp only [spellings, List.mem_cons, List.not_mem_nil, or_false] at spelled
    · exact spelled ▸ rfl
    · exact spelled ▸ rfl
    · rcases spelled with rfl | rfl <;> rfl

theorem OptionSwitch.ofArgument?_eq_none_iff (argument : String) :
    ofArgument? argument = none ↔ ∀ option : OptionSwitch, argument ∉ option.spellings := by
  simp only [Option.eq_none_iff_forall_ne_some, ne_eq, ofArgument?_eq_some_iff]

theorem OptionSetting.ofArgument?_eq_none_iff (argument : String) :
    ofArgument? argument = none ↔ ∀ option : OptionSetting, argument ∉ option.spellings := by
  simp only [Option.eq_none_iff_forall_ne_some, ne_eq, ofArgument?_eq_some_iff]

/-- No argument is written for a switch and for a setting. -/
theorem OptionSetting.not_mem_spellings {argument : String} {setting : OptionSetting}
    (spelled : argument ∈ setting.spellings) (option : OptionSwitch) :
    argument ∉ option.spellings := by
  have isSetting := (ofArgument?_eq_some_iff argument setting).mpr spelled
  exact (OptionSwitch.ofArgument?_eq_none_iff argument).mp (noSwitch_of_ofArgument? isSetting)
    option

namespace Choice

/-! ## Groups of arguments -/

/-- Arguments that split from left to right into groups, with what the groups choose. -/
inductive Groups : List String → List Choice → Prop where
  | done : Groups [] []
  | switch {argument : String} {option : OptionSwitch} {rest : List String}
      {choices : List Choice} (spelled : argument ∈ option.spellings)
      (later : Groups rest choices) :
      Groups (argument :: rest) (.switch option :: choices)
  | setting {argument : String} {option : OptionSetting} {rest : List String}
      {choices : List Choice} (spelled : argument ∈ option.spellings) (value : String)
      (later : Groups rest choices) :
      Groups (argument :: value :: rest) (.setting option value :: choices)

/-- What is wrong where no group starts. -/
inductive Offends : List String → OptionError → Prop where
  | unknown {argument : String} {rest : List String}
      (noSwitch : ∀ option : OptionSwitch, argument ∉ option.spellings)
      (noSetting : ∀ option : OptionSetting, argument ∉ option.spellings) :
      Offends (argument :: rest) (.unknown argument)
  | missingValue {argument : String} {option : OptionSetting}
      (spelled : argument ∈ option.spellings) : Offends [argument] (.missingValue option)

/-- Holds of arguments where some groups come first, and then no group starts. -/
def FailsAfter (arguments before : List String) (error : OptionError) : Prop :=
  ∃ choices after, arguments = before ++ after ∧ Groups before choices ∧ Offends after error

/-! ## Reading groups -/

/-- Groups are read as their choices, and then the arguments after them are read. -/
theorem Groups.ofArguments_append {before : List String} {choices : List Choice}
    (groups : Groups before choices) (after : List String) :
    ofArguments (before ++ after) = (ofArguments after).map (choices ++ ·) := by
  induction groups with
  | done => cases read : ofArguments after <;> simp [read, Except.map]
  | switch spelled later ih =>
      rw [List.cons_append,
        ofArguments_switch ((OptionSwitch.ofArgument?_eq_some_iff _ _).mpr spelled), ih]
      cases ofArguments after <;> rfl
  | setting spelled value later ih =>
      rw [List.cons_append, List.cons_append,
        ofArguments_setting ((OptionSetting.ofArgument?_eq_some_iff _ _).mpr spelled), ih]
      cases ofArguments after <;> rfl

theorem Groups.ofArguments_eq {arguments : List String} {choices : List Choice}
    (groups : Groups arguments choices) : ofArguments arguments = .ok choices := by
  have read := groups.ofArguments_append []
  rw [List.append_nil] at read
  rw [read, ofArguments, Except.map, List.append_nil]

theorem Offends.ofArguments_eq {arguments : List String} {error : OptionError}
    (offends : Offends arguments error) : ofArguments arguments = .error error := by
  cases offends with
  | unknown noSwitch noSetting =>
      rw [ofArguments, (OptionSwitch.ofArgument?_eq_none_iff _).mpr noSwitch]
      simp only [(OptionSetting.ofArgument?_eq_none_iff _).mpr noSetting]
  | missingValue spelled =>
      have isSetting := (OptionSetting.ofArgument?_eq_some_iff _ _).mpr spelled
      rw [ofArguments, OptionSetting.noSwitch_of_ofArgument? isSetting]
      simp only [isSetting]

theorem FailsAfter.ofArguments_eq {arguments before : List String} {error : OptionError}
    (fails : FailsAfter arguments before error) : ofArguments arguments = .error error := by
  obtain ⟨choices, after, rfl, groups, offends⟩ := fails
  rw [groups.ofArguments_append, offends.ofArguments_eq]
  rfl

theorem FailsAfter.switch {argument : String} {option : OptionSwitch} {rest before : List String}
    {error : OptionError} (spelled : argument ∈ option.spellings)
    (fails : FailsAfter rest before error) :
    FailsAfter (argument :: rest) (argument :: before) error := by
  obtain ⟨choices, after, rfl, groups, offends⟩ := fails
  exact ⟨_, after, rfl, .switch spelled groups, offends⟩

theorem FailsAfter.setting {argument : String} {option : OptionSetting}
    {rest before : List String} {error : OptionError} (spelled : argument ∈ option.spellings)
    (value : String) (fails : FailsAfter rest before error) :
    FailsAfter (argument :: value :: rest) (argument :: value :: before) error := by
  obtain ⟨choices, after, rfl, groups, offends⟩ := fails
  exact ⟨_, after, rfl, .setting spelled value groups, offends⟩

/-- Arguments split into groups to their end, or up to one at which no group starts. -/
theorem groups_or_failsAfter (arguments : List String) :
    (∃ choices, Groups arguments choices) ∨ ∃ before error, FailsAfter arguments before error := by
  induction arguments using ofArguments.induct with
  | case1 => exact Or.inl ⟨[], .done⟩
  | case2 argument rest option isSwitch ih =>
      have spelled := (OptionSwitch.ofArgument?_eq_some_iff _ _).mp isSwitch
      rcases ih with ⟨choices, groups⟩ | ⟨before, error, fails⟩
      · exact Or.inl ⟨_, .switch spelled groups⟩
      · exact Or.inr ⟨_, error, fails.switch spelled⟩
  | case3 argument rest noSwitch noSetting =>
      exact Or.inr ⟨[], _, [], _, rfl, .done, .unknown
        ((OptionSwitch.ofArgument?_eq_none_iff _).mp noSwitch)
        ((OptionSetting.ofArgument?_eq_none_iff _).mp noSetting)⟩
  | case4 argument noSwitch option isSetting =>
      have spelled := (OptionSetting.ofArgument?_eq_some_iff _ _).mp isSetting
      exact Or.inr ⟨[], _, [], _, rfl, .done, .missingValue spelled⟩
  | case5 argument noSwitch option isSetting value rest ih =>
      have spelled := (OptionSetting.ofArgument?_eq_some_iff _ _).mp isSetting
      rcases ih with ⟨choices, groups⟩ | ⟨before, error, fails⟩
      · exact Or.inl ⟨_, .setting spelled value groups⟩
      · exact Or.inr ⟨_, error, fails.setting spelled value⟩

/-- The arguments are accepted exactly when they split into groups. -/
theorem ofArguments_eq_ok_iff (arguments : List String) (choices : List Choice) :
    ofArguments arguments = .ok choices ↔ Groups arguments choices := by
  refine ⟨fun read => ?_, Groups.ofArguments_eq⟩
  rcases groups_or_failsAfter arguments with ⟨others, groups⟩ | ⟨before, error, fails⟩
  · rw [groups.ofArguments_eq] at read
    exact Except.ok.inj read ▸ groups
  · rw [fails.ofArguments_eq] at read
    cases read

/-- What stands behind a setting is its value, also if it looks like a switch. -/
example : ofArguments ["--config", "--help", "-V"] =
    .ok [.setting .config "--help", .switch .version] := rfl

/-- Options are read one after the other. -/
theorem ofArguments_append {before : List String} {choices : List Choice}
    (read : ofArguments before = .ok choices) (after : List String) :
    ofArguments (before ++ after) = (ofArguments after).map (choices ++ ·) :=
  ((ofArguments_eq_ok_iff before choices).mp read).ofArguments_append after

theorem ofArguments_eq_error_iff (arguments : List String) (error : OptionError) :
    ofArguments arguments = .error error ↔ ∃ before, FailsAfter arguments before error := by
  refine ⟨fun refused => ?_, fun ⟨_, fails⟩ => fails.ofArguments_eq⟩
  rcases groups_or_failsAfter arguments with ⟨choices, groups⟩ | ⟨before, other, fails⟩
  · rw [groups.ofArguments_eq] at refused
    cases refused
  · rw [fails.ofArguments_eq] at refused
    exact ⟨before, Except.error.inj refused ▸ fails⟩

/-! ## The leftmost argument that offends -/

/-- Where no group starts, only no arguments at all split into groups. -/
theorem Offends.eq_nil_of_groups {front later : List String} {error : OptionError}
    (offends : Offends (front ++ later) error) {choices : List Choice}
    (groups : Groups front choices) : front = [] := by
  cases groups with
  | done => rfl
  | @switch argument option front choices spelled rest =>
      rw [List.cons_append] at offends
      generalize front ++ later = following at offends
      cases offends with
      | unknown noSwitch noSetting => exact absurd spelled (noSwitch _)
      | missingValue asSetting => exact absurd spelled (OptionSetting.not_mem_spellings asSetting _)
  | setting spelled value rest =>
      rw [List.cons_append, List.cons_append] at offends
      cases offends with
      | unknown noSwitch noSetting => exact absurd spelled (noSetting _)

/-- The groups before the argument that is told are as many as can be. -/
theorem FailsAfter.length_le {front later before : List String} {error : OptionError}
    (fails : FailsAfter (front ++ later) before error) {choices : List Choice}
    (groups : Groups front choices) : front.length ≤ before.length := by
  obtain ⟨_, after, split, earlier, offends⟩ := fails
  rcases List.append_eq_append_iff.mp split with ⟨more, rfl, -⟩ | ⟨more, rfl, rfl⟩
  · simp
  · have read := groups.ofArguments_eq
    rw [earlier.ofArguments_append] at read
    cases readMore : ofArguments more with
    | error other =>
        rw [readMore] at read
        cases read
    | ok others =>
        have none := offends.eq_nil_of_groups ((ofArguments_eq_ok_iff more others).mp readMore)
        simp [none]

/-! ## What was chosen -/

theorem hasSwitch_eq_true_iff (choices : List Choice) (option : OptionSwitch) :
    hasSwitch choices option = true ↔ .switch option ∈ choices :=
  List.contains_iff_mem

theorem valueFor?_eq_some_iff (option : OptionSetting) (choice : Choice) (value : String) :
    valueFor? option choice = some value ↔ choice = .setting option value := by
  cases choice with
  | switch other => simp [valueFor?]
  | setting other given =>
      by_cases same : other = option <;> simp [valueFor?, same]

theorem valueFor?_eq_none_iff (option : OptionSetting) (choice : Choice) :
    valueFor? option choice = none ↔ ∀ value, choice ≠ .setting option value := by
  simp only [Option.eq_none_iff_forall_ne_some, ne_eq, valueFor?_eq_some_iff]

/-- Holds of the value that a setting is given last. -/
def GivesLast (choices : List Choice) (option : OptionSetting) (value : String) : Prop :=
  ∃ before after, choices = before ++ .setting option value :: after ∧
    ∀ other, .setting option other ∉ after

theorem value?_eq_some_iff (choices : List Choice) (option : OptionSetting) (value : String) :
    value? choices option = some value ↔ GivesLast choices option value := by
  rw [value?, List.findSome?_eq_some_iff]
  constructor
  · rintro ⟨after, choice, before, split, gives, silent⟩
    obtain rfl := (valueFor?_eq_some_iff option choice value).mp gives
    refine ⟨before.reverse, after.reverse, ?_, ?_⟩
    · rw [← List.reverse_reverse choices, split]
      simp
    · intro other given
      exact (valueFor?_eq_none_iff option _).mp (silent _ (List.mem_reverse.mp given)) other rfl
  · rintro ⟨before, after, rfl, silent⟩
    refine ⟨after.reverse, .setting option value, before.reverse, ?_, ?_, ?_⟩
    · simp
    · exact (valueFor?_eq_some_iff option _ value).mpr rfl
    · rintro choice given
      refine (valueFor?_eq_none_iff option choice).mpr ?_
      rintro other rfl
      exact silent other (List.mem_reverse.mp given)

theorem value?_eq_none_iff (choices : List Choice) (option : OptionSetting) :
    value? choices option = none ↔ ∀ value, .setting option value ∉ choices := by
  rw [value?, List.findSome?_eq_none_iff]
  simp only [List.mem_reverse, valueFor?_eq_none_iff]
  constructor
  · intro silent value given
    exact silent _ given value rfl
  · rintro silent choice given value rfl
    exact silent value given

theorem isSome_value?_iff (choices : List Choice) (option : OptionSetting) :
    (value? choices option).isSome = true ↔ ∃ value, .setting option value ∈ choices := by
  rw [← not_iff_not, Bool.not_eq_true, Option.isSome_eq_false_iff, Option.isNone_iff_eq_none,
    value?_eq_none_iff, not_exists]

theorem value?_eq_getLast? (choices : List Choice) (option : OptionSetting) :
    value? choices option = (choices.filterMap (valueFor? option)).getLast? := by
  rw [value?, ← List.head?_filterMap, List.filterMap_reverse, List.head?_reverse]

/-! ## Other orders -/

/-- Choices with the same switches, and with the same value for each setting. -/
structure Agree (first second : List Choice) : Prop where
  switches : ∀ option, hasSwitch first option = hasSwitch second option
  values : ∀ option, value? first option = value? second option

/-- The same choices in another order, in which the values of each setting keep theirs. -/
structure Reorders (first second : List Choice) : Prop where
  perm : first.Perm second
  values : ∀ option,
    first.filterMap (valueFor? option) = second.filterMap (valueFor? option)

theorem Reorders.agree {first second : List Choice} (reorders : Reorders first second) :
    Agree first second where
  switches option := by
    rw [Bool.eq_iff_iff, hasSwitch_eq_true_iff, hasSwitch_eq_true_iff]
    exact reorders.perm.mem_iff
  values option := by
    rw [value?_eq_getLast?, value?_eq_getLast?, reorders.values]

end Choice

end CommandShell
