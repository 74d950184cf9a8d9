/-!
# Options of the command line

The arguments are read from left to right as choices: a switch, or a setting
with the argument after it as its value, whatever that looks like.  The first
argument that is neither decides.
-/

namespace CommandShell

/-- An option without a value. -/
inductive OptionSwitch where
  | help
  | version
  | noHistory
  | noBanner
  deriving DecidableEq

/-- An option with a value. -/
inductive OptionSetting where
  | config
  | historyFile
  | command
  deriving DecidableEq

/-- One option as it was given. -/
inductive Choice where
  | switch (option : OptionSwitch)
  | setting (option : OptionSetting) (value : String)
  deriving DecidableEq

/-- Why the arguments are no options. -/
inductive OptionError where
  | missingValue (setting : OptionSetting)
  | unknown (argument : String)
  deriving DecidableEq

namespace OptionSwitch

/-- The switch that an argument stands for. -/
def ofArgument? : String → Option OptionSwitch
  | "-h" | "--help" => some help
  | "-V" | "--version" => some version
  | "--no-history" => some noHistory
  | "--no-banner" => some noBanner
  | _ => none

end OptionSwitch

namespace OptionSetting

/-- The setting that an argument stands for. -/
def ofArgument? : String → Option OptionSetting
  | "--config" => some config
  | "--history-file" => some historyFile
  | "-c" | "--command" => some command
  | _ => none

/-- An argument that stands for a setting stands for no switch. -/
theorem noSwitch_of_ofArgument? {argument : String} {option : OptionSetting}
    (isSetting : ofArgument? argument = some option) :
    OptionSwitch.ofArgument? argument = none := by
  unfold ofArgument? at isSetting
  split at isSetting
  all_goals first
    | rfl
    | cases isSetting

/-- What a setting asks for when its value lacks. -/
def request : OptionSetting → String
  | config => "--config requires a path"
  | historyFile => "--history-file requires a path"
  | command => "--command requires a command line"

end OptionSetting

def OptionError.message : OptionError → String
  | missingValue setting => setting.request
  | unknown argument => s!"unknown option: {argument}"

namespace Choice

def ofArguments : List String → Except OptionError (List Choice)
  | [] => .ok []
  | argument :: rest =>
      match OptionSwitch.ofArgument? argument with
      | some found => (ofArguments rest).map (.switch found :: ·)
      | none =>
          match OptionSetting.ofArgument? argument with
          | none => .error (.unknown argument)
          | some found =>
              match rest with
              | [] => .error (.missingValue found)
              | value :: later => (ofArguments later).map (.setting found value :: ·)

theorem ofArguments_switch {argument : String} {option : OptionSwitch}
    (isSwitch : OptionSwitch.ofArgument? argument = some option) (rest : List String) :
    ofArguments (argument :: rest) = (ofArguments rest).map (.switch option :: ·) := by
  rw [ofArguments, isSwitch]

/-- The next argument is the value of a setting, whatever it looks like. -/
theorem ofArguments_setting {argument : String} {option : OptionSetting}
    (isSetting : OptionSetting.ofArgument? argument = some option) (value : String)
    (rest : List String) :
    ofArguments (argument :: value :: rest) =
      (ofArguments rest).map (.setting option value :: ·) := by
  rw [ofArguments, OptionSetting.noSwitch_of_ofArgument? isSetting]
  simp only [isSetting]

def hasSwitch (choices : List Choice) (option : OptionSwitch) : Bool :=
  choices.contains (.switch option)

/-- The value that a choice gives to a setting. -/
def valueFor? (option : OptionSetting) : Choice → Option String
  | .setting other value => if other = option then some value else none
  | .switch _ => none

/-- The last value given to a setting. -/
def value? (choices : List Choice) (option : OptionSetting) : Option String :=
  choices.reverse.findSome? (valueFor? option)

end Choice

end CommandShell
