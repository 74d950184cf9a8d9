import CommandShell.CommandLine
import CommandShell.Proofs.OptionGroups
import CommandShell.Proofs.StartedSessions
import CommandShell.Proofs.WrittenDocuments

/-!
# Settings and the options that override them

Options that are refused end the program before anything is started or read,
and so do the texts that `--help` and `--version` ask for.  All other options
start a session with the settings of a file, or with the standard ones, changed
by what was given.  The order of options matters only among the values of one
setting.
-/

namespace CommandShell

namespace Settings

theorem Usable.exists_level {settings : Settings} (usable : settings.Usable) :
    ∃ level, LogLevel.Names settings.logLevel level ∧ settings.level = .ok level := by
  obtain ⟨level, names⟩ := usable.level
  refine ⟨level, names, ?_⟩
  rw [Settings.level, (LogLevel.ofName?_eq_some_iff _ level).mpr names]

theorem usable_standard : standard.Usable where
  room := by decide
  level := ⟨.warn, "WARN", by decide, rfl⟩

end Settings

namespace CommandLine

/-! ## What options change -/

/-- Holds of settings changed by choices: what is given replaces, a switch only turns off. -/
structure Overrides (choices : List Choice) (base settings : Settings) : Prop where
  file : ∀ path, Choice.GivesLast choices .historyFile path → settings.historyFile = some ⟨path⟩
  noFile : (∀ path, .setting .historyFile path ∉ choices) →
    settings.historyFile = base.historyFile
  forgets : settings.persistHistory = false ↔
    base.persistHistory = false ∨ .switch .noHistory ∈ choices
  noBanner : settings.showBanner = false ↔ base.showBanner = false ∨
    .switch .noBanner ∈ choices ∨ ∃ line, .setting .command line ∈ choices
  capacity : settings.historyCapacity = base.historyCapacity
  prompt : settings.prompt = base.prompt
  logLevel : settings.logLevel = base.logLevel

theorem overrides_override (choices : List Choice) (base : Settings) :
    Overrides choices base (override choices base) where
  file path given := by
    rw [override, (Choice.value?_eq_some_iff _ _ _).mpr given]
    rfl
  noFile absent := by
    rw [override, (Choice.value?_eq_none_iff _ _).mpr absent]
    rfl
  forgets := by
    rw [← Choice.hasSwitch_eq_true_iff, override, Bool.and_eq_false_iff, Bool.not_eq_false']
  noBanner := by
    rw [← Choice.hasSwitch_eq_true_iff, ← Choice.isSome_value?_iff, override, Bool.and_eq_false_iff,
      Bool.not_eq_false', Bool.or_eq_true]
  capacity := rfl
  prompt := rfl
  logLevel := rfl

theorem Overrides.usable {choices : List Choice} {base settings : Settings}
    (overrides : Overrides choices base settings) (usable : base.Usable) : settings.Usable where
  room := overrides.capacity ▸ usable.room
  level := overrides.logLevel ▸ usable.level

/-- What the options override: what the file given last says, or else the standard settings. -/
inductive ReadsBase (decode : Settings.Decoder) (choices : List Choice) (store : FileStore) :
    Except Fault Settings → Prop where
  | file {path : String} {base : Except Fault Settings}
      (given : Choice.GivesLast choices .config path)
      (told : Settings.FileTells decode store ⟨path⟩ base) : ReadsBase decode choices store base
  | standard {base : Settings} (absent : ∀ path, .setting .config path ∉ choices)
      (silent : base.Reflects []) : ReadsBase decode choices store (.ok base)

section Base

variable {decode : Settings.Decoder} {choices : List Choice} {store : FileStore}

theorem exists_readsBase (decode : Settings.Decoder) (choices : List Choice) (store : FileStore) :
    ∃ base, ReadsBase decode choices store base := by
  cases given : Choice.value? choices .config with
  | none => exact ⟨_, .standard ((Choice.value?_eq_none_iff _ _).mp given) .standard⟩
  | some path =>
      exact ⟨_, .file ((Choice.value?_eq_some_iff _ _ _).mp given)
        (Settings.fileTells_loadBy decode store ⟨path⟩)⟩

theorem ReadsBase.settingsOf_eq {base : Except Fault Settings}
    (reads : ReadsBase decode choices store base) :
    settingsOf decode choices store = base.map (override choices) := by
  cases reads with
  | file given told =>
      rw [settingsOf, (Choice.value?_eq_some_iff _ _ _).mpr given, ← told.loadBy_eq]
  | standard absent silent =>
      rw [settingsOf, (Choice.value?_eq_none_iff _ _).mpr absent, silent.unique .standard]

theorem ReadsBase.usable {base : Settings} (reads : ReadsBase decode choices store (.ok base)) :
    base.Usable := by
  generalize read : Except.ok base = result at reads
  cases reads with
  | file given told => exact Settings.usable_of_loadBy decode (told.loadBy_eq.trans read.symm)
  | standard absent silent =>
      obtain rfl := Except.ok.inj read
      exact silent.unique .standard ▸ Settings.usable_standard

end Base

/-- The line to run counts for the settings only as far as there is one. -/
theorem settingsOf_congr {first second : List Choice}
    (switches : ∀ option, Choice.hasSwitch first option = Choice.hasSwitch second option)
    (values : ∀ option, option ≠ .command →
      Choice.value? first option = Choice.value? second option)
    (line : (Choice.value? first .command).isSome = (Choice.value? second .command).isSome)
    (decode : Settings.Decoder) (store : FileStore) :
    settingsOf decode first store = settingsOf decode second store := by
  unfold settingsOf override
  simp only [switches, values .config (by decide), values .historyFile (by decide), line]

/-! ## What is run -/

/-- What is run in the session: the line given last, or else the loop. -/
inductive RunsIn (choices : List Choice) (session : Session) : Task → Prop where
  | single {line : String} (given : Choice.GivesLast choices .command line) :
      RunsIn choices session (.single session line)
  | loop (absent : ∀ line, .setting .command line ∉ choices) :
      RunsIn choices session (.loop session)

/-- The level that the journal starts with: the one of the environment comes before the one of
the settings. -/
inductive StartsAt (environment : Environment) (settings : Settings) : LogLevel → Prop where
  | environment {level : LogLevel} (given : environment.logLevel = some level) :
      StartsAt environment settings level
  | settings {level : LogLevel} (absent : environment.logLevel = none)
      (names : LogLevel.Names settings.logLevel level) : StartsAt environment settings level

theorem startsAt_journalLevel (environment : Environment) {settings : Settings}
    (usable : settings.Usable) :
    StartsAt environment settings (journalLevel environment settings) := by
  cases given : environment.logLevel with
  | some level =>
      rw [journalLevel, given]
      exact .environment given
  | none =>
      obtain ⟨level, names, named⟩ := usable.exists_level
      rw [journalLevel, given, named]
      exact .settings given names

/-- What choices without a text to show ask for. -/
inductive Configures (decode : Settings.Decoder) (choices : List Choice) (environment : Environment)
    (store : FileStore) : Except Failure Task → Prop where
  | unreadable {fault : Fault} (reads : ReadsBase decode choices store (.error fault)) :
      Configures decode choices environment store (.error (.fault fault))
  | session {base : Settings} {level : LogLevel} {session : Session} {task : Task}
      (reads : ReadsBase decode choices store (.ok base))
      (overrides : Overrides choices base session.settings)
      (verbosity : StartsAt environment session.settings level)
      (starts : Session.start environment store { level } session.settings = .ok session)
      (runs : RunsIn choices session task) :
      Configures decode choices environment store (.ok task)

section Runs

variable (decode : Settings.Decoder) (environment : Environment) (store : FileStore)

theorem startSession_cases (choices : List Choice) :
    (∃ fault, ReadsBase decode choices store (.error fault) ∧
        startSession decode choices environment store = .error fault) ∨
      ∃ base level session, ReadsBase decode choices store (.ok base) ∧
        Overrides choices base session.settings ∧ StartsAt environment session.settings level ∧
        Session.start environment store { level } session.settings = .ok session ∧
        startSession decode choices environment store = .ok session := by
  obtain ⟨base, reads⟩ := exists_readsBase decode choices store
  have settings := reads.settingsOf_eq
  cases base with
  | error fault =>
      refine Or.inl ⟨fault, reads, ?_⟩
      rw [startSession, settings]
      rfl
  | ok base =>
      have overrides := overrides_override choices base
      have usable := overrides.usable reads.usable
      obtain ⟨session, starts⟩ := (Session.start_eq_ok_iff environment store
        { level := journalLevel environment (override choices base) } (override choices base)).mpr
          usable
      obtain ⟨-, -, same, -⟩ := Session.history_start starts
      refine Or.inr ⟨base, journalLevel environment (override choices base), session, reads, ?_⟩
      rw [same]
      refine ⟨overrides, startsAt_journalLevel environment usable, starts, ?_⟩
      rw [startSession, settings]
      exact starts

theorem configures_taskOf {choices : List Choice} (noHelp : .switch .help ∉ choices)
    (noVersion : .switch .version ∉ choices) :
    Configures decode choices environment store
      ((taskOf decode choices environment store).mapError .fault) := by
  rw [← Choice.hasSwitch_eq_true_iff] at noHelp noVersion
  rw [taskOf, if_neg noHelp, if_neg noVersion]
  rcases startSession_cases decode environment store choices with
    ⟨fault, reads, refused⟩ | ⟨base, level, session, reads, overrides, verbosity, starts, started⟩
  · rw [refused]
    exact .unreadable reads
  · rw [started]
    refine .session reads overrides verbosity starts ?_
    cases given : Choice.value? choices .command with
    | none => exact .loop ((Choice.value?_eq_none_iff _ _).mp given)
    | some line => exact .single ((Choice.value?_eq_some_iff _ _ _).mp given)

theorem taskBy_of_groups {arguments : List String} {choices : List Choice}
    (groups : Choice.Groups arguments choices) :
    taskBy decode arguments environment store =
      (taskOf decode choices environment store).mapError .fault := by
  rw [taskBy, groups.ofArguments_eq]

/-- Only the switches that occur and the values given last count. -/
theorem taskOf_congr {first second : List Choice} (agree : Choice.Agree first second) :
    taskOf decode first environment store = taskOf decode second environment store := by
  have sameSettings := settingsOf_congr agree.switches (fun option _ => agree.values option)
    (congrArg Option.isSome (agree.values .command)) decode store
  unfold taskOf startSession
  simp only [agree.switches, agree.values, sameSettings]

variable (input : String)

theorem runBy_congr {first second : List String} {choices others : List Choice}
    (groups : Choice.Groups first choices) (otherGroups : Choice.Groups second others)
    (agree : Choice.Agree choices others) :
    runBy decode first environment store input = runBy decode second environment store input := by
  rw [runBy, runBy, taskBy_of_groups decode environment store groups,
    taskBy_of_groups decode environment store otherGroups,
    taskOf_congr decode environment store agree]

/-- Refused arguments start nothing, whatever else they ask for. -/
theorem taskBy_of_failsAfter {arguments before : List String} {error : OptionError}
    (fails : Choice.FailsAfter arguments before error) :
    taskBy decode arguments environment store = .error (.options error) := by
  rw [taskBy, fails.ofArguments_eq]

theorem taskBy_of_help {arguments : List String} {choices : List Choice}
    (groups : Choice.Groups arguments choices) (help : .switch .help ∈ choices) :
    taskBy decode arguments environment store = .ok (.tell helpText) := by
  rw [← Choice.hasSwitch_eq_true_iff] at help
  rw [taskBy_of_groups decode environment store groups, taskOf, if_pos help]
  rfl

theorem taskBy_of_version {arguments : List String} {choices : List Choice}
    (groups : Choice.Groups arguments choices) (noHelp : .switch .help ∉ choices)
    (version : .switch .version ∈ choices) :
    taskBy decode arguments environment store = .ok (.tell versionText) := by
  rw [← Choice.hasSwitch_eq_true_iff] at noHelp version
  rw [taskBy_of_groups decode environment store groups, taskOf, if_neg noHelp, if_pos version]
  rfl

theorem taskBy_of_readsBase {arguments : List String} {choices : List Choice} {fault : Fault}
    (groups : Choice.Groups arguments choices) (noHelp : .switch .help ∉ choices)
    (noVersion : .switch .version ∉ choices)
    (reads : ReadsBase decode choices store (.error fault)) :
    taskBy decode arguments environment store = .error (.fault fault) := by
  rw [← Choice.hasSwitch_eq_true_iff] at noHelp noVersion
  rw [taskBy_of_groups decode environment store groups, taskOf, if_neg noHelp, if_neg noVersion,
    startSession, reads.settingsOf_eq]
  rfl

end Runs

/-! ## What the arguments decide -/

/-- How a refusal of arguments is worded. -/
inductive Refuses : OptionError → String → Prop where
  | unknown (argument : String) : Refuses (.unknown argument) ("unknown option: " ++ argument)
  | config : Refuses (.missingValue .config) "--config requires a path"
  | historyFile : Refuses (.missingValue .historyFile) "--history-file requires a path"
  | command : Refuses (.missingValue .command) "--command requires a command line"

theorem refuses_message (error : OptionError) : Refuses error error.message := by
  cases error with
  | unknown argument => exact .unknown argument
  | missingValue setting =>
      cases setting with
      | config => exact .config
      | historyFile => exact .historyFile
      | command => exact .command

/-- What is left of a program that failed: the files are as they were. -/
def Failed (report : Report) (message : String) (store : FileStore) : Prop :=
  report = ⟨1, { errors := "\x1b[31mError: " ++ message ++ "\x1b[0m\n" }, store⟩

/--
What arguments decide: whether they are options, which of them are chosen, in
what order it does not matter, and what is run with which settings, for any way
to decode a settings file.
-/
structure ObeysOptions (decode : Settings.Decoder) (arguments : List String) : Prop where
  accepted : ∀ choices,
    Choice.ofArguments arguments = .ok choices ↔ Choice.Groups arguments choices
  rejected : ∀ error, Choice.ofArguments arguments = .error error ↔
    ∃ before, Choice.FailsAfter arguments before error
  /-- No groups at the start reach past the argument that is told. -/
  leftmost : ∀ {before front later : List String} {error : OptionError} {choices : List Choice},
    Choice.FailsAfter arguments before error → arguments = front ++ later →
      Choice.Groups front choices → front.length ≤ before.length
  refused : ∀ {before : List String} {error : OptionError},
    Choice.FailsAfter arguments before error → ∀ environment store input,
      taskBy decode arguments environment store = .error (.options error) ∧
        ∃ message, Refuses error message ∧
          Failed (runBy decode arguments environment store input) message store
  switches : ∀ {choices : List Choice}, Choice.Groups arguments choices →
    ∀ option, Choice.hasSwitch choices option = true ↔ .switch option ∈ choices
  values : ∀ {choices : List Choice}, Choice.Groups arguments choices → ∀ option value,
    Choice.value? choices option = some value ↔ Choice.GivesLast choices option value
  unset : ∀ {choices : List Choice}, Choice.Groups arguments choices → ∀ option,
    Choice.value? choices option = none ↔ ∀ value, .setting option value ∉ choices
  reordered : ∀ {choices others : List Choice} {other : List String},
    Choice.Groups arguments choices → Choice.Groups other others →
      Choice.Reorders choices others → ∀ environment store input,
        runBy decode arguments environment store input = runBy decode other environment store input
  helps : ∀ {choices : List Choice}, Choice.Groups arguments choices →
    .switch .help ∈ choices → ∀ environment store input,
      runBy decode arguments environment store input = ⟨0, { shown := helpText }, store⟩
  tellsVersion : ∀ {choices : List Choice}, Choice.Groups arguments choices →
    .switch .help ∉ choices → .switch .version ∈ choices → ∀ environment store input,
      runBy decode arguments environment store input = ⟨0, { shown := versionText }, store⟩
  configured : ∀ {choices : List Choice}, Choice.Groups arguments choices →
    .switch .help ∉ choices → .switch .version ∉ choices → ∀ environment store,
      Configures decode choices environment store (taskBy decode arguments environment store)
  /-- A settings file of no use is told, and nothing is run. -/
  useless : ∀ {choices : List Choice} {fault : Fault}, Choice.Groups arguments choices →
    .switch .help ∉ choices → .switch .version ∉ choices → ∀ environment store input,
      ReadsBase decode choices store (.error fault) →
        Failed (runBy decode arguments environment store input) fault.message store
  single : ∀ {environment store session line},
    taskBy decode arguments environment store = .ok (.single session line) → ∀ input,
      runBy decode arguments environment store input = runLine session line store
  loop : ∀ {environment store session},
    taskBy decode arguments environment store = .ok (.loop session) → ∀ input,
      runBy decode arguments environment store input = runLoop session (inputLines input) store

theorem obeysOptions_runBy (decode : Settings.Decoder) (arguments : List String) :
    ObeysOptions decode arguments where
  accepted := Choice.ofArguments_eq_ok_iff arguments
  rejected := Choice.ofArguments_eq_error_iff arguments
  leftmost fails split groups := (split ▸ fails).length_le groups
  refused {before error} fails environment store input := by
    have refused := taskBy_of_failsAfter decode environment store fails
    refine ⟨refused, error.message, refuses_message error, ?_⟩
    rw [runBy, refused]
    rfl
  switches _ := Choice.hasSwitch_eq_true_iff _
  values _ := Choice.value?_eq_some_iff _
  unset _ := Choice.value?_eq_none_iff _
  reordered groups otherGroups reorders environment store input :=
    runBy_congr decode environment store input groups otherGroups reorders.agree
  helps groups help environment store input := by
    rw [runBy, taskBy_of_help decode environment store groups help]
  tellsVersion groups noHelp version environment store input := by
    rw [runBy, taskBy_of_version decode environment store groups noHelp version]
  configured groups noHelp noVersion environment store := by
    rw [taskBy_of_groups decode environment store groups]
    exact configures_taskOf decode environment store noHelp noVersion
  useless groups noHelp noVersion environment store input reads := by
    rw [runBy, taskBy_of_readsBase decode environment store groups noHelp noVersion reads]
    rfl
  single asked input := by rw [runBy, asked]
  loop asked input := by rw [runBy, asked]

/--
Options are read exactly, and override the settings of the file whatever their
order.  This holds for any way to decode that file, and the program takes its
settings from the entries of a document.
-/
theorem obeysOptions (arguments : List String) :
    (∀ decode, ObeysOptions decode arguments) ∧
      (∀ environment store, task arguments environment store =
        taskBy Settings.decode? arguments environment store) ∧
      (∀ environment store input, run arguments environment store input =
        runBy Settings.decode? arguments environment store input) ∧
      Settings.DecodesDocuments Settings.decode? :=
  ⟨fun decode => obeysOptions_runBy decode arguments, fun _ _ => rfl, fun _ _ _ => rfl,
    Settings.decodesDocuments_decode?⟩

end CommandLine

end CommandShell
