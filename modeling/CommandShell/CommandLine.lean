import CommandShell.CommandLine.Options
import CommandShell.Repl
import CommandShell.Text.Backspace

/-!
# The command line

The options say what is run: a help text, a single line, or the loop over the
lines of the input.  Options override the settings of the file.
-/

namespace CommandShell.CommandLine

/-! ## Texts -/

def versionText : String :=
  s!"necroshell {Repl.version}\n"

def helpText : String :=
  "\n".intercalate
    ["\x1b[1mNecromancer's Shell\x1b[0m - Command interpreter",
      "",
      "\x1b[1mUSAGE:\x1b[0m",
      "    necroshell [OPTIONS]",
      "",
      "\x1b[1mOPTIONS:\x1b[0m",
      "    -h, --help               Print help information",
      "    -V, --version            Print version information",
      "    -c, --command <LINE>     Run one command line and exit",
      "    --config <PATH>          Load settings from a TOML file",
      "    --history-file <PATH>    Read and write history at PATH",
      "    --no-history             Do not load or save history",
      "    --no-banner              Skip the welcome banner",
      "",
      "\x1b[1mENVIRONMENT:\x1b[0m",
      "    RUST_LOG                 Log filter, overrides the configured log_level",
      "",
      "\x1b[1mEXAMPLES:\x1b[0m",
      "    necroshell                         Start the interactive shell",
      "    necroshell -c 'help history'       Show help for one command and exit",
      "    necroshell --config necro.toml     Start with custom settings",
      "",
      "\x1b[1mSHELL COMMANDS:\x1b[0m",
      "    help [command]       List commands or describe one",
      "    history [count]      Show recent input",
      "    log [level]          Show or change the log level",
      "    clear                Clear the screen",
      "    quit, exit           Leave the shell",
      "    Ctrl+D               Leave the shell",
      "    Ctrl+C               Cancel current input\n"]

/-! ## Settings -/

/-- The settings changed as the choices ask for. -/
def override (choices : List Choice) (settings : Settings) : Settings :=
  let oneLine := (Choice.value? choices .command).isSome
  { settings with
    historyFile := ((Choice.value? choices .historyFile).map Path.mk).or settings.historyFile
    persistHistory := settings.persistHistory && !Choice.hasSwitch choices .noHistory
    showBanner := settings.showBanner && !(Choice.hasSwitch choices .noBanner || oneLine) }

/-- The settings of the file that the choices name, changed as they ask for. -/
def settingsOf (decode : Settings.Decoder) (choices : List Choice) (store : FileStore) :
    Except Fault Settings :=
  let base := match Choice.value? choices .config with
    | some path => Settings.loadBy decode store ⟨path⟩
    | none => .ok .standard
  base.map (override choices)

/-! ## Exit codes -/

/-- The byte of an exit code; a code that is no byte becomes one. -/
def exitByte (code : Int) : Nat :=
  if 0 ≤ code && code ≤ 255 then code.toNat else 1

/-- The exit code of a program that failed. -/
def failureByte : Nat := 1

/-! ## Runs -/

/-- Why nothing is run. -/
inductive Failure where
  | options (error : OptionError)
  | fault (cause : Fault)
  deriving DecidableEq

def Failure.message : Failure → String
  | .options error => error.message
  | .fault cause => cause.message

/-- What the options ask for. -/
inductive Task where
  /-- A text to show. -/
  | tell (text : String)
  | single (session : Session) (line : String)
  | loop (session : Session)

/-- The level of the journal: that of the settings, unless the environment has a filter. -/
def journalLevel (environment : Environment) (settings : Settings) : LogLevel :=
  environment.logLevel.getD <| match settings.level with
    | .ok level => level
    | .error _ => .off

/-- Starts the session that the choices ask for. -/
def startSession (decode : Settings.Decoder) (choices : List Choice) (environment : Environment)
    (store : FileStore) : Except Fault Session := do
  let settings ← settingsOf decode choices store
  Session.start environment store { level := journalLevel environment settings } settings

/-- What the choices ask for; a text is told before anything is started. -/
def taskOf (decode : Settings.Decoder) (choices : List Choice) (environment : Environment)
    (store : FileStore) : Except Fault Task :=
  if Choice.hasSwitch choices .help then .ok (.tell helpText)
  else if Choice.hasSwitch choices .version then .ok (.tell versionText)
  else (startSession decode choices environment store).map fun session =>
    match Choice.value? choices .command with
    | some line => .single session line
    | none => .loop session

/-- What the arguments ask for, for any way to decode the settings file. -/
def taskBy (decode : Settings.Decoder) (arguments : List String) (environment : Environment)
    (store : FileStore) : Except Failure Task :=
  match Choice.ofArguments arguments with
  | .error error => .error (.options error)
  | .ok choices => (taskOf decode choices environment store).mapError .fault

def task (arguments : List String) (environment : Environment) (store : FileStore) :
    Except Failure Task :=
  taskBy Settings.decode? arguments environment store

/--
What is left when the program has ended.  The output is what the program shows of
its own accord; the records of the journal go wherever the logger puts them.
-/
structure Report where
  code : Nat
  output : Output
  store : FileStore

/-- The report of a failure, which leaves the files alone. -/
def failureReport (message : String) (store : FileStore) : Report :=
  ⟨failureByte, .ofError message, store⟩

/-- Runs a single line and shuts the session down. -/
def runLine (session : Session) (line : String) (store : FileStore) : Report :=
  let (session, outcome) := session.execute line
  let closing := session.shutdown store
  ⟨exitByte outcome.exitCode, .ofOutcome outcome, closing.store⟩

def runLoop (session : Session) (lines : List String) (store : FileStore) : Report :=
  let run := Repl.run { session } store (lines.map .line)
  match run.conversation.ending with
  | .ok code => ⟨exitByte code, run.output, run.store⟩
  | .error fault => ⟨failureByte, run.output ++ .ofError fault.message, run.store⟩

/-- One piece of the input without the mark of its end. -/
def dropLineEnd (piece : List Char) : List Char :=
  if piece.getLast? = some '\r' then piece.dropLast else piece

/-- The lines of the input without their ends and after their backspaces.  One without an end
keeps all its characters. -/
def inputLines (input : String) : List String :=
  let pieces := input.toList.splitOn '\n'
  let ended := pieces.dropLast.map dropLineEnd
  let last := match pieces.getLast? with
    | none | some [] => []
    | some piece => [piece]
  (ended ++ last).map fun line => String.ofList (Text.applyBackspaces line)

/-- Runs what the arguments ask for, for any way to decode the settings file. -/
def runBy (decode : Settings.Decoder) (arguments : List String) (environment : Environment)
    (store : FileStore) (input : String) : Report :=
  match taskBy decode arguments environment store with
  | .error failure => failureReport failure.message store
  | .ok (.tell text) => ⟨0, { shown := text }, store⟩
  | .ok (.single session line) => runLine session line store
  | .ok (.loop session) => runLoop session (inputLines input) store

def run (arguments : List String) (environment : Environment) (store : FileStore)
    (input : String) : Report :=
  runBy Settings.decode? arguments environment store input

end CommandShell.CommandLine
