import CommandShell.CommandLine

/-!
# The program

Reads the environment, the files that the options name and the lines of the
input, and writes what the library answers.  The lines are read one at a time,
so that the loop can be used from a terminal.
-/

namespace CommandShell.Program

/-- The environment; of log filters those are known that are the name of a level. -/
def readEnvironment : IO Environment := do
  return {
    home := ← IO.getEnv "HOME"
    userProfile := ← IO.getEnv "USERPROFILE"
    homeDrive := ← IO.getEnv "HOMEDRIVE"
    homePath := ← IO.getEnv "HOMEPATH"
    logLevel := (← IO.getEnv "RUST_LOG").bind LogLevel.ofName? }

/-- Takes a file into the store; a directory in its place is taken as one. -/
def fetch (store : FileStore) (path : Path) : IO FileStore := do
  try
    let content ← IO.FS.readBinFile path.text
    return (store.plant path content.toList).toOption.getD store
  catch
    | .noFileOrDirectory .. => return store
    | _ => return (store.makeDirectories path).store

/-- The store with the settings file and the history file of the choices. -/
def fetchAll (choices : List Choice) (environment : Environment) : IO FileStore := do
  let store ← match Choice.value? choices .config with
    | some path => fetch .empty ⟨path⟩
    | none => pure .empty
  match CommandLine.settingsOf Settings.decode? choices store with
  | .error _ => return store
  | .ok settings =>
      match settings.historyPath? environment with
      | some path => fetch store path
      | none => return store

/-- The files that the arguments need; a refusal and a text to show need none. -/
def fetchFor (arguments : List String) (environment : Environment) : IO FileStore :=
  match Choice.ofArguments arguments with
  | .error _ => pure .empty
  | .ok choices =>
      if Choice.hasSwitch choices .help || Choice.hasSwitch choices .version then pure .empty
      else fetchAll choices environment

def write (output : Output) : IO Unit := do
  IO.print output.shown
  (← IO.getStdout).flush
  IO.eprint output.errors

/-- Saves the history for its owner alone; a failure does not change how the program ends. -/
def save (session : Session) : IO Unit := do
  match session.settings.historyPath? session.environment with
  | none => return
  | some path =>
      try
        IO.FS.writeBinFile path.text ⟨session.history.fileContent.toArray⟩
        IO.setAccessRights path.text { user := { read := true, write := true } }
      catch _ => return

/-- Asks for a line, with the prompt if a person types it. -/
def readNext (repl : Repl) : IO EditorEvent := do
  let input ← IO.getStdin
  try
    if ← input.isTty then write { shown := repl.session.settings.prompt }
    let line ← input.getLine
    match CommandLine.inputLines line with
    | [] => return .closed
    | text :: _ => return .line text
  catch error => return .failed (toString error)

/-- Runs the turns of the loop until it ends. -/
partial def converse (repl : Repl) : IO (Except Fault Int × Repl) := do
  let turn := repl.turn (← readNext repl)
  write turn.reply.output
  match turn.reply.ending with
  | some ending => return (ending, turn.next)
  | none => converse turn.next

/-- Runs what the arguments ask for and gives the exit code. -/
def run (arguments : List String) : IO Nat := do
  let environment ← readEnvironment
  let store ← fetchFor arguments environment
  match CommandLine.task arguments environment store with
  | .error failure =>
      write (.ofError failure.message)
      return CommandLine.failureByte
  | .ok (.tell text) =>
      write { shown := text }
      return 0
  | .ok (.single session line) =>
      let report := CommandLine.runLine session line store
      write report.output
      save session
      return report.code
  | .ok (.loop session) =>
      let repl : Repl := { session }
      write repl.greeting
      let (ending, repl) ← converse repl
      save repl.session
      match ending with
      | .ok code => return CommandLine.exitByte code
      | .error fault =>
          write (.ofError fault.message)
          return CommandLine.failureByte

end CommandShell.Program

def main (arguments : List String) : IO UInt32 := do
  return (← CommandShell.Program.run arguments).toUInt32
