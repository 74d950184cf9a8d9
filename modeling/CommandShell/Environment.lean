import CommandShell.Journal
import CommandShell.Storage.Path

/-!
# The environment

The variables that say where the home directory of the user is and how much is
noted.
-/

namespace CommandShell

/-- The variables that name the home directory, as far as they are set, and the log filter. -/
structure Environment where
  home : Option String := none
  userProfile : Option String := none
  homeDrive : Option String := none
  homePath : Option String := none
  /-- The greatest level that the log filter lets through, if there is a filter. -/
  logLevel : Option LogLevel := none
  deriving DecidableEq

namespace Environment

/-- A variable counts only when it is not empty. -/
def nonEmpty (setting : Option String) : Option String :=
  setting.filter fun value => !value.isEmpty

/--
The home directory: the first of two variables that hold it whole, or else a
drive and a path on it when both are given.
-/
def homeDirectory? (environment : Environment) : Option Path :=
  match (nonEmpty environment.home).or (nonEmpty environment.userProfile) with
  | some home => some ⟨home⟩
  | none => do
      let drive ← nonEmpty environment.homeDrive
      let path ← nonEmpty environment.homePath
      some (Path.join ⟨drive⟩ ⟨path⟩)

/-- The name of the history file in the home directory. -/
def historyFileName : Path :=
  ⟨".necromancers_shell_history"⟩

/-- The history file in the home directory, or in the working directory without one. -/
def defaultHistoryPath (environment : Environment) : Path :=
  match environment.homeDirectory? with
  | some home => home.join historyFileName
  | none => historyFileName

end Environment

end CommandShell
