import CommandShell.Storage.FileError
import CommandShell.Storage.Path
import CommandShell.Text.Quoted

/-!
# Faults around the command pipeline

What can go wrong outside the reading and running of a line: files, settings,
the terminal and unusable sizes.  A fault may carry the context it arose in.
-/

namespace CommandShell

/-- What is wrong with the settings. -/
inductive SettingsError where
  /-- The document is malformed, or an entry of it is unknown or of the wrong type. -/
  | document
  | zeroCapacity
  | unknownLevel (name : String)
  /-- A problem that is known by its wording only. -/
  | other (message : String)
  deriving DecidableEq

def SettingsError.message : SettingsError → String
  | document => "TOML parse error"
  | zeroCapacity => "history_capacity must be greater than zero"
  | unknownLevel name => s!"unknown log level '{name}'"
  | other message => message

/-- Why the shell cannot go on. -/
inductive FaultCause where
  | file (path : Path) (error : FileError)
  | settings (error : SettingsError)
  | invalidCapacity (capacity : Nat)
  | terminal (message : String)
  | internal (message : String)
  deriving DecidableEq

namespace FaultCause

def message : FaultCause → String
  | file path error => s!"I/O error on {path.text}: {error.message}"
  | settings error => s!"config error: {error.message}"
  | invalidCapacity capacity => s!"invalid capacity: {capacity}"
  | terminal message => s!"terminal error: {message}"
  | internal message => s!"internal error: {message}"

/-- The failure of the system below a cause. -/
def source? : FaultCause → Option FileError
  | file _ error => some error
  | _ => none

end FaultCause

/-- What was going on when a fault arose. -/
structure FaultContext where
  operation : Option String := none
  input : Option String := none
  deriving DecidableEq

def FaultContext.message (context : FaultContext) : String :=
  let operation := context.operation.map fun operation => s!"while {operation}"
  let input := context.input.map fun input => s!"(input: {Text.quoted input})"
  " ".intercalate (operation.toList ++ input.toList)

/-- A cause with the context it arose in, if that is known. -/
structure Fault where
  cause : FaultCause
  context : Option FaultContext := none
  deriving DecidableEq

namespace Fault

/-- The wording of a fault; the context is told apart from it. -/
def message (fault : Fault) : String :=
  fault.cause.message

def ofFile (path : Path) (error : FileError) : Fault :=
  { cause := .file path error }

def ofSettings (error : SettingsError) : Fault :=
  { cause := .settings error }

def within (fault : Fault) (context : FaultContext) : Fault :=
  { fault with context := some context }

end Fault

end CommandShell
