/-!
# Outcomes of commands

A command answers with a status, texts to show, an exit code and the wish to
end the session.  Settling an outcome makes its parts agree with the status, so
that no failure looks like a success.
-/

namespace CommandShell

/-- How a command went. -/
inductive Status where
  | success
  | commandFailed
  | invalidCommand
  | permissionDenied
  | notImplemented
  | internal
  deriving DecidableEq

namespace Status

def describe : Status → String
  | success => "Success"
  | commandFailed => "Command failed"
  | invalidCommand => "Invalid command"
  | permissionDenied => "Permission denied"
  | notImplemented => "Not implemented"
  | internal => "Internal error"

/-- The exit code of a status, zero for success alone. -/
def code : Status → Int
  | success => 0
  | commandFailed => 1
  | invalidCommand => 2
  | permissionDenied => 3
  | notImplemented => 4
  | internal => 5

theorem code_eq_zero_iff (status : Status) : status.code = 0 ↔ status = success := by
  cases status <;> decide

end Status

/-- What a command answers. -/
structure Outcome where
  status : Status := .success
  succeeded : Bool := true
  output : Option String := none
  error : Option String := none
  exitCode : Int := 0
  /-- Whether the session is to end. -/
  exits : Bool := false
  deriving DecidableEq

namespace Outcome

/-- A success without output. -/
def silent : Outcome := {}

def success (output : String) : Outcome :=
  { output := some output }

/-- A success that ends the session. -/
def exit (output : String) : Outcome :=
  { output := some output, exits := true }

def failure (status : Status) (message : String) : Outcome :=
  { status
    succeeded := status == .success
    error := some message
    exitCode := status.code }

/-- The text to show: the output of a success, the description of a failure. -/
def message? (outcome : Outcome) : Option String :=
  if outcome.succeeded then outcome.output else outcome.error.or outcome.output

/-- The outcome whose other parts agree with its status. -/
def settled (outcome : Outcome) : Outcome :=
  if outcome.status = .success then { outcome with succeeded := true }
  else
    { outcome with
      succeeded := false
      exitCode := if outcome.exitCode = 0 then outcome.status.code else outcome.exitCode
      error := some (outcome.error.getD outcome.status.describe) }

@[simp] theorem status_settled (outcome : Outcome) : outcome.settled.status = outcome.status := by
  unfold settled
  split <;> rfl

end Outcome

end CommandShell
