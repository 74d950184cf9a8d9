import CommandShell.Command.Registry

/-!
# Running invocations

An invocation runs the handler that is registered under its command, and the
outcome is settled.
-/

namespace CommandShell.Registry

/-- The outcome of an invocation whose command is not registered. -/
def unknownOutcome (name : String) : Outcome :=
  .failure .invalidCommand s!"Unknown command: {name}"

/-- Runs the handler of a command and settles its outcome. -/
def runHandler (command : Command) (view : View) (invocation : Invocation) (journal : Journal) :
    Outcome × Journal :=
  let journal := journal.note .trace
    s!"executing '{invocation.command}' with {invocation.arguments.length} argument(s)"
  let (outcome, journal) := command.handler invocation view journal
  let outcome := outcome.settled
  if outcome.succeeded then (outcome, journal)
  else
    (outcome, journal.note .debug
      s!"'{invocation.command}' finished with status {outcome.status.describe}")

/-- Runs the handler registered under the command of an invocation. -/
def dispatch (registry : Registry) (history : Option History) (invocation : Invocation)
    (journal : Journal) : Outcome × Journal :=
  match registry.find? invocation.command with
  | none =>
      (unknownOutcome invocation.command,
        journal.note .debug s!"no handler for '{invocation.command}'")
  | some command => runHandler command (registry.view history) invocation journal

end CommandShell.Registry
