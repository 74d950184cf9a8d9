import CommandShell.Command.Outcome

/-!
# Console output

What is written to the two output streams: outputs of commands on the first,
descriptions of failures in red on the second.
-/

namespace CommandShell

/-- Text for the output stream and for the error stream. -/
structure Output where
  shown : String := ""
  errors : String := ""
  deriving DecidableEq

namespace Output

def append (first second : Output) : Output :=
  ⟨first.shown ++ second.shown, first.errors ++ second.errors⟩

instance : Append Output := ⟨append⟩

def concat (outputs : List Output) : Output :=
  outputs.foldl append {}

/-- The text that ends in a line end, which is added where it lacks. -/
def endLine (text : String) : String :=
  if text.toList.getLast? = some '\n' then text else text ++ "\n"

/-- An error on a line of its own. -/
def ofError (message : String) : Output :=
  { errors := s!"\x1b[31mError: {message}\x1b[0m\n" }

/-- What an outcome shows: the output of a success, the description of a failure. -/
def ofOutcome (outcome : Outcome) : Output :=
  if outcome.succeeded then
    match outcome.output with
    | none => {}
    | some text => { shown := endLine text }
  else
    match outcome.message? with
    | none => {}
    | some message => ofError message

end Output

end CommandShell
