import CommandShell.Command.Registry
import CommandShell.Text.Column

/-!
# Help

The list of the commands that are not hidden, and the page about one command.
-/

namespace CommandShell.Help

/-- The text, or another one when it is empty. -/
def orElse (text default : String) : String :=
  if text.isEmpty then default else text

/-- The description of a command, which is never empty. -/
def descriptionOf (schema : Schema) : String :=
  orElse schema.description "No description"

/-! ## The list of commands -/

/-- The least width of the column of names. -/
def nameWidth : Nat := 12

def entryLine (schema : Schema) : String :=
  s!"  {Text.padRight nameWidth schema.name} - {descriptionOf schema}\n"

/-- The line with the usage of a command, which a command without one lacks. -/
def usageLine (schema : Schema) : String :=
  let column := Text.padRight nameWidth ""
  if schema.usage.isEmpty then "" else s!"  {column}   usage: {schema.usage}\n"

/-- What a command adds to the list. -/
def entry (verbose : Bool) (schema : Schema) : String :=
  if verbose then entryLine schema ++ usageLine schema else entryLine schema

def heading : String :=
  "\n=== Necromancer's Shell - Command Help ===\n\nAvailable commands:\n\n"

def closing : String :=
  "\nType 'help <command>' for detailed information on a specific command.\n"

/-- The list of the commands that are not hidden. -/
def list (verbose : Bool) (schemas : List Schema) : String :=
  heading ++ String.join ((schemas.filter fun schema => !schema.hidden).map (entry verbose)) ++
    closing

/-! ## The page about one command -/

/-- How a flag is written: its alias, its name and the type of its value. -/
def flagUsage (flag : Flag) : String :=
  let shortForm := match flag.short with
    | some short => s!"-{short}, "
    | none => ""
  let operand := if flag.type = .switch then "" else s!" <{flag.type.name}>"
  let required := if flag.required then " (required)" else ""
  s!"{shortForm}--{flag.name}{operand}{required}"

def flagLines (flag : Flag) : String :=
  let description := if flag.description.isEmpty then "" else s!"      {flag.description}\n"
  s!"  {flagUsage flag}\n{description}"

/-- The part about the flags, which a command without any lacks. -/
def options (flags : List Flag) : String :=
  if flags.isEmpty then "" else s!"Options:\n{String.join (flags.map flagLines)}\n"

/-- The part about the arguments, which a command without bounds lacks. -/
def argumentBounds (arity : Arity) : String :=
  if arity.min = 0 && arity.max = 0 then ""
  else
    let most := if arity.max = 0 then "unlimited" else toString arity.max
    s!"Arguments:\n  Minimum: {arity.min}\n  Maximum: {most}\n"

def page (schema : Schema) : String :=
  let helpText := if schema.helpText.isEmpty then "" else s!"{schema.helpText}\n\n"
  String.join
    [s!"\n=== {schema.name} ===\n\n",
      s!"Description: {descriptionOf schema}\n\n",
      s!"Usage: {orElse schema.usage schema.name}\n\n",
      helpText,
      options schema.flags,
      argumentBounds schema.arity]

end CommandShell.Help
