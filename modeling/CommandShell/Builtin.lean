import CommandShell.Command.Help
import CommandShell.History.Listing
import CommandShell.Number.Integer

/-!
# Built-in commands

Every session starts with commands for help, leaving, clearing the screen, the
history and the level of the journal.
-/

namespace CommandShell.Builtin

/-- What is shown when a session ends. -/
def farewell : String :=
  "\nFarewell, Necromancer. The shadows await your return...\n"

/-- The codes that clear the screen and put the cursor at its corner. -/
def clearScreen : String :=
  "\x1b[2J\x1b[H"

/-- A handler that leaves the journal alone. -/
def quiet (answer : Invocation → View → Outcome) : Handler :=
  fun invocation view journal => (answer invocation view, journal)

/-! ## Help -/

/-- Shows the page about the named command, or the list of commands. -/
def answerHelp (invocation : Invocation) (view : View) : Outcome :=
  match invocation.argument? 0 with
  | some name =>
      match view.schemas.find? name with
      | some schema => .success (Help.page schema)
      | none => .failure .commandFailed s!"Unknown command: {name}"
  | none => .success (Help.list (invocation.isOn "verbose") view.schemas.values)

def help : Command where
  schema :=
    { name := "help"
      description := "Display help information"
      usage := "help [command] [--verbose]"
      helpText :=
        "Shows help for all commands or a specific command.\n" ++
        "Without arguments, lists all available commands.\n" ++
        "With a command name, shows detailed help for that command."
      flags :=
        [{ name := "verbose"
           short := some 'v'
           type := .switch
           description := "Include usage lines in the command list" }]
      arity := ⟨0, 1⟩ }
  handler := quiet answerHelp

/-! ## Leaving and clearing -/

/-- The command of a name that ends the session. -/
def leave (name : String) : Command where
  schema :=
    { name
      description := "Exit the shell"
      usage := name
      helpText := "Exits the shell, saving history." }
  handler := quiet fun _ _ => .exit farewell

/-- Clears the screen; arguments are refused. -/
def answerClear (invocation : Invocation) : Outcome :=
  if invocation.arguments.isEmpty then .success clearScreen
  else .failure .invalidCommand "clear takes no arguments"

def clear : Command where
  schema :=
    { name := "clear"
      description := "Clear the terminal screen"
      usage := "clear"
      helpText := "Clears the terminal screen using ANSI escape codes." }
  handler := quiet fun invocation _ => answerClear invocation

/-! ## History -/

/-- Shows the history, or the lines of it that contain a text. -/
def answerHistory (invocation : Invocation) (view : View) : Outcome :=
  match view.history with
  | none => .failure .notImplemented "History is not available"
  | some history =>
      match (invocation.flag? "search").bind Value.text? with
      | some part => .success (history.searchListing part)
      | none =>
          match invocation.argument? 0 with
          | none => .success (history.listing history.size)
          | some text =>
              match Number.readCount? text with
              | some count => .success (history.listing count)
              | none => .failure .invalidCommand s!"Invalid count: {text}"

def history : Command where
  schema :=
    { name := "history"
      description := "Show previously entered commands"
      usage := "history [count] [--search <pattern>]"
      helpText :=
        "Lists recent commands, most recent last.\n" ++
        "With a count, shows only that many entries.\n" ++
        "With --search, lists entries containing the pattern, most recent first."
      flags :=
        [{ name := "search"
           short := some 's'
           type := .text
           description := "Only show entries containing this text" }]
      arity := ⟨0, 1⟩ }
  handler := quiet answerHistory

/-! ## Journal -/

/-- Shows the level of the journal, or changes it to the named one. -/
def answerLog (invocation : Invocation) (_ : View) (journal : Journal) : Outcome × Journal :=
  match invocation.argument? 0 with
  | none => (.success s!"Log level: {journal.level.name}", journal)
  | some text =>
      match LogLevel.ofName? text with
      | some level =>
          (.success s!"Log level set to {level.name}",
            (journal.setLevel level).note .info s!"log level set to {level.name}")
      | none => (.failure .invalidCommand s!"Unknown log level: {text}", journal)

def log : Command where
  schema :=
    { name := "log"
      description := "Show or change the log level"
      usage := "log [level]"
      helpText :=
        "Changes the logging level for this session.\n" ++
        "Levels: off, error, warn, info, debug, trace\n" ++
        "Without arguments, shows the current level."
      arity := ⟨0, 1⟩ }
  handler := answerLog

/-- The commands of a new session. -/
def all : List Command :=
  [help, leave "quit", leave "exit", clear, history, log]

end CommandShell.Builtin
