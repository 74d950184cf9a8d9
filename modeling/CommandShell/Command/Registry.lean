import CommandShell.Command.Invocation
import CommandShell.Command.Outcome
import CommandShell.History
import CommandShell.Journal

/-!
# Registered commands

A command is a schema with a handler.  The registry holds commands under their
names; the first registration of a name wins until it is taken out.  A handler
sees the schemas of all commands and the history, and may use the journal.
-/

namespace CommandShell

/-- What a handler sees of the shell. -/
structure View where
  schemas : NameTable Schema
  /-- The history, where one is kept. -/
  history : Option History

/-- What a command does with an invocation. -/
abbrev Handler := Invocation → View → Journal → Outcome × Journal

structure Command where
  schema : Schema
  handler : Handler

def Command.name (command : Command) : String :=
  command.schema.name

/-- Why a command is not registered. -/
inductive Refusal where
  | unnamed
  | taken (name : String)
  deriving DecidableEq

def Refusal.message : Refusal → String
  | unnamed => "refusing to register a command with an empty name"
  | taken name => s!"command '{name}' is already registered"

/-- The registered commands; each stands under its own name, which is not empty. -/
structure Registry where
  commands : NameTable Command
  named : ∀ {name command}, commands.find? name = some command →
    command.name = name ∧ name ≠ ""

namespace Registry

def empty : Registry :=
  ⟨.empty, fun found => by simp at found⟩

instance : Inhabited Registry := ⟨empty⟩

def find? (registry : Registry) (name : String) : Option Command :=
  registry.commands.find? name

def contains (registry : Registry) (name : String) : Bool :=
  registry.commands.contains name

def schema? (registry : Registry) (name : String) : Option Schema :=
  (registry.find? name).map Command.schema

/-- The registered names in increasing order. -/
def names (registry : Registry) : List String :=
  registry.commands.names

/-- The schemas in the order of their names. -/
def schemas (registry : Registry) : List Schema :=
  registry.commands.values.map Command.schema

def size (registry : Registry) : Nat :=
  registry.commands.size

def view (registry : Registry) (history : Option History) : View :=
  ⟨registry.commands.map Command.schema, history⟩

/-- The registry with a command under its name, over a command that stands there. -/
def insert (registry : Registry) (command : Command) (named : command.name ≠ "") : Registry where
  commands := registry.commands.insert command.name command
  named {name other} found := by
    rw [NameTable.find?_insert] at found
    split at found
    · rename_i same
      obtain rfl := Option.some.inj found
      exact ⟨same.symm, same ▸ named⟩
    · exact registry.named found

/-- The registry with one more command, unless its name is empty or taken. -/
def add (registry : Registry) (command : Command) : Except Refusal Registry :=
  if unnamed : command.name = "" then .error .unnamed
  else if registry.contains command.name then .error (.taken command.name)
  else .ok (registry.insert command unnamed)

def erase (registry : Registry) (name : String) : Registry where
  commands := registry.commands.erase name
  named {other command} found := by
    rw [NameTable.find?_erase] at found
    split at found
    · cases found
    · exact registry.named found

/-- Registers a command and says whether that was accepted. -/
def register (registry : Registry) (command : Command) : Noted (Registry × Bool) :=
  match registry.add command with
  | .error refusal => ⟨(registry, false), [⟨.warn, refusal.message⟩]⟩
  | .ok registry =>
      ⟨(registry, true), [⟨.debug, s!"registered command '{command.name}'"⟩]⟩

/-- Takes a command out and says whether it was registered. -/
def unregister (registry : Registry) (name : String) : Noted (Registry × Bool) :=
  if registry.contains name then
    ⟨(registry.erase name, true), [⟨.debug, s!"unregistered command '{name}'"⟩]⟩
  else ⟨(registry, false), []⟩

/-- Registers commands one after the other and counts the accepted ones. -/
def registerAll (registry : Registry) : List Command → Noted (Registry × Nat)
  | [] => ⟨(registry, 0), []⟩
  | command :: rest =>
      let first := registry.register command
      let others := registerAll first.value.1 rest
      ⟨(others.value.1, others.value.2 + if first.value.2 then 1 else 0),
        first.notes ++ others.notes⟩

end Registry

end CommandShell
