import CommandShell.Command.Schema
import CommandShell.NameTable

/-!
# Invocations

An invocation names a command and gives it positional arguments in order and
values of flags under their long names.
-/

namespace CommandShell

/-- A command to run with its arguments. -/
structure Invocation where
  command : String
  arguments : List String := []
  flags : NameTable Value := .empty
  /-- The line that the invocation was read from. -/
  line : Option String := none

namespace Invocation

def argument? (invocation : Invocation) (index : Nat) : Option String :=
  invocation.arguments[index]?

def flag? (invocation : Invocation) (name : String) : Option Value :=
  invocation.flags.find? name

def hasFlag (invocation : Invocation) (name : String) : Bool :=
  invocation.flags.contains name

/-- The state of a switch, off when it was not given. -/
def isOn (invocation : Invocation) (name : String) : Bool :=
  ((invocation.flag? name).bind Value.switch?).getD false

end Invocation

end CommandShell
