import CommandShell.Command.Value

/-!
# What a command accepts

A schema holds the name of a command, its help texts, the flags it declares and
the bounds on its positional arguments.
-/

namespace CommandShell

structure Flag where
  /-- The long name, written after two dashes. -/
  name : String
  /-- The alias of one character, written after one dash. -/
  short : Option Char := none
  type : ValueType
  required : Bool := false
  description : String := ""
  deriving DecidableEq

/-- Bounds on the number of positional arguments. -/
structure Arity where
  min : Nat := 0
  /-- The greatest number; zero stands for no bound. -/
  max : Nat := 0
  deriving DecidableEq

namespace Arity

def admits (arity : Arity) (count : Nat) : Bool :=
  arity.min ≤ count && (arity.max == 0 || count ≤ arity.max)

def describe (arity : Arity) : String :=
  if arity.max = 0 then s!"at least {arity.min}"
  else if arity.min = arity.max then s!"exactly {arity.min}"
  else s!"{arity.min} to {arity.max}"

theorem admits_eq_true_iff (arity : Arity) (count : Nat) :
    arity.admits count = true ↔ arity.min ≤ count ∧ (arity.max = 0 ∨ count ≤ arity.max) := by
  simp [admits]

theorem admits_eq_false_iff (arity : Arity) (count : Nat) :
    arity.admits count = false ↔ count < arity.min ∨ arity.max ≠ 0 ∧ arity.max < count := by
  rw [← Bool.not_eq_true, admits_eq_true_iff]
  omega

end Arity

/-- Everything about a command but what it does. -/
structure Schema where
  name : String
  description : String := ""
  usage : String := ""
  helpText : String := ""
  /-- The flags in the order of their declaration. -/
  flags : List Flag := []
  arity : Arity := {}
  /-- A hidden command runs like any other and is left out of listings. -/
  hidden : Bool := false
  deriving DecidableEq

namespace Schema

/-- The first declared flag with a long name. -/
def findFlag? (schema : Schema) (name : String) : Option Flag :=
  schema.flags.find? fun flag => flag.name == name

/-- The first declared flag with an alias. -/
def findShort? (schema : Schema) (short : Char) : Option Flag :=
  schema.flags.find? fun flag => flag.short == some short

end Schema

end CommandShell
