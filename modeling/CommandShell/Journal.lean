/-!
# The journal

The shell notes what it does as records of a level.  The journal keeps the
records up to its own level, which a command can change at any time.
-/

namespace CommandShell

/-- How much is noted: nothing, or everything up to a level. -/
inductive LogLevel where
  | off
  | error
  | warn
  | info
  | debug
  | trace
  deriving DecidableEq

namespace LogLevel

/-- All levels, the most quiet one first. -/
def all : List LogLevel :=
  [off, error, warn, info, debug, trace]

/-- The place of a level; a greater one notes more. -/
def rank : LogLevel → Nat
  | off => 0
  | error => 1
  | warn => 2
  | info => 3
  | debug => 4
  | trace => 5

def name : LogLevel → String
  | off => "OFF"
  | error => "ERROR"
  | warn => "WARN"
  | info => "INFO"
  | debug => "DEBUG"
  | trace => "TRACE"

/-- The text with its ASCII letters in upper case. -/
def upper (text : String) : String :=
  String.ofList (text.toList.map Char.toUpper)

/-- The level of a name; the case of ASCII letters does not matter. -/
def ofName? (text : String) : Option LogLevel :=
  all.find? fun level => level.name == upper text

theorem ofName?_name (level : LogLevel) : ofName? level.name = some level := by
  cases level <;> decide +kernel

end LogLevel

/-- One note of a level other than `off`. -/
structure Record where
  level : LogLevel
  text : String
  deriving DecidableEq

/-- The record after the name of its level. -/
def Record.line (record : Record) : String :=
  record.level.name ++ " " ++ record.text

/-- A result together with the records that arose on the way to it. -/
structure Noted (α : Type) where
  value : α
  notes : List Record := []

/-- The records kept so far, and what is kept from now on. -/
structure Journal where
  level : LogLevel := .off
  records : List Record := []
  deriving DecidableEq

namespace Journal

/-- Holds of the records that the journal keeps. -/
def keeps (journal : Journal) (record : Record) : Bool :=
  record.level.rank ≤ journal.level.rank

/-- Keeps the records of a list as far as the level asks for them. -/
def noteAll (journal : Journal) (notes : List Record) : Journal :=
  { journal with records := journal.records ++ notes.filter journal.keeps }

/-- Keeps one record if the level asks for it. -/
def note (journal : Journal) (level : LogLevel) (text : String) : Journal :=
  journal.noteAll [⟨level, text⟩]

def setLevel (journal : Journal) (level : LogLevel) : Journal :=
  { journal with level }

@[simp] theorem level_noteAll (journal : Journal) (notes : List Record) :
    (journal.noteAll notes).level = journal.level := rfl

end Journal

end CommandShell
