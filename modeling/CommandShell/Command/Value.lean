import CommandShell.Number.Shortest

/-!
# Values of flags

A flag has one of four types.  A value is read from the whole of a text and
shown as text again; reading what was shown gives the value back for texts,
whole numbers and switches.
-/

namespace CommandShell

open Number

/-- The type that the value of a flag is read as. -/
inductive ValueType where
  | text
  | integer
  | real
  /-- A flag that takes no value; its presence turns it on. -/
  | switch
  deriving DecidableEq

/-- The name of a type in help and in error messages. -/
def ValueType.name : ValueType → String
  | text => "string"
  | integer => "int"
  | real => "float"
  | switch => "bool"

inductive Value where
  | text (content : String)
  /-- A signed number of 64 bits. -/
  | integer (number : Int)
  | real (number : Binary64)
  | switch (on : Bool)
  deriving DecidableEq

namespace Value

/-- The words that a switch can be given by. -/
def readSwitch? : String → Option Bool
  | "true" | "yes" | "1" => some true
  | "false" | "no" | "0" => some false
  | _ => none

/-- Reads the whole text as a value of the type. -/
def read? (text : String) : ValueType → Option Value
  | .text => some (.text text)
  | .integer => (readInt64? text).map .integer
  | .real => (Binary64.read? text).map .real
  | .switch => (readSwitch? text).map .switch

def type : Value → ValueType
  | .text _ => .text
  | .integer _ => .integer
  | .real _ => .real
  | .switch _ => .switch

def shown : Value → String
  | .text content => content
  | .integer number => toString number
  | .real number => number.text
  | .switch on => if on then "true" else "false"

def text? : Value → Option String
  | .text content => some content
  | _ => none

def integer? : Value → Option Int
  | .integer number => some number
  | _ => none

def real? : Value → Option Binary64
  | .real number => some number
  | _ => none

def switch? : Value → Option Bool
  | .switch on => some on
  | _ => none

end Value

end CommandShell
