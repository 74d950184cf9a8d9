import CommandShell.Command.Registry
import CommandShell.Text.Alphabetic
import CommandShell.Token

/-!
# Reading invocations

The tokens after the name of a command are read from left to right as items: a
positional argument, a switch, or a flag with the token after it as its value.
The first fault decides; flags that are missing and the number of arguments are
looked at when every token has been read.
-/

namespace CommandShell

/-- Why tokens are no invocation of a command. -/
inductive ReadingError where
  | noCommand
  | unknownCommand (name : String)
  | unknownFlag (command flag : String)
  | missingValue (flag : String) (expected : ValueType)
  | invalidValue (flag : String) (expected : ValueType) (text : String)
  | missingFlag (flag : String)
  | wrongCount (command : String) (arity : Arity) (count : Nat)
  deriving DecidableEq

def ReadingError.message : ReadingError → String
  | noCommand => "empty command"
  | unknownCommand name => s!"unknown command: {name}"
  | unknownFlag command flag => s!"unknown flag '{flag}' for command '{command}'"
  | missingValue flag expected => s!"flag --{flag} requires a {expected.name} value"
  | invalidValue flag expected text =>
      s!"invalid value '{text}' for flag --{flag}: expected {expected.name}"
  | missingFlag flag => s!"missing required flag --{flag}"
  | wrongCount command arity count =>
      s!"wrong number of arguments for '{command}': expected {arity.describe}, got {count}"

/-- Why a line is no invocation of a command. -/
inductive LineError where
  | lexical (error : LexicalError)
  | reading (error : ReadingError)
  deriving DecidableEq

def LineError.message : LineError → String
  | lexical error => error.message
  | reading error => error.message

/-- How a token refers to a flag. -/
inductive FlagReference where
  | long (name : String)
  | short (letter : Char)
  deriving DecidableEq

/-- One part of an invocation after the name of the command. -/
inductive Item where
  | argument (text : String)
  | assignment (flag : String) (value : Value)
  deriving DecidableEq

namespace Item

def arguments (items : List Item) : List String :=
  items.filterMap fun
    | argument text => some text
    | assignment _ _ => none

/-- The flags that items assign; a later value replaces an earlier one. -/
def flags (items : List Item) : NameTable Value :=
  items.foldl (fun table item => match item with
    | argument _ => table
    | assignment flag value => table.insert flag value) .empty

end Item

namespace Schema

/--
The flag that a token refers to.  Two dashes start a long name.  One dash and
one character is an alias if the character is alphabetic or declared as one.  A
token with a quoted part never refers to a flag.
-/
def reference? (schema : Schema) (token : Token) : Option FlagReference :=
  if token.quoted then none
  else match token.text.toList with
    | '-' :: '-' :: name => some (.long (String.ofList name))
    | ['-', c] =>
        if Text.isAlphabetic c || (schema.findShort? c).isSome then some (.short c) else none
    | _ => none

/-- The declared flag that a reference means. -/
def resolve? (schema : Schema) : FlagReference → Option Flag
  | .long name => schema.findFlag? name
  | .short c => schema.findShort? c

/-- Reads the tokens after the name of the command. -/
def readItems (schema : Schema) : List Token → Except ReadingError (List Item)
  | [] => .ok []
  | token :: rest =>
      match schema.reference? token with
      | none => (readItems schema rest).map (.argument token.text :: ·)
      | some reference =>
          match schema.resolve? reference with
          | none => .error (.unknownFlag schema.name token.text)
          | some flag =>
              if flag.type = .switch then
                (readItems schema rest).map (.assignment flag.name (.switch true) :: ·)
              else match rest with
                | [] => .error (.missingValue flag.name flag.type)
                | operand :: later =>
                    match Value.read? operand.text flag.type with
                    | none => .error (.invalidValue flag.name flag.type operand.text)
                    | some value =>
                        (readItems schema later).map (.assignment flag.name value :: ·)

/-- The first required flag without a value. -/
def missingFlag? (schema : Schema) (flags : NameTable Value) : Option Flag :=
  schema.flags.find? fun flag => flag.required && !flags.contains flag.name

/-- The invocation of items, if no required flag is missing and the count fits. -/
def invocationOf (schema : Schema) (items : List Item) : Except ReadingError Invocation :=
  let flags := Item.flags items
  let arguments := Item.arguments items
  match schema.missingFlag? flags with
  | some flag => .error (.missingFlag flag.name)
  | none =>
      if schema.arity.admits arguments.length then
        .ok { command := schema.name, arguments, flags }
      else .error (.wrongCount schema.name schema.arity arguments.length)

/-- Reads the tokens after the name of the command as an invocation. -/
def read (schema : Schema) (tokens : List Token) : Except ReadingError Invocation := do
  schema.invocationOf (← schema.readItems tokens)

end Schema

namespace Registry

/-- Reads tokens as an invocation of a registered command. -/
def readTokens (registry : Registry) : List Token → Except ReadingError Invocation
  | [] => .error .noCommand
  | head :: rest =>
      match registry.schema? head.text with
      | none => .error (.unknownCommand head.text)
      | some schema => schema.read rest

/-- Reads a line as an invocation, which keeps the line. -/
def readLine (registry : Registry) (line : String) : Except LineError Invocation :=
  match Token.scanSome line with
  | .error error => .error (.lexical error)
  | .ok tokens =>
      match registry.readTokens tokens with
      | .error error => .error (.reading error)
      | .ok invocation => .ok { invocation with line := some line }

end Registry

end CommandShell
