import CommandShell.Command.Schema
import CommandShell.Text.Quoted

/-!
# Schemas on one line

A schema is written as a record of named fields with its texts quoted.  The
handler and the help text are left out, which two dots at the end tell.
-/

namespace CommandShell

/-- A record of named fields between braces. -/
def inspectRecord (name : String) (fields : List (String × String)) (rest : List String) :
    String :=
  let members := fields.map fun field => s!"{field.1}: {field.2}"
  let body := ", ".intercalate (members ++ rest)
  s!"{name} \x7b {body} \x7d"

def ValueType.inspect : ValueType → String
  | text => "String"
  | integer => "Int"
  | real => "Float"
  | switch => "Bool"

def Flag.inspect (flag : Flag) : String :=
  let short := match flag.short with
    | none => "None"
    | some c => s!"Some({Text.quotedSingle c})"
  inspectRecord "FlagDefinition"
    [("name", Text.quoted flag.name),
      ("short_name", short),
      ("value_type", flag.type.inspect),
      ("required", toString flag.required),
      ("description", Text.quoted flag.description)] []

def Schema.inspect (schema : Schema) : String :=
  let flags := ", ".intercalate (schema.flags.map Flag.inspect)
  inspectRecord "CommandInfo"
    [("name", Text.quoted schema.name),
      ("description", Text.quoted schema.description),
      ("usage", Text.quoted schema.usage),
      ("flags", s!"[{flags}]"),
      ("min_args", toString schema.arity.min),
      ("max_args", toString schema.arity.max),
      ("hidden", toString schema.hidden)] [".."]

end CommandShell
