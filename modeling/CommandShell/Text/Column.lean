/-!
# Columns

Text filled up with spaces to a least number of characters; longer text is
kept as it is.
-/

namespace CommandShell.Text

/-- The text followed by as many spaces as it lacks characters. -/
def padRight (width : Nat) (text : String) : String :=
  text ++ String.ofList (List.replicate (width - text.length) ' ')

/-- The text preceded by as many spaces as it lacks characters. -/
def padLeft (width : Nat) (text : String) : String :=
  String.ofList (List.replicate (width - text.length) ' ') ++ text

end CommandShell.Text
