import CommandShell.History
import CommandShell.Text.Column

/-!
# Listings of the history

The latest lines with their numbers, the latest one last, and the lines that
contain a text, the latest one first.
-/

namespace CommandShell.History

/-- The least width of the column of numbers. -/
def numberWidth : Nat := 4

def row (number : Nat) (line : String) : String :=
  s!"  {Text.padLeft numberWidth (toString number)}  {line}\n"

/-- The rows of the latest lines, the latest one last; lines are numbered from the oldest one on. -/
def rows (history : History) (count : Nat) : List String :=
  ((history.entries.take count).zipIdx.map fun (line, index) =>
    row (history.size - index) line).reverse

def listing (history : History) (count : Nat) : String :=
  String.join (history.rows count)

/-- The lines that contain a text, or a message that there is none. -/
def searchListing (history : History) (part : String) : String :=
  match history.search part with
  | [] => s!"No history entries match '{part}'"
  | found => String.join (found.map fun line => s!"  {line}\n")

end CommandShell.History
