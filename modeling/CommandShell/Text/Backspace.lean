import CommandShell.Text.Cluster

/-!
# Lines with backspaces

A line that is not typed at a terminal may still hold backspaces.  Each one takes
back the last cluster before it that is still there.  The size of a cluster is
recorded in one byte: of a longer one only the bytes beyond the last multiple of
the limit are taken back.
-/

namespace CommandShell.Text

def backspace : Char := '\x08'

/-- The number of sizes that one byte tells apart. -/
def sizeLimit : Nat := 256

/-- A line as far as it is read, and the sizes of its clusters; both have the last one first. -/
structure Draft where
  chars : List Char := []
  sizes : List Nat := []

/-- The number of bytes of a cluster, as far as one byte records it. -/
def recordedSize (cluster : List Char) : Nat :=
  cluster.foldr (fun c size => c.utf8Size + size) 0 % sizeLimit

/-- Drops characters from the front that take a number of bytes together. -/
def dropBytes : Nat → List Char → List Char
  | _, [] => []
  | size, c :: rest => if c.utf8Size ≤ size then dropBytes (size - c.utf8Size) rest else c :: rest

namespace Draft

def add (draft : Draft) (cluster : List Char) : Draft :=
  ⟨cluster.reverse ++ draft.chars, recordedSize cluster :: draft.sizes⟩

/-- The draft without what its last record tells. -/
def takeBack (draft : Draft) : Draft :=
  match draft.sizes with
  | [] => draft
  | size :: sizes => ⟨dropBytes size draft.chars, sizes⟩

/-- The draft after a cluster was read; a backspace is always a cluster of its own. -/
def read (draft : Draft) (cluster : List Char) : Draft :=
  if cluster = [backspace] then draft.takeBack else draft.add cluster

end Draft

/-- What is left of a line when its backspaces have done their work. -/
def applyBackspaces (line : List Char) : List Char :=
  ((clusters line).foldl Draft.read {}).chars.reverse

end CommandShell.Text
