/-!
# Paths

A path is kept as it was written, since messages repeat it; its parts between
slashes say where it leads.
-/

namespace CommandShell

/-- A path as it was written. -/
structure Path where
  text : String
  deriving DecidableEq

namespace Path

def isAbsolute (path : Path) : Bool :=
  path.text.toList.head? == some '/'

def endsInSlash (path : Path) : Bool :=
  path.text.toList.getLast? == some '/'

/-- The path that a second path names from a first one; an absolute one stands alone. -/
def join (base path : Path) : Path :=
  if path.isAbsolute then path
  else if base.text.isEmpty || base.endsInSlash then ⟨base.text ++ path.text⟩
  else ⟨base.text ++ "/" ++ path.text⟩

/-- The names between the slashes, without the empty ones. -/
def parts (path : Path) : List String :=
  ((path.text.toList.splitOn '/').filter fun part => !part.isEmpty).map String.ofList

end Path

end CommandShell
