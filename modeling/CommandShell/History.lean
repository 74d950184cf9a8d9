import CommandShell.Text.Search

/-!
# Remembered lines

A history keeps the latest lines up to its capacity.  A line is dropped when it
is empty or repeats the latest one; a new line over the capacity pushes the
oldest one out.
-/

namespace CommandShell

/-- The latest lines, at most as many as the capacity. -/
structure History where
  capacity : Nat
  capacity_pos : 0 < capacity
  /-- The lines, the latest one first. -/
  entries : List String
  deriving DecidableEq

namespace History

/-- The history without lines; a capacity of zero is unusable. -/
def ofCapacity? (capacity : Nat) : Option History :=
  if positive : 0 < capacity then some ⟨capacity, positive, []⟩ else none

def size (history : History) : Nat :=
  history.entries.length

/-- Holds of a line that would be kept. -/
def accepts (history : History) (line : String) : Bool :=
  !line.isEmpty && history.entries.head? != some line

/-- The lines that stay when another one comes: a full history gives up its oldest one. -/
def spared (history : History) : List String :=
  if history.size = history.capacity then history.entries.dropLast else history.entries

/-- The history after a line was entered. -/
def add (history : History) (line : String) : History :=
  if history.accepts line then { history with entries := line :: history.spared } else history

/-- The history after lines were entered one after the other. -/
def addAll (history : History) (lines : List String) : History :=
  lines.foldl add history

/-- The lines, the oldest one first. -/
def oldestFirst (history : History) : List String :=
  history.entries.reverse

/-- The difference of two counts, unless it is below zero. -/
def difference? (count taken : Nat) : Option Nat :=
  if taken ≤ count then some (count - taken) else none

/-- The place from the oldest line on of the line a number of steps back from the latest one. -/
def place? (history : History) (index : Nat) : Option Nat :=
  (difference? history.size index).bind (difference? · 1)

/-- The line a number of steps back from the latest one. -/
def get? (history : History) (index : Nat) : Option String :=
  (history.place? index).bind (history.oldestFirst[·]?)

def clear (history : History) : History :=
  { history with entries := [] }

/-- The lines that contain a text, the latest one first. -/
def search (history : History) (part : String) : List String :=
  history.entries.filter fun line => Text.contains line part

@[simp] theorem capacity_add (history : History) (line : String) :
    (history.add line).capacity = history.capacity := by
  unfold add
  split <;> rfl

@[simp] theorem addAll_nil (history : History) : history.addAll [] = history := rfl

@[simp] theorem addAll_cons (history : History) (line : String) (lines : List String) :
    history.addAll (line :: lines) = (history.add line).addAll lines := rfl

theorem addAll_append (history : History) (first second : List String) :
    history.addAll (first ++ second) = (history.addAll first).addAll second := by
  simp [addAll, List.foldl_append]

end History

end CommandShell
