import CommandShell.Fault
import CommandShell.History
import CommandShell.Journal
import CommandShell.Storage.FileStore

/-!
# History files

A history file has one line for each entry, the oldest one first.  Reading it
enters its lines one after the other; a line that is not text is passed over,
and one carriage return before the end of a line does not belong to it.
-/

namespace CommandShell

/-! ## Bytes of text -/

/-- The byte that ends a line. -/
def newlineByte : UInt8 := 10

/-- The byte that may precede the end of a line. -/
def returnByte : UInt8 := 13

def textBytes (text : String) : List UInt8 :=
  text.toList.flatMap String.utf8EncodeChar

/-- The text of a list of bytes, if they encode one. -/
def textOfBytes? (bytes : List UInt8) : Option String :=
  String.fromUTF8? ⟨bytes.toArray⟩

namespace History

/-! ## Lines of a file -/

/-- A line without one final carriage return. -/
def dropReturn (line : List UInt8) : List UInt8 :=
  if line.getLast? = some returnByte then line.dropLast else line

/--
The lines that a reader hands out; `pending` are the bytes since the last
newline, the last one first.  At the end of the file they are a line too, if
there are any.  A failure stands in the place of the line that it cuts off.
-/
def linesFrom (failure : Option FileError) (pending : List UInt8) :
    List UInt8 → List (Except FileError (List UInt8))
  | [] => match failure with
    | some error => [.error error]
    | none => if pending.isEmpty then [] else [.ok pending.reverse]
  | byte :: rest =>
      if byte = newlineByte then .ok pending.reverse :: linesFrom failure [] rest
      else linesFrom failure (byte :: pending) rest

def fileContent (history : History) : List UInt8 :=
  history.oldestFirst.flatMap fun line => textBytes line ++ [newlineByte]

/-! ## Loading and saving -/

/--
Enters lines one after the other and counts them.  A line that is no text is
passed over with a record; where reading fails, nothing that was entered counts.
-/
def enterLines (path : Path) (history : History) (count number : Nat) :
    List (Except FileError (List UInt8)) → Noted (Except Fault (History × Nat))
  | [] => ⟨.ok (history, count), [⟨.debug, s!"loaded {count} history lines from {path.text}"⟩]⟩
  | .error error :: _ => ⟨.error (.ofFile path error), []⟩
  | .ok line :: rest =>
      match textOfBytes? (dropReturn line) with
      | some text => enterLines path (history.add text) (count + 1) (number + 1) rest
      | none =>
          let later := enterLines path history count (number + 1) rest
          { later with
            notes := ⟨.warn, s!"skipping line {number} of {path.text}: not valid UTF-8"⟩ ::
              later.notes }

/-- Loads what opening a file has led to.  A missing file is no failure. -/
def loadFrom (history : History) (path : Path) :
    Except FileError FileReading → Noted (Except Fault (History × Nat))
  | .error .notFound =>
      ⟨.ok (history, 0), [⟨.debug, s!"no history file at {path.text}"⟩]⟩
  | .error error => ⟨.error (.ofFile path error), []⟩
  | .ok reading => history.enterLines path 0 1 (linesFrom reading.failure [] reading.bytes)

/-- Enters the lines of a file and counts them; on a failure there is no new history. -/
def load (history : History) (store : FileStore) (path : Path) :
    Noted (Except Fault (History × Nat)) :=
  history.loadFrom path (store.openFile path)

/-- Loading for the owner of a history, who goes on with the old one after a failure. -/
def reload (history : History) (path : Path) (opened : Except FileError FileReading) :
    History × Except Fault Nat :=
  match (history.loadFrom path opened).value with
  | .error fault => (history, .error fault)
  | .ok (loaded, count) => (loaded, .ok count)

theorem reload_openFile (history : History) (store : FileStore) (path : Path) :
    history.reload path (store.openFile path) =
      match (history.load store path).value with
      | .error fault => (history, .error fault)
      | .ok (loaded, count) => (loaded, .ok count) :=
  rfl

/-- Writes the history to a file that only its owner may read. -/
def save (history : History) (store : FileStore) (path : Path) :
    Noted (Except Fault FileStore) :=
  match store.writePrivate path history.fileContent with
  | .error error => ⟨.error (.ofFile path error), []⟩
  | .ok store =>
      ⟨.ok store, [⟨.debug, s!"saved {history.size} history entries to {path.text}"⟩]⟩

end History

end CommandShell
