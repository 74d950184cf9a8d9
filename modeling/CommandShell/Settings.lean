import CommandShell.Environment
import CommandShell.Fault
import CommandShell.History.File
import CommandShell.Journal
import CommandShell.Settings.Document

/-!
# Settings of a session

Settings come from a preset or from a document; an entry that the document does
not give keeps its default.  Settings are usable when the history can hold a
line and the level of the journal has a known name.
-/

namespace CommandShell

/-- What a session is started with. -/
structure Settings where
  historyCapacity : Nat := 100
  /-- The history file; without one the default file is used. -/
  historyFile : Option Path := none
  /-- Whether the history is loaded at the start and saved at the end. -/
  persistHistory : Bool := true
  prompt : String := "> "
  showBanner : Bool := true
  /-- The name of the level that the journal starts with. -/
  logLevel : String := "warn"
  deriving DecidableEq

namespace Settings

/-- The settings without any change. -/
def standard : Settings := {}

/-- Settings that touch no file and show no banner. -/
def ephemeral : Settings :=
  { persistHistory := false, showBanner := false }

/-- The standard settings with a talkative journal. -/
def verbose : Settings :=
  { logLevel := "debug" }

/-- The file that the history is kept in, unless it is not kept. -/
def historyPath? (settings : Settings) (environment : Environment) : Option Path :=
  if settings.persistHistory then
    some (settings.historyFile.getD environment.defaultHistoryPath)
  else none

/-! ## Validity -/

def level (settings : Settings) : Except SettingsError LogLevel :=
  match LogLevel.ofName? settings.logLevel with
  | some level => .ok level
  | none => .error (.unknownLevel settings.logLevel)

/-- The first thing that makes the settings unusable. -/
def problem? (settings : Settings) : Option SettingsError :=
  if settings.historyCapacity = 0 then some .zeroCapacity
  else match settings.level with
    | .ok _ => none
    | .error error => some error

/-- Settings that can be used, as they are. -/
def checked (settings : Settings) : Except Fault Settings :=
  match settings.problem? with
  | none => .ok settings
  | some error => .error (.ofSettings error)

/-! ## Documents -/

/-- The settings after one entry of a document; its key and its type have to be known. -/
def set? (settings : Settings) (entry : String × Scalar) : Option Settings :=
  match entry with
  | ("history_capacity", .integer number) =>
      if 0 ≤ number then some { settings with historyCapacity := number.toNat } else none
  | ("history_file", .text content) => some { settings with historyFile := some ⟨content⟩ }
  | ("persist_history", .truth holds) => some { settings with persistHistory := holds }
  | ("prompt", .text content) => some { settings with prompt := content }
  | ("show_banner", .truth holds) => some { settings with showBanner := holds }
  | ("log_level", .text content) => some { settings with logLevel := content }
  | _ => none

/-- The standard settings changed by the entries of a document. -/
def ofDocument? (document : Document) : Option Settings :=
  document.foldlM set? standard

/-- A way to decode the text of a document; the values are not checked. -/
abbrev Decoder := String → Option Settings

/-- The settings that the entries of a document give. -/
def decode? : Decoder :=
  fun text => (Document.read? text).bind ofDocument?

/-- The usable settings of a text, for any way to decode a document. -/
def ofTextBy (decode : Decoder) (text : String) : Except Fault Settings :=
  match decode text with
  | none => .error (.ofSettings .document)
  | some settings => settings.checked

def ofText (text : String) : Except Fault Settings :=
  ofTextBy decode? text

/-- The usable settings of a file; a fault of its text names the file. -/
def loadBy (decode : Decoder) (store : FileStore) (path : Path) : Except Fault Settings :=
  match store.read path with
  | .error error => .error (.ofFile path error)
  | .ok content =>
      match textOfBytes? content with
      | none => .error (.ofFile path .notText)
      | some text =>
          (ofTextBy decode text).mapError fun fault =>
            fault.within { operation := some s!"loading {path.text}" }

def load (store : FileStore) (path : Path) : Except Fault Settings :=
  loadBy decode? store path

end Settings

end CommandShell
