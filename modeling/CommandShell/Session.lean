import CommandShell.Builtin
import CommandShell.Command.Dispatch
import CommandShell.Command.Reading
import CommandShell.Completion
import CommandShell.Settings

/-!
# Sessions

A session joins the registry, the completion index, the history and the journal
for one user.  It keeps the index in step with the registry, counts the changes
to what completion offers, and turns lines into outcomes.  Files are read at the
start and written at the end, and at no other time.
-/

namespace CommandShell

open Text (isBlankLine)

structure Session where
  settings : Settings
  environment : Environment
  registry : Registry
  completion : Completion
  history : History
  /-- Changes to what completion offers since the start. -/
  epoch : Nat
  journal : Journal

namespace Session

/-! ## Start -/

/-- The session with further records. -/
def noteAll (session : Session) (notes : List Record) : Session :=
  { session with journal := session.journal.noteAll notes }

def note (session : Session) (level : LogLevel) (text : String) : Session :=
  session.noteAll [⟨level, text⟩]

/-- The session whose index has the names of the registry. -/
def reindex (session : Session) : Session :=
  let index := session.completion.rebuild session.registry
  { session with completion := index.value }.noteAll index.notes

/-- The session whose history has the lines of a file, if the file can be read. -/
def reload (session : Session) (store : FileStore) (path : Path) : Session :=
  { session.noteAll (session.history.load store path).notes with
    history := (session.history.reload path (store.openFile path)).1 }

/-- Loads the history file; one that cannot be read is passed over. -/
def restore (session : Session) (store : FileStore) : Session :=
  match session.settings.historyPath? session.environment with
  | none => session
  | some path =>
      let loaded := session.reload store path
      match (session.history.reload path (store.openFile path)).2 with
      | .ok count => loaded.note .debug s!"restored {count} history lines"
      | .error fault => loaded.note .warn s!"could not load history: {fault.message}"

/-- The session with the built-in commands and an empty history. -/
def fresh (environment : Environment) (journal : Journal) (settings : Settings)
    (history : History) : Session :=
  let builtins := Registry.empty.registerAll Builtin.all
  let session : Session :=
    { settings, environment, history, journal
      registry := builtins.value.1
      completion := .empty
      epoch := 0 }
  (session.noteAll builtins.notes).reindex

/-- Starts a session; only unusable settings prevent that. -/
def start (environment : Environment) (store : FileStore) (journal : Journal)
    (settings : Settings) : Except Fault Session :=
  match settings.problem? with
  | some error => .error (.ofSettings error)
  | none =>
      match History.ofCapacity? settings.historyCapacity with
      | none => .error { cause := .invalidCapacity settings.historyCapacity }
      | some history =>
          .ok (((fresh environment journal settings history).restore store).note .info
            s!"session started with {Builtin.all.length} built-in commands")

/-! ## Commands and words -/

/-- Counts a change to what completion offers. -/
def advance (session : Session) : Session :=
  { session with epoch := session.epoch + 1 }

/-- Registers a command and says whether that was accepted. -/
def register (session : Session) (command : Command) : Session × Bool :=
  let registered := session.registry.register command
  let session := session.noteAll registered.notes
  if registered.value.2 then
    ({ session with registry := registered.value.1 }.reindex.advance.note .info
      s!"registered command '{command.name}'", true)
  else (session, false)

/-- Takes a command out and says whether it was registered. -/
def unregister (session : Session) (name : String) : Session × Bool :=
  let unregistered := session.registry.unregister name
  let session := session.noteAll unregistered.notes
  if unregistered.value.2 then
    ({ session with registry := unregistered.value.1 }.reindex.advance.note .info
      s!"unregistered command '{name}'", true)
  else (session, false)

/-- Adds a word to completion and says whether it is new. -/
def addWord (session : Session) (word : String) : Session × Bool :=
  let (completion, added) := session.completion.addWord word
  if added then ({ session with completion }.advance, true) else (session, false)

/-- Takes a word out of completion and says whether it was there. -/
def removeWord (session : Session) (word : String) : Session × Bool :=
  let (completion, removed) := session.completion.removeWord word
  if removed then ({ session with completion }.advance, true) else (session, false)

/-- Forgets every word of completion, which always counts as a change. -/
def clearWords (session : Session) : Session :=
  { session with completion := session.completion.clearWords }.advance

/-- What completes the last word of a partial line. -/
def candidates (session : Session) (line : String) : List String :=
  session.completion.candidates session.registry line

/-! ## Lines -/

def readLine (session : Session) (line : String) : Except LineError Invocation :=
  session.registry.readLine line

/-- What running a line comes down to. -/
inductive Plan where
  | nothing
  | reject (error : LineError)
  | dispatch (invocation : Invocation)

def plan (session : Session) (line : String) : Plan :=
  if isBlankLine line then .nothing
  else match session.readLine line with
    | .error error => .reject error
    | .ok invocation => .dispatch invocation

/-- The outcome of a line that is no invocation. -/
def rejection (error : LineError) : Outcome :=
  .failure .commandFailed s!"Parse error: {error.message}"

/-- Carries out the plan for a line; only a dispatch runs a handler. -/
def carryOut (session : Session) (line : String) : Plan → Session × Outcome
  | .nothing => (session, .silent)
  | .reject error =>
      (session.note .debug s!"rejected {Text.quoted line}: {error.message}", rejection error)
  | .dispatch invocation =>
      let (outcome, journal) :=
        session.registry.dispatch (some session.history) invocation session.journal
      ({ session with journal }, outcome)

/-- Runs a line and does not remember it. -/
def execute (session : Session) (line : String) : Session × Outcome :=
  session.carryOut line (session.plan line)

def remember (session : Session) (line : String) : Session :=
  { session with history := session.history.add line }

def forget (session : Session) : Session :=
  { session with history := session.history.clear }

/-- Remembers a line unless it is blank, then runs it. -/
def submit (session : Session) (line : String) : Session × Outcome :=
  if isBlankLine line then session.execute line else (session.remember line).execute line

/-! ## End -/

/-- How the end of a session went. -/
structure Closing where
  session : Session
  store : FileStore
  result : Except Fault Unit

/-- Saves the history where it is kept. -/
def shutdown (session : Session) (store : FileStore) : Closing :=
  match session.settings.historyPath? session.environment with
  | none => ⟨session.note .info "session ended", store, .ok ()⟩
  | some path =>
      let saved := session.history.save store path
      let session := session.noteAll saved.notes
      match saved.value with
      | .ok store => ⟨session.note .info "session ended", store, .ok ()⟩
      | .error fault => ⟨session, store, .error fault⟩

end Session

end CommandShell
