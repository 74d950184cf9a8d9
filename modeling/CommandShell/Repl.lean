import CommandShell.Console
import CommandShell.Session

/-!
# The loop of reading, running and showing

An editor hands out lines, and completes them from a snapshot that the loop
pushes to it.  Each turn pushes a new snapshot if the session changed what it
offers, asks for a line and answers it.  The loop ends with the input, with a
failure of the editor or with a command that asks for it; then the session is
shut down.
-/

namespace CommandShell

/-- What the editor hands out when it is asked for a line. -/
inductive EditorEvent where
  | line (text : String)
  | interrupted
  /-- The input has ended. -/
  | closed
  /-- The terminal failed. -/
  | failed (message : String)
  deriving DecidableEq

/-- What the editor completes from. -/
structure Snapshot where
  epoch : Nat
  registry : Registry
  completion : Completion

namespace Snapshot

def ofSession (session : Session) : Snapshot :=
  ⟨session.epoch, session.registry, session.completion⟩

def candidates (snapshot : Snapshot) (line : String) : List String :=
  snapshot.completion.candidates snapshot.registry line

end Snapshot

/-- A session with the snapshot that the editor has. -/
structure Repl where
  session : Session
  pushed : Option Snapshot := none

/-- How the session answers what the editor handed out. -/
structure Reply where
  session : Session
  output : Output
  /-- How the loop ends, if it does. -/
  ending : Option (Except Fault Int)

namespace Session

/-- Answers what the editor handed out. -/
def reply (session : Session) : EditorEvent → Reply
  | .line text =>
      let (session, outcome) := session.submit text
      ⟨session, .ofOutcome outcome, if outcome.exits then some (.ok outcome.exitCode) else none⟩
  | .interrupted => ⟨session, { shown := "\n" }, none⟩
  | .closed => ⟨session, { shown := Builtin.farewell }, some (.ok 0)⟩
  | .failed message => ⟨session, {}, some (.error { cause := .terminal message })⟩

end Session

/-- One turn of the loop. -/
structure Turn where
  /-- The state in which the line is asked for. -/
  repl : Repl
  /-- Whether a snapshot was pushed right before. -/
  pushes : Bool
  event : EditorEvent

namespace Turn

def prompt (turn : Turn) : String :=
  turn.repl.session.settings.prompt

/-- The snapshot pushed in this turn. -/
def push? (turn : Turn) : Option Snapshot :=
  if turn.pushes then turn.repl.pushed else none

/-- The line that the editor is given to recall; blank lines are not recalled. -/
def recalled? (turn : Turn) : Option String :=
  match turn.event with
  | .line text => if Text.isBlankLine text then none else some text
  | _ => none

def reply (turn : Turn) : Reply :=
  turn.repl.session.reply turn.event

def next (turn : Turn) : Repl :=
  { turn.repl with session := turn.reply.session }

end Turn

/-- The turns of a loop, how it ended and what was not read. -/
structure Conversation where
  turns : List Turn
  ending : Except Fault Int
  repl : Repl
  unread : List EditorEvent

structure Run where
  conversation : Conversation
  output : Output
  repl : Repl
  store : FileStore

namespace Repl

/-- Holds when the editor has no snapshot of the present epoch. -/
def isStale (repl : Repl) : Bool :=
  repl.pushed.map Snapshot.epoch != some repl.session.epoch

/-- Pushes a snapshot if the editor has none of the present epoch. -/
def sync (repl : Repl) : Repl :=
  if repl.isStale then { repl with pushed := some (.ofSession repl.session) } else repl

/-- The turn in which the editor hands something out. -/
def turn (repl : Repl) (event : EditorEvent) : Turn :=
  ⟨repl.sync, repl.isStale, event⟩

/-- Runs the loop on what the editor hands out; after that the input has ended. -/
def converse (repl : Repl) : List EditorEvent → Conversation
  | [] =>
      let turn := repl.turn .closed
      ⟨[turn], .ok 0, turn.next, []⟩
  | event :: rest =>
      let turn := repl.turn event
      match turn.reply.ending with
      | some ending => ⟨[turn], ending, turn.next, rest⟩
      | none =>
          let later := turn.next.converse rest
          { later with turns := turn :: later.turns }

def version : String := "0.1.0"

def banner : String :=
  "\n".intercalate
    ["\x1b[1;35m",
      "  _  _                                            _      ",
      " | \\| |___ __ _ _ ___ _ __  __ _ _ _  __ ___ _ _ ( )___ ",
      " | .` / -_) _| '_/ _ \\ '  \\/ _` | ' \\/ _/ -_) '_||/(_-< ",
      " |_|\\_\\___\\__|_| \\___/_|_|_\\__,_|_||_\\__\\___|_|    /__/ ",
      "                     S H E L L                          ",
      "\x1b[0m",
      "Necromancer's Shell v" ++ version,
      "Type 'help' for a list of commands. Use Ctrl+D to exit.\n\n"]

/-- What is shown before the first turn. -/
def greeting (repl : Repl) : Output :=
  if repl.session.settings.showBanner then { shown := banner } else {}

/-- Shuts the session down; a history that cannot be saved is noted only. -/
def close (repl : Repl) (store : FileStore) : Repl × FileStore :=
  let closing := repl.session.shutdown store
  match closing.result with
  | .ok () => ({ repl with session := closing.session }, closing.store)
  | .error fault =>
      ({ repl with
          session := closing.session.note .warn s!"could not save history: {fault.message}" },
        closing.store)

/-- Runs the loop and shuts the session down. -/
def run (repl : Repl) (store : FileStore) (events : List EditorEvent) : Run :=
  let conversation := repl.converse events
  let (closed, store) := conversation.repl.close store
  { conversation
    output := repl.greeting ++ .concat (conversation.turns.map fun turn => turn.reply.output)
    repl := closed
    store }

end Repl

end CommandShell
