import CommandShell.Repl

/-!
# Operations on a session

Everything that can be done to a session between two lines, as data.  The epoch
counts the operations that change what completion offers; every other operation
leaves the registry, the completion index and the epoch alone.
-/

namespace CommandShell

namespace Session

/-- What can be done to a session. -/
inductive Operation where
  | register (command : Command)
  | unregister (name : String)
  | addWord (word : String)
  | removeWord (word : String)
  | clearWords
  | execute (line : String)
  | submit (line : String)
  /-- Enters a line into the history. -/
  | remember (line : String)
  /-- Forgets the history. -/
  | forget
  /-- Enters the lines of a file into the history. -/
  | reload (store : FileStore) (path : Path)
  | shutdown (store : FileStore)

/-- The session after an operation. -/
def perform (session : Session) : Operation → Session
  | .register command => (session.register command).1
  | .unregister name => (session.unregister name).1
  | .addWord word => (session.addWord word).1
  | .removeWord word => (session.removeWord word).1
  | .clearWords => session.clearWords
  | .execute line => (session.execute line).1
  | .submit line => (session.submit line).1
  | .remember line => session.remember line
  | .forget => session.forget
  | .reload store path => session.reload store path
  | .shutdown store => (session.shutdown store).session

/--
Holds of the operations that count as a change to what completion offers: an
accepted registration, an accepted removal, a new or removed word, and every
clearing of the words.
-/
def changes (session : Session) : Operation → Bool
  | .register command => (session.register command).2
  | .unregister name => (session.unregister name).2
  | .addWord word => (session.addWord word).2
  | .removeWord word => (session.removeWord word).2
  | .clearWords => true
  | _ => false

end Session

namespace Snapshot

open Session

/-- Running a line changes nothing but the journal. -/
theorem ofSession_execute (session : Session) (line : String) :
    ofSession (session.execute line).1 = ofSession session := by
  rw [execute]
  cases session.plan line with
  | nothing => rfl
  | reject error => rfl
  | dispatch invocation => rfl

/-- Submitting a line changes nothing but the history and the journal. -/
theorem ofSession_submit (session : Session) (line : String) :
    ofSession (session.submit line).1 = ofSession session := by
  unfold submit
  split
  · exact ofSession_execute session line
  · exact ofSession_execute (session.remember line) line

theorem ofSession_reload (session : Session) (store : FileStore) (path : Path) :
    ofSession (session.reload store path) = ofSession session :=
  rfl

theorem ofSession_shutdown (session : Session) (store : FileStore) :
    ofSession (session.shutdown store).session = ofSession session := by
  unfold shutdown
  dsimp only
  split
  · rfl
  · split <;> rfl

end Snapshot

namespace Session

/-! ## Start -/

/-- Restoring the history leaves everything but the history and the journal. -/
theorem exists_restore (session : Session) (store : FileStore) :
    ∃ history journal, session.restore store = { session with history, journal } := by
  unfold restore
  split
  · exact ⟨session.history, session.journal, rfl⟩
  · dsimp only
    split <;> exact ⟨_, _, rfl⟩

/--
A session does not start if its settings have a problem, and starts with an empty
history otherwise; settings without a problem have room for a line.
-/
theorem start_cases (environment : Environment) (store : FileStore) (journal : Journal)
    (settings : Settings) :
    (∃ error, settings.problem? = some error ∧
        start environment store journal settings = .error (.ofSettings error)) ∨
      ∃ empty, settings.problem? = none ∧
        History.ofCapacity? settings.historyCapacity = some empty ∧
          start environment store journal settings =
            .ok (((fresh environment journal settings empty).restore store).note .info
              s!"session started with {Builtin.all.length} built-in commands") := by
  cases problem : settings.problem? with
  | some error => exact Or.inl ⟨error, rfl, by rw [start, problem]⟩
  | none =>
      have room : 0 < settings.historyCapacity := by
        refine Nat.pos_of_ne_zero fun zero => ?_
        rw [Settings.problem?, if_pos zero] at problem
        cases problem
      have empty : History.ofCapacity? settings.historyCapacity = some ⟨_, room, []⟩ :=
        dif_pos room
      exact Or.inr ⟨_, rfl, empty, by simp only [start, problem, empty]⟩

/-! ## Counted changes -/

/--
What an operation does for the editor: a change is counted once, and whatever
is no change leaves the epoch, the registry and the completion index alone.
-/
def Accounts (session : Session) (result : Session × Bool) : Prop :=
  if result.2 then result.1.epoch = session.epoch + 1
  else Snapshot.ofSession result.1 = Snapshot.ofSession session

/-- An operation accounts for itself if it counts on acceptance and offers the same on refusal. -/
theorem accounts_ite {session changed same : Session} {accepted : Bool}
    (counted : changed.epoch = session.epoch + 1)
    (kept : Snapshot.ofSession same = .ofSession session) :
    session.Accounts (if accepted then (changed, true) else (same, false)) := by
  cases accepted with
  | false => exact kept
  | true => exact counted

theorem accounts_register (session : Session) (command : Command) :
    session.Accounts (session.register command) :=
  accounts_ite rfl rfl

theorem accounts_unregister (session : Session) (name : String) :
    session.Accounts (session.unregister name) :=
  accounts_ite rfl rfl

theorem accounts_addWord (session : Session) (word : String) :
    session.Accounts (session.addWord word) :=
  accounts_ite rfl rfl

theorem accounts_removeWord (session : Session) (word : String) :
    session.Accounts (session.removeWord word) :=
  accounts_ite rfl rfl

theorem accounts_perform (session : Session) (operation : Operation) :
    session.Accounts (session.perform operation, session.changes operation) := by
  cases operation with
  | register command => exact session.accounts_register command
  | unregister name => exact session.accounts_unregister name
  | addWord word => exact session.accounts_addWord word
  | removeWord word => exact session.accounts_removeWord word
  | clearWords => rfl
  | execute line => exact Snapshot.ofSession_execute session line
  | submit line => exact Snapshot.ofSession_submit session line
  | remember line => rfl
  | forget => rfl
  | reload store path => exact Snapshot.ofSession_reload session store path
  | shutdown store => exact Snapshot.ofSession_shutdown session store

theorem ofSession_perform_of_not_changes {session : Session} {operation : Operation}
    (same : session.changes operation = false) :
    Snapshot.ofSession (session.perform operation) = Snapshot.ofSession session := by
  have accounts := session.accounts_perform operation
  rwa [Accounts, same] at accounts

theorem epoch_perform (session : Session) (operation : Operation) :
    (session.perform operation).epoch =
      if session.changes operation then session.epoch + 1 else session.epoch := by
  have accounts := session.accounts_perform operation
  unfold Accounts at accounts
  split at accounts
  · rename_i changes
    rw [if_pos changes, accounts]
  · rename_i same
    rw [if_neg same]
    exact congrArg Snapshot.epoch accounts

end Session

end CommandShell
