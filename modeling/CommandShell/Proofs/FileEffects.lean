import CommandShell.CommandLine
import CommandShell.Proofs.LoopRuns
import CommandShell.Proofs.OverriddenSettings

/-!
# What a session does to files

A session touches no file before it is shut down, and then only the one that its
history is kept in.  What it leaves there are the lines of the history, for the
owner alone, whatever stood there before; without a place for the history it
leaves nothing.  Handlers answer and are given no files, so this is all that is
done to them.  A single line of the command line is not remembered, so the files
that it leaves do not depend on it.
-/

namespace CommandShell

/-! ## Stores that differ in one file -/

namespace FileStore

/-- A later store that differs from a store at most in the file that a path leads to. -/
inductive DiffersAt (store : FileStore) : Option Path → FileStore → Prop where
  | nowhere {path? : Option Path} : DiffersAt store path? store
  | file {path : Path} {place : Place} {later : FileStore} (located : store.locate path = .ok place)
      (stays : later.locate path = .ok place)
      (elsewhere : ∀ other, other ≠ place → later.node? other = store.node? other) :
      DiffersAt store (some path) later

namespace DiffersAt

variable {store now : FileStore}

/-- Another writing at the path goes to the same place. -/
theorem replaces {path : Path} {content : List UInt8} {saved : FileStore} {place : Place}
    (differs : store.DiffersAt (some path) now) (replaces : now.Replaces path content saved place) :
    store.DiffersAt (some path) saved := by
  cases differs with
  | nowhere => exact .file replaces.located replaces.stays replaces.elsewhere
  | file located stays elsewhere =>
      obtain rfl := Except.ok.inj (stays.symm.trans replaces.located)
      refine .file located replaces.stays ?_
      intro other differ
      rw [replaces.elsewhere other differ, elsewhere other differ]

/-- A place that the path does not lead to keeps its node. -/
theorem node?_eq {path? : Option Path} (differs : store.DiffersAt path? now) {other : Place}
    (apart : ∀ path, path? = some path → store.locate path ≠ .ok other) :
    now.node? other = store.node? other := by
  cases differs with
  | nowhere => rfl
  | file located stays elsewhere =>
      refine elsewhere other ?_
      rintro rfl
      exact apart _ rfl located

theorem eq_of_none (differs : store.DiffersAt none now) : now = store := by
  cases differs
  rfl

end DiffersAt

end FileStore

/-! ## Sessions among files -/

namespace Session

/-- Where the history of a session is kept. -/
def keptAt? (session : Session) : Option Path :=
  session.settings.historyPath? session.environment

theorem keptAt?_perform (session : Session) (operation : Operation) :
    (session.perform operation).keptAt? = session.keptAt? := by
  cases operation with
  | register command =>
      simp only [perform, register]
      split <;> rfl
  | unregister name =>
      simp only [perform, unregister]
      split <;> rfl
  | addWord word =>
      simp only [perform, addWord]
      split <;> rfl
  | removeWord word =>
      simp only [perform, removeWord]
      split <;> rfl
  | clearWords | remember line | forget => rfl
  | execute line =>
      obtain ⟨journal, executed⟩ := session.exists_journal_execute line
      rw [perform, executed]
      rfl
  | submit line =>
      have left : session.Leaves [.line line] (session.submit line).1 :=
        session.leaves_after (.line line)
      rw [perform, keptAt?, left.settings, left.environment, keptAt?]
  | reload store path => rfl
  | shutdown store =>
      obtain ⟨journal, closed⟩ := session.exists_journal_shutdown store
      rw [perform, closed]
      rfl

theorem keptAt?_restore (session : Session) (store : FileStore) :
    (session.restore store).keptAt? = session.keptAt? := by
  obtain ⟨history, journal, restored⟩ := session.exists_restore store
  rw [restored]
  rfl

/-- A started session keeps its history where its settings say. -/
theorem keptAt?_start {environment : Environment} {store : FileStore} {journal : Journal}
    {settings : Settings} {session : Session}
    (started : Session.start environment store journal settings = .ok session) :
    session.keptAt? = settings.historyPath? environment := by
  rcases start_cases environment store journal settings with
    ⟨error, -, refused⟩ | ⟨empty, -, -, starts⟩
  · cases started.symm.trans refused
  · obtain rfl := Except.ok.inj (started.symm.trans starts)
    exact keptAt?_restore (fresh environment journal settings empty) store

/-! ## The end of a session -/

/-- A session without a place for its history leaves the files alone. -/
theorem shutdown_of_none {session : Session} (forgets : session.keptAt? = none)
    (store : FileStore) :
    (session.shutdown store).result = .ok () ∧ (session.shutdown store).store = store := by
  have none : session.settings.historyPath? session.environment = none := forgets
  simp only [shutdown, none, and_self]

end Session

/-- A session and the files that it runs among. -/
structure Host where
  session : Session
  files : FileStore

/-- What is asked of a session that runs among files. -/
inductive Request where
  /-- Asks what a line is an invocation of. -/
  | read (line : String)
  /-- Asks what completes a line. -/
  | complete (line : String)
  | register (command : Command)
  | unregister (name : String)
  | addWord (word : String)
  | removeWord (word : String)
  | clearWords
  | execute (line : String)
  | submit (line : String)
  | remember (line : String)
  | forget
  /-- Enters the lines of a file into the history. -/
  | reload (path : Path)
  | shutdown

/-- The operation that a request comes to among some files; a question is none. -/
def Request.operation? (files : FileStore) : Request → Option Session.Operation
  | read _ | complete _ => none
  | register command => some (.register command)
  | unregister name => some (.unregister name)
  | addWord word => some (.addWord word)
  | removeWord word => some (.removeWord word)
  | clearWords => some .clearWords
  | execute line => some (.execute line)
  | submit line => some (.submit line)
  | remember line => some (.remember line)
  | forget => some .forget
  | reload path => some (.reload files path)
  | shutdown => some (.shutdown files)

/-- The files after an operation of a session; only the end of the session gives other ones. -/
def Session.Operation.files (session : Session) (files : FileStore) : Operation → FileStore
  | shutdown store => (session.shutdown store).store
  | _ => files

namespace Host

def perform (host : Host) (request : Request) : Host :=
  match request.operation? host.files with
  | none => host
  | some operation =>
      ⟨host.session.perform operation, operation.files host.session host.files⟩

def performAll (host : Host) (requests : List Request) : Host :=
  requests.foldl perform host

/-- How the end of the session goes. -/
def closing (host : Host) : Session.Closing :=
  host.session.shutdown host.files

/-- Only a shutdown touches files. -/
theorem files_perform (host : Host) {request : Request} (other : request ≠ .shutdown) :
    (host.perform request).files = host.files := by
  cases request with
  | shutdown => exact absurd rfl other
  | _ => rfl

theorem files_performAll {host : Host} {requests : List Request} (none : .shutdown ∉ requests) :
    (host.performAll requests).files = host.files := by
  induction requests generalizing host with
  | nil => rfl
  | cons request rest ih =>
      obtain ⟨other, none⟩ := not_or.mp (mt List.mem_cons.mpr none)
      exact (ih none).trans (host.files_perform (Ne.symm other))

theorem keptAt?_perform (host : Host) (request : Request) :
    (host.perform request).session.keptAt? = host.session.keptAt? := by
  unfold perform
  split
  · rfl
  · exact host.session.keptAt?_perform _

/-- The history is kept at one path, and there only the files have changed since a start. -/
structure Spares (start host : Host) : Prop where
  keptAt? : host.session.keptAt? = start.session.keptAt?
  files : start.files.DiffersAt start.session.keptAt? host.files

/-- One request changes files only where the history is kept. -/
theorem Spares.perform {start host : Host} (spares : start.Spares host) (request : Request) :
    start.Spares (host.perform request) := by
  refine ⟨(host.keptAt?_perform request).trans spares.keptAt?, ?_⟩
  by_cases shuts : request = .shutdown
  · subst shuts
    have differs := spares.files
    rw [← spares.keptAt?] at differs ⊢
    cases kept : host.session.keptAt? with
    | none =>
        have same : (host.perform .shutdown).files = host.files :=
          (Session.shutdown_of_none kept host.files).2
        rw [same, ← kept]
        exact differs
    | some path =>
        rw [kept] at differs
        have closed : (host.perform .shutdown).files = host.closing.store := rfl
        rw [closed]
        rcases Session.shutdown_cases kept host.files with
          ⟨saved, written, -, left⟩ | ⟨-, -, -, left⟩
        · obtain ⟨place, replaces⟩ := FileStore.exists_replaces written
          rw [closing, left]
          exact differs.replaces replaces
        · rw [closing, left]
          exact differs
  · rw [host.files_perform shuts]
    exact spares.files

theorem spares_performAll (start : Host) (requests : List Request) :
    start.Spares (start.performAll requests) := by
  have start_spares : start.Spares start := ⟨rfl, .nowhere⟩
  -- The start stays fixed while the requests are performed on what it has come to.
  suffices later : ∀ host, start.Spares host → start.Spares (host.performAll requests) from
    later start start_spares
  induction requests with
  | nil => exact fun host spares => spares
  | cons request rest ih =>
      exact fun host spares => ih (host.perform request) (spares.perform request)

/--
What is true of the files of a session after some requests, with the settings
and the files that it was started with: nothing but the place of its history has
changed, and only a shutdown changes that.  The history is saved wherever the
store can place a file; no permission bits stand in the way.
-/
structure Confines (settings : Settings) (environment : Environment) (store : FileStore)
    (host : Host) : Prop where
  untouched : ∀ request, request ≠ .shutdown → (host.perform request).files = host.files
  elsewhere : ∀ place,
    (∀ path, settings.historyPath? environment = some path → store.locate path ≠ .ok place) →
      host.files.node? place = store.node? place
  forgets : settings.persistHistory = false →
    host.files = store ∧ host.closing.result = .ok () ∧ host.closing.store = host.files
  keeps : settings.persistHistory = true → host.closing.result = .ok () →
    ∃ path place, settings.historyPath? environment = some path ∧
      host.files.Replaces path
        (host.session.history.oldestFirst.flatMap fun line => textBytes line ++ [newlineByte])
        host.closing.store place
  succeeds_iff : ∀ path, settings.historyPath? environment = some path →
    (host.closing.result = .ok () ↔
      (host.files.target path FileStore.privateMode).isOk = true)

theorem confines_performAll {environment : Environment} {store : FileStore} {journal : Journal}
    {settings : Settings} {session : Session}
    (started : Session.start environment store journal settings = .ok session)
    (requests : List Request) :
    ((⟨session, store⟩ : Host).performAll requests).Confines settings environment store := by
  have spares := spares_performAll ⟨session, store⟩ requests
  generalize (⟨session, store⟩ : Host).performAll requests = host at spares
  obtain ⟨keptAt?, differs⟩ := spares
  dsimp only at keptAt? differs
  rw [Session.keptAt?_start started] at keptAt? differs
  refine
    { untouched := fun request other => host.files_perform other
      elsewhere := fun place apart => differs.node?_eq apart
      forgets := ?_
      keeps := ?_
      succeeds_iff := ?_ }
  · intro off
    have none : settings.historyPath? environment = none := by
      rw [Settings.historyPath?, off]
      rfl
    rw [none] at keptAt? differs
    obtain ⟨result, same⟩ := Session.shutdown_of_none keptAt? host.files
    exact ⟨differs.eq_of_none, result, same⟩
  · intro on succeeds
    have some : settings.historyPath? environment =
        some (settings.historyFile.getD environment.defaultHistoryPath) := by
      rw [Settings.historyPath?, on]
      rfl
    rcases Session.shutdown_cases (keptAt?.trans some) host.files with
      ⟨saved, written, -, left⟩ | ⟨error, -, fails, -⟩
    · obtain ⟨place, replaces⟩ := FileStore.exists_replaces written
      rw [closing, left]
      exact ⟨_, place, some, replaces⟩
    · rw [closing, fails] at succeeds
      cases succeeds
  · intro path kept
    rw [← host.files.isOk_writePrivate path host.session.history.fileContent]
    rcases Session.shutdown_cases (keptAt?.trans kept) host.files with
      ⟨saved, written, succeeds, -⟩ | ⟨error, refused, fails, -⟩
    · rw [closing, succeeds, written]
      exact iff_of_true rfl rfl
    · rw [closing, fails, refused]
      refine iff_of_false ?_ Bool.false_ne_true
      intro succeeds
      cases succeeds

end Host

/-! ## Single lines -/

namespace Choice

/-- Choices that ask for the same, each with a line of its own to run. -/
structure SameButLine (first second : List Choice) : Prop where
  switches : ∀ option, hasSwitch first option = hasSwitch second option
  settings : ∀ option, option ≠ .command → value? first option = value? second option
  firstLine : (value? first .command).isSome = true
  secondLine : (value? second .command).isSome = true

theorem sameButLine (before after : List Choice) (line other : String) :
    SameButLine (before ++ .setting .command line :: after)
      (before ++ .setting .command other :: after) where
  switches option := by simp [hasSwitch]
  settings option different := by simp [value?, valueFor?, Ne.symm different]
  firstLine := by simp [value?, valueFor?]
  secondLine := by simp [value?, valueFor?]

end Choice

namespace CommandLine

/-- A single line leaves the files that the end of its session leaves without it. -/
theorem store_runLine (session : Session) (line : String) (store : FileStore) :
    (runLine session line store).store = (session.shutdown store).store := by
  obtain ⟨journal, executed⟩ := session.exists_journal_execute line
  have left : (runLine session line store).store =
      ((session.execute line).1.shutdown store).store := rfl
  rw [left, executed]
  unfold Session.shutdown
  dsimp only
  split
  · rfl
  · split <;> rfl

section Lines

variable (decode : Settings.Decoder) (environment : Environment) (store : FileStore)

/-- The files after a single line: those that the end of the started session leaves. -/
def filesAfterLine (choices : List Choice) : FileStore :=
  if Choice.hasSwitch choices .help || Choice.hasSwitch choices .version then store
  else match startSession decode choices environment store with
    | .ok session => (session.shutdown store).store
    | .error _ => store

theorem store_runBy_line {arguments : List String} {choices : List Choice}
    (read : Choice.ofArguments arguments = .ok choices)
    (single : (Choice.value? choices .command).isSome = true) (input : String) :
    (runBy decode arguments environment store input).store =
      filesAfterLine decode environment store choices := by
  obtain ⟨line, asked⟩ := Option.isSome_iff_exists.mp single
  rw [runBy, taskBy, read]
  simp only [taskOf, filesAfterLine, asked]
  by_cases help : Choice.hasSwitch choices .help = true
  · simp only [help, if_true, Bool.true_or]
    rfl
  · by_cases version : Choice.hasSwitch choices .version = true
    · simp only [help, version, if_true, Bool.or_true, Bool.false_eq_true, if_false]
      rfl
    · simp only [help, version, Bool.or_self, Bool.false_eq_true, if_false]
      cases startSession decode choices environment store with
      | error fault => rfl
      | ok session => exact store_runLine session line store

theorem filesAfterLine_congr {first second : List Choice}
    (same : Choice.SameButLine first second) :
    filesAfterLine decode environment store first =
      filesAfterLine decode environment store second := by
  have sameSettings := settingsOf_congr same.switches same.settings
    (same.firstLine.trans same.secondLine.symm) decode store
  unfold filesAfterLine startSession
  simp only [same.switches, sameSettings]

/-- The files that are left do not depend on the line that was asked for. -/
theorem store_runBy_regardless {before : List String} {choices : List Choice}
    (read : Choice.ofArguments before = .ok choices) {option : String}
    (takesLine : OptionSetting.ofArgument? option = some .command) (after : List String)
    (line other : String) (input : String) :
    (runBy decode (before ++ option :: line :: after) environment store input).store =
      (runBy decode (before ++ option :: other :: after) environment store input).store := by
  have reads : ∀ line, Choice.ofArguments (before ++ option :: line :: after) =
      (Choice.ofArguments after).map fun later =>
        choices ++ .setting .command line :: later := by
    intro line
    rw [Choice.ofArguments_append read, Choice.ofArguments_setting takesLine]
    cases Choice.ofArguments after <;> rfl
  cases later : Choice.ofArguments after with
  | error error =>
      have refused : ∀ line, Choice.ofArguments (before ++ option :: line :: after) =
          .error error := by
        intro line
        rw [reads, later]
        rfl
      simp only [runBy, taskBy, refused, failureReport]
  | ok others =>
      have same := Choice.sameButLine choices others line other
      have firstRead := reads line
      have secondRead := reads other
      rw [later] at firstRead secondRead
      rw [store_runBy_line decode environment store firstRead same.firstLine,
        store_runBy_line decode environment store secondRead same.secondLine,
        filesAfterLine_congr decode environment store same]

end Lines

end CommandLine

/--
A started session changes files at its end and nowhere but in the file of its
history, whatever is asked of it; and a program that runs a single line leaves
the same files whatever the line is, those of a session to which nothing was said.
-/
theorem Host.files_change_at_the_end {environment : Environment} {store : FileStore}
    {journal : Journal} {settings : Settings} {session : Session}
    (started : Session.start environment store journal settings = .ok session)
    (requests : List Request) :
    ((⟨session, store⟩ : Host).performAll requests).Confines settings environment store ∧
      (.shutdown ∉ requests → ((⟨session, store⟩ : Host).performAll requests).files = store) ∧
      (∀ line files, (CommandLine.runLine session line files).store =
        (session.shutdown files).store) ∧
      ∀ {before : List String} {choices : List Choice} {option : String},
        Choice.ofArguments before = .ok choices →
        OptionSetting.ofArgument? option = some .command →
        ∀ after line other surroundings files input,
          (CommandLine.run (before ++ option :: line :: after) surroundings files input).store =
            (CommandLine.run (before ++ option :: other :: after) surroundings files
              input).store := by
  refine ⟨confines_performAll started requests, files_performAll, ?_, ?_⟩
  · exact CommandLine.store_runLine session
  · intro before choices option read takesLine after line other surroundings files input
    exact CommandLine.store_runBy_regardless Settings.decode? surroundings files read takesLine
      after line other input

/-- Settings that keep one line. -/
def oneLineKept : Settings :=
  { historyCapacity := 1, historyFile := some ⟨"h"⟩ }

/-- A history of two lines that anybody may read, beside another file. -/
def sharedHistory : FileStore :=
  ⟨[(⟨.working 0, ["h"]⟩, .file [97, 97, 97, 10, 98, 98, 10] 0o644),
    (⟨.working 0, ["s"]⟩, .file [35] 0o644)]⟩

/--
The longer history stays while lines come, and gives way to the last of them
at the end, for its owner alone; a single line is never the one that is kept.
-/
theorem Host.one_line_replaces_two :
    ∃ session, Session.start {} sharedHistory {} oneLineKept = .ok session ∧
      ((⟨session, sharedHistory⟩ : Host).performAll [.submit "nope", .remember "c"]).Confines
        oneLineKept {} sharedHistory ∧
      ((⟨session, sharedHistory⟩ : Host).performAll [.submit "nope", .remember "c"]).files =
        sharedHistory ∧
      ((⟨session, sharedHistory⟩ : Host).performAll
          [.submit "nope", .remember "c"]).closing.store.nodes =
        [(⟨.working 0, ["h"]⟩, .file [99, 10] 0o600), (⟨.working 0, ["s"]⟩, .file [35] 0o644)] ∧
      (CommandLine.run ["--history-file", "h", "-c", "help"] {} sharedHistory "").store =
        (CommandLine.run ["--history-file", "h", "-c", "nope"] {} sharedHistory "").store := by
  have started : Session.start {} sharedHistory {} oneLineKept = .ok _ := rfl
  obtain ⟨confines, silent, -, regardless⟩ :=
    files_change_at_the_end started [.submit "nope", .remember "c"]
  have read : Choice.ofArguments ["--history-file", "h"] = .ok [.setting .historyFile "h"] := rfl
  have takesLine : OptionSetting.ofArgument? "-c" = some .command := rfl
  exact ⟨_, started, confines, silent (by simp), by decide +kernel,
    regardless read takesLine [] "help" "nope" {} sharedHistory ""⟩

end CommandShell
