import CommandShell.Proofs.CompletionIndex
import CommandShell.Proofs.DocumentSettings
import CommandShell.Proofs.LoadedHistory
import CommandShell.Proofs.RegisteredCommands

/-!
# Sessions start with usable settings

A session starts exactly when its settings leave room for a line in the history
and name a known level.  What is wrong otherwise is told by the settings alone,
before any file is read.  A started session has the built-in commands and the
lines of its history file, if it has one that can be read to its end.
-/

namespace CommandShell

/-! ## Lines of the history file -/

namespace History

/-- The lines that loading enters: those of a file that is read to its end. -/
def enteredFrom : Except FileError FileReading → List String
  | .ok ⟨content, none⟩ => textLines content
  | _ => []

theorem reload_fst_eq (history : History) (path : Path) (opened : Except FileError FileReading) :
    (history.reload path opened).1 = history.addAll (enteredFrom opened) := by
  cases opened with
  | error error =>
      by_cases missing : error = .notFound
      · rw [missing]
        rfl
      · rw [history.reload_refused path missing]
        rfl
  | ok reading =>
      obtain ⟨content, failure⟩ := reading
      cases failure with
      | none => rw [reload_whole, enteredFrom]
      | some error =>
          rw [reload_broken]
          rfl

end History

/-! ## Registering commands in a row -/

namespace Registry

theorem find?_registerAll_of_find? {registry : Registry} {name : String} {command : Command}
    (found : registry.find? name = some command) (commands : List Command) :
    (registry.registerAll commands).value.1.find? name = some command := by
  induction commands generalizing registry with
  | nil => exact found
  | cons other rest ih => exact ih (find?_register_of_find? found other)

/-- Commands with different names, all of them free, are all registered. -/
theorem find?_registerAll {registry : Registry} {commands : List Command}
    (named : ∀ command ∈ commands, command.name ≠ "")
    (free : ∀ command ∈ commands, registry.find? command.name = none)
    (distinct : (commands.map Command.name).Nodup) :
    ∀ command ∈ commands,
      (registry.registerAll commands).value.1.find? command.name = some command := by
  induction commands generalizing registry with
  | nil => simp
  | cons first rest ih =>
      rw [List.forall_mem_cons] at named free ⊢
      rw [List.map_cons, List.nodup_cons] at distinct
      have accepted : (registry.register first).value.2 = true := by
        rw [← Bool.not_eq_false, register_refused_iff, not_or, Bool.not_eq_true,
          contains_eq_false_iff]
        exact ⟨named.1, free.1⟩
      refine ⟨find?_registerAll_of_find? ?_ rest, ih named.2 ?_ distinct.2⟩
      · rw [find?_register, if_pos ⟨rfl, accepted⟩]
      · intro command member
        rw [find?_register, if_neg]
        · exact free.2 command member
        · rintro ⟨same, -⟩
          exact distinct.1 (same ▸ List.mem_map_of_mem member)

end Registry

/-! ## Starting -/

namespace Session

section Start

variable (environment : Environment) (store : FileStore) (journal : Journal) (settings : Settings)

theorem start_eq_ok_iff :
    (∃ session, start environment store journal settings = .ok session) ↔ settings.Usable := by
  rw [← Settings.problem?_eq_none_iff]
  rcases start_cases environment store journal settings with
    ⟨error, problem, refused⟩ | ⟨empty, fine, -, starts⟩
  · rw [problem, refused]
    refine iff_of_false ?_ nofun
    rintro ⟨session, starts⟩
    cases starts
  · exact iff_of_true ⟨_, starts⟩ fine

theorem start_eq_error_iff (fault : Fault) :
    start environment store journal settings = .error fault ↔
      ∃ error, settings.Lacks error ∧ .ofSettings error = fault := by
  simp only [← Settings.problem?_eq_some_iff]
  rcases start_cases environment store journal settings with
    ⟨error, problem, refused⟩ | ⟨empty, fine, -, starts⟩
  · rw [problem, refused]
    simp
  · rw [fine, starts]
    exact iff_of_false nofun nofun

end Start

theorem history_restore (session : Session) (store : FileStore) :
    (session.restore store).history =
      match session.settings.historyPath? session.environment with
      | none => session.history
      | some path => (session.history.reload path (store.openFile path)).1 := by
  unfold restore
  cases session.settings.historyPath? session.environment with
  | none => rfl
  | some path =>
      dsimp only
      split <;> rfl

/--
What a started session has: the built-in commands, which completion offers and
nothing besides, and the lines of its history file, if it has one that can be
read to its end.
-/
structure StartedWith (environment : Environment) (store : FileStore) (settings : Settings)
    (empty : History) (session : Session) : Prop where
  settings_eq : session.settings = settings
  environment_eq : session.environment = environment
  names : session.registry.names = ["clear", "exit", "help", "history", "log", "quit"]
  builtins : ∀ command ∈ Builtin.all, session.registry.find? command.name = some command
  indexes : session.Indexes []
  words : session.completion.words = .empty
  epoch : session.epoch = 0
  /-- A history that is kept has a file. -/
  place : settings.persistHistory = true → ∃ path,
    settings.HistoryAt environment path ∧ settings.historyPath? environment = some path
  loads : ∀ path, settings.historyPath? environment = some path →
    session.history = (empty.reload path (store.openFile path)).1
  forgets : settings.persistHistory = false → session.history = empty
  missing : ∀ path error, settings.historyPath? environment = some path →
    store.openFile path = .error error → session.history = empty
  broken : ∀ path content error, settings.historyPath? environment = some path →
    store.openFile path = .ok ⟨content, some error⟩ → session.history = empty
  whole : ∀ path content, settings.historyPath? environment = some path →
    store.openFile path = .ok ⟨content, none⟩ →
      session.history = empty.addAll (History.textLines content)

/-- The registry that every session starts with. -/
def builtins : Registry :=
  (Registry.empty.registerAll Builtin.all).value.1

theorem names_builtins :
    builtins.names = ["clear", "exit", "help", "history", "log", "quit"] := by
  decide +kernel

theorem find?_builtins : ∀ command ∈ Builtin.all, builtins.find? command.name = some command := by
  have names : Builtin.all.map Command.name =
      ["help", "quit", "exit", "clear", "history", "log"] := rfl
  refine Registry.find?_registerAll ?_ (fun _ _ => rfl) (by rw [names]; decide)
  intro command member unnamed
  have empty : "" ∈ Builtin.all.map Command.name := unnamed ▸ List.mem_map_of_mem member
  rw [names] at empty
  exact absurd empty (by decide)

theorem history_start {environment : Environment} {store : FileStore} {journal : Journal}
    {settings : Settings} {session : Session}
    (started : start environment store journal settings = .ok session) :
    ∃ empty, History.ofCapacity? settings.historyCapacity = some empty ∧
      session.settings = settings ∧ session.environment = environment ∧
      session.history = match settings.historyPath? environment with
        | none => empty
        | some path => (empty.reload path (store.openFile path)).1 := by
  rcases start_cases environment store journal settings with
    ⟨error, -, refused⟩ | ⟨empty, -, room, starts⟩
  · cases started.symm.trans refused
  · obtain rfl := Except.ok.inj (started.symm.trans starts)
    have restored := history_restore (fresh environment journal settings empty) store
    obtain ⟨history, kept, same⟩ := exists_restore (fresh environment journal settings empty) store
    refine ⟨empty, room, ?_, ?_, restored⟩
    · rw [same]
      rfl
    · rw [same]
      rfl

theorem startedWith_of_start {environment : Environment} {store : FileStore} {journal : Journal}
    {settings : Settings} {session : Session}
    (started : start environment store journal settings = .ok session) :
    ∃ empty, History.ofCapacity? settings.historyCapacity = some empty ∧
      session.StartedWith environment store settings empty := by
  obtain ⟨empty, room, sameSettings, sameEnvironment, history⟩ := history_start started
  obtain ⟨_, offer⟩ := ofSession_start started
  have registry : session.registry = builtins := congrArg Snapshot.registry offer
  have loads : ∀ path, settings.historyPath? environment = some path →
      session.history = (empty.reload path (store.openFile path)).1 := by
    intro path kept
    simpa only [kept] using history
  have enters : ∀ path, settings.historyPath? environment = some path →
      session.history = empty.addAll (History.enteredFrom (store.openFile path)) := by
    intro path kept
    rw [loads path kept, History.reload_fst_eq]
  refine ⟨empty, room, ?_⟩
  exact {
    settings_eq := sameSettings
    environment_eq := sameEnvironment
    names := registry ▸ names_builtins
    builtins := registry ▸ find?_builtins
    indexes := (mirrors_start started).indexes
    words := congrArg (fun offer => offer.completion.words) offer
    epoch := congrArg Snapshot.epoch offer
    place := fun kept => Settings.exists_historyAt kept environment
    loads := loads
    forgets := by
      intro off
      rw [history, (Settings.historyPath?_eq_none_iff settings environment).mpr off]
    missing := by
      intro path error kept opened
      rw [enters path kept, opened]
      rfl
    broken := by
      intro path content error kept opened
      rw [enters path kept, opened]
      rfl
    whole := by
      intro path content kept opened
      rw [enters path kept, opened]
      rfl }

/-! ## What starting promises -/

/--
What starting promises of settings: which of them start a session, what is wrong
with the others, whatever the environment, the files and the journal are, and
what the started session has.
-/
structure StartsIfUsable (settings : Settings) : Prop where
  starts_iff : ∀ environment store journal,
    (∃ session, start environment store journal settings = .ok session) ↔
      settings.historyCapacity ≠ 0 ∧ LogLevel.IsName settings.logLevel
  zero : settings.historyCapacity = 0 → ∀ environment store journal,
    start environment store journal settings = .error (.ofSettings .zeroCapacity)
  unknown : settings.historyCapacity ≠ 0 → ¬ LogLevel.IsName settings.logLevel →
    ∀ environment store journal, start environment store journal settings =
      .error (.ofSettings (.unknownLevel settings.logLevel))
  /-- This is the fault that checking the settings tells. -/
  checked : ∀ environment store journal fault,
    start environment store journal settings = .error fault ↔ settings.checked = .error fault
  never : ∀ environment store journal fault capacity,
    start environment store journal settings = .error fault →
      fault.cause ≠ .invalidCapacity capacity
  started : ∀ {environment store journal session},
    start environment store journal settings = .ok session →
      ∃ empty, History.ofCapacity? settings.historyCapacity = some empty ∧
        session.StartedWith environment store settings empty
  decoded : ∀ {decode : String → Option Settings} {text : String},
    Settings.ofTextBy decode text = .ok settings → ∀ environment store journal,
      ∃ session, start environment store journal settings = .ok session
  read : ∀ {text : String}, Settings.ofText text = .ok settings →
    ∀ environment store journal, ∃ session, start environment store journal settings = .ok session
  loaded : ∀ {files : FileStore} {path : Path}, Settings.load files path = .ok settings →
    ∀ environment store journal, ∃ session, start environment store journal settings = .ok session

/-- Only unusable settings prevent a start, and checked ones are never among them. -/
theorem startsIfUsable (settings : Settings) : StartsIfUsable settings where
  starts_iff environment store journal := by
    rw [start_eq_ok_iff]
    exact ⟨fun usable => ⟨usable.room, usable.level⟩, fun ⟨room, level⟩ => ⟨room, level⟩⟩
  zero none environment store journal :=
    (start_eq_error_iff environment store journal settings _).mpr ⟨_, .room none, rfl⟩
  unknown room unknown environment store journal :=
    (start_eq_error_iff environment store journal settings _).mpr ⟨_, .level room unknown, rfl⟩
  checked environment store journal fault := by
    rw [start_eq_error_iff, Settings.checked_eq_error_iff]
  never environment store journal fault capacity failed := by
    obtain ⟨error, -, rfl⟩ := (start_eq_error_iff environment store journal settings _).mp failed
    exact nofun
  started := startedWith_of_start
  decoded read environment store journal :=
    (start_eq_ok_iff environment store journal settings).mpr (Settings.usable_of_ofTextBy read)
  read read environment store journal :=
    (start_eq_ok_iff environment store journal settings).mpr (Settings.usable_of_ofTextBy read)
  loaded loaded environment store journal :=
    (start_eq_ok_iff environment store journal settings).mpr (Settings.usable_of_loadBy _ loaded)

end Session

end CommandShell
