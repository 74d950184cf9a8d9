import CommandShell.Settings
import Mathlib.Tactic.ByContra

/-!
# Settings that can be used

A session can start with settings that leave room for a line in the history and
name a known level.  Unless the history is not kept, the settings and the
environment name one file for it.
-/

namespace CommandShell

/-! ## Usable settings -/

namespace LogLevel

/-- Holds of the texts that name a level, whatever the case of their ASCII letters. -/
def Names (text : String) (level : LogLevel) : Prop :=
  ∃ name, (level, name) ∈ [(off, "OFF"), (error, "ERROR"), (warn, "WARN"), (info, "INFO"),
    (debug, "DEBUG"), (trace, "TRACE")] ∧ text.toList.map Char.toUpper = name.toList

/-- Holds of the names of levels. -/
def IsName (text : String) : Prop :=
  ∃ level, Names text level

theorem ofName?_eq_some_iff (text : String) (level : LogLevel) :
    ofName? text = some level ↔ Names text level := by
  constructor
  · intro found
    have equal : (level.name == upper text) = true :=
      List.find?_some (p := fun level : LogLevel => level.name == upper text) found
    have same : level.name = upper text := beq_iff_eq.mp equal
    refine ⟨level.name, by cases level <;> simp [name], ?_⟩
    rw [same, upper, String.toList_ofList]
  · rintro ⟨spelled, member, same⟩
    have known : spelled = level.name := by
      cases level <;> simpa [name] using member
    have read : upper text = level.name := by
      rw [upper, same, String.ofList_toList, known]
    rw [ofName?, read]
    cases level <;> rfl

theorem ofName?_eq_none_iff (text : String) : ofName? text = none ↔ ¬ IsName text := by
  simp only [Option.eq_none_iff_forall_ne_some, ne_eq, ofName?_eq_some_iff, IsName, not_exists]

end LogLevel

namespace Settings

/-- Holds of the settings that a session can start with. -/
structure Usable (settings : Settings) : Prop where
  room : settings.historyCapacity ≠ 0
  level : LogLevel.IsName settings.logLevel

/-- What is wrong with settings; a lack of room is told first. -/
inductive Lacks (settings : Settings) : SettingsError → Prop where
  | room (zero : settings.historyCapacity = 0) : Lacks settings .zeroCapacity
  | level (room : settings.historyCapacity ≠ 0)
      (unknown : ¬ LogLevel.IsName settings.logLevel) :
      Lacks settings (.unknownLevel settings.logLevel)

theorem problem?_cases (settings : Settings) :
    settings.Usable ∧ settings.problem? = none ∨
      ∃ error, settings.Lacks error ∧ settings.problem? = some error := by
  unfold problem?
  split
  · rename_i zero
    exact Or.inr ⟨_, .room zero, rfl⟩
  · rename_i room
    unfold level
    cases named : LogLevel.ofName? settings.logLevel with
    | none => exact Or.inr ⟨_, .level room ((LogLevel.ofName?_eq_none_iff _).mp named), rfl⟩
    | some level =>
        refine Or.inl ⟨⟨room, ?_⟩, rfl⟩
        by_contra unknown
        rw [(LogLevel.ofName?_eq_none_iff _).mpr unknown] at named
        cases named

theorem Usable.not_lacks {settings : Settings} (usable : settings.Usable) {error : SettingsError} :
    ¬ settings.Lacks error := by
  intro lacks
  cases lacks with
  | room zero => exact usable.room zero
  | level room unknown => exact unknown usable.level

theorem Lacks.unique {settings : Settings} {first second : SettingsError}
    (one : settings.Lacks first) (other : settings.Lacks second) : first = second := by
  cases one with
  | room zero =>
      cases other with
      | room => rfl
      | level room => exact absurd zero room
  | level room unknown =>
      cases other with
      | room zero => exact absurd zero room
      | level => rfl

theorem problem?_eq_none_iff (settings : Settings) :
    settings.problem? = none ↔ settings.Usable := by
  rcases settings.problem?_cases with ⟨usable, none⟩ | ⟨error, lacks, some⟩
  · exact iff_of_true none usable
  · rw [some]
    exact iff_of_false nofun fun usable => usable.not_lacks lacks

theorem problem?_eq_some_iff (settings : Settings) (error : SettingsError) :
    settings.problem? = some error ↔ settings.Lacks error := by
  rcases settings.problem?_cases with ⟨usable, none⟩ | ⟨found, lacks, some⟩
  · rw [none]
    exact iff_of_false nofun usable.not_lacks
  · rw [some, Option.some.injEq]
    exact ⟨fun same => same ▸ lacks, lacks.unique⟩

/-- Settings pass the check as they are, and only if they are usable. -/
theorem checked_eq_ok_iff (settings other : Settings) :
    settings.checked = .ok other ↔ settings.Usable ∧ settings = other := by
  rw [checked, ← problem?_eq_none_iff]
  cases settings.problem? <;> simp

theorem checked_eq_error_iff (settings : Settings) (fault : Fault) :
    settings.checked = .error fault ↔
      ∃ error, settings.Lacks error ∧ .ofSettings error = fault := by
  simp only [checked, ← problem?_eq_some_iff]
  cases settings.problem? <;> simp

end Settings

/-! ## The place of the history -/

namespace Environment

/-- Holds of a variable that is set, and not to the empty text. -/
def Gives (setting : Option String) (text : String) : Prop :=
  setting = some text ∧ text ≠ ""

/-- The home directory: one of two variables, the first one before the second, or a path on a
drive. -/
inductive HasHome (environment : Environment) : Path → Prop where
  | home {text : String} (given : Gives environment.home text) : HasHome environment ⟨text⟩
  | profile {text : String} (noHome : ∀ home, ¬ Gives environment.home home)
      (given : Gives environment.userProfile text) : HasHome environment ⟨text⟩
  | drive {drive path : String} (noHome : ∀ home, ¬ Gives environment.home home)
      (noProfile : ∀ profile, ¬ Gives environment.userProfile profile)
      (givenDrive : Gives environment.homeDrive drive)
      (givenPath : Gives environment.homePath path) :
      HasHome environment (Path.join ⟨drive⟩ ⟨path⟩)

theorem nonEmpty_eq_some_iff (setting : Option String) (text : String) :
    nonEmpty setting = some text ↔ Gives setting text := by
  rw [nonEmpty, Option.filter_eq_some_iff, Gives]
  simp

theorem nonEmpty_eq_none_iff (setting : Option String) :
    nonEmpty setting = none ↔ ∀ text, ¬ Gives setting text := by
  simp only [Option.eq_none_iff_forall_ne_some, ne_eq, nonEmpty_eq_some_iff]

theorem homeDirectory?_eq_some_iff (environment : Environment) (home : Path) :
    environment.homeDirectory? = some home ↔ environment.HasHome home := by
  unfold homeDirectory?
  constructor
  · intro found
    cases first : nonEmpty environment.home with
    | some text =>
        simp only [first, Option.some_or, Option.some.injEq] at found
        exact found ▸ .home ((nonEmpty_eq_some_iff _ _).mp first)
    | none =>
        have noHome := (nonEmpty_eq_none_iff _).mp first
        cases second : nonEmpty environment.userProfile with
        | some text =>
            simp only [first, second, Option.none_or, Option.some.injEq] at found
            exact found ▸ .profile noHome ((nonEmpty_eq_some_iff _ _).mp second)
        | none =>
            simp only [first, second, Option.none_or, Option.bind_eq_bind,
              Option.bind_eq_some_iff, Option.some.injEq] at found
            obtain ⟨drive, givenDrive, path, givenPath, rfl⟩ := found
            exact .drive noHome ((nonEmpty_eq_none_iff _).mp second)
              ((nonEmpty_eq_some_iff _ _).mp givenDrive) ((nonEmpty_eq_some_iff _ _).mp givenPath)
  · intro has
    cases has with
    | home given => rw [(nonEmpty_eq_some_iff _ _).mpr given, Option.some_or]
    | profile noHome given =>
        rw [(nonEmpty_eq_none_iff _).mpr noHome, (nonEmpty_eq_some_iff _ _).mpr given,
          Option.none_or]
    | drive noHome noProfile givenDrive givenPath =>
        rw [(nonEmpty_eq_none_iff _).mpr noHome, (nonEmpty_eq_none_iff _).mpr noProfile,
          (nonEmpty_eq_some_iff _ _).mpr givenDrive, (nonEmpty_eq_some_iff _ _).mpr givenPath]
        rfl

end Environment

namespace Settings

/-- Holds of the history file: the one that is named, or one in the home directory, or in the
working directory without a home. -/
inductive HistoryAt (settings : Settings) (environment : Environment) : Path → Prop where
  | named {path : Path} (given : settings.historyFile = some path) :
      HistoryAt settings environment path
  | home {home : Path} (unnamed : settings.historyFile = none)
      (has : environment.HasHome home) :
      HistoryAt settings environment (home.join ⟨".necromancers_shell_history"⟩)
  | here (unnamed : settings.historyFile = none) (homeless : ∀ home, ¬ environment.HasHome home) :
      HistoryAt settings environment ⟨".necromancers_shell_history"⟩

theorem historyPath?_eq_none_iff (settings : Settings) (environment : Environment) :
    settings.historyPath? environment = none ↔ settings.persistHistory = false := by
  unfold historyPath?
  split <;> simp_all

/-- A history that is kept has one place. -/
theorem exists_historyAt {settings : Settings} (kept : settings.persistHistory = true)
    (environment : Environment) :
    ∃ path, settings.HistoryAt environment path ∧
      settings.historyPath? environment = some path := by
  rw [historyPath?, if_pos kept]
  refine ⟨_, ?_, rfl⟩
  cases file : settings.historyFile with
  | some path => exact .named file
  | none =>
      rw [Option.getD_none, Environment.defaultHistoryPath]
      cases found : environment.homeDirectory? with
      | some home => exact .home file ((environment.homeDirectory?_eq_some_iff home).mp found)
      | none =>
          refine .here file fun home has => ?_
          cases found.symm.trans ((environment.homeDirectory?_eq_some_iff home).mpr has)

end Settings

end CommandShell
