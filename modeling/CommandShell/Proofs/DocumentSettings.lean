import CommandShell.Proofs.HistoryLines
import CommandShell.Proofs.UsableSettings
import Mathlib.Data.List.Induction

/-!
# What a settings document says

The entries of a document stand for the settings of the same names, each entry
for one of them, and a setting without an entry has its default.  A settings file
says what its text is decoded to, if that can be used, and otherwise what is
wrong with it.
-/

namespace CommandShell.Settings

/-! ## Entries and settings -/

/-- Holds of a setting that has the value of its entry, or its default without an entry. -/
structure Takes {α : Type} (document : Document) (key : String) (means : Scalar → α → Prop)
    (default value : α) : Prop where
  given : ∀ scalar, (key, scalar) ∈ document → means scalar value
  absent : (∀ scalar, (key, scalar) ∉ document) → value = default

/-- The names that settings have in a document. -/
def keys : List String :=
  ["history_capacity", "history_file", "persist_history", "prompt", "show_banner", "log_level"]

/-- Holds of the settings that a document stands for. -/
structure Reflects (document : Document) (settings : Settings) : Prop where
  known : ∀ entry ∈ document, entry.1 ∈ keys
  capacity : Takes document "history_capacity"
    (fun scalar (capacity : Nat) => scalar = .integer capacity) 100 settings.historyCapacity
  file : Takes document "history_file"
    (fun scalar file => ∃ path, scalar = .text path ∧ file = some ⟨path⟩) none settings.historyFile
  persistence : Takes document "persist_history" (fun scalar holds => scalar = .truth holds)
    true settings.persistHistory
  prompt : Takes document "prompt" (fun scalar text => scalar = .text text) "> " settings.prompt
  banner : Takes document "show_banner" (fun scalar holds => scalar = .truth holds)
    true settings.showBanner
  level : Takes document "log_level" (fun scalar text => scalar = .text text)
    "warn" settings.logLevel

namespace Takes

variable {α : Type} {document : Document} {key : String} {means : Scalar → α → Prop}
  {default value other : α}

theorem nil : Takes [] key means default default where
  given _ member := by cases member
  absent _ := rfl

/-- A further entry decides the setting that it is for, and no other. -/
theorem follow (takes : Takes document key means default value) {entered : String} {scalar : Scalar}
    (new : entered ∉ document.map Prod.fst) (decides : entered = key → means scalar other)
    (keeps : entered ≠ key → other = value) :
    Takes (document ++ [(entered, scalar)]) key means default other where
  given found member := by
    rcases List.mem_append.mp member with earlier | last
    · have different : entered ≠ key := by
        rintro rfl
        exact new (List.mem_map_of_mem earlier)
      rw [keeps different]
      exact takes.given found earlier
    · obtain ⟨rfl, rfl⟩ := Prod.mk.inj (List.mem_singleton.mp last)
      exact decides rfl
  absent none := by
    have different : entered ≠ key := by
      rintro rfl
      exact none scalar (List.mem_append_right _ (List.mem_singleton_self _))
    rw [keeps different]
    exact takes.absent fun found member => none found (List.mem_append_left _ member)

theorem unique (functional : ∀ scalar first second, means scalar first → means scalar second →
      first = second)
    (takes : Takes document key means default value)
    (also : Takes document key means default other) : value = other := by
  by_cases given : ∃ scalar, (key, scalar) ∈ document
  · obtain ⟨scalar, member⟩ := given
    exact functional scalar _ _ (takes.given scalar member) (also.given scalar member)
  · rw [takes.absent (not_exists.mp given), also.absent (not_exists.mp given)]

end Takes

/-- One entry as a change of the setting that it is for. -/
inductive Sets (settings : Settings) : String × Scalar → Settings → Prop where
  | capacity (capacity : Nat) : Sets settings ("history_capacity", .integer capacity)
      { settings with historyCapacity := capacity }
  | file (path : String) : Sets settings ("history_file", .text path)
      { settings with historyFile := some ⟨path⟩ }
  | persistence (holds : Bool) : Sets settings ("persist_history", .truth holds)
      { settings with persistHistory := holds }
  | prompt (text : String) : Sets settings ("prompt", .text text) { settings with prompt := text }
  | banner (holds : Bool) : Sets settings ("show_banner", .truth holds)
      { settings with showBanner := holds }
  | level (text : String) : Sets settings ("log_level", .text text)
      { settings with logLevel := text }

theorem set?_eq_some_iff (settings : Settings) (entry : String × Scalar) (later : Settings) :
    settings.set? entry = some later ↔ settings.Sets entry later := by
  constructor
  · intro changed
    unfold set? at changed
    split at changed
    · split at changed
      · rename_i number positive
        obtain rfl := Option.some.inj changed
        obtain ⟨capacity, rfl⟩ := Int.eq_ofNat_of_zero_le positive
        exact .capacity capacity
      · cases changed
    all_goals cases changed
    · exact .file _
    · exact .persistence _
    · exact .prompt _
    · exact .banner _
    · exact .level _
  · intro sets
    cases sets with
    | capacity capacity => simp [set?]
    | file | persistence | prompt | banner | level => rfl

namespace Reflects

variable {document : Document} {settings later : Settings}

/-- A document without entries stands for the standard settings. -/
theorem standard : Reflects [] standard where
  known _ member := by cases member
  capacity := .nil
  file := .nil
  persistence := .nil
  prompt := .nil
  banner := .nil
  level := .nil

theorem sets (reflects : Reflects document settings) {entry : String × Scalar}
    (sets : settings.Sets entry later) (new : entry.1 ∉ document.map Prod.fst) :
    Reflects (document ++ [entry]) later := by
  have known {key : String} {scalar : Scalar} (named : key ∈ keys) :
      ∀ other ∈ document ++ [(key, scalar)], other.1 ∈ keys := by
    intro other member
    rcases List.mem_append.mp member with earlier | last
    · exact reflects.known other earlier
    · exact List.mem_singleton.mp last ▸ named
  -- In each case one setting is that of the entry, and the others are those of before.
  cases sets <;> exact
    { known := known (by simp [keys])
      capacity := reflects.capacity.follow new (by simp) (by simp)
      file := reflects.file.follow new (by simp) (by simp)
      persistence := reflects.persistence.follow new (by simp) (by simp)
      prompt := reflects.prompt.follow new (by simp) (by simp)
      banner := reflects.banner.follow new (by simp) (by simp)
      level := reflects.level.follow new (by simp) (by simp) }

/-- What an entry stands for does not depend on the settings before it. -/
theorem exists_sets (reflects : Reflects document settings) {entry : String × Scalar}
    (member : entry ∈ document) (before : Settings) : ∃ later, before.Sets entry later := by
  obtain ⟨key, scalar⟩ := entry
  have named := reflects.known _ member
  simp only [keys, List.mem_cons, List.not_mem_nil, or_false] at named
  rcases named with rfl | rfl | rfl | rfl | rfl | rfl
  · obtain rfl := reflects.capacity.given scalar member
    exact ⟨_, .capacity _⟩
  · obtain ⟨path, rfl, -⟩ := reflects.file.given scalar member
    exact ⟨_, .file path⟩
  · obtain rfl := reflects.persistence.given scalar member
    exact ⟨_, .persistence _⟩
  · obtain rfl := reflects.prompt.given scalar member
    exact ⟨_, .prompt _⟩
  · obtain rfl := reflects.banner.given scalar member
    exact ⟨_, .banner _⟩
  · obtain rfl := reflects.level.given scalar member
    exact ⟨_, .level _⟩

theorem unique (reflects : Reflects document settings) (also : Reflects document later) :
    settings = later := by
  have capacity : settings.historyCapacity = later.historyCapacity := by
    refine reflects.capacity.unique ?_ also.capacity
    rintro _ first second rfl same
    exact Int.ofNat.inj (Scalar.integer.inj same)
  have file : settings.historyFile = later.historyFile := by
    refine reflects.file.unique ?_ also.file
    rintro _ _ _ ⟨path, rfl, rfl⟩ ⟨_, same, rfl⟩
    rw [Scalar.text.inj same]
  have persistence := reflects.persistence.unique (by simp +contextual) also.persistence
  have prompt := reflects.prompt.unique (by simp +contextual) also.prompt
  have banner := reflects.banner.unique (by simp +contextual) also.banner
  have level := reflects.level.unique (by simp +contextual) also.level
  cases settings
  cases later
  congr

end Reflects

theorem reflects_of_ofDocument? {document : Document}
    (distinct : (document.map Prod.fst).Nodup) {settings : Settings}
    (decoded : ofDocument? document = some settings) : Reflects document settings := by
  induction document using List.reverseRecOn generalizing settings with
  | nil =>
      obtain rfl := Option.some.inj decoded
      exact .standard
  | append_singleton document entry ih =>
      rw [List.map_append, List.map_singleton, List.nodup_append] at distinct
      obtain ⟨distinct, -, new⟩ := distinct
      simp only [ofDocument?, List.foldlM_append, List.foldlM_cons, List.foldlM_nil, bind_pure,
        Option.bind_eq_bind, Option.bind_eq_some_iff] at decoded
      obtain ⟨before, earlier, changed⟩ := decoded
      refine (ih distinct earlier).sets ((set?_eq_some_iff _ _ _).mp changed) fun old => ?_
      exact new _ old _ (List.mem_singleton_self _) rfl

theorem exists_foldlM_set? {document : Document}
    (settable : ∀ entry ∈ document, ∀ before : Settings, ∃ later, before.Sets entry later)
    (settings : Settings) : ∃ later, document.foldlM set? settings = some later := by
  induction document generalizing settings with
  | nil => exact ⟨settings, rfl⟩
  | cons entry rest ih =>
      rw [List.forall_mem_cons] at settable
      obtain ⟨next, sets⟩ := settable.1 settings
      obtain ⟨later, decoded⟩ := ih settable.2 next
      refine ⟨later, ?_⟩
      rw [List.foldlM_cons, (set?_eq_some_iff _ _ _).mpr sets]
      exact decoded

/-- The entries of a document, each for its own setting, decide the settings. -/
theorem ofDocument?_eq_some_iff {document : Document} (distinct : (document.map Prod.fst).Nodup)
    (settings : Settings) : ofDocument? document = some settings ↔ Reflects document settings := by
  refine ⟨reflects_of_ofDocument? distinct, fun reflects => ?_⟩
  obtain ⟨found, decoded⟩ :=
    exists_foldlM_set? (fun _ member => reflects.exists_sets member) standard
  rw [reflects.unique (reflects_of_ofDocument? distinct decoded)]
  exact decoded

theorem decode?_eq_some_iff (text : String) (settings : Settings) :
    decode? text = some settings ↔
      ∃ document, Document.read? text = some document ∧ Reflects document settings := by
  rw [decode?, Option.bind_eq_some_iff]
  refine exists_congr fun document => and_congr_right fun read => ?_
  exact ofDocument?_eq_some_iff (by simpa using (Option.filter_eq_some_iff.mp read).2) settings

/-! ## Settings files -/

/-- Holds of what a settings file says: what its text is decoded to, or why that is of no use. -/
inductive FileTells (decode : Decoder) (store : FileStore) (path : Path) :
    Except Fault Settings → Prop where
  | unreadable {error : FileError} (failed : store.read path = .error error) :
      FileTells decode store path (.error (.ofFile path error))
  | binary {bytes : List UInt8} (content : store.read path = .ok bytes)
      (noText : ∀ text, textBytes text ≠ bytes) :
      FileTells decode store path (.error (.ofFile path .notText))
  | malformed {text : String} (content : store.read path = .ok (textBytes text))
      (undecoded : decode text = none) :
      FileTells decode store path (.error
        { cause := .settings .document
          context := some { operation := some ("loading " ++ path.text) } })
  | unusable {text : String} {settings : Settings} {error : SettingsError}
      (content : store.read path = .ok (textBytes text)) (decoded : decode text = some settings)
      (lacks : settings.Lacks error) :
      FileTells decode store path (.error
        { cause := .settings error
          context := some { operation := some ("loading " ++ path.text) } })
  | usable {text : String} {settings : Settings} (content : store.read path = .ok (textBytes text))
      (decoded : decode text = some settings) (usable : settings.Usable) :
      FileTells decode store path (.ok settings)

section Files

variable {decode : Decoder} {settings : Settings}

theorem usable_of_ofTextBy {text : String} (read : ofTextBy decode text = .ok settings) :
    settings.Usable := by
  unfold ofTextBy at read
  split at read
  · cases read
  · obtain ⟨usable, rfl⟩ := (checked_eq_ok_iff _ _).mp read
    exact usable

variable (decode) (store : FileStore) (path : Path)

theorem fileTells_loadBy : FileTells decode store path (loadBy decode store path) := by
  unfold loadBy
  cases content : store.read path with
  | error error => exact .unreadable content
  | ok bytes =>
      dsimp only
      cases read : textOfBytes? bytes with
      | none =>
          refine .binary content fun text same => ?_
          rw [← same, textOfBytes?_textBytes] at read
          cases read
      | some text =>
          rw [← textBytes_of_textOfBytes? read] at content
          dsimp only [ofTextBy]
          cases decoded : decode text with
          | none => exact .malformed content decoded
          | some settings =>
              rcases settings.problem?_cases with ⟨usable, fine⟩ | ⟨error, lacks, problem⟩
              · simp only [checked, fine]
                exact .usable content decoded usable
              · simp only [checked, problem]
                exact .unusable content decoded lacks

variable {store path}

/-- What a settings file says is what is loaded. -/
theorem FileTells.loadBy_eq {result : Except Fault Settings}
    (told : FileTells decode store path result) : loadBy decode store path = result := by
  cases told with
  | unreadable failed => rw [loadBy, failed]
  | @binary bytes content noText =>
      cases read : textOfBytes? bytes with
      | none => simp only [loadBy, content, read]
      | some text => exact absurd (textBytes_of_textOfBytes? read) (noText text)
  | malformed content undecoded =>
      simp only [loadBy, content, textOfBytes?_textBytes, ofTextBy, undecoded]
      rfl
  | unusable content decoded lacks =>
      simp only [loadBy, content, textOfBytes?_textBytes, ofTextBy, decoded, checked,
        (problem?_eq_some_iff _ _).mpr lacks]
      rfl
  | usable content decoded usable =>
      simp only [loadBy, content, textOfBytes?_textBytes, ofTextBy, decoded, checked,
        (problem?_eq_none_iff _).mpr usable]
      rfl

theorem usable_of_loadBy (loaded : loadBy decode store path = .ok settings) : settings.Usable := by
  have told := fileTells_loadBy decode store path
  rw [loaded] at told
  cases told with
  | usable _ _ usable => exact usable

end Files

end CommandShell.Settings
