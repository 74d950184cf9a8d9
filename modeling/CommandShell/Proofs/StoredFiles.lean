import CommandShell.Storage.FileStore

/-!
# Reading what was written

A path leads to the same place before and after a file is put there, since no
directory on the way to the file changes.  So the content that was written at a
path is read back from it, and a private file is there for its owner alone.
-/

namespace CommandShell.FileStore

/-- A computation of two steps succeeds only if both do. -/
theorem exists_of_bind_eq_ok {ε α β : Type} {first : Except ε α} {next : α → Except ε β}
    {result : β} (succeeds : first.bind next = .ok result) :
    ∃ value, first = .ok value ∧ next value = .ok result := by
  cases first with
  | error error => cases succeeds
  | ok value => exact ⟨value, rfl, succeeds⟩

/-! ## Directories on the way -/

/-- A part that can be entered leads to a directory. -/
theorem enter_eq_ok_iff (store : FileStore) (directory place : Place) (part : String) :
    store.enter directory part = .ok place ↔
      step directory part = .ok place ∧ ∃ mode, store.node? place = some (.directory mode) := by
  constructor
  · intro entered
    obtain ⟨stepped, stepsTo, found⟩ := exists_of_bind_eq_ok entered
    split at found
    · cases found
    · cases found
    · rename_i mode isDirectory
      obtain rfl := Except.ok.inj found
      exact ⟨stepsTo, mode, isDirectory⟩
  · rintro ⟨stepsTo, mode, isDirectory⟩
    rw [enter, stepsTo]
    simp only [bind, Except.bind, isDirectory]

section Put

variable {store : FileStore} {place : Place}

/-- Where no directory stands, a node can be put without closing a way. -/
theorem enter_put (free : ∀ mode, store.node? place ≠ some (.directory mode)) (node : Node)
    {directory next : Place} {part : String} (entered : store.enter directory part = .ok next) :
    (store.put place node).enter directory part = .ok next := by
  rw [enter_eq_ok_iff] at entered ⊢
  obtain ⟨stepsTo, mode, isDirectory⟩ := entered
  have differ : next ≠ place := by
    rintro rfl
    exact free mode isDirectory
  exact ⟨stepsTo, mode, by rw [node?_put_of_ne store node differ, isDirectory]⟩

theorem foldlM_enter_put (free : ∀ mode, store.node? place ≠ some (.directory mode))
    (node : Node) {parts : List String} {start last : Place}
    (followed : parts.foldlM store.enter start = .ok last) :
    parts.foldlM (store.put place node).enter start = .ok last := by
  induction parts generalizing start with
  | nil => exact followed
  | cons part rest ih =>
      rw [List.foldlM_cons] at followed ⊢
      obtain ⟨next, entered, followedRest⟩ := exists_of_bind_eq_ok followed
      rw [enter_put free node entered]
      exact ih followedRest

theorem container_put (free : ∀ mode, store.node? place ≠ some (.directory mode))
    (node : Node) {path : Path} {directory : Place}
    (found : store.container path = .ok directory) :
    (store.put place node).container path = .ok directory := by
  obtain ⟨parts, followable, followed⟩ := exists_of_bind_eq_ok found
  rw [container, followable]
  exact foldlM_enter_put free node followed

end Put

/-! ## The place of a file to write -/

/-- What is known of a path that can be written to at a place. -/
structure Leads (store : FileStore) (path : Path) (place : Place) : Prop where
  noSlash : path.endsInSlash = false
  free : ∀ mode, store.node? place ≠ some (.directory mode)
  final : ∃ directory part, store.container path = .ok directory ∧
    path.parts.getLast? = some part ∧ step directory part = .ok place

theorem leads_of_target {store : FileStore} {path : Path} {newMode mode : Nat} {place : Place}
    (found : store.target path newMode = .ok (place, mode)) : store.Leads path place := by
  obtain ⟨directory, contained, found⟩ := exists_of_bind_eq_ok found
  split at found
  · cases found
  · rename_i noSlash
    rw [Bool.not_eq_true] at noSlash
    split at found
    · cases found
    · rename_i part isLast
      obtain ⟨stepped, stepsTo, found⟩ := exists_of_bind_eq_ok found
      have final : ∃ directory part, store.container path = .ok directory ∧
          path.parts.getLast? = some part ∧ step directory part = .ok stepped :=
        ⟨directory, part, contained, isLast, stepsTo⟩
      split at found
      · rename_i absent
        obtain ⟨rfl, -⟩ := Prod.mk.inj (Except.ok.inj found)
        exact ⟨noSlash, by simp [absent], final⟩
      · rename_i isFile
        obtain ⟨rfl, -⟩ := Prod.mk.inj (Except.ok.inj found)
        exact ⟨noSlash, by simp [isFile], final⟩
      · cases found

namespace Leads

variable {store : FileStore} {path : Path} {place : Place}

/-- The path leads to the place, whether or not a file is there. -/
theorem locate_eq (leads : store.Leads path place) : store.locate path = .ok place := by
  obtain ⟨directory, part, contained, isLast, stepsTo⟩ := leads.final
  rw [locate, contained]
  simp only [bind, Except.bind, isLast, stepsTo]

/-- A file that is put at the place does not close the way to it. -/
theorem put (leads : store.Leads path place) (content : List UInt8) (mode : Nat) :
    (store.put place (.file content mode)).Leads path place := by
  obtain ⟨directory, part, contained, isLast, stepsTo⟩ := leads.final
  exact ⟨leads.noSlash, by simp [node?_put_self], directory, part,
    container_put leads.free _ contained, isLast, stepsTo⟩

/-- A file that is put at the place is the one that the path leads to. -/
theorem lookup_put (leads : store.Leads path place) (content : List UInt8) (mode : Nat) :
    (store.put place (.file content mode)).lookup path = .ok (place, .file content mode) := by
  rw [lookup, (leads.put content mode).locate_eq]
  simp [bind, Except.bind, node?_put_self, leads.noSlash]

end Leads

/-! ## Private files -/

/-- The bits that are taken from the group and from others can always be taken. -/
theorem writePrivate_eq (store : FileStore) (path : Path) (content : List UInt8) :
    store.writePrivate path content = (store.target path privateMode).map fun found =>
      store.put found.1 (.file content privateMode) := by
  rw [writePrivate, overwrite]
  cases found : store.target path privateMode with
  | error error => rfl
  | ok target =>
      obtain ⟨place, mode⟩ := target
      have led := (leads_of_target found).lookup_put content mode
      simp only [bind, Except.bind, Except.map, setMode, led, put_put]
      rfl

/-- A file can be written for its owner alone exactly where a file can be written. -/
theorem isOk_writePrivate (store : FileStore) (path : Path) (content : List UInt8) :
    (store.writePrivate path content).isOk = (store.target path privateMode).isOk := by
  rw [writePrivate_eq]
  cases store.target path privateMode <;> rfl

/--
What writing a file for its owner alone makes of a store: the path leads to the
same place as before, where the content now is, and all other places are as they
were.
-/
structure Replaces (store : FileStore) (path : Path) (content : List UInt8) (saved : FileStore)
    (place : Place) : Prop where
  located : store.locate path = .ok place
  stays : saved.locate path = .ok place
  file : saved.lookup path = .ok (place, .file content privateMode)
  elsewhere : ∀ other, other ≠ place → saved.node? other = store.node? other

theorem exists_replaces {store saved : FileStore} {path : Path} {content : List UInt8}
    (written : store.writePrivate path content = .ok saved) :
    ∃ place, store.Replaces path content saved place := by
  rw [writePrivate_eq] at written
  cases found : store.target path privateMode with
  | error error =>
      rw [found] at written
      cases written
  | ok target =>
      rw [found] at written
      obtain rfl := Except.ok.inj written
      have leads := leads_of_target found
      exact ⟨target.1, leads.locate_eq, (leads.put content privateMode).locate_eq,
        leads.lookup_put content privateMode,
        fun other differ => node?_put_of_ne store _ differ⟩

/-- The content that was written for the owner alone is read back. -/
theorem read_of_writePrivate {store saved : FileStore} {path : Path} {content : List UInt8}
    (written : store.writePrivate path content = .ok saved) : saved.read path = .ok content := by
  obtain ⟨place, replaces⟩ := exists_replaces written
  rw [read, openFile, replaces.file]
  rfl

end CommandShell.FileStore
