import CommandShell.Command.Registry
import CommandShell.Proofs.ByteOrder
import Mathlib.Data.List.Induction
import Mathlib.Data.List.Nodup

/-!
# The first registration of a name wins

After any registrations and removals a new registry has, under each name, the
command of the earliest registration that was accepted since the name was taken
out last.  Commands are listed in the order of their names, so the listing tells
nothing of the order in which they came.
-/

namespace CommandShell

namespace NameTable

variable {α : Type}

/-! ## Entries and look-ups -/

theorem firstValue?_eq_some_iff_mem {entries : List (String × α)}
    (sorted : (entries.map Prod.fst).Pairwise (· < ·)) (name : String) (value : α) :
    firstValue? name entries = some value ↔ (name, value) ∈ entries := by
  induction entries with
  | nil => simp [firstValue?]
  | cons entry rest ih =>
      obtain ⟨above, restSorted⟩ := List.pairwise_cons.mp sorted
      rw [firstValue?, List.mem_cons]
      split
      · rename_i atHead
        have elsewhere : (name, value) ∉ rest := by
          intro member
          have less := above name (List.mem_map_of_mem member)
          exact String.lt_irrefl name (atHead ▸ less)
        rw [Option.some.injEq, or_iff_left elsewhere, Prod.ext_iff]
        exact ⟨fun same => ⟨atHead, same.symm⟩, fun same => same.2.symm⟩
      · rename_i notHead
        rw [ih restSorted, or_iff_right]
        exact fun same => notHead (congrArg Prod.fst same)

/-- A value is found under a name exactly when they make up an entry. -/
theorem find?_eq_some_iff_mem (table : NameTable α) (name : String) (value : α) :
    table.find? name = some value ↔ (name, value) ∈ table.entries :=
  firstValue?_eq_some_iff_mem table.sorted name value

theorem le_of_lt {name other : String} (less : name < other) : name ≤ other :=
  String.not_lt.mp fun greater => String.lt_irrefl name (String.lt_trans less greater)

theorem size_eq_length_names (table : NameTable α) : table.size = table.names.length :=
  (List.length_map Prod.fst).symm

end NameTable

namespace Registry

/-! ## What an operation does -/

/-- A command is refused if its name is empty or taken, and otherwise stands under its name. -/
theorem register_cases (registry : Registry) (command : Command) :
    (command.name = "" ∨ registry.contains command.name = true) ∧
        (registry.register command).value = (registry, false) ∨
      ∃ named : command.name ≠ "", registry.contains command.name = false ∧
        (registry.register command).value = (registry.insert command named, true) := by
  unfold register add
  by_cases unnamed : command.name = ""
  · refine Or.inl ⟨Or.inl unnamed, ?_⟩
    rw [dif_pos unnamed]
  · cases taken : registry.contains command.name with
    | true =>
        refine Or.inl ⟨Or.inr rfl, ?_⟩
        rw [dif_neg unnamed, if_pos rfl]
    | false =>
        refine Or.inr ⟨unnamed, rfl, ?_⟩
        rw [dif_neg unnamed, if_neg Bool.false_ne_true]

theorem unregister_cases (registry : Registry) (name : String) :
    registry.contains name = false ∧ (registry.unregister name).value = (registry, false) ∨
      registry.contains name = true ∧
        (registry.unregister name).value = (registry.erase name, true) := by
  unfold unregister
  cases registry.contains name with
  | true => exact Or.inr ⟨rfl, rfl⟩
  | false => exact Or.inl ⟨rfl, rfl⟩

theorem contains_eq_false_iff (registry : Registry) (name : String) :
    registry.contains name = false ↔ registry.find? name = none :=
  Option.isSome_eq_false_iff.trans Option.isNone_iff_eq_none

theorem register_refused_iff (registry : Registry) (command : Command) :
    (registry.register command).value.2 = false ↔
      command.name = "" ∨ registry.contains command.name = true := by
  rcases registry.register_cases command with ⟨reason, refused⟩ | ⟨named, free, accepted⟩
  · rw [refused]
    exact iff_of_true rfl reason
  · rw [accepted]
    simp [named, free]

theorem unregister_refused_iff (registry : Registry) (name : String) :
    (registry.unregister name).value.2 = false ↔ registry.contains name = false := by
  rcases registry.unregister_cases name with ⟨absent, refused⟩ | ⟨present, removed⟩
  · rw [refused, absent]
  · rw [removed, present]

theorem register_eq_of_refused {registry : Registry} {command : Command}
    (refused : (registry.register command).value.2 = false) :
    (registry.register command).value.1 = registry := by
  rcases registry.register_cases command with ⟨-, same⟩ | ⟨_, -, accepted⟩
  · rw [same]
  · rw [accepted] at refused
    cases refused

theorem unregister_eq_of_refused {registry : Registry} {name : String}
    (refused : (registry.unregister name).value.2 = false) :
    (registry.unregister name).value.1 = registry := by
  rcases registry.unregister_cases name with ⟨-, same⟩ | ⟨-, removed⟩
  · rw [same]
  · rw [removed] at refused
    cases refused

/-- An accepted registration puts the command under its name; any other changes nothing. -/
theorem find?_register (registry : Registry) (command : Command) (name : String) :
    (registry.register command).value.1.find? name =
      if name = command.name ∧ (registry.register command).value.2 = true then some command
      else registry.find? name := by
  rcases registry.register_cases command with ⟨-, refused⟩ | ⟨named, -, accepted⟩
  · simp [refused]
  · simp [accepted, insert, Registry.find?]

theorem find?_unregister (registry : Registry) (other name : String) :
    (registry.unregister other).value.1.find? name =
      if name = other then none else registry.find? name := by
  rcases registry.unregister_cases other with ⟨absent, refused⟩ | ⟨-, removed⟩
  · rw [refused]
    split
    · rename_i same
      exact same ▸ (registry.contains_eq_false_iff other).mp absent
    · rfl
  · rw [removed]
    exact NameTable.find?_erase registry.commands other name

/-- A command that stands under a name is not replaced. -/
theorem find?_register_of_find? {registry : Registry} {name : String} {command : Command}
    (found : registry.find? name = some command) (other : Command) :
    (registry.register other).value.1.find? name = some command := by
  rw [find?_register, if_neg]
  · exact found
  · rintro ⟨rfl, accepted⟩
    have free : registry.contains other.name = true := by
      rw [contains, NameTable.contains]
      exact Option.isSome_of_eq_some found
    rw [(registry.register_refused_iff other).mpr (Or.inr free)] at accepted
    cases accepted

theorem find?_unregister_of_ne {registry : Registry} {name other : String}
    (different : name ≠ other) :
    (registry.unregister other).value.1.find? name = registry.find? name := by
  rw [find?_unregister, if_neg different]

/-! ## Operations one after the other -/

/-- What can be done to a registry. -/
inductive Operation where
  | register (command : Command)
  | unregister (name : String)

/-- The registry after an operation. -/
def perform (registry : Registry) : Operation → Registry
  | .register command => (registry.register command).value.1
  | .unregister name => (registry.unregister name).value.1

/-- The registry after operations. -/
def performAll (registry : Registry) (operations : List Operation) : Registry :=
  operations.foldl perform registry

theorem performAll_append (registry : Registry) (first second : List Operation) :
    registry.performAll (first ++ second) = (registry.performAll first).performAll second :=
  List.foldl_append

/-- A command stands under its name until the name is taken out. -/
theorem find?_performAll_of_find? {registry : Registry} {name : String} {command : Command}
    (found : registry.find? name = some command) {operations : List Operation}
    (kept : .unregister name ∉ operations) :
    (registry.performAll operations).find? name = some command := by
  induction operations generalizing registry with
  | nil => exact found
  | cons operation rest ih =>
      obtain ⟨differs, keptLater⟩ := not_or.mp (mt List.mem_cons.mpr kept)
      refine ih ?_ keptLater
      cases operation with
      | register other => exact find?_register_of_find? found other
      | unregister other =>
          have different : name ≠ other := fun same => differs (congrArg Operation.unregister same)
          exact (find?_unregister_of_ne different).trans found

/-- A free name stays free until it is registered. -/
theorem find?_performAll_of_free {registry : Registry} {name : String}
    (free : registry.find? name = none) {operations : List Operation}
    (unused : ∀ command, .register command ∈ operations → command.name ≠ name) :
    (registry.performAll operations).find? name = none := by
  induction operations generalizing registry with
  | nil => exact free
  | cons operation rest ih =>
      refine ih ?_ fun command member => unused command (List.mem_cons_of_mem _ member)
      cases operation with
      | register command =>
          have different : command.name ≠ name := unused command List.mem_cons_self
          exact (find?_register registry command name).trans
            ((if_neg fun same => different same.1.symm).trans free)
      | unregister other =>
          refine (find?_unregister registry other name).trans ?_
          split
          · rfl
          · exact free

theorem registerAll_eq_performAll (registry : Registry) (commands : List Command) :
    (registry.registerAll commands).value.1 = registry.performAll (commands.map .register) := by
  induction commands generalizing registry with
  | nil => rfl
  | cons command rest ih => exact ih (registry.register command).value.1

/-! ## The earliest accepted registration -/

/-- Holds of a command that is accepted after operations on a new registry. -/
def Accepts (before : List Operation) (command : Command) : Prop :=
  ((empty.performAll before).register command).value.2 = true

/--
Holds of the command that was given in the earliest accepted registration of a
name since it was taken out last: the name is not taken out afterwards, and it
was taken out after every accepted registration before.
-/
def CameFirst (name : String) (command : Command) (operations : List Operation) : Prop :=
  ∃ before after, operations = before ++ .register command :: after ∧ command.name = name ∧
    Accepts before command ∧ .unregister name ∉ after ∧
      ∀ front other between, before = front ++ .register other :: between → other.name = name →
        Accepts front other → .unregister name ∈ between

/-- After an accepted registration the command stands under its name until that is taken out. -/
theorem find?_of_accepts {front between : List Operation} {command : Command}
    (accepted : Accepts front command) (kept : .unregister command.name ∉ between) :
    (empty.performAll (front ++ .register command :: between)).find? command.name =
      some command := by
  have added : ((empty.performAll front).register command).value.1.find? command.name =
      some command := (find?_register _ command command.name).trans (if_pos ⟨rfl, accepted⟩)
  rw [performAll_append]
  exact find?_performAll_of_find? added kept

/-- A name that has no command was taken out after every accepted registration. -/
theorem unregister_mem_of_find?_eq_none {operations : List Operation} {name : String}
    (absent : (empty.performAll operations).find? name = none) {front between : List Operation}
    {other : Command} (split : operations = front ++ .register other :: between)
    (sameName : other.name = name) (accepted : Accepts front other) :
    .unregister name ∈ between := by
  by_contra kept
  subst split sameName
  rw [find?_of_accepts accepted kept] at absent
  cases absent

theorem cameFirst_of_find? {operations : List Operation} {name : String} {command : Command}
    (found : (empty.performAll operations).find? name = some command) :
    CameFirst name command operations := by
  -- The last operation has either put the command there or left it there.
  induction operations using List.reverseRecOn with
  | nil => cases found
  | append_singleton operations operation ih =>
      rw [performAll_append] at found
      cases operation with
      | register other =>
          have step := find?_register (empty.performAll operations) other name
          by_cases here : name = other.name ∧ Accepts operations other
          · obtain rfl : other = command :=
              Option.some.inj ((step.trans (if_pos here)).symm.trans found)
            obtain ⟨rfl, accepted⟩ := here
            have absent := (contains_eq_false_iff _ _).mp <| by
              rw [← Bool.not_eq_true]
              intro taken
              have refused := (register_refused_iff _ other).mpr (Or.inr taken)
              rw [accepted] at refused
              cases refused
            exact ⟨operations, [], rfl, rfl, accepted, List.not_mem_nil,
              fun _ _ _ => unregister_mem_of_find?_eq_none absent⟩
          · obtain ⟨before, after, rfl, named, accepted, kept, earlier⟩ :=
              ih ((step.trans (if_neg here)).symm.trans found)
            exact ⟨before, after ++ [.register other], by simp, named, accepted, by simp [kept],
              earlier⟩
      | unregister other =>
          have step := find?_unregister (empty.performAll operations) other name
          by_cases here : name = other
          · cases found.symm.trans (step.trans (if_pos here))
          · obtain ⟨before, after, rfl, named, accepted, kept, earlier⟩ :=
              ih ((step.trans (if_neg here)).symm.trans found)
            exact ⟨before, after ++ [.unregister other], by simp, named, accepted,
              by simp [kept, here], earlier⟩

theorem find?_performAll_eq_some_iff (operations : List Operation) (name : String)
    (command : Command) :
    (empty.performAll operations).find? name = some command ↔
      CameFirst name command operations := by
  constructor
  · exact cameFirst_of_find?
  · rintro ⟨before, after, rfl, rfl, accepted, kept, -⟩
    exact find?_of_accepts accepted kept

/-! ## Listings -/

/-- The commands in the order of their names. -/
def sortedCommands (registry : Registry) : List Command :=
  registry.commands.values

/-- Every command is kept under its own name, which is not empty. -/
theorem named_of_mem {registry : Registry} {entry : String × Command}
    (member : entry ∈ registry.commands.entries) : entry.2.name = entry.1 ∧ entry.1 ≠ "" :=
  registry.named ((NameTable.find?_eq_some_iff_mem registry.commands entry.1 entry.2).mpr member)

theorem sortedCommands_map_name (registry : Registry) :
    registry.sortedCommands.map Command.name = registry.names := by
  rw [sortedCommands, NameTable.values, List.map_map]
  exact List.map_congr_left fun entry member => (named_of_mem member).1

theorem schemas_map_name (registry : Registry) :
    registry.schemas.map Schema.name = registry.names := by
  rw [schemas, List.map_map]
  exact registry.sortedCommands_map_name

theorem sorted_names (registry : Registry) : registry.names.Pairwise (· < ·) :=
  registry.commands.sorted

theorem sorted_sortedCommands (registry : Registry) :
    registry.sortedCommands.Pairwise fun first second => first.name < second.name := by
  rw [← List.pairwise_map (f := Command.name), sortedCommands_map_name]
  exact registry.sorted_names

/-- The names have one arrangement in order, whatever order they are taken from. -/
theorem eq_names_of_perm {registry : Registry} {names : List String}
    (perm : names.Perm registry.names) (sorted : names.Pairwise (· ≤ ·)) :
    names = registry.names := by
  refine perm.eq_of_pairwise ?_ sorted (registry.sorted_names.imp NameTable.le_of_lt)
  intro first second _ _ le ge
  exact String.le_antisymm le ge

/-- So have the commands, since no two of them have the same name. -/
theorem eq_sortedCommands_of_perm {registry : Registry} {commands : List Command}
    (perm : commands.Perm registry.sortedCommands)
    (sorted : commands.Pairwise fun first second => first.name ≤ second.name) :
    commands = registry.sortedCommands := by
  have distinct : (registry.sortedCommands.map Command.name).Nodup := by
    rw [sortedCommands_map_name]
    exact registry.sorted_names.imp String.ne_of_lt
  refine perm.eq_of_pairwise ?_ sorted
    (registry.sorted_sortedCommands.imp NameTable.le_of_lt)
  intro first second inFirst inSecond le ge
  exact List.inj_on_of_nodup_map distinct (perm.subset inFirst) inSecond (String.le_antisymm le ge)

/-- Registries with the same entries are the same. -/
theorem eq_of_entries {first second : Registry}
    (same : ∀ entry, entry ∈ first.commands.entries ↔ entry ∈ second.commands.entries) :
    first = second := by
  have commands : first.commands = second.commands := by
    refine NameTable.ext_find? fun name => Option.ext fun command => ?_
    rw [NameTable.find?_eq_some_iff_mem, NameTable.find?_eq_some_iff_mem]
    exact same (name, command)
  obtain ⟨_, _⟩ := first
  cases commands
  rfl

/-! ## What a registry promises -/

/--
What a registry promises after operations on a new one: which command stands
under a name, what is refused, that nothing but the named command is touched,
and how names and commands are listed.
-/
structure KeepsFirst (registry : Registry) (operations : List Operation) : Prop where
  find?_eq_some_iff : ∀ name command,
    registry.find? name = some command ↔ CameFirst name command operations
  find?_eq_none_iff : ∀ name,
    registry.find? name = none ↔ ∀ command, ¬ CameFirst name command operations
  named : ∀ entry ∈ registry.commands.entries, entry.2.name = entry.1 ∧ entry.1 ≠ ""
  register_refused_iff : ∀ command, (registry.register command).value.2 = false ↔
    command.name = "" ∨ registry.contains command.name = true
  register_refused : ∀ command, (registry.register command).value.2 = false →
    (registry.register command).value.1 = registry
  register_others : ∀ command name, name ≠ command.name →
    (registry.register command).value.1.find? name = registry.find? name
  unregister_refused_iff : ∀ name,
    (registry.unregister name).value.2 = false ↔ registry.contains name = false
  unregister_refused : ∀ name, (registry.unregister name).value.2 = false →
    (registry.unregister name).value.1 = registry
  unregister_others : ∀ other name, name ≠ other →
    (registry.unregister other).value.1.find? name = registry.find? name
  sorted : registry.names.Pairwise (· < ·)
  sorted_bytes : (registry.names.map textBytes).Pairwise (· < ·)
  listed : registry.sortedCommands.map Command.name = registry.names
  listed_schemas : registry.schemas.map Schema.name = registry.names
  mem_names_iff : ∀ name, name ∈ registry.names ↔ registry.contains name = true
  size : registry.size = registry.names.length
  /-- However the names are arranged at first, sorting them gives this listing. -/
  names_of_perm : ∀ names : List String, names.Perm registry.names →
    names.Pairwise (· ≤ ·) → names = registry.names
  commands_of_perm : ∀ commands : List Command, commands.Perm registry.sortedCommands →
    (commands.Pairwise fun first second => first.name ≤ second.name) →
      commands = registry.sortedCommands

/--
After any operations a new registry has the commands that came first, and it is
the same registry as after any other operations that leave the same entries.
-/
theorem keepsFirst_performAll (operations : List Operation) :
    (empty.performAll operations).KeepsFirst operations ∧
      ∀ others, (∀ entry, entry ∈ (empty.performAll operations).commands.entries ↔
        entry ∈ (empty.performAll others).commands.entries) →
          empty.performAll operations = empty.performAll others := by
  have found := find?_performAll_eq_some_iff operations
  refine ⟨?_, fun others => eq_of_entries⟩
  exact {
    find?_eq_some_iff := found
    find?_eq_none_iff := by
      intro name
      simp only [Option.eq_none_iff_forall_ne_some, ne_eq, found]
    named := fun entry => named_of_mem
    register_refused_iff := register_refused_iff _
    register_refused := fun command => register_eq_of_refused
    register_others := by
      intro command name different
      rw [find?_register, if_neg (fun here => different here.1)]
    unregister_refused_iff := unregister_refused_iff _
    unregister_refused := fun name => unregister_eq_of_refused
    unregister_others := fun other name => find?_unregister_of_ne
    sorted := sorted_names _
    sorted_bytes := by
      rw [List.pairwise_map]
      refine (sorted_names _).imp ?_
      intro first second less
      exact (textBytes_lt_iff first second).mpr less
    listed := sortedCommands_map_name _
    listed_schemas := schemas_map_name _
    mem_names_iff := fun name => (NameTable.contains_eq_true_iff _ name).symm
    size := NameTable.size_eq_length_names _
    names_of_perm := fun names => eq_names_of_perm
    commands_of_perm := fun commands => eq_sortedCommands_of_perm }

end Registry

end CommandShell
