import CommandShell.Command.Reading

/-!
# The syntax of invocations

The tokens after the name of a command divide into groups: a token that refers
to no flag, a reference to a switch, or a reference to another flag with the
token after it.  Reading tokens gives an invocation exactly when they divide
completely, no required flag is missing and the number of arguments fits.
-/

namespace CommandShell

/-! ## References to flags -/

namespace Schema

/--
How a token refers to a flag.  Two dashes come first: a token of two dashes
refers to the long name that is empty, also where a dash is declared as alias.
-/
inductive Refers (schema : Schema) : Token → FlagReference → Prop where
  | long {token : Token} {name : List Char} (unquoted : token.quoted = false)
      (text : token.text.toList = '-' :: '-' :: name) :
      Refers schema token (.long (String.ofList name))
  | short {token : Token} {c : Char} (unquoted : token.quoted = false)
      (text : token.text.toList = ['-', c]) (noDash : c ≠ '-')
      (known : Text.isAlphabetic c = true ∨ ∃ flag ∈ schema.flags, flag.short = some c) :
      Refers schema token (.short c)

/-- Two dashes and a name outside quotes refer to the flag of the name. -/
theorem refers_dashes (schema : Schema) (name : String) :
    schema.Refers ⟨"--" ++ name, false⟩ (.long name) := by
  have refers : schema.Refers ⟨"--" ++ name, false⟩ (.long (String.ofList name.toList)) :=
    .long rfl (by simp)
  rwa [String.ofList_toList] at refers

/-- The first declared flag with a property. -/
def FirstFlag (schema : Schema) (holds : Flag → Prop) (flag : Flag) : Prop :=
  holds flag ∧ ∃ before later, schema.flags = before ++ flag :: later ∧
    ∀ other ∈ before, ¬ holds other

/-- The flag that a reference resolves to. -/
def Resolves (schema : Schema) : FlagReference → Flag → Prop
  | .long name => schema.FirstFlag fun flag => flag.name = name
  | .short c => schema.FirstFlag fun flag => flag.short = some c

theorem findShort?_isSome_iff (schema : Schema) (c : Char) :
    (schema.findShort? c).isSome = true ↔ ∃ flag ∈ schema.flags, flag.short = some c := by
  simp [findShort?]

/-- A token refers to a flag exactly as the declarative rule says. -/
theorem reference?_eq_some_iff (schema : Schema) (token : Token) (reference : FlagReference) :
    schema.reference? token = some reference ↔ schema.Refers token reference := by
  constructor
  · intro found
    unfold reference? at found
    split at found
    · cases found
    · rename_i unquoted
      rw [Bool.not_eq_true] at unquoted
      split at found
      · rename_i name text
        obtain rfl := Option.some.inj found
        exact .long unquoted text
      · rename_i c notLong text
        split at found
        · rename_i known
          obtain rfl := Option.some.inj found
          rw [Bool.or_eq_true, findShort?_isSome_iff] at known
          exact .short unquoted text notLong known
        · cases found
      · cases found
  · intro refers
    cases refers with
    | long unquoted text => simp [reference?, unquoted, text]
    | short unquoted text noDash known =>
        rw [← findShort?_isSome_iff, ← Bool.or_eq_true] at known
        simp [reference?, unquoted, text, known]

theorem reference?_eq_none_iff (schema : Schema) (token : Token) :
    schema.reference? token = none ↔ ∀ reference, ¬ schema.Refers token reference := by
  simp only [Option.eq_none_iff_forall_ne_some, ne_eq, reference?_eq_some_iff]

theorem find?_eq_some_iff_firstFlag (schema : Schema) {test : Flag → Bool} {holds : Flag → Prop}
    (agree : ∀ flag, test flag = true ↔ holds flag) (flag : Flag) :
    schema.flags.find? test = some flag ↔ schema.FirstFlag holds flag := by
  simp only [List.find?_eq_some_iff_append, FirstFlag, agree, Bool.not_eq_true', ← Bool.not_eq_true]

/-- A reference resolves to the first declared flag that has its name or its alias. -/
theorem resolve?_eq_some_iff (schema : Schema) (reference : FlagReference) (flag : Flag) :
    schema.resolve? reference = some flag ↔ schema.Resolves reference flag := by
  cases reference with
  | long name => exact schema.find?_eq_some_iff_firstFlag (fun _ => beq_iff_eq) flag
  | short c => exact schema.find?_eq_some_iff_firstFlag (fun _ => beq_iff_eq) flag

/-- The name of a declared flag resolves, if not to the flag then to one declared before it. -/
theorem exists_resolves_long {schema : Schema} {flag : Flag} (declared : flag ∈ schema.flags) :
    ∃ first, schema.Resolves (.long flag.name) first := by
  have found : (schema.findFlag? flag.name).isSome = true :=
    List.find?_isSome.mpr ⟨flag, declared, beq_self_eq_true flag.name⟩
  obtain ⟨first, found⟩ := Option.isSome_iff_exists.mp found
  exact ⟨first, (schema.resolve?_eq_some_iff (.long flag.name) first).mp found⟩

/-! ## Groups of tokens -/

/--
Tokens that divide from left to right into groups, with the items that the
groups stand for.
-/
inductive Divides (schema : Schema) : List Token → List Item → Prop where
  | done : Divides schema [] []
  | argument {token : Token} {rest : List Token} {items : List Item}
      (noFlag : ∀ reference, ¬ schema.Refers token reference) (later : Divides schema rest items) :
      Divides schema (token :: rest) (.argument token.text :: items)
  | switch {token : Token} {reference : FlagReference} {flag : Flag} {rest : List Token}
      {items : List Item} (refers : schema.Refers token reference)
      (resolves : schema.Resolves reference flag) (type : flag.type = .switch)
      (later : Divides schema rest items) :
      Divides schema (token :: rest) (.assignment flag.name (.switch true) :: items)
  | valued {token operand : Token} {reference : FlagReference} {flag : Flag} {value : Value}
      {rest : List Token} {items : List Item} (refers : schema.Refers token reference)
      (resolves : schema.Resolves reference flag) (type : flag.type ≠ .switch)
      (read : Value.read? operand.text flag.type = some value) (later : Divides schema rest items) :
      Divides schema (token :: operand :: rest) (.assignment flag.name value :: items)

theorem eq_cons_of_map_eq_ok {result : Except ReadingError (List Item)} {item : Item}
    {items : List Item} (read : result.map (item :: ·) = .ok items) :
    ∃ later, result = .ok later ∧ items = item :: later := by
  cases result with
  | error error => cases read
  | ok later => exact ⟨later, rfl, (Except.ok.inj read).symm⟩

theorem eq_error_of_map_eq_error {result : Except ReadingError (List Item)} {item : Item}
    {error : ReadingError} (refused : result.map (item :: ·) = .error error) :
    result = .error error := by
  cases result with
  | error other => exact congrArg Except.error (Except.error.inj refused)
  | ok later => cases refused

/-- What is read divides the tokens. -/
theorem divides_of_readItems (schema : Schema) {tokens : List Token} {items : List Item}
    (read : schema.readItems tokens = .ok items) : schema.Divides tokens items := by
  fun_induction schema.readItems tokens generalizing items with
  | case1 =>
      obtain rfl := Except.ok.inj read
      exact .done
  | case2 token rest noFlag ih =>
      obtain ⟨later, readLater, rfl⟩ := eq_cons_of_map_eq_ok read
      exact .argument ((schema.reference?_eq_none_iff token).mp noFlag) (ih readLater)
  | case3 => cases read
  | case4 token rest reference refers flag resolves type ih =>
      obtain ⟨later, readLater, rfl⟩ := eq_cons_of_map_eq_ok read
      exact .switch ((schema.reference?_eq_some_iff token reference).mp refers)
        ((schema.resolve?_eq_some_iff reference flag).mp resolves) type (ih readLater)
  | case5 => cases read
  | case6 => cases read
  | case7 token reference refers flag resolves type operand rest value readValue ih =>
      obtain ⟨later, readLater, rfl⟩ := eq_cons_of_map_eq_ok read
      exact .valued ((schema.reference?_eq_some_iff token reference).mp refers)
        ((schema.resolve?_eq_some_iff reference flag).mp resolves) type readValue (ih readLater)

/-- Groups are read as the items that they stand for, and then the tokens after them are read. -/
theorem readItems_append {schema : Schema} {tokens : List Token} {items : List Item}
    (divides : schema.Divides tokens items) (rest : List Token) :
    schema.readItems (tokens ++ rest) = (schema.readItems rest).map (items ++ ·) := by
  induction divides with
  | done => cases read : schema.readItems rest <;> simp [read, Except.map]
  | argument noFlag later ih =>
      rw [List.cons_append, readItems, (schema.reference?_eq_none_iff _).mpr noFlag]
      simp only [ih]
      cases schema.readItems rest <;> rfl
  | switch refers resolves type later ih =>
      rw [List.cons_append, readItems, (schema.reference?_eq_some_iff _ _).mpr refers]
      simp only [(schema.resolve?_eq_some_iff _ _).mpr resolves, type, if_true, ih]
      cases schema.readItems rest <;> rfl
  | valued refers resolves type read later ih =>
      rw [List.cons_append, List.cons_append, readItems,
        (schema.reference?_eq_some_iff _ _).mpr refers]
      simp only [(schema.resolve?_eq_some_iff _ _).mpr resolves, type, if_false, read, ih]
      cases schema.readItems rest <;> rfl

/-- Tokens that divide are read as the items of the division, so there is only one. -/
theorem readItems_of_divides {schema : Schema} {tokens : List Token} {items : List Item}
    (divides : schema.Divides tokens items) : schema.readItems tokens = .ok items := by
  have read := readItems_append divides []
  rw [List.append_nil] at read
  rw [read, readItems, Except.map, List.append_nil]

theorem readItems_eq_ok_iff (schema : Schema) (tokens : List Token) (items : List Item) :
    schema.readItems tokens = .ok items ↔ schema.Divides tokens items :=
  ⟨schema.divides_of_readItems, readItems_of_divides⟩

end Schema

/-! ## What items give an invocation -/

namespace Item

/-- Holds when the last assignment of a flag among the items gives the value. -/
inductive LastAssigns (flag : String) (value : Value) : List Item → Prop where
  | here {later : List Item} (final : ∀ other, assignment flag other ∉ later) :
      LastAssigns flag value (assignment flag value :: later)
  | later {item : Item} {rest : List Item} (last : LastAssigns flag value rest) :
      LastAssigns flag value (item :: rest)

/-- The table after one more item. -/
def enter (table : NameTable Value) : Item → NameTable Value
  | argument _ => table
  | assignment flag value => table.insert flag value

theorem LastAssigns.mem {flag : String} {value : Value} {items : List Item}
    (last : LastAssigns flag value items) : assignment flag value ∈ items := by
  induction last with
  | here => exact List.mem_cons_self
  | later _ ih => exact List.mem_cons_of_mem _ ih

theorem not_lastAssigns_nil (flag : String) (value : Value) : ¬ LastAssigns flag value [] := by
  intro last
  cases last

theorem lastAssigns_cons_iff {flag : String} {value : Value} {item : Item} {rest : List Item} :
    LastAssigns flag value (item :: rest) ↔
      LastAssigns flag value rest ∨
        item = assignment flag value ∧ ∀ other, assignment flag other ∉ rest := by
  constructor
  · intro last
    cases last with
    | here final => exact Or.inr ⟨rfl, final⟩
    | later last => exact Or.inl last
  · rintro (last | ⟨rfl, final⟩)
    · exact .later last
    · exact .here final

/--
Entering items one after the other keeps the last value of each flag; a flag
that they do not assign keeps its value in the table.
-/
theorem find?_foldl_enter (items : List Item) (table : NameTable Value) (flag : String)
    (value : Value) :
    (items.foldl enter table).find? flag = some value ↔
      LastAssigns flag value items ∨
        (∀ other, assignment flag other ∉ items) ∧ table.find? flag = some value := by
  -- The table is general: the first item has gone into it when the others are entered.
  induction items generalizing table with
  | nil => simp [not_lastAssigns_nil]
  | cons item rest ih =>
      rw [List.foldl_cons, ih, lastAssigns_cons_iff, or_assoc]
      cases item with
      | argument text => simp [enter]
      | assignment name first =>
          by_cases same : flag = name
          · subst same
            have assigned : ¬ ∀ other, assignment flag other ∉ assignment flag first :: rest :=
              fun none => none first List.mem_cons_self
            simp only [assigned, false_and, or_false]
            simp [enter, and_comm]
          · simp [enter, same, Ne.symm same]

theorem flags_eq_foldl_enter (items : List Item) : flags items = items.foldl enter .empty := by
  unfold flags
  congr

theorem find?_flags_eq_some_iff (items : List Item) (flag : String) (value : Value) :
    (flags items).find? flag = some value ↔ LastAssigns flag value items := by
  rw [flags_eq_foldl_enter, find?_foldl_enter]
  simp

theorem exists_lastAssigns {flag : String} {value : Value} {items : List Item}
    (member : assignment flag value ∈ items) : ∃ last, LastAssigns flag last items := by
  induction items generalizing value with
  | nil => cases member
  | cons item rest ih =>
      by_cases again : ∃ other, assignment flag other ∈ rest
      · obtain ⟨other, inRest⟩ := again
        obtain ⟨last, assigns⟩ := ih inRest
        exact ⟨last, .later assigns⟩
      · have final : ∀ other, assignment flag other ∉ rest := fun other inRest =>
          again ⟨other, inRest⟩
        rcases List.mem_cons.mp member with rfl | inRest
        · exact ⟨value, .here final⟩
        · exact absurd inRest (final value)

/-- A flag has a value exactly when some item assigns one. -/
theorem contains_flags_iff (items : List Item) (flag : String) :
    (flags items).contains flag = true ↔ ∃ value, assignment flag value ∈ items := by
  rw [NameTable.contains, Option.isSome_iff_exists]
  constructor
  · rintro ⟨value, found⟩
    exact ⟨value, ((find?_flags_eq_some_iff items flag value).mp found).mem⟩
  · rintro ⟨value, member⟩
    obtain ⟨last, assigns⟩ := exists_lastAssigns member
    exact ⟨last, (find?_flags_eq_some_iff items flag last).mpr assigns⟩

end Item

/--
The invocation that items give to a command: the arguments in order, and for
each flag the value that comes last.  No required flag is missing, and the
number of arguments is within the bounds.
-/
structure Schema.Admits (schema : Schema) (items : List Item) (invocation : Invocation) :
    Prop where
  arguments : invocation.arguments = Item.arguments items
  flags : ∀ name value,
    invocation.flags.find? name = some value ↔ Item.LastAssigns name value items
  required : ∀ flag ∈ schema.flags, flag.required = true →
    ∃ value, .assignment flag.name value ∈ items
  least : schema.arity.min ≤ (Item.arguments items).length
  most : schema.arity.max = 0 ∨ (Item.arguments items).length ≤ schema.arity.max
  line : invocation.line = none

namespace Schema

theorem missingFlag?_eq_none_iff (schema : Schema) (items : List Item) :
    schema.missingFlag? (Item.flags items) = none ↔
      ∀ flag ∈ schema.flags, flag.required = true →
        ∃ value, .assignment flag.name value ∈ items := by
  simp [missingFlag?, Item.contains_flags_iff]

/-- The invocation of items is the one that the items give, under the name of the schema. -/
theorem invocationOf_eq_ok_iff (schema : Schema) (items : List Item) (invocation : Invocation) :
    schema.invocationOf items = .ok invocation ↔
      invocation.command = schema.name ∧ schema.Admits items invocation := by
  constructor
  · intro read
    unfold invocationOf at read
    dsimp only at read
    split at read
    · cases read
    · rename_i complete
      split at read
      · rename_i fits
        obtain rfl := Except.ok.inj read
        obtain ⟨least, most⟩ := (schema.arity.admits_eq_true_iff _).mp fits
        exact ⟨rfl, ⟨rfl, Item.find?_flags_eq_some_iff items,
          (schema.missingFlag?_eq_none_iff items).mp complete, least, most, rfl⟩⟩
      · cases read
  · rintro ⟨command, admits⟩
    have complete := (schema.missingFlag?_eq_none_iff items).mpr admits.required
    have fits := (schema.arity.admits_eq_true_iff _).mpr ⟨admits.least, admits.most⟩
    have table : Item.flags items = invocation.flags := by
      apply NameTable.ext_find?
      intro name
      apply Option.ext
      intro value
      rw [Item.find?_flags_eq_some_iff, admits.flags]
    rw [invocationOf]
    simp only [complete, fits, if_true]
    rw [table, ← command, ← admits.arguments, ← admits.line]

/-- Reading the tokens after the name divides them and takes the invocation of the items. -/
theorem read_eq_ok_iff (schema : Schema) (tokens : List Token) (invocation : Invocation) :
    schema.read tokens = .ok invocation ↔
      ∃ items, schema.Divides tokens items ∧ invocation.command = schema.name ∧
        schema.Admits items invocation := by
  constructor
  · intro read
    unfold Schema.read at read
    cases readItems : schema.readItems tokens with
    | error error =>
        rw [readItems] at read
        cases read
    | ok items =>
        rw [readItems] at read
        exact ⟨items, (schema.readItems_eq_ok_iff tokens items).mp readItems,
          (schema.invocationOf_eq_ok_iff items invocation).mp read⟩
  · rintro ⟨items, divides, given⟩
    rw [Schema.read, (schema.readItems_eq_ok_iff tokens items).mpr divides]
    exact (schema.invocationOf_eq_ok_iff items invocation).mpr given

end Schema

/-! ## Invocations of registered commands -/

namespace Registry

/-- The schema under a name is that of the command there, and has this name. -/
theorem schema?_eq_some_iff (registry : Registry) (name : String) (schema : Schema) :
    registry.schema? name = some schema ↔
      ∃ command, registry.find? name = some command ∧ command.schema = schema := by
  simp [schema?]

theorem ne_empty_of_schema? (registry : Registry) {name : String} {schema : Schema}
    (registered : registry.schema? name = some schema) : name ≠ "" := by
  obtain ⟨command, found, -⟩ := (registry.schema?_eq_some_iff name schema).mp registered
  exact (registry.named found).2

theorem name_of_find? (registry : Registry) {name : String} {command : Command}
    (found : registry.find? name = some command) : command.schema.name = name :=
  (registry.named found).1

/-- The command, the groups and the items behind an invocation that was read. -/
theorem exists_items_of_readTokens (registry : Registry) {tokens : List Token}
    {invocation : Invocation} (read : registry.readTokens tokens = .ok invocation) :
    ∃ head tail command items, tokens = head :: tail ∧
      registry.find? head.text = some command ∧ command.schema.Divides tail items ∧
      invocation.command = head.text ∧ command.schema.Admits items invocation := by
  cases tokens with
  | nil => cases read
  | cons head tail =>
      cases known : registry.schema? head.text with
      | none =>
          rw [readTokens, known] at read
          cases read
      | some schema =>
          rw [readTokens, known] at read
          obtain ⟨command, found, rfl⟩ := (registry.schema?_eq_some_iff _ _).mp known
          obtain ⟨items, divides, name, admits⟩ := (command.schema.read_eq_ok_iff _ _).mp read
          exact ⟨head, tail, command, items, rfl, found, divides,
            name.trans (registry.name_of_find? found), admits⟩

/--
Reading tokens gives an invocation exactly when the first token names a
registered command and the others divide into groups that give the invocation.
-/
theorem readTokens_eq_ok_iff (registry : Registry) (tokens : List Token)
    (invocation : Invocation) :
    registry.readTokens tokens = .ok invocation ↔
      ∃ head tail command items, tokens = head :: tail ∧
        registry.find? head.text = some command ∧ command.schema.Divides tail items ∧
        invocation.command = head.text ∧ command.schema.Admits items invocation := by
  constructor
  · exact registry.exists_items_of_readTokens
  · rintro ⟨head, tail, command, items, rfl, found, divides, name, admits⟩
    have known := (registry.schema?_eq_some_iff _ _).mpr ⟨command, found, rfl⟩
    rw [readTokens, known]
    exact (command.schema.read_eq_ok_iff _ _).mpr
      ⟨items, divides, name.trans (registry.name_of_find? found).symm, admits⟩

end Registry

end CommandShell
