import CommandShell.Proofs.FlagSyntax

/-!
# Why tokens are no invocation

Tokens can fail to be an invocation in seven ways, and the first that applies is
reported: no token, an unknown command, tokens that cannot be divided any
further, a required flag that is missing, and a number of arguments outside the
bounds.  Where the division stops, a flag is unknown or has no value or an
invalid one.  An unknown command, an unknown flag and an invalid value stay the
fault whatever tokens follow.
-/

namespace CommandShell

namespace Schema

/-! ## How far tokens divide -/

/--
The longest prefix of some tokens that divides into groups, with the items of
the groups and with the tokens that are left.
-/
structure DividesUpTo (schema : Schema) (tokens done rest : List Token) (items : List Item) :
    Prop where
  split : tokens = done ++ rest
  divides : schema.Divides done items
  longest : ∀ {other later : List Token} {others : List Item}, tokens = other ++ later →
    schema.Divides other others → other.length ≤ done.length

/-- Why the tokens that are left begin with no group: a reference to a flag is at fault. -/
inductive Stuck (schema : Schema) : List Token → ReadingError → Prop where
  | unknownFlag {token : Token} {reference : FlagReference} {rest : List Token}
      (refers : schema.Refers token reference)
      (undeclared : ∀ flag, ¬ schema.Resolves reference flag) :
      Stuck schema (token :: rest) (.unknownFlag schema.name token.text)
  | missingValue {token : Token} {reference : FlagReference} {flag : Flag}
      (refers : schema.Refers token reference) (resolves : schema.Resolves reference flag)
      (type : flag.type ≠ .switch) :
      Stuck schema [token] (.missingValue flag.name flag.type)
  | invalidValue {token operand : Token} {reference : FlagReference} {flag : Flag}
      {rest : List Token} (refers : schema.Refers token reference)
      (resolves : schema.Resolves reference flag) (type : flag.type ≠ .switch)
      (unreadable : Value.read? operand.text flag.type = none) :
      Stuck schema (token :: operand :: rest)
        (.invalidValue flag.name flag.type operand.text)

theorem resolve?_eq_none_iff (schema : Schema) (reference : FlagReference) :
    schema.resolve? reference = none ↔ ∀ flag, ¬ schema.Resolves reference flag := by
  simp only [Option.eq_none_iff_forall_ne_some, ne_eq, resolve?_eq_some_iff]

namespace Stuck

variable {schema : Schema} {rest : List Token} {error : ReadingError}

/-- Tokens that begin with no group are refused for that reason. -/
theorem readItems_eq (stuck : schema.Stuck rest error) :
    schema.readItems rest = .error error := by
  cases stuck with
  | unknownFlag refers undeclared =>
      rw [readItems, (schema.reference?_eq_some_iff _ _).mpr refers]
      simp only [(schema.resolve?_eq_none_iff _).mpr undeclared]
  | missingValue refers resolves type =>
      rw [readItems, (schema.reference?_eq_some_iff _ _).mpr refers]
      simp only [(schema.resolve?_eq_some_iff _ _).mpr resolves, type, if_false]
  | invalidValue refers resolves type unreadable =>
      rw [readItems, (schema.reference?_eq_some_iff _ _).mpr refers]
      simp only [(schema.resolve?_eq_some_iff _ _).mpr resolves, type, if_false, unreadable]

/-- A shorter piece of them begins with no group either, maybe for lack of a value. -/
theorem exists_of_append {front later : List Token} (stuck : schema.Stuck (front ++ later) error)
    (nonempty : front ≠ []) : ∃ other, schema.Stuck front other := by
  generalize whole : front ++ later = tokens at stuck
  obtain ⟨first, front, rfl⟩ := List.exists_cons_of_ne_nil nonempty
  cases stuck with
  | unknownFlag refers undeclared =>
      obtain ⟨rfl, -⟩ := List.cons.inj whole
      exact ⟨_, .unknownFlag refers undeclared⟩
  | missingValue refers resolves type =>
      obtain ⟨rfl, none⟩ := List.cons.inj whole
      obtain ⟨rfl, -⟩ := List.append_eq_nil_iff.mp none
      exact ⟨_, .missingValue refers resolves type⟩
  | invalidValue refers resolves type unreadable =>
      obtain ⟨rfl, after⟩ := List.cons.inj whole
      cases front with
      | nil => exact ⟨_, .missingValue refers resolves type⟩
      | cons second front =>
          obtain ⟨rfl, -⟩ := List.cons.inj after
          exact ⟨_, .invalidValue refers resolves type unreadable⟩

/-- Groups up to tokens that begin with no group are the longest prefix that divides. -/
theorem dividesUpTo (stuck : schema.Stuck rest error) {done : List Token} {items : List Item}
    (divides : schema.Divides done items) : schema.DividesUpTo (done ++ rest) done rest items := by
  refine ⟨rfl, divides, ?_⟩
  intro other later others split otherDivides
  rcases List.append_eq_append_iff.mp split with ⟨more, rfl, rfl⟩ | ⟨more, rfl, -⟩
  · by_cases none : more = []
    · simp [none]
    · obtain ⟨fault, refused⟩ := stuck.exists_of_append none
      have read := readItems_of_divides otherDivides
      rw [readItems_append divides, refused.readItems_eq] at read
      cases read
  · simp

end Stuck

/-- Tokens that all divide have no longer prefix that does. -/
theorem Divides.dividesUpTo {schema : Schema} {tokens : List Token} {items : List Item}
    (divides : schema.Divides tokens items) : schema.DividesUpTo tokens tokens [] items := by
  refine ⟨(List.append_nil tokens).symm, divides, ?_⟩
  intro other later others split _
  simp [split]

/-- Tokens divide up to their end, or up to tokens that begin with no group. -/
theorem exists_division (schema : Schema) (tokens : List Token) :
    ∃ done rest items, tokens = done ++ rest ∧ schema.Divides done items ∧
      (rest = [] ∨ ∃ error, schema.Stuck rest error) := by
  fun_induction schema.readItems tokens with
  | case1 => exact ⟨[], [], [], rfl, .done, Or.inl rfl⟩
  | case2 token rest noFlag ih =>
      obtain ⟨done, left, items, rfl, divides, ends⟩ := ih
      have group := Divides.argument ((schema.reference?_eq_none_iff token).mp noFlag) divides
      exact ⟨token :: done, left, _, rfl, group, ends⟩
  | case3 token rest reference refers undeclared =>
      have stuck : schema.Stuck (token :: rest) _ :=
        .unknownFlag ((schema.reference?_eq_some_iff token reference).mp refers)
          ((schema.resolve?_eq_none_iff reference).mp undeclared)
      exact ⟨[], _, [], rfl, .done, Or.inr ⟨_, stuck⟩⟩
  | case4 token rest reference refers flag resolves type ih =>
      obtain ⟨done, left, items, rfl, divides, ends⟩ := ih
      have group := Divides.switch ((schema.reference?_eq_some_iff token reference).mp refers)
        ((schema.resolve?_eq_some_iff reference flag).mp resolves) type divides
      exact ⟨token :: done, left, _, rfl, group, ends⟩
  | case5 token reference refers flag resolves type =>
      have stuck : schema.Stuck [token] _ :=
        .missingValue ((schema.reference?_eq_some_iff token reference).mp refers)
          ((schema.resolve?_eq_some_iff reference flag).mp resolves) type
      exact ⟨[], _, [], rfl, .done, Or.inr ⟨_, stuck⟩⟩
  | case6 token reference refers flag resolves type operand rest unreadable =>
      have stuck : schema.Stuck (token :: operand :: rest) _ :=
        .invalidValue ((schema.reference?_eq_some_iff token reference).mp refers)
          ((schema.resolve?_eq_some_iff reference flag).mp resolves) type unreadable
      exact ⟨[], _, [], rfl, .done, Or.inr ⟨_, stuck⟩⟩
  | case7 token reference refers flag resolves type operand rest value readValue ih =>
      obtain ⟨done, left, items, rfl, divides, ends⟩ := ih
      have group := Divides.valued ((schema.reference?_eq_some_iff token reference).mp refers)
        ((schema.resolve?_eq_some_iff reference flag).mp resolves) type readValue divides
      exact ⟨token :: operand :: done, left, _, rfl, group, ends⟩

/-- Every list of tokens has a longest prefix that divides, and tokens behind it are at fault. -/
theorem exists_dividesUpTo (schema : Schema) (tokens : List Token) :
    ∃ done rest items, schema.DividesUpTo tokens done rest items ∧
      (rest = [] ∨ ∃ error, schema.Stuck rest error) := by
  obtain ⟨done, rest, items, rfl, divides, rfl | ⟨error, stuck⟩⟩ := schema.exists_division tokens
  · rw [List.append_nil]
    exact ⟨done, [], items, divides.dividesUpTo, Or.inl rfl⟩
  · exact ⟨done, rest, items, stuck.dividesUpTo divides, Or.inr ⟨error, stuck⟩⟩

/-- The longest prefix that divides is determined, and so are its items. -/
theorem DividesUpTo.unique {schema : Schema} {tokens done rest other later : List Token}
    {items others : List Item} (first : schema.DividesUpTo tokens done rest items)
    (second : schema.DividesUpTo tokens other later others) :
    done = other ∧ rest = later ∧ items = others := by
  have sameLength : done.length = other.length :=
    Nat.le_antisymm (second.longest first.split first.divides)
      (first.longest second.split second.divides)
  obtain ⟨rfl, rfl⟩ := List.append_inj (first.split.symm.trans second.split) sameLength
  have same := (readItems_of_divides first.divides).symm.trans (readItems_of_divides second.divides)
  exact ⟨rfl, rfl, Except.ok.inj same⟩

end Schema

/-! ## What is looked at behind the last token -/

/-- Holds of a required flag that the items do not assign. -/
def Flag.IsMissing (flag : Flag) (items : List Item) : Prop :=
  flag.required = true ∧ ∀ value, .assignment flag.name value ∉ items

namespace Schema

theorem missingFlag?_eq_some_iff (schema : Schema) (items : List Item) (flag : Flag) :
    schema.missingFlag? (Item.flags items) = some flag ↔
      schema.FirstFlag (fun flag => flag.IsMissing items) flag := by
  refine schema.find?_eq_some_iff_firstFlag (fun flag => ?_) flag
  rw [Bool.and_eq_true, Bool.not_eq_true', ← Bool.not_eq_true, Item.contains_flags_iff, not_exists]
  rfl

/--
The result of reading the tokens after the name of a command, by the first
condition that holds.
-/
inductive Judges (schema : Schema) (tokens : List Token) :
    Except ReadingError Invocation → Prop where
  | stuck {done rest : List Token} {items : List Item} {error : ReadingError}
      (longest : schema.DividesUpTo tokens done rest items) (stuck : schema.Stuck rest error) :
      Judges schema tokens (.error error)
  | missingFlag {items : List Item} {flag : Flag}
      (complete : schema.DividesUpTo tokens tokens [] items)
      (first : schema.FirstFlag (fun flag => flag.IsMissing items) flag) :
      Judges schema tokens (.error (.missingFlag flag.name))
  | wrongCount {items : List Item} (complete : schema.DividesUpTo tokens tokens [] items)
      (given : ∀ flag ∈ schema.flags, ¬ flag.IsMissing items)
      (outside : (Item.arguments items).length < schema.arity.min ∨
        schema.arity.max ≠ 0 ∧ schema.arity.max < (Item.arguments items).length) :
      Judges schema tokens
        (.error (.wrongCount schema.name schema.arity (Item.arguments items).length))
  | invocation {items : List Item} {invocation : Invocation}
      (complete : schema.DividesUpTo tokens tokens [] items)
      (command : invocation.command = schema.name) (admits : schema.Admits items invocation) :
      Judges schema tokens (.ok invocation)

theorem not_isMissing_iff (schema : Schema) (items : List Item) :
    (∀ flag ∈ schema.flags, ¬ flag.IsMissing items) ↔
      schema.missingFlag? (Item.flags items) = none := by
  rw [missingFlag?_eq_none_iff]
  simp only [Flag.IsMissing, not_and, Classical.not_forall_not]

theorem read_of_divides {schema : Schema} {tokens : List Token} {items : List Item}
    (divides : schema.Divides tokens items) : schema.read tokens = schema.invocationOf items := by
  rw [read, readItems_of_divides divides]
  rfl

theorem read_of_stuck {schema : Schema} {done rest : List Token} {items : List Item}
    {error : ReadingError} (divides : schema.Divides done items) (stuck : schema.Stuck rest error) :
    schema.read (done ++ rest) = .error error := by
  rw [read, readItems_append divides, stuck.readItems_eq]
  rfl

/-- Behind the last token, a missing flag comes before a wrong number of arguments. -/
theorem judges_invocationOf {schema : Schema} {tokens : List Token} {items : List Item}
    (divides : schema.Divides tokens items) : schema.Judges tokens (schema.invocationOf items) := by
  cases result : schema.invocationOf items with
  | ok invocation =>
      obtain ⟨command, admits⟩ := (schema.invocationOf_eq_ok_iff items invocation).mp result
      exact .invocation divides.dividesUpTo command admits
  | error error =>
      unfold invocationOf at result
      dsimp only at result
      split at result
      · rename_i flag missing
        obtain rfl := Except.error.inj result
        exact .missingFlag divides.dividesUpTo
          ((schema.missingFlag?_eq_some_iff items flag).mp missing)
      · rename_i given
        split at result
        · cases result
        · rename_i outside
          obtain rfl := Except.error.inj result
          rw [Bool.not_eq_true] at outside
          exact .wrongCount divides.dividesUpTo ((schema.not_isMissing_iff items).mpr given)
            ((schema.arity.admits_eq_false_iff _).mp outside)

/-- What is read is judged by the first condition that holds. -/
theorem judges_read (schema : Schema) (tokens : List Token) :
    schema.Judges tokens (schema.read tokens) := by
  obtain ⟨done, rest, items, rfl, divides, rfl | ⟨error, stuck⟩⟩ := schema.exists_division tokens
  · rw [List.append_nil, read_of_divides divides]
    exact judges_invocationOf divides
  · rw [read_of_stuck divides stuck]
    exact .stuck (stuck.dividesUpTo divides) stuck

/-- The conditions exclude each other, so the judgment is the result of reading. -/
theorem Judges.read_eq {schema : Schema} {tokens : List Token}
    {result : Except ReadingError Invocation} (judges : schema.Judges tokens result) :
    schema.read tokens = result := by
  cases judges with
  | stuck longest stuck =>
      obtain ⟨rfl, divides, -⟩ := longest
      exact read_of_stuck divides stuck
  | missingFlag complete first =>
      have missing := (schema.missingFlag?_eq_some_iff _ _).mpr first
      rw [read_of_divides complete.divides, invocationOf]
      simp only [missing]
  | wrongCount complete given outside =>
      have none := (schema.not_isMissing_iff _).mp given
      have refused := (schema.arity.admits_eq_false_iff _).mpr outside
      rw [read_of_divides complete.divides, invocationOf]
      simp [none, refused]
  | invocation complete command admits =>
      rw [read_of_divides complete.divides]
      exact (schema.invocationOf_eq_ok_iff _ _).mpr ⟨command, admits⟩

end Schema

/-! ## Unknown flags -/

/-- A long name that is reported as unknown is not declared. -/
theorem Schema.undeclared_of_unknownFlag {schema : Schema} {tokens : List Token}
    {owner name : String}
    (refused : schema.read tokens = .error (.unknownFlag owner ("--" ++ name))) :
    ∀ flag, ¬ schema.Resolves (.long name) flag := by
  have judges := schema.judges_read tokens
  rw [refused] at judges
  generalize dashed : "--" ++ name = text at judges
  cases judges with
  | stuck longest stuck =>
      cases stuck with
      | @unknownFlag token reference rest refers undeclared =>
          cases refers with
          | @long letters unquoted chars =>
              have same : name.toList = letters := by
                rw [← dashed, String.toList_append] at chars
                exact List.cons.inj (List.cons.inj chars).2 |>.2
              rwa [← same, String.ofList_toList] at undeclared
          | short unquoted chars noDash known =>
              rw [← dashed, String.toList_append] at chars
              exact absurd (List.cons.inj (List.cons.inj chars).2).1.symm noDash

/-! ## Errors that further tokens do not mend -/

/-- Holds of the errors that stay whatever tokens follow. -/
def ReadingError.IsFinal : ReadingError → Prop
  | unknownCommand _ | unknownFlag _ _ | invalidValue _ _ _ => True
  | noCommand | missingValue _ _ | missingFlag _ | wrongCount _ _ _ => False

theorem Schema.Stuck.append {schema : Schema} {rest : List Token} {error : ReadingError}
    (stuck : schema.Stuck rest error) (final : error.IsFinal) (more : List Token) :
    schema.Stuck (rest ++ more) error := by
  cases stuck with
  | unknownFlag refers undeclared => exact .unknownFlag refers undeclared
  | missingValue refers resolves type => cases final
  | invalidValue refers resolves type unreadable =>
      exact .invalidValue refers resolves type unreadable

theorem Schema.read_append_of_isFinal {schema : Schema} {tokens : List Token}
    {error : ReadingError} (refused : schema.read tokens = .error error) (final : error.IsFinal)
    (more : List Token) : schema.read (tokens ++ more) = .error error := by
  have judges := schema.judges_read tokens
  rw [refused] at judges
  cases judges with
  | stuck longest stuck =>
      obtain ⟨rfl, divides, -⟩ := longest
      rw [List.append_assoc]
      exact read_of_stuck divides (stuck.append final more)
  | missingFlag => cases final
  | wrongCount => cases final

namespace Registry

/-- The result of reading tokens, by the first condition that holds. -/
inductive Judges (registry : Registry) : List Token → Except ReadingError Invocation → Prop where
  | noCommand : Judges registry [] (.error .noCommand)
  | unknownCommand {head : Token} {tail : List Token}
      (unregistered : registry.find? head.text = none) :
      Judges registry (head :: tail) (.error (.unknownCommand head.text))
  | registered {head : Token} {tail : List Token} {command : Command}
      {result : Except ReadingError Invocation}
      (found : registry.find? head.text = some command)
      (judges : command.schema.Judges tail result) : Judges registry (head :: tail) result

theorem readTokens_of_find? {registry : Registry} {head : Token} {command : Command}
    (found : registry.find? head.text = some command) (tail : List Token) :
    registry.readTokens (head :: tail) = command.schema.read tail := by
  rw [readTokens, (registry.schema?_eq_some_iff _ _).mpr ⟨command, found, rfl⟩]

/-- A long name that the command declares is not reported as unknown. -/
theorem readTokens_ne_unknownFlag {registry : Registry} {head : Token} {schema : Schema}
    {name : String} {flag : Flag} (known : registry.schema? head.text = some schema)
    (resolves : schema.Resolves (.long name) flag) (tail : List Token) (owner : String) :
    registry.readTokens (head :: tail) ≠ .error (.unknownFlag owner ("--" ++ name)) := by
  rw [readTokens, known]
  intro refused
  exact Schema.undeclared_of_unknownFlag refused flag resolves

theorem readTokens_of_find?_eq_none {registry : Registry} {head : Token}
    (unregistered : registry.find? head.text = none) (tail : List Token) :
    registry.readTokens (head :: tail) = .error (.unknownCommand head.text) := by
  rw [readTokens, schema?, unregistered]
  rfl

theorem readTokens_eq_iff_judges (registry : Registry) (tokens : List Token)
    (result : Except ReadingError Invocation) :
    registry.readTokens tokens = result ↔ registry.Judges tokens result := by
  constructor
  · rintro rfl
    cases tokens with
    | nil => exact .noCommand
    | cons head tail =>
        cases found : registry.find? head.text with
        | none =>
            rw [readTokens_of_find?_eq_none found]
            exact .unknownCommand found
        | some command =>
            rw [readTokens_of_find? found]
            exact .registered found (command.schema.judges_read tail)
  · intro judges
    cases judges with
    | noCommand => rfl
    | unknownCommand unregistered => exact readTokens_of_find?_eq_none unregistered _
    | registered found judges => exact (readTokens_of_find? found _).trans judges.read_eq

theorem readTokens_of_readLine {registry : Registry} {line : String} {tokens : List Token}
    {error : ReadingError} (scanned : Token.scanSome line = .ok tokens)
    (refused : registry.readLine line = .error (.reading error)) :
    registry.readTokens tokens = .error error := by
  rw [readLine, scanned] at refused
  dsimp only at refused
  split at refused
  · rename_i other read
    obtain rfl := LineError.reading.inj (Except.error.inj refused)
    exact read
  · cases refused

theorem readTokens_append_of_isFinal {registry : Registry} {tokens : List Token}
    {error : ReadingError} (refused : registry.readTokens tokens = .error error)
    (final : error.IsFinal) (more : List Token) :
    registry.readTokens (tokens ++ more) = .error error := by
  cases tokens with
  | nil =>
      obtain rfl := Except.error.inj refused
      cases final
  | cons head tail =>
      cases found : registry.find? head.text with
      | none =>
          rw [readTokens_of_find?_eq_none found] at refused
          rw [List.cons_append, readTokens_of_find?_eq_none found, refused]
      | some command =>
          rw [readTokens_of_find? found] at refused
          rw [List.cons_append, readTokens_of_find? found]
          exact Schema.read_append_of_isFinal refused final more

/--
How the result of reading tokens is settled: by the first condition that holds,
where the longest prefix that divides is determined and only tokens at fault
stand behind it, and for good if an unknown command, an unknown flag or an
invalid value is the fault.
-/
structure Settles (registry : Registry) (tokens : List Token) : Prop where
  judged : ∀ result, registry.readTokens tokens = result ↔ registry.Judges tokens result
  divided : ∀ (schema : Schema) (tail : List Token), ∃ done rest items,
    schema.DividesUpTo tail done rest items ∧ (rest = [] ∨ ∃ error, schema.Stuck rest error)
  determined : ∀ {schema : Schema} {tail done rest other later : List Token}
    {items others : List Item}, schema.DividesUpTo tail done rest items →
      schema.DividesUpTo tail other later others → done = other ∧ rest = later ∧ items = others
  final : ∀ {error : ReadingError}, registry.readTokens tokens = .error error → error.IsFinal →
    ∀ more, registry.readTokens (tokens ++ more) = .error error

/-- Every list of tokens is judged by the first condition that holds of it. -/
theorem settles_tokens (registry : Registry) (tokens : List Token) : registry.Settles tokens where
  judged := registry.readTokens_eq_iff_judges tokens
  divided schema tail := schema.exists_dividesUpTo tail
  determined first second := first.unique second
  final := readTokens_append_of_isFinal

end Registry

end CommandShell
