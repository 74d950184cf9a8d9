import CommandShell.Proofs.BoundedHistory
import CommandShell.Proofs.CompletionIndex
import CommandShell.Proofs.DecimalNumerals
import CommandShell.Proofs.LoopRuns
import CommandShell.Proofs.RegisteredCommands
import CommandShell.Proofs.UnquotedLines

/-!
# The listing of the history

The history command shows the latest lines, each with its number counted from
the oldest line on, or the lines that contain a text.  A submitted line is the
latest one when its command runs, so a listing that is asked for by a line ends
with the row of that line.
-/

namespace CommandShell

open Text (isBlank isBlankLine IsUnquoted)
open Token (bare isPlain)

/-! ## Digits in a line -/

namespace Number

theorem isPlain_of_isDigit {c : Char} (digit : c.isDigit = true) : isPlain c = true := by
  rw [Token.isPlain_eq_true_iff]
  refine ⟨?_, ?_, ?_, ?_⟩
  · rw [← Bool.not_eq_true, isBlank, Text.Ranges.holds_eq_true_iff]
    rintro ⟨range, member, low, high⟩
    obtain ⟨least, most⟩ := Char.isDigit_iff_toNat.mp digit
    simp only [Text.blankRanges, List.mem_cons, List.not_mem_nil, or_false] at member
    rcases member with rfl | rfl | rfl | rfl | rfl | rfl | rfl | rfl | rfl | rfl <;>
      simp at low high least most <;> omega
  · rintro rfl
    cases digit
  · rintro rfl
    cases digit
  · rintro rfl
    cases digit

end Number

/-! ## Rows -/

namespace History

variable (history : History)

theorem length_rows (count : Nat) : (history.rows count).length = min count history.size := by
  simp [rows, size]

/-- The row a number of steps above the last one has the line as many steps back. -/
theorem getElem?_reverse_rows (count index : Nat) :
    (history.rows count).reverse[index]? =
      (history.entries.take count)[index]?.map (row (history.size - index)) := by
  simp [rows, Function.comp_def]

theorem get?_eq_getElem?_entries (index : Nat) : history.get? index = history.entries[index]? := by
  rw [get?_eq_getElem?_reverse, oldestFirst, List.reverse_reverse]

/-- More rows are added above those of a smaller count. -/
theorem rows_append {count larger : Nat} (le : count ≤ larger) :
    ∃ above, history.rows larger = above ++ history.rows count := by
  have split : history.entries.take larger =
      history.entries.take count ++ (history.entries.take larger).drop count := by
    have taken := List.take_append_drop count (history.entries.take larger)
    rw [List.take_take, Nat.min_eq_left le] at taken
    exact taken.symm
  rw [rows, rows, split, List.zipIdx_append, List.map_append, List.reverse_append]
  exact ⟨_, rfl⟩

theorem listing_append {count larger : Nat} (le : count ≤ larger) :
    ∃ above, history.listing larger = above ++ history.listing count := by
  obtain ⟨above, split⟩ := history.rows_append le
  exact ⟨String.join above, by rw [listing, split, String.join_append, listing]⟩

/-- A listing of at least one row ends with the row of the latest line. -/
theorem listing_ends {history : History} {line : String} (latest : history.get? 0 = some line)
    {count : Nat} (positive : 0 < count) :
    ∃ above, history.listing count = above ++ row history.size line := by
  rw [get?_eq_getElem?_entries] at latest
  have last : (history.rows count).getLast? = some (row history.size line) := by
    rw [← List.head?_reverse, List.head?_eq_getElem?, getElem?_reverse_rows,
      List.getElem?_take_of_lt positive, latest]
    rfl
  obtain ⟨above, split⟩ := List.getLast?_eq_some_iff.mp last
  refine ⟨String.join above, ?_⟩
  rw [listing, split, String.join_append, String.join_cons, String.join_nil, String.append_empty]

/--
Holds of the row of a numbered line: the number in decimal, at the right of a
column of four characters or wider than that, and the line.
-/
inductive IsRow (number : Nat) (line : String) : String → Prop where
  | filled {blanks : Nat} (width : blanks + (toString number).length = 4) :
      IsRow number line ("  " ++ (String.ofList (List.replicate blanks ' ') ++ toString number) ++
        "  " ++ line ++ "\n")
  | wide (width : 4 ≤ (toString number).length) :
      IsRow number line ("  " ++ toString number ++ "  " ++ line ++ "\n")

theorem isRow_row (number : Nat) (line : String) : IsRow number line (row number line) := by
  rcases Nat.le_total 4 (toString number).length with wide | narrow
  · have column : Text.padLeft numberWidth (toString number) = toString number := by
      rw [Text.padLeft, numberWidth, Nat.sub_eq_zero_of_le wide]
      exact String.empty_append
    rw [row, column]
    exact .wide wide
  · exact .filled (Nat.sub_add_cancel narrow)

/--
The rows of a text: one for each of the latest lines up to a count, the latest
line last.  The number of a row and the steps back to its line make up the size,
so numbers are never cut off at zero and go up by one.
-/
def IsNumbered (count : Nat) (text : String) : Prop :=
  ∃ rows : List String, text = String.join rows ∧ rows.length = min count history.size ∧
    ∀ index < rows.length, ∃ line number row, history.get? index = some line ∧
      number + index = history.size ∧ rows.reverse[index]? = some row ∧ IsRow number line row

theorem isNumbered_listing (count : Nat) : history.IsNumbered count (history.listing count) := by
  refine ⟨history.rows count, rfl, history.length_rows count, ?_⟩
  intro index inside
  rw [length_rows, Nat.lt_min] at inside
  have stored : index < history.entries.length := inside.2
  refine ⟨history.entries[index], history.size - index, _, ?_, ?_, ?_, isRow_row _ _⟩
  · rw [get?_eq_getElem?_entries, List.getElem?_eq_getElem stored]
  · exact Nat.sub_add_cancel (Nat.le_of_lt inside.2)
  · rw [getElem?_reverse_rows, List.getElem?_take_of_lt inside.1, List.getElem?_eq_getElem stored]
    rfl

/-! ## Lines that contain a text -/

/-- The row of a line that contains the text. -/
def foundRow (line : String) : String :=
  "  " ++ line ++ "\n"

/-- What is shown when no line contains the text. -/
def noneFound (part : String) : String :=
  "No history entries match '" ++ part ++ "'"

theorem head?_toList_append {first : String} {c : Char} (head : first.toList.head? = some c)
    (rest : String) : (first ++ rest).toList.head? = some c := by
  rw [String.toList_append, List.head?_append, head, Option.some_or]

/-- Rows are never mistaken for the message: they start with a blank. -/
theorem foundRow_append_ne_noneFound (line rest part : String) :
    foundRow line ++ rest ≠ noneFound part := by
  intro same
  have blank : (foundRow line ++ rest).toList.head? = some ' ' :=
    head?_toList_append
      (head?_toList_append (head?_toList_append (by decide +kernel) line) "\n") rest
  have letter : (noneFound part).toList.head? = some 'N' :=
    head?_toList_append (head?_toList_append (by decide +kernel) part) "'"
  rw [same, letter] at blank
  cases blank

/-- The lines that contain a text, the latest one first. -/
def matching (part : String) : List String :=
  history.entries.filter fun line => decide (part.toList <:+: line.toList)

theorem searchListing_of_matching {part : String} (found : history.matching part ≠ []) :
    history.searchListing part = String.join ((history.matching part).map foundRow) := by
  rw [matching, ← search_eq_filter_infix] at found ⊢
  unfold searchListing
  split
  · rename_i none
    exact absurd none found
  · rfl

theorem searchListing_eq_noneFound_iff (part : String) :
    history.searchListing part = noneFound part ↔ history.matching part = [] := by
  constructor
  · intro message
    by_contra found
    rw [history.searchListing_of_matching found] at message
    obtain ⟨line, rest, split⟩ := List.exists_cons_of_ne_nil found
    rw [split, List.map_cons, String.join_cons] at message
    exact foundRow_append_ne_noneFound line _ part message
  · intro none
    rw [matching, ← search_eq_filter_infix] at none
    rw [searchListing, none]
    rfl

theorem matching_eq_nil_iff (part : String) :
    history.matching part = [] ↔ ∀ line ∈ history.entries, ¬ part.toList <:+: line.toList := by
  simp [matching]

end History

/-! ## The command -/

namespace Invocation

/-- The text that an invocation of the history command searches for. -/
def searched? (invocation : Invocation) : Option String :=
  (invocation.flag? "search").bind Value.text?

/-- The number of lines that an invocation of the history command asks for. -/
inductive AsksFor (history : History) (invocation : Invocation) : Nat → Prop where
  | all (absent : invocation.argument? 0 = none) : AsksFor history invocation history.size
  | count {text : String} {count : Nat} (given : invocation.argument? 0 = some text)
      (read : Number.readCount? text = some count) : AsksFor history invocation count

end Invocation

namespace Builtin

variable {history : History} {invocation : Invocation} {view : View}

theorem answerHistory_of_asksFor (kept : view.history = some history)
    (noSearch : invocation.searched? = none) {count : Nat}
    (asks : invocation.AsksFor history count) :
    answerHistory invocation view = .success (history.listing count) := by
  have noText : (invocation.flag? "search").bind Value.text? = none := noSearch
  cases asks with
  | all absent => simp only [answerHistory, kept, noText, absent]
  | count given read => simp only [answerHistory, kept, noText, given, read]

/-- No count of 64 bits is refused. -/
theorem answerHistory_of_toString (kept : view.history = some history)
    (noSearch : invocation.searched? = none) {count : Nat} (fits : count < UInt64.size)
    (given : invocation.argument? 0 = some (toString count)) :
    answerHistory invocation view = .success (history.listing count) :=
  answerHistory_of_asksFor kept noSearch
    (.count given (Number.readCount?_toString (Nat.le_sub_one_of_lt fits)))

/-- A search is answered whatever the arguments are. -/
theorem answerHistory_of_searched {part : String} (kept : view.history = some history)
    (search : invocation.searched? = some part) :
    answerHistory invocation view = .success (history.searchListing part) := by
  have text : (invocation.flag? "search").bind Value.text? = some part := search
  simp only [answerHistory, kept, text]

end Builtin

/--
What the history command answers, for every invocation of it: with a count the
numbered rows of the latest lines, which end those of any larger count, and with
a text the rows of the lines that contain it.
-/
structure History.AnswersByNumber (history : History) : Prop where
  answers : ∀ {invocation : Invocation} {view : View} {count : Nat}, view.history = some history →
    invocation.searched? = none → invocation.AsksFor history count →
      Builtin.answerHistory invocation view = .success (history.listing count)
  decimal : ∀ {invocation : Invocation} {view : View} {count : Nat}, view.history = some history →
    invocation.searched? = none → count < UInt64.size →
      invocation.argument? 0 = some (toString count) →
        Builtin.answerHistory invocation view = .success (history.listing count)
  numbered : ∀ count, history.IsNumbered count (history.listing count)
  suffix : ∀ {count larger : Nat}, count ≤ larger →
    ∃ above, history.listing larger = above ++ history.listing count
  searches : ∀ {invocation : Invocation} {view : View} {part : String},
    view.history = some history → invocation.searched? = some part →
      Builtin.answerHistory invocation view = .success (history.searchListing part)
  found : ∀ part, history.matching part ≠ [] →
    history.searchListing part = String.join ((history.matching part).map History.foundRow)
  noneFound_iff : ∀ part, history.searchListing part = History.noneFound part ↔
    ∀ line ∈ history.entries, ¬ part.toList <:+: line.toList

theorem History.answersByNumber (history : History) : history.AnswersByNumber where
  answers kept noSearch asks := Builtin.answerHistory_of_asksFor kept noSearch asks
  decimal kept noSearch fits given := Builtin.answerHistory_of_toString kept noSearch fits given
  numbered := history.isNumbered_listing
  suffix := history.listing_append
  searches := Builtin.answerHistory_of_searched
  found _ := history.searchListing_of_matching
  noneFound_iff part := by
    rw [searchListing_eq_noneFound_iff, matching_eq_nil_iff]

/-! ## Lines that ask for a listing -/

namespace Registry

/-- A word and a count are read as an invocation of a command that takes an argument. -/
theorem readLine_count {registry : Registry} {command : Command} {name : String} (count : Nat)
    (found : registry.find? name = some command) (plain : ∀ c ∈ name.toList, isPlain c = true)
    (least : command.schema.arity.min ≤ 1)
    (most : command.schema.arity.max = 0 ∨ 1 ≤ command.schema.arity.max)
    (optional : ∀ flag ∈ command.schema.flags, flag.required = false) :
    registry.readLine (name ++ " " ++ toString count) =
      .ok { command := name, arguments := [toString count]
            line := some (name ++ " " ++ toString count) } := by
  obtain ⟨named, nonempty⟩ := registry.named found
  have digits : ∀ c ∈ (toString count).toList, isPlain c = true := fun c member =>
    Number.isPlain_of_isDigit (Number.isDigit_of_mem_toString count member)
  have scanned : Token.scan (name ++ " " ++ toString count) =
      .ok [bare name, bare (toString count)] := by
    have first := Token.scanChars_of_isPlain plain (by simpa using nonempty)
    have second := Token.scanChars_of_isPlain digits (by simp [Nat.toString_eq_repr])
    rw [String.ofList_toList] at first second
    have chars : (name ++ " " ++ toString count).toList =
        name.toList ++ ' ' :: (toString count).toList := by simp
    rw [Token.scan, chars, Token.scanChars_accepted_blank first (by decide), second]
    rfl
  have noFlag : ∀ reference, ¬ command.schema.Refers (bare (toString count)) reference := by
    have noDash : ∀ rest, (toString count).toList ≠ '-' :: rest :=
      Number.toString_ne_cons count (by decide)
    intro reference refers
    cases refers with
    | long unquoted text => exact noDash _ text
    | short unquoted text noSecond known => exact noDash _ text
  have admits : command.schema.Admits [.argument (toString count)]
      { command := name, arguments := [toString count] } :=
    { arguments := rfl
      flags := by
        intro flag value
        refine iff_of_false (by simp) ?_
        intro last
        have assigned := last.mem
        simp at assigned
      required := by
        intro flag declared required
        rw [optional flag declared] at required
        cases required
      least := least
      most := most
      line := rfl }
  have read : registry.readTokens [bare name, bare (toString count)] =
      .ok { command := name, arguments := [toString count] } := by
    have headFound : registry.find? (bare name).text = some command := found
    rw [readTokens_of_find? headFound]
    exact (command.schema.read_eq_ok_iff _ _).mpr
      ⟨_, .argument noFlag .done, named.symm, admits⟩
  rw [readLine, Token.scanSome, scanned]
  simp only [read]

end Registry

namespace Session

/-- Right after a line that is not blank was submitted, it is the latest one. -/
theorem get?_zero_submit (session : Session) {line : String} (dark : isBlankLine line = false) :
    (session.submit line).1.history.get? 0 = some line := by
  have nonempty : line ≠ "" := by
    rintro rfl
    cases dark
  have entered : (session.history.add line).get? 0 = some line := by
    rw [History.get?_eq_getElem?_entries, ← List.head?_eq_getElem?, History.add]
    split
    · rfl
    · rename_i refused
      simpa [History.accepts, nonempty] using refused
  obtain ⟨journal, same⟩ := exists_journal_execute (session.remember line) line
  rw [submit, dark, if_neg Bool.false_ne_true, same]
  exact entered

/-- The outcome of a line that is read as an invocation of the history command. -/
theorem execute_history {session : Session} {line : String} {invocation : Invocation}
    (read : session.readLine line = .ok invocation)
    (registered : session.registry.find? invocation.command = some Builtin.history) :
    (session.execute line).2 =
      (Builtin.answerHistory invocation
        (session.registry.view (some session.history))).settled := by
  rw [execute_of_readLine read registered]
  rfl

/-- A submitted line that asks for the history is answered with that line in it. -/
theorem submit_history {session : Session} {line : String} {invocation : Invocation}
    (read : session.readLine line = .ok invocation)
    (registered : session.registry.find? invocation.command = some Builtin.history) :
    (session.submit line).2 =
      (Builtin.answerHistory invocation
        (session.registry.view (some (session.submit line).1.history))).settled := by
  have dark := not_isBlankLine_of_readLine read
  have submitted : session.submit line = (session.remember line).execute line := by
    rw [submit, dark, if_neg Bool.false_ne_true]
  have sameHistory : (session.submit line).1.history = (session.remember line).history := by
    obtain ⟨journal, same⟩ := exists_journal_execute (session.remember line) line
    rw [submitted, same]
  have readAgain : (session.remember line).readLine line = .ok invocation := read
  have stillThere :
      (session.remember line).registry.find? invocation.command = some Builtin.history :=
    registered
  rw [sameHistory, submitted]
  exact execute_history readAgain stillThere

/-- Holds of a line whose output, when it is submitted, ends with the row of that line. -/
def EndsWithOwnRow (session : Session) (line : String) : Prop :=
  ∃ above row, (session.submit line).2 = .success (above ++ row) ∧
    History.IsRow (session.submit line).1.history.size line row

theorem endsWithOwnRow {session : Session} {line : String} {invocation : Invocation} {count : Nat}
    (read : session.readLine line = .ok invocation)
    (registered : session.registry.find? invocation.command = some Builtin.history)
    (noSearch : invocation.searched? = none)
    (asks : invocation.AsksFor (session.submit line).1.history count) (positive : 0 < count) :
    session.EndsWithOwnRow line := by
  have latest := session.get?_zero_submit (not_isBlankLine_of_readLine read)
  obtain ⟨above, ends⟩ := History.listing_ends latest positive
  refine ⟨above, _, ?_, History.isRow_row _ line⟩
  rw [submit_history read registered, Builtin.answerHistory_of_asksFor rfl noSearch asks, ends]
  rfl

/-! ## Commands of a session -/

/-- A command stays until it is taken out. -/
theorem find?_registry_performAll {session : Session} {name : String} {command : Command}
    (found : session.registry.find? name = some command) {operations : List Operation}
    (kept : .unregister name ∉ operations) :
    (session.performAll operations).registry.find? name = some command := by
  rw [registry_performAll]
  refine Registry.find?_performAll_of_find? found fun asked => ?_
  obtain ⟨operation, member, same⟩ := List.mem_filterMap.mp asked
  cases operation with
  | unregister other =>
      cases same
      exact kept member
  | _ => cases same

/-! ## What a session promises of the history -/

/--
What a session promises of submitted lines: a line that is not blank is the
latest one, a line that asks for the history is answered with that line in it,
and if it asks for at least one row, as the name of the command and a count do,
it gets its own row last.
-/
structure RecallsSubmitted (session : Session) : Prop where
  latest : ∀ line, isBlankLine line = false →
    (session.submit line).1.history.get? 0 = some line
  answered : ∀ {line : String} {invocation : Invocation},
    session.readLine line = .ok invocation →
      session.registry.find? invocation.command = some Builtin.history →
        (session.submit line).2 = (Builtin.answerHistory invocation
          (session.registry.view (some (session.submit line).1.history))).settled
  ownRow : ∀ {line : String} {invocation : Invocation} {count : Nat},
    session.readLine line = .ok invocation →
      session.registry.find? invocation.command = some Builtin.history →
        invocation.searched? = none →
          invocation.AsksFor (session.submit line).1.history count → 0 < count →
            session.EndsWithOwnRow line
  written : ∀ {count : Nat}, session.registry.find? "history" = some Builtin.history →
    0 < count → count < UInt64.size →
      session.EndsWithOwnRow ("history " ++ toString count)

theorem recallsSubmitted (session : Session) : session.RecallsSubmitted where
  latest _ := session.get?_zero_submit
  answered := submit_history
  ownRow := endsWithOwnRow
  written := by
    intro count registered positive fits
    -- Decided as a test of the list: the quantifier would go through all characters.
    have plain : ∀ c ∈ "history".toList, isPlain c = true := List.all_eq_true.mp (by decide)
    have read : session.readLine ("history" ++ " " ++ toString count) = _ :=
      Registry.readLine_count count registered plain (by decide) (by decide) (by decide)
    exact endsWithOwnRow read registered rfl
      (.count rfl (Number.readCount?_toString (Nat.le_sub_one_of_lt fits))) positive

end Session

end CommandShell
