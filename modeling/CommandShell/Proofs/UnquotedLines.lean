import CommandShell.Proofs.LastWords
import CommandShell.Proofs.ReadingFaults
import CommandShell.Proofs.SplitLines
import CommandShell.Proofs.TypedTokens
import CommandShell.Proofs.ValidatedCalls

/-!
# Lines without quotes and backslashes

On a line without quotes and backslashes the tokens are the words between
blanks, each as it stands.  So completion, which cuts the line at blanks, and
the reader of invocations see the same words: completion knows where the last
one stands, and a flag that it offers is one that the reader finds.
-/

namespace CommandShell

open Text (isBlank isBlankLine words wordsOf beforeLastWord withLastWord)

/-- Holds of characters without quotes and backslashes. -/
def Text.IsUnquoted (chars : List Char) : Prop :=
  ∀ c ∈ chars, c ≠ '"' ∧ c ≠ '\'' ∧ c ≠ '\\'

instance (chars : List Char) : Decidable (Text.IsUnquoted chars) :=
  List.decidableBAll _ chars

open Text (IsUnquoted)

/-! ## Tokens of unquoted lines -/

namespace Token

/-- The token of a word that stands for itself. -/
def bare (word : String) : Token :=
  ⟨word, false⟩

theorem isPlain_eq_true_iff (c : Char) :
    isPlain c = true ↔ isBlank c = false ∧ c ≠ '"' ∧ c ≠ '\'' ∧ c ≠ '\\' := by
  simp [isPlain, and_assoc]

/-- Characters that stand for themselves are read as one token. -/
theorem scanChars_of_isPlain {word : List Char} (plain : ∀ c ∈ word, isPlain c = true)
    (nonempty : word ≠ []) : scanChars word = .ok [bare (String.ofList word)] := by
  have visible : String.ofList word ≠ "" := by simpa using nonempty
  have unmarked : escape (String.ofList word) = word := by
    have each : ∀ c ∈ word, (if isPlain c then [c] else ['\\', c]) = [c] := fun c member =>
      if_pos (plain c member)
    rw [escape, String.toList_ofList, List.flatMap_congr each, List.flatMap_singleton']
  have read := scanChars_word (.escaped (String.ofList word) visible)
  rwa [Word.written_escaped, Word.token_escaped, unmarked] at read

theorem scanChars_of_dark {word : List Char} (dark : ∀ c ∈ word, isBlank c = false)
    (unquoted : IsUnquoted word) :
    scanChars word = .ok ((wordsOf word).map fun piece => bare (String.ofList piece)) := by
  by_cases none : word = []
  · rw [none]
    rfl
  · have plain : ∀ c ∈ word, isPlain c = true := fun c member =>
      (isPlain_eq_true_iff c).mpr ⟨dark c member, unquoted c member⟩
    rw [scanChars_of_isPlain plain none, Text.wordsOf_of_dark dark none]
    rfl

/-- Behind the start of a word, what follows is read as the words between blanks. -/
theorem scanChars_append_of_isUnquoted {word : List Char} (dark : ∀ c ∈ word, isBlank c = false)
    {chars : List Char} (unquoted : IsUnquoted (word ++ chars)) :
    scanChars (word ++ chars) =
      .ok ((wordsOf (word ++ chars)).map fun piece => bare (String.ofList piece)) := by
  -- The word is general, as it grows by every character that is no blank.
  induction chars generalizing word with
  | nil =>
      rw [List.append_nil] at unquoted ⊢
      exact scanChars_of_dark dark unquoted
  | cons c rest ih =>
      by_cases white : isBlank c = true
      · have first : IsUnquoted word := fun d member =>
          unquoted d (List.mem_append_left _ member)
        have later : IsUnquoted ([] ++ rest) := fun d member =>
          unquoted d (List.mem_append_right _ (List.mem_cons_of_mem c member))
        have read := ih (by simp) later
        rw [List.nil_append] at read
        rw [scanChars_accepted_blank (scanChars_of_dark dark first) white, read,
          Text.wordsOf_append_cons word white, List.map_append]
        rfl
      · rw [Bool.not_eq_true] at white
        have longer : ∀ d ∈ word ++ [c], isBlank d = false := by
          intro d member
          rcases List.mem_append.mp member with inside | last
          · exact dark d inside
          · exact List.mem_singleton.mp last ▸ white
        rw [← List.singleton_append, ← List.append_assoc] at unquoted ⊢
        exact ih longer unquoted

theorem scanChars_of_isUnquoted {chars : List Char} (unquoted : IsUnquoted chars) :
    scanChars chars = .ok ((wordsOf chars).map fun piece => bare (String.ofList piece)) := by
  have dark : ∀ c ∈ ([] : List Char), isBlank c = false := by simp
  have whole : IsUnquoted ([] ++ chars) := unquoted
  exact scanChars_append_of_isUnquoted dark whole

/-- An unquoted line has its words as tokens, all of them outside quotes. -/
theorem scan_of_isUnquoted {line : String} (unquoted : IsUnquoted line.toList) :
    scan line = .ok ((words line).map bare) := by
  rw [scan, scanChars_of_isUnquoted unquoted, words, List.map_map]
  rfl

end Token

open Token (bare isPlain)

/-! ## Positions on unquoted lines -/

section Position

variable {line : String}

theorem words_eq_nil_iff (unquoted : IsUnquoted line.toList) :
    words line = [] ↔ isBlankLine line = true := by
  rw [← Token.scan_eq_nil_iff, Token.scan_of_isUnquoted unquoted, Except.ok.injEq,
    List.map_eq_nil_iff]

theorem Position.ofLine_of_isUnquoted (unquoted : IsUnquoted line.toList) :
    ofLine line = ofTokens (endsBlank line) ((words line).map bare) := by
  rw [ofLine, Token.scan_of_isUnquoted unquoted]

theorem Position.ofLine_eq_command_iff (unquoted : IsUnquoted line.toList) :
    ofLine line = .command ↔
      isBlankLine line = true ∨ (∃ word, words line = [word]) ∧ endsBlank line = false := by
  have single : (∃ token, (words line).map bare = [token]) ↔ ∃ word, words line = [word] := by
    constructor
    · rintro ⟨token, tokens⟩
      obtain ⟨word, same, -⟩ := List.map_eq_singleton_iff.mp tokens
      exact ⟨word, same⟩
    · rintro ⟨word, same⟩
      exact ⟨bare word, by rw [same]; rfl⟩
  rw [ofLine_of_isUnquoted unquoted, ofTokens_eq_command_iff, List.map_eq_nil_iff,
    words_eq_nil_iff unquoted, single]

theorem Position.ofLine_eq_flag_iff (unquoted : IsUnquoted line.toList) (name : String) :
    ofLine line = .flag name ↔
      endsBlank line = false ∧ ∃ between last, words line = name :: (between ++ [last]) ∧
        ['-'] <+: last.toList := by
  rw [ofLine_of_isUnquoted unquoted, ofTokens_eq_flag_iff]
  constructor
  · rintro ⟨goesOn, first, between, last, tokens, rfl, dashed⟩
    obtain ⟨name, rest, same, rfl, others⟩ := List.map_eq_cons_iff.mp tokens
    obtain ⟨earlier, final, rfl, -, single⟩ := List.map_eq_append_iff.mp others
    obtain ⟨word, rfl, rfl⟩ := List.map_eq_singleton_iff.mp single
    exact ⟨goesOn, earlier, word, same, (Text.hasStem_eq_true_iff _ _).mp dashed⟩
  · rintro ⟨goesOn, between, last, same, dashed⟩
    refine ⟨goesOn, bare name, between.map bare, bare last, ?_, rfl, ?_⟩
    · rw [same]
      simp
    · exact (Text.hasStem_eq_true_iff _ _).mpr dashed

end Position

/-! ## Flags as last words -/

theorem Token.isPlain_of_mem_dashes {name : String}
    (plain : ∀ c ∈ name.toList, isPlain c = true) :
    ∀ c ∈ ("--" ++ name).toList, isPlain c = true := by
  intro c member
  rw [String.toList_append] at member
  rcases List.mem_append.mp member with dash | inName
  · obtain rfl : c = '-' := by simpa using dash
    rfl
  · exact plain c inName

/-- Where a line stays unquoted with another last word, it has that word as last token. -/
theorem Token.scan_withLastWord {line word : String} (unquoted : IsUnquoted line.toList)
    (goesOn : Position.endsBlank line = false) (plain : ∀ c ∈ word.toList, isPlain c = true)
    (nonempty : word ≠ "") :
    scan (withLastWord line word) = .ok ((words line).dropLast.map bare ++ [bare word]) := by
  have dark : ∀ c ∈ word.toList, isBlank c = false := fun c member =>
    ((isPlain_eq_true_iff c).mp (plain c member)).1
  have still : IsUnquoted (withLastWord line word).toList := by
    intro c member
    rw [withLastWord, String.toList_ofList] at member
    rcases List.mem_append.mp member with before | inWord
    · refine unquoted c ?_
      rw [← Text.beforeLastWord_append_trailingWord line.toList]
      exact List.mem_append_left _ before
    · exact ((isPlain_eq_true_iff c).mp (plain c inWord)).2
  rw [scan_of_isUnquoted still, Position.words_withLastWord goesOn dark nonempty, List.map_append,
    List.map_singleton]

/--
What a flag comes to when it is written as the last word of a line: the last
token refers to its name, the name resolves, and reading the line does not
report it as unknown.
-/
structure Registry.ReadsFlag (registry : Registry) (schema : Schema) (flag : Flag)
    (line : String) : Prop where
  tokens : Token.scan (withLastWord line ("--" ++ flag.name)) =
    .ok ((words line).dropLast.map bare ++ [bare ("--" ++ flag.name)])
  refers : schema.Refers (bare ("--" ++ flag.name)) (.long flag.name)
  resolves : ∃ first, schema.Resolves (.long flag.name) first
  known : ∀ owner, registry.readLine (withLastWord line ("--" ++ flag.name)) ≠
    .error (.reading (.unknownFlag owner ("--" ++ flag.name)))

/-- A declared flag in place of the last word is one that the reader finds. -/
theorem Registry.readsFlag_of_isUnquoted {registry : Registry} {line name : String}
    {schema : Schema} {flag : Flag} (unquoted : IsUnquoted line.toList)
    (position : Position.ofLine line = .flag name)
    (registered : registry.schema? name = some schema)
    (declared : flag ∈ schema.flags) (plain : ∀ c ∈ flag.name.toList, isPlain c = true) :
    registry.ReadsFlag schema flag line := by
  obtain ⟨goesOn, between, last, same, -⟩ := (Position.ofLine_eq_flag_iff unquoted name).mp position
  have tokens :=
    Token.scan_withLastWord unquoted goesOn (Token.isPlain_of_mem_dashes plain) (by simp)
  obtain ⟨first, resolves⟩ := Schema.exists_resolves_long declared
  refine ⟨tokens, schema.refers_dashes flag.name, ⟨first, resolves⟩, ?_⟩
  intro owner refused
  have front : (words line).dropLast = name :: between := by
    rw [same, ← List.cons_append, List.dropLast_concat]
  rw [front, List.map_cons, List.cons_append] at tokens
  have scanned : Token.scanSome (withLastWord line ("--" ++ flag.name)) =
      .ok (bare name :: (between.map bare ++ [bare ("--" ++ flag.name)])) := by
    rw [Token.scanSome, tokens]
  have known : registry.schema? (bare name).text = some schema := registered
  exact readTokens_ne_unknownFlag known resolves _ owner (readTokens_of_readLine scanned refused)

/-! ## Completion of unquoted lines -/

namespace Completion

variable (completion : Completion) (registry : Registry) (line : String)

/--
How completion of a line goes together with its tokens and with the reader:
tokens and words are the same, the position tells what is offered, and an
offered flag that takes the place of the last word is found.
-/
structure AgreesWithReader : Prop where
  tokens : Token.scan line = .ok ((Text.words line).map bare)
  lastWord : Text.lastWord line =
    if Position.endsBlank line then "" else (Text.words line).getLast?.getD ""
  command_iff : Position.ofLine line = .command ↔
    isBlankLine line = true ∨ (∃ word, Text.words line = [word]) ∧ Position.endsBlank line = false
  flag_iff : ∀ name, Position.ofLine line = .flag name ↔
    Position.endsBlank line = false ∧ ∃ between last,
      Text.words line = name :: (between ++ [last]) ∧ ['-'] <+: last.toList
  otherwise : Position.ofLine line ≠ .command → (∀ name, Position.ofLine line ≠ .flag name) →
    Position.ofLine line = .argument ∧ completion.candidates registry line = []
  registered : ∀ {name schema}, Position.ofLine line = .flag name →
    registry.schema? name = some schema →
      completion.candidates registry line =
        (schema.flags.filter fun flag => flag.Continues (Text.lastWord line)).map fun flag =>
          "--" ++ flag.name
  unregistered : ∀ {name}, Position.ofLine line = .flag name → registry.schema? name = none →
    completion.candidates registry line = []
  offered : ∀ {name schema} {flag : Flag} {between : List String} {stem : String},
    registry.schema? name = some schema → flag ∈ schema.flags →
      flag.name.toList.head? ≠ some '-' → stem.toList <+: flag.name.toList →
        Text.words line = name :: (between ++ ["--" ++ stem]) → Position.endsBlank line = false →
          "--" ++ flag.name ∈ completion.candidates registry line
  replaced : ∀ {name schema} {flag : Flag}, Position.ofLine line = .flag name →
    registry.schema? name = some schema → flag ∈ schema.flags →
      (∀ c ∈ flag.name.toList, isPlain c = true) → registry.ReadsFlag schema flag line

variable {line}

theorem candidates_of_otherwise (noCommand : Position.ofLine line ≠ .command)
    (noFlag : ∀ name, Position.ofLine line ≠ .flag name) :
    Position.ofLine line = .argument ∧ completion.candidates registry line = [] := by
  cases position : Position.ofLine line with
  | command => exact absurd position noCommand
  | flag name => exact absurd position (noFlag name)
  | argument =>
      rw [candidates, position]
      exact ⟨rfl, rfl⟩

/-- Two dashes and a stem of a declared name offer the flag. -/
theorem mem_candidates_of_stem (unquoted : IsUnquoted line.toList) {name : String} {schema : Schema}
    {flag : Flag} {between : List String} {stem : String}
    (registered : registry.schema? name = some schema) (declared : flag ∈ schema.flags)
    (noDash : flag.name.toList.head? ≠ some '-') (starts : stem.toList <+: flag.name.toList)
    (split : Text.words line = name :: (between ++ ["--" ++ stem]))
    (goesOn : Position.endsBlank line = false) :
    "--" ++ flag.name ∈ completion.candidates registry line := by
  have last : Text.lastWord line = "--" ++ stem := by
    rw [Position.lastWord_eq, goesOn, split, ← List.cons_append, List.getLast?_concat]
    rfl
  have dashed : ['-'] <+: ("--" ++ stem).toList := by
    rw [String.toList_append]
    exact List.cons_prefix_cons.mpr ⟨rfl, List.nil_prefix⟩
  have position : Position.ofLine line = .flag name :=
    (Position.ofLine_eq_flag_iff unquoted name).mpr ⟨goesOn, between, _, split, dashed⟩
  rw [completion.candidates_of_flag registry position, registered, last]
  exact (mem_flagCandidates_iff schema _ _).mpr
    ⟨flag, declared, Flag.continues_dashes noDash starts, rfl⟩

/-- On lines without quotes and backslashes, completion and the reader see the same words. -/
theorem agreesWithReader_of_isUnquoted (unquoted : IsUnquoted line.toList) :
    completion.AgreesWithReader registry line where
  tokens := Token.scan_of_isUnquoted unquoted
  lastWord := Position.lastWord_eq line
  command_iff := Position.ofLine_eq_command_iff unquoted
  flag_iff := Position.ofLine_eq_flag_iff unquoted
  otherwise := completion.candidates_of_otherwise registry
  registered := by
    intro name schema position registered
    rw [completion.candidates_of_flag registry position, registered]
    exact flagCandidates_eq schema (Text.lastWord line)
  unregistered := by
    intro name position unregistered
    rw [completion.candidates_of_flag registry position, unregistered]
  offered registered declared noDash starts split goesOn :=
    completion.mem_candidates_of_stem registry unquoted registered declared noDash starts split
      goesOn
  replaced position registered declared plain :=
    Registry.readsFlag_of_isUnquoted unquoted position registered declared plain

/-- A command with a flag for a number and a switch, which answers nothing. -/
def raising : Command where
  schema := {
    name := "raise"
    flags := [{ name := "count", type := .integer }, { name := "quiet", type := .switch }] }
  handler _ _ journal := (.silent, journal)

/-- The registry of that command alone. -/
def raisingAlone : Registry :=
  Registry.empty.insert raising (by simp [raising, Command.name])

/-- A flag is offered and found behind more than one blank. -/
theorem agreesWithReader_raise :
    IsUnquoted "raise  bones --c".toList ∧
      empty.AgreesWithReader raisingAlone "raise  bones --c" ∧
      empty.candidates raisingAlone "raise  bones --c" = ["--count"] := by
  have unquoted : IsUnquoted "raise  bones --c".toList := by decide
  exact ⟨unquoted, empty.agreesWithReader_of_isUnquoted raisingAlone unquoted, rfl⟩

end Completion

end CommandShell
