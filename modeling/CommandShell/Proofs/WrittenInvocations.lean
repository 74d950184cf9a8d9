import CommandShell.Proofs.TypedTokens
import CommandShell.Proofs.ValidatedCalls

/-!
# Written invocations are read back

An invocation is written as the name of its command with its arguments and flag
assignments behind it, in any order that keeps the arguments and the assignments
each in theirs.  Arguments and operands stand between double quotes, the name
and the flags have a backslash before every character that does not stand for
itself.  Reading the line gives the invocation back, whatever its texts are.
-/

namespace CommandShell

/-! ## Arguments, assignments and their order -/

/-- The assignment of a declared flag; a flag that is no switch is given a value as text. -/
inductive Assignment (schema : Schema) where
  | switch (flag : Flag) (declared : flag ∈ schema.flags) (type : flag.type = .switch)
  | valued (flag : Flag) (declared : flag ∈ schema.flags) (type : flag.type ≠ .switch)
      (text : String) (value : Value) (read : Value.read? text flag.type = some value)

namespace Assignment

variable {schema : Schema}

def flag : Assignment schema → Flag
  | switch flag _ _ => flag
  | valued flag _ _ _ _ _ => flag

/-- The characters of an assignment with the spaces before its words. -/
def written : Assignment schema → List Char
  | switch flag _ _ => ' ' :: Token.escape ("--" ++ flag.name)
  | valued flag _ _ text _ _ =>
      ' ' :: Token.escape ("--" ++ flag.name) ++ ' ' :: Token.quote text

def item : Assignment schema → Item
  | switch flag _ _ => .assignment flag.name (.switch true)
  | valued flag _ _ _ value _ => .assignment flag.name value

end Assignment

/-- One part of a written invocation behind the name of the command. -/
inductive Piece (schema : Schema) where
  | argument (text : String)
  | assignment (given : Assignment schema)

namespace Piece

variable {schema : Schema}

def written : Piece schema → List Char
  | argument text => ' ' :: Token.quote text
  | assignment given => given.written

def item : Piece schema → Item
  | argument text => .argument text
  | assignment given => given.item

/-- Pieces that are some arguments and some assignments, with both in their order. -/
inductive Interleave : List String → List (Assignment schema) → List (Piece schema) → Prop where
  | nil : Interleave [] [] []
  | argument {text : String} {arguments : List String} {assignments : List (Assignment schema)}
      {pieces : List (Piece schema)} (later : Interleave arguments assignments pieces) :
      Interleave (text :: arguments) assignments (.argument text :: pieces)
  | assignment {given : Assignment schema} {arguments : List String}
      {assignments : List (Assignment schema)} {pieces : List (Piece schema)}
      (later : Interleave arguments assignments pieces) :
      Interleave arguments (given :: assignments) (.assignment given :: pieces)

end Piece

/-- The line with the name of a command and pieces behind it. -/
def writtenLine {schema : Schema} (name : String) (pieces : List (Piece schema)) : String :=
  String.ofList (Token.escape name ++ pieces.flatMap Piece.written)

/-! ## What pieces are read as -/

theorem dashes_ne_empty (name : String) : "--" ++ name ≠ "" := by
  intro same
  have chars := congrArg String.toList same
  simp at chars

namespace Assignment

variable {schema : Schema}

def words : Assignment schema → List Token.Word
  | switch flag _ _ => [.escaped ("--" ++ flag.name) (dashes_ne_empty flag.name)]
  | valued flag _ _ text _ _ =>
      [.escaped ("--" ++ flag.name) (dashes_ne_empty flag.name), .quoted text]

theorem written_eq_words (assignment : Assignment schema) :
    assignment.written = assignment.words.flatMap fun word => ' ' :: word.written := by
  cases assignment <;>
    simp [written, words, Token.Word.written_escaped, Token.Word.written_quoted]

end Assignment

namespace Schema

/-- A token between quotes refers to no flag. -/
theorem not_refers_of_quoted {schema : Schema} {token : Token} (quoted : token.quoted = true)
    (reference : FlagReference) : ¬ schema.Refers token reference := by
  intro refers
  cases refers with
  | long unquoted _ => simp [quoted] at unquoted
  | short unquoted _ _ _ => simp [quoted] at unquoted

theorem resolves_of_mem {schema : Schema} (distinct : (schema.flags.map Flag.name).Nodup)
    {flag : Flag} (declared : flag ∈ schema.flags) : schema.Resolves (.long flag.name) flag :=
  (schema.resolve?_eq_some_iff (.long flag.name) flag).mp (findFlag?_of_mem distinct declared)

end Schema

namespace Piece

variable {schema : Schema}

def words : Piece schema → List Token.Word
  | argument text => [.quoted text]
  | assignment given => given.words

theorem written_eq_words (piece : Piece schema) :
    piece.written = piece.words.flatMap fun word => ' ' :: word.written := by
  cases piece with
  | argument text => simp [written, words, Token.Word.written_quoted]
  | assignment given => exact given.written_eq_words

def tokens (piece : Piece schema) : List Token :=
  piece.words.map Token.Word.token

/-- Where long names are distinct, the tokens of a piece are one group that gives its item. -/
theorem divides_cons (distinct : (schema.flags.map Flag.name).Nodup) (piece : Piece schema)
    {rest : List Token} {items : List Item} (later : schema.Divides rest items) :
    schema.Divides (piece.tokens ++ rest) (piece.item :: items) := by
  cases piece with
  | argument text =>
      rw [tokens, words, List.map_singleton, Token.Word.token_quoted]
      exact .argument (Schema.not_refers_of_quoted rfl) later
  | assignment given =>
      cases given with
      | switch flag declared type =>
          rw [tokens, words, Assignment.words, List.map_singleton, Token.Word.token_escaped]
          exact .switch (schema.refers_dashes flag.name) (Schema.resolves_of_mem distinct declared)
            type later
      | valued flag declared type text value read =>
          rw [tokens, words, Assignment.words, List.map_cons, List.map_singleton,
            Token.Word.token_escaped, Token.Word.token_quoted]
          exact .valued (schema.refers_dashes flag.name) (Schema.resolves_of_mem distinct declared)
            type read later

theorem divides (distinct : (schema.flags.map Flag.name).Nodup) (pieces : List (Piece schema)) :
    schema.Divides (pieces.flatMap tokens) (pieces.map item) := by
  induction pieces with
  | nil => exact .done
  | cons piece rest ih => exact piece.divides_cons distinct ih

end Piece

/-- The tokens of a written line are the name and the tokens of the pieces. -/
theorem scan_writtenLine {schema : Schema} {name : String} (nonempty : name ≠ "")
    (pieces : List (Piece schema)) :
    Token.scan (writtenLine name pieces) = .ok (⟨name, false⟩ :: pieces.flatMap Piece.tokens) := by
  let layout := Token.Layout.spaced (.escaped name nonempty) (pieces.flatMap Piece.words)
  have written : layout.written = (writtenLine name pieces).toList := by
    rw [Token.Layout.written_spaced, Token.Word.written_escaped, writtenLine, String.toList_ofList,
      List.flatMap_assoc, funext Piece.written_eq_words]
  have tokens : layout.tokens = ⟨name, false⟩ :: pieces.flatMap Piece.tokens := by
    rw [Token.Layout.tokens_spaced, Token.Word.token_escaped, List.map_flatMap]
    rfl
  rw [Token.scan, ← written, Token.scanChars_written, tokens]

/-! ## The invocation of interleaved pieces -/

namespace Piece.Interleave

variable {schema : Schema} {arguments : List String} {assignments : List (Assignment schema)}
  {pieces : List (Piece schema)}

theorem arguments_items (interleave : Interleave arguments assignments pieces) :
    Item.arguments (pieces.map item) = arguments := by
  induction interleave with
  | nil => rfl
  | argument later ih => exact congrArg _ ih
  | @assignment given _ _ _ later ih => cases given <;> exact ih

theorem assignment_mem_iff (interleave : Interleave arguments assignments pieces) (flag : String)
    (value : Value) :
    .assignment flag value ∈ pieces.map item ↔
      .assignment flag value ∈ assignments.map Assignment.item := by
  induction interleave with
  | nil => rfl
  | argument later ih => simpa [item] using ih
  | assignment later ih => simp only [List.map_cons, List.mem_cons, ih, item]

/-- The arguments between assignments do not matter for the values of flags. -/
theorem lastAssigns_iff (interleave : Interleave arguments assignments pieces) (flag : String)
    (value : Value) :
    Item.LastAssigns flag value (pieces.map item) ↔
      Item.LastAssigns flag value (assignments.map Assignment.item) := by
  induction interleave with
  | nil => rfl
  | argument later ih => simp [item, Item.lastAssigns_cons_iff, ih]
  | assignment later ih =>
      simp only [List.map_cons, Item.lastAssigns_cons_iff, ih, later.assignment_mem_iff, item]

/-- Pieces whose assignments cover the required flags give an invocation. -/
theorem admits (interleave : Interleave arguments assignments pieces)
    (fits : schema.arity.admits arguments.length = true)
    (complete : ∀ flag ∈ schema.flags, flag.required = true →
      ∃ assignment ∈ assignments, assignment.flag = flag) :
    schema.Admits (pieces.map item)
      { command := schema.name, arguments, flags := Item.flags (pieces.map item) } := by
  obtain ⟨least, most⟩ := (schema.arity.admits_eq_true_iff _).mp fits
  refine
    { arguments := interleave.arguments_items.symm
      flags := Item.find?_flags_eq_some_iff (pieces.map item)
      required := ?_
      least := interleave.arguments_items ▸ least
      most := interleave.arguments_items ▸ most
      line := rfl }
  intro flag declared required
  obtain ⟨assignment, member, rfl⟩ := complete flag declared required
  have inItems : assignment.item ∈ assignments.map Assignment.item := List.mem_map_of_mem member
  cases assignment with
  | switch flag _ _ => exact ⟨.switch true, (interleave.assignment_mem_iff _ _).mpr inItems⟩
  | valued flag _ _ _ value _ => exact ⟨value, (interleave.assignment_mem_iff _ _).mpr inItems⟩

end Piece.Interleave

namespace Registry

/--
A written line is read as the invocation that it was written for: the command,
the arguments in order, the last assignment of each flag, and the line itself.
-/
theorem readLine_writtenLine (registry : Registry) {name : String} {command : Command}
    (found : registry.find? name = some command)
    (distinct : (command.schema.flags.map Flag.name).Nodup)
    {arguments : List String} {assignments : List (Assignment command.schema)}
    {pieces : List (Piece command.schema)}
    (interleave : Piece.Interleave arguments assignments pieces)
    (fits : command.schema.arity.admits arguments.length = true)
    (complete : ∀ flag ∈ command.schema.flags, flag.required = true →
      ∃ assignment ∈ assignments, assignment.flag = flag) :
    ∃ invocation, registry.readLine (writtenLine name pieces) = .ok invocation ∧
      invocation.command = name ∧ invocation.arguments = arguments ∧
      (∀ flag value, invocation.flags.find? flag = some value ↔
        Item.LastAssigns flag value (assignments.map Assignment.item)) ∧
      invocation.line = some (writtenLine name pieces) := by
  obtain ⟨named, nonempty⟩ := registry.named found
  have admits := interleave.admits fits complete
  have read : command.schema.read (pieces.flatMap Piece.tokens) = .ok _ :=
    (command.schema.read_eq_ok_iff _ _).mpr
      ⟨pieces.map Piece.item, Piece.divides distinct pieces, rfl, admits⟩
  have known : registry.schema? name = some command.schema :=
    (registry.schema?_eq_some_iff name command.schema).mpr ⟨command, found, rfl⟩
  refine ⟨{ command := command.schema.name, arguments, flags := Item.flags (pieces.map Piece.item)
            line := some (writtenLine name pieces) }, ?_, named, rfl, ?_, rfl⟩
  · rw [readLine, Token.scanSome, scan_writtenLine nonempty]
    simp only [readTokens, known, read]
  · intro flag value
    rw [← interleave.lastAssigns_iff]
    exact admits.flags flag value

def onStone : Flag :=
  { name := "on stone", type := .text, required := true }

/-- A command with a flag that has to be given and a switch. -/
def inscribe : Command where
  schema :=
    { name := "inscribe", flags := [onStone, { name := "deep", type := .switch }], arity := ⟨1, 1⟩ }
  handler := fun _ _ journal => (.silent, journal)

/-- An argument that looks like a switch stands between two assignments of one flag. -/
theorem readLine_inscribe :
    ∃ invocation, (empty.insert inscribe (by decide)).readLine
        "inscribe --on\\ stone \"top\" \"--deep\" --on\\ stone \"the \\\"top\\\"\"" = .ok invocation ∧
      invocation.command = "inscribe" ∧ invocation.arguments = ["--deep"] ∧
      invocation.flags.find? "on stone" = some (.text "the \"top\"") ∧
      ∀ value, invocation.flags.find? "deep" ≠ some value := by
  have declared : onStone ∈ inscribe.schema.flags := List.mem_cons_self
  let first : Assignment inscribe.schema :=
    .valued onStone declared (by decide) "top" (.text "top") rfl
  let second : Assignment inscribe.schema :=
    .valued onStone declared (by decide) "the \"top\"" (.text "the \"top\"") rfl
  have interleave : Piece.Interleave ["--deep"] [first, second]
      [.assignment first, .argument "--deep", .assignment second] :=
    .assignment (.argument (.assignment .nil))
  have found : (empty.insert inscribe (by decide)).find? "inscribe" = some inscribe := rfl
  have complete : ∀ flag ∈ inscribe.schema.flags, flag.required = true →
      ∃ assignment ∈ [first, second], assignment.flag = flag := by
    intro flag member required
    rcases List.mem_cons.mp member with rfl | optional
    · exact ⟨first, List.mem_cons_self, rfl⟩
    · obtain rfl := List.mem_singleton.mp optional
      cases required
  obtain ⟨invocation, read, command, arguments, flags, -⟩ :=
    readLine_writtenLine _ found (by decide) interleave rfl complete
  refine ⟨invocation, read, command, arguments, (flags _ _).mpr (.later (.here ?_)), ?_⟩
  · simp
  · intro value given
    have member := ((flags "deep" value).mp given).mem
    simp [first, second, Assignment.item, onStone] at member

end Registry

end CommandShell
