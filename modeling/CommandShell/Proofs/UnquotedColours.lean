import CommandShell.Proofs.ColouredWords
import CommandShell.Proofs.UnquotedLines

/-!
# Colours of lines without quotes and backslashes

On a line without quotes and backslashes, colouring cuts the words between
blanks, which are the tokens of the line.  The colour of the first word tells
whether the reader knows the command.  A later word has the colour of a flag
exactly when it refers to one, with a single exception: a declared alias that is
no letter refers to its flag and is not coloured as one.
-/

namespace CommandShell

open Text (isBlank isBlankLine words wordsOf IsUnquoted hasStem)
open Token (bare)

namespace Text

/-! ## Words behind blanks and before them -/

theorem wordsOf_cons_blank {c : Char} (white : isBlank c = true) (rest : List Char) :
    wordsOf (c :: rest) = wordsOf rest :=
  wordsOf_append_cons [] white rest

/-- The blanks before the first word are part of no word. -/
theorem wordsOf_dropWhile (chars : List Char) : wordsOf (chars.dropWhile isBlank) = wordsOf chars := by
  induction chars with
  | nil => rfl
  | cons c rest ih =>
      rw [List.dropWhile_cons]
      split
      · rename_i white
        rw [ih, wordsOf_cons_blank white]
      · rfl

/-- A word goes up to the next blank. -/
theorem wordsOf_word_append {word after : List Char} (dark : ∀ c ∈ word, isBlank c = false)
    (nonempty : word ≠ [])
    (ended : after ≠ [] → ∃ c rest, after = c :: rest ∧ isBlank c = true) :
    wordsOf (word ++ after) = word :: wordsOf after := by
  by_cases last : after = []
  · rw [last, List.append_nil, wordsOf_of_dark dark nonempty, wordsOf_nil]
  · obtain ⟨c, rest, rfl, white⟩ := ended last
    rw [wordsOf_append_cons word white, wordsOf_of_dark dark nonempty, wordsOf_cons_blank white]
    rfl

theorem IsUnquoted.of_append {first second : List Char} (unquoted : IsUnquoted (first ++ second)) :
    IsUnquoted first ∧ IsUnquoted second :=
  List.forall_mem_append.mp unquoted

end Text

namespace Colouring

/-! ## Cut words -/

theorem next_of_isUnquoted {c : Char} {rest : List Char} (unquoted : IsUnquoted (c :: rest)) :
    WordMode.plain.next c = .plain := by
  obtain ⟨noDouble, noSingle, noEscape⟩ := unquoted c List.mem_cons_self
  rw [WordMode.next, if_neg noEscape, if_neg noDouble, if_neg noSingle]

/-- Without quotes and backslashes, a word has no blank. -/
theorem isBlank_of_mem_splitWord {chars : List Char} (unquoted : IsUnquoted chars) :
    ∀ c ∈ (splitWord .plain chars).1, isBlank c = false := by
  induction chars with
  | nil => simp [splitWord]
  | cons c rest ih =>
      unfold splitWord
      split
      · simp
      · rename_i goesOn
        rw [next_of_isUnquoted unquoted]
        have dark : isBlank c = false := by simpa using goesOn
        have later : IsUnquoted rest := fun d member => unquoted d (List.mem_cons_of_mem c member)
        exact List.forall_mem_cons.mpr ⟨dark, ih later⟩

/-- The words that are coloured are the words between blanks. -/
theorem map_word_cut {chars : List Char} (unquoted : IsUnquoted chars) :
    (cut chars).pieces.map Piece.word = wordsOf chars := by
  fun_induction cut chars with
  | case1 chars blank => rw [← Text.wordsOf_dropWhile, blank]; rfl
  | case2 chars c rest found first later ih =>
      obtain ⟨split, dark⟩ := eq_gap_append found
      have behind := endsWord_of_not_blank dark rest
      have parts : first.1 ++ first.2 = rest := splitWord_append _ rest
      -- No quote is opened by the first character, so the word goes on in the plain mode.
      have fromWord : IsUnquoted (c :: rest) := (split ▸ unquoted).of_append.2
      have inRest : IsUnquoted (first.1 ++ first.2) := by
        rw [parts]
        exact fun d member => fromWord d (List.mem_cons_of_mem c member)
      have darkWord : ∀ d ∈ c :: first.1, isBlank d = false := by
        refine List.forall_mem_cons.mpr ⟨dark, ?_⟩
        have plain : first = splitWord .plain rest := by
          rw [← next_of_isUnquoted fromWord]
        rw [plain]
        exact isBlank_of_mem_splitWord (parts ▸ inRest)
      have whole : wordsOf chars = wordsOf ((c :: first.1) ++ first.2) := by
        rw [← Text.wordsOf_dropWhile chars, found, List.cons_append, parts]
      rw [List.map_cons, ih inRest.of_append.2, whole]
      exact (Text.wordsOf_word_append darkWord (List.cons_ne_nil _ _) fun more =>
        (behind.ended more).2).symm

/-! ## Words in their colours -/

/-- A word with the role that it is coloured as. -/
structure ColouredWord where
  word : String
  role : Role

/-- Gaps as they are, and each word in the colour of its role. -/
inductive Paints : List Piece → List ColouredWord → String → Prop where
  | nil : Paints [] [] ""
  | cons {piece : Piece} {role : Role} {rest : List Piece} {later : List ColouredWord}
      {text : String} (paints : Paints rest later text) :
      Paints (piece :: rest) (⟨String.ofList piece.word, role⟩ :: later)
        (String.ofList piece.gap ++ paint role (String.ofList piece.word) ++ text)

theorem paints_join (role : String → Role) (pieces : List Piece) :
    Paints pieces (pieces.map fun piece =>
        ⟨String.ofList piece.word, role (String.ofList piece.word)⟩)
      (String.join (pieces.map (paintPiece role))) := by
  induction pieces with
  | nil => exact .nil
  | cons piece rest ih =>
      rw [List.map_cons, List.map_cons, String.join_cons]
      exact .cons ih

/-- The words of a line that is not blank, with their roles; the first one has a role of its own. -/
theorem exists_paints {registry : Registry} {pieces : List Piece} {first : String}
    {later : List String}
    (cutWords : pieces.map (fun piece => String.ofList piece.word) = first :: later) :
    Paints pieces (⟨first, commandRole registry first⟩ ::
      later.map fun word => ⟨word, argumentRole word⟩) (paintPieces registry pieces) := by
  obtain ⟨piece, rest, rfl, rfl, rfl⟩ := List.map_eq_cons_iff.mp cutWords
  rw [List.map_map]
  exact .cons (paints_join argumentRole rest)

theorem colour?_injective {first second : Role} (same : first.colour? = second.colour?) :
    first = second := by
  cases first <;> cases second <;> first | rfl | exact absurd same (by decide)

/-- The colour of a word tells its role. -/
theorem role_eq_of_paint_eq {word : String} {first second : Role}
    (same : paint first word = paint second word) : first = second := by
  apply colour?_injective
  -- A colour makes the text longer, so no coloured word is taken for one without a colour.
  have longer : ∀ colour : String, (colour ++ word ++ reset).toList ≠ word.toList := by
    intro colour alike
    have lengths := congrArg List.length alike
    simp [reset] at lengths
    omega
  unfold paint at same
  cases firstColour : first.colour? with
  | none =>
      cases secondColour : second.colour? with
      | none => rfl
      | some colour =>
          rw [firstColour, secondColour] at same
          exact absurd (congrArg String.toList same).symm (longer colour)
  | some colour =>
      cases secondColour : second.colour? with
      | none =>
          rw [firstColour, secondColour] at same
          exact absurd (congrArg String.toList same) (longer colour)
      | some other =>
          rw [firstColour, secondColour] at same
          have chars := congrArg String.toList same
          simp only [String.toList_append, List.append_assoc, List.append_cancel_right_eq,
            String.toList_inj] at chars
          rw [chars]

/-! ## Flags by colour and flags by reference -/

/-- Holds of one dash and a declared alias that is no letter. -/
def IsOddAlias (schema : Schema) (word : String) : Prop :=
  ∃ c, word.toList = ['-', c] ∧ Text.isAlphabetic c = false ∧
    ∃ flag ∈ schema.flags, flag.short = some c

theorem isShortFlag_eq_true_iff (chars : List Char) :
    isShortFlag chars = true ↔ ∃ c, chars = ['-', c] ∧ Text.isAlphabetic c = true := by
  unfold isShortFlag
  split
  · simp
  · rename_i other
    refine iff_of_false Bool.false_ne_true ?_
    rintro ⟨c, rfl, -⟩
    exact other c rfl

theorem not_hasStem_of_isUnquoted {word : String} (unquoted : IsUnquoted word.toList)
    {stem : String} {c : Char} (single : stem.toList = [c]) (quote : c = '"' ∨ c = '\'') :
    hasStem stem word = false := by
  rw [← Bool.not_eq_true, Text.hasStem_eq_true_iff, single]
  intro starts
  obtain ⟨noDouble, noSingle, -⟩ := unquoted c (starts.subset List.mem_cons_self)
  rcases quote with rfl | rfl
  · exact noDouble rfl
  · exact noSingle rfl

/-- A word without quotes is coloured as a flag if it starts with two dashes or is a short one. -/
theorem argumentRole_eq_flag_iff {word : String} (unquoted : IsUnquoted word.toList) :
    argumentRole word = .flag ↔ hasStem "--" word = true ∨ isShortFlag word.toList = true := by
  have noDouble : hasStem "\"" word = false :=
    not_hasStem_of_isUnquoted unquoted (by decide) (Or.inl rfl)
  have noSingle : hasStem "'" word = false :=
    not_hasStem_of_isUnquoted unquoted (by decide) (Or.inr rfl)
  rw [argumentRole, noDouble, noSingle, ← Bool.or_eq_true]
  split
  · rename_i quoted
    cases quoted
  · split
    · simp [*]
    · split <;> simp [*]

/-- A bare word refers to a flag if it has the form of one, or else is a declared alias. -/
theorem isSome_reference?_bare_iff (schema : Schema) (word : String) :
    (schema.reference? (bare word)).isSome = true ↔
      (hasStem "--" word = true ∨ isShortFlag word.toList = true) ∨ IsOddAlias schema word := by
  rw [Option.isSome_iff_exists, Text.hasStem_eq_true_iff, isShortFlag_eq_true_iff]
  constructor
  · rintro ⟨reference, found⟩
    cases (schema.reference?_eq_some_iff _ _).mp found with
    | @long name unquoted text => exact Or.inl (Or.inl ⟨name, text.symm⟩)
    | @short c unquoted text noDash known =>
        cases letter : Text.isAlphabetic c with
        | true => exact Or.inl (Or.inr ⟨c, text, letter⟩)
        | false =>
            rw [letter] at known
            exact Or.inr ⟨c, text, letter, known.resolve_left Bool.false_ne_true⟩
  · have refers : ∀ {reference}, schema.Refers (bare word) reference →
        ∃ reference, schema.reference? (bare word) = some reference :=
      fun refers => ⟨_, (schema.reference?_eq_some_iff _ _).mpr refers⟩
    have long : ∀ name, word.toList = '-' :: '-' :: name →
        ∃ reference, schema.reference? (bare word) = some reference :=
      fun name text => refers (.long rfl text)
    rintro ((⟨name, text⟩ | ⟨c, text, letter⟩) | ⟨c, text, -, declared⟩)
    · exact long name text.symm
    · by_cases dash : c = '-'
      · exact long [] (dash ▸ text)
      · exact refers (.short rfl text dash (Or.inl letter))
    · by_cases dash : c = '-'
      · exact long [] (dash ▸ text)
      · exact refers (.short rfl text dash (Or.inr declared))

/-! ## The command of a line -/

theorem commandRole_eq_known_iff (registry : Registry) (word : String) :
    commandRole registry word = .knownCommand ↔ registry.contains word = true := by
  unfold commandRole
  split <;> simp [*]

theorem commandRole_eq_unknown_iff (registry : Registry) (word : String) :
    commandRole registry word = .unknownCommand ↔ registry.contains word = false := by
  unfold commandRole
  split <;> simp [*]

end Colouring

theorem Schema.read_ne_unknownCommand (schema : Schema) (tokens : List Token) (name : String) :
    schema.read tokens ≠ .error (.unknownCommand name) := by
  intro refused
  have judges := schema.judges_read tokens
  rw [refused] at judges
  cases judges with
  | stuck longest stuck => cases stuck

/-- A line that is read as tokens names no command exactly if its first token is not registered. -/
theorem Registry.readLine_eq_unknownCommand_iff {registry : Registry} {line : String} {head : Token}
    {tail : List Token} (scanned : Token.scan line = .ok (head :: tail)) (name : String) :
    registry.readLine line = .error (.reading (.unknownCommand name)) ↔
      registry.contains head.text = false ∧ name = head.text := by
  have some : Token.scanSome line = .ok (head :: tail) := by rw [Token.scanSome, scanned]
  have known : registry.contains head.text = (registry.find? head.text).isSome := rfl
  rw [known]
  cases found : registry.find? head.text with
  | none =>
      rw [readLine, some]
      dsimp only
      rw [readTokens_of_find?_eq_none found]
      simp [eq_comm]
  | some command =>
      refine iff_of_false ?_ (by simp)
      intro refused
      have read := readTokens_of_readLine some refused
      rw [readTokens_of_find? found] at read
      exact command.schema.read_ne_unknownCommand tail name read

namespace Colouring

/-! ## Colours and the reader -/

/--
How the colours of a line go together with reading it: the coloured words are
its tokens, the first one tells whether the command is known, and among the
later ones flags have their colour, but for aliases that are no letters.
-/
structure AgreesWithReader (registry : Registry) (line : String) (command : ColouredWord)
    (arguments : List ColouredWord) : Prop where
  painted : ∃ text, Paints (cut line.toList).pieces (command :: arguments) text ∧
    highlight registry line = text ++ String.ofList (cut line.toList).tail
  roles : ∀ {word first second}, paint first word = paint second word → first = second
  tokens : Token.scan line = .ok ((command :: arguments).map fun coloured => bare coloured.word)
  known_iff : command.role = .knownCommand ↔
    ∀ name, registry.readLine line ≠ .error (.reading (.unknownCommand name))
  unknown_iff : command.role = .unknownCommand ↔
    registry.readLine line = .error (.reading (.unknownCommand command.word))
  refers_iff : ∀ schema, registry.schema? command.word = some schema → ∀ argument ∈ arguments,
    (schema.reference? (bare argument.word)).isSome = true ↔
      argument.role = .flag ∨ IsOddAlias schema argument.word
  refers_of_flag : ∀ argument ∈ arguments, argument.role = .flag → ∀ schema : Schema,
    (schema.reference? (bare argument.word)).isSome = true

/-- The words of an unquoted line are unquoted. -/
theorem isUnquoted_of_mem_words {line : String} (unquoted : IsUnquoted line.toList) {word : String}
    (member : word ∈ words line) : IsUnquoted word.toList := by
  obtain ⟨chars, inLine, rfl⟩ := List.mem_map.mp member
  rw [← map_word_cut unquoted] at inLine
  obtain ⟨piece, inCut, rfl⟩ := List.mem_map.mp inLine
  rw [String.toList_ofList]
  intro c inWord
  refine unquoted c ?_
  rw [← (divides_cut line.toList).spelled]
  refine List.mem_append_left _ (List.mem_flatMap.mpr ⟨piece, inCut, ?_⟩)
  exact List.mem_append_right _ inWord

/--
A line without quotes and backslashes that is not blank is coloured as the
reader takes it, word by word.
-/
theorem agrees_with_reader_of_isUnquoted (registry : Registry) {line : String}
    (dark : isBlankLine line = false) (unquoted : IsUnquoted line.toList) :
    ∃ command arguments, AgreesWithReader registry line command arguments := by
  obtain ⟨first, later, split⟩ : ∃ first later, words line = first :: later := by
    refine List.exists_cons_of_ne_nil ?_
    rw [ne_eq, words_eq_nil_iff unquoted, dark]
    exact Bool.false_ne_true
  have cutWords : (cut line.toList).pieces.map (fun piece => String.ofList piece.word) =
      first :: later := by
    rw [← split, words, ← map_word_cut unquoted, List.map_map]
    rfl
  have scanned : Token.scan line = .ok (bare first :: later.map bare) := by
    rw [Token.scan_of_isUnquoted unquoted, split, List.map_cons]
  have unknown_iff : ∀ name,
      registry.readLine line = .error (.reading (.unknownCommand name)) ↔
        registry.contains first = false ∧ name = first :=
    registry.readLine_eq_unknownCommand_iff scanned
  refine ⟨⟨first, commandRole registry first⟩, later.map fun word => ⟨word, argumentRole word⟩, ?_⟩
  refine
    { painted := ⟨_, exists_paints cutWords, rfl⟩
      roles := role_eq_of_paint_eq
      tokens := ?_
      known_iff := ?_
      unknown_iff := ?_
      refers_iff := ?_
      refers_of_flag := ?_ }
  · rw [scanned, List.map_cons, List.map_map]
    rfl
  · rw [commandRole_eq_known_iff]
    constructor
    · intro known name refused
      rw [((unknown_iff name).mp refused).1] at known
      cases known
    · intro never
      by_contra unknown
      rw [Bool.not_eq_true] at unknown
      exact never first ((unknown_iff first).mpr ⟨unknown, rfl⟩)
  · rw [commandRole_eq_unknown_iff, unknown_iff first]
    exact (and_iff_left rfl).symm
  · intro schema _ argument member
    obtain ⟨word, inLater, rfl⟩ := List.mem_map.mp member
    have plain := isUnquoted_of_mem_words unquoted (split ▸ List.mem_cons_of_mem first inLater)
    rw [isSome_reference?_bare_iff, ← argumentRole_eq_flag_iff plain]
  · intro argument member flag schema
    obtain ⟨word, inLater, rfl⟩ := List.mem_map.mp member
    have plain := isUnquoted_of_mem_words unquoted (split ▸ List.mem_cons_of_mem first inLater)
    rw [isSome_reference?_bare_iff, ← argumentRole_eq_flag_iff plain]
    exact Or.inl flag

/-- A command with a switch whose alias is no letter, which answers nothing. -/
def marking : Command where
  schema := {
    name := "mark"
    flags := [{ name := "urgent", short := some '!', type := .switch }] }
  handler _ _ journal := (.silent, journal)

/-- The registry of that command alone. -/
def markingAlone : Registry :=
  Registry.empty.insert marking (by simp [marking, Command.name])

/-- The alias is read as a reference, and has not the colour of one. -/
theorem agrees_with_reader_mark :
    isBlankLine "mark  -! --all" = false ∧ IsUnquoted "mark  -! --all".toList ∧
      (∃ command arguments,
        AgreesWithReader markingAlone "mark  -! --all" command arguments) ∧
      (marking.schema.reference? (bare "-!")).isSome = true ∧ argumentRole "-!" = .plain := by
  have dark : isBlankLine "mark  -! --all" = false := by decide
  have unquoted : IsUnquoted "mark  -! --all".toList := by decide
  exact ⟨dark, unquoted, agrees_with_reader_of_isUnquoted markingAlone dark unquoted,
    by decide +kernel, by decide +kernel⟩

end Colouring

end CommandShell
