import CommandShell.Colouring
import CommandShell.Proofs.SplitLines
import Mathlib.Data.List.TakeWhile

/-!
# Coloured words are read as tokens

Colouring goes through a line with a scan of its own.  It cuts the line where
the reader of tokens does: every word that is coloured is read as one token, and
where the line cannot be read, its last word alone is at fault.

Both scans go through a word in step, and a blank that ends a word puts the
reader back to where a line starts, with the tokens so far behind it.
-/

namespace CommandShell

open Text (isBlank)

namespace Token

/-! ## Reading words one by one -/

/--
What words give when they are read one by one: each gives one token, but the
last one may be at fault, and then its fault is that of all.
-/
inductive OneByOne : List String → Except LexicalError (List Token) → Prop where
  | nil : OneByOne [] (.ok [])
  | token {word : String} {token : Token} {rest : List String}
      {result : Except LexicalError (List Token)} (read : scan word = .ok [token])
      (later : OneByOne rest result) : OneByOne (word :: rest) (result.map (token :: ·))
  | fault {word : String} {error : LexicalError} (refused : scan word = .error error) :
      OneByOne [word] (.error error)

end Token

namespace Colouring

open Token (Scanner)

/-! ## Both scans in step -/

/-- How colouring reads on where the reader of tokens stands. -/
def wordMode : Token.Mode → WordMode
  | .between => .plain
  | .inWord => .plain
  | .inSingle => .single
  | .inDouble => .double
  | .escape => .escaped false
  | .escapeInDouble => .escaped true

/-- The reader is in the first word of a line, and colouring is as far. -/
structure InStep (mode : WordMode) (scanner : Scanner) : Prop where
  mode_eq : wordMode scanner.mode = mode
  inside : scanner.mode ≠ .between
  first : scanner.done = []

theorem inStep_plain {scanner : Scanner} (first : scanner.done = []) (c : Char) :
    InStep (WordMode.plain.next c) (scanner.plain c) := by
  unfold Scanner.plain
  split
  · exact ⟨rfl, by simp [Scanner.openQuote], first⟩
  · exact ⟨rfl, by simp [Scanner.openQuote], first⟩
  · exact ⟨rfl, by simp, first⟩
  · rename_i notDouble notSingle notEscape
    have plain : WordMode.plain.next c = .plain := by
      simp_all [WordMode.next]
    exact ⟨plain.symm, by simp [Scanner.push], first⟩

/-- A character that does not end the word keeps both scans in step. -/
theorem inStep_step {scanner : Scanner} (first : scanner.done = []) {c : Char}
    (goesOn : wordMode scanner.mode = .plain → isBlank c = false) :
    InStep ((wordMode scanner.mode).next c) (scanner.step c) := by
  cases mode : scanner.mode with
  | between | inWord =>
      rw [mode] at goesOn
      rw [Scanner.step_of_not_blank (by simp [Scanner.Outside, mode]) (goesOn rfl)]
      exact inStep_plain first c
  | inSingle =>
      by_cases closes : c = '\'' <;> constructor <;>
        simp [Scanner.step, mode, closes, wordMode, WordMode.next, Scanner.push, first]
  | inDouble =>
      by_cases closes : c = '"'
      · constructor <;> simp [Scanner.step, mode, closes, wordMode, WordMode.next, first]
      · by_cases escapes : c = '\\' <;> constructor <;>
          simp [Scanner.step, mode, closes, escapes, wordMode, WordMode.next, Scanner.push, first]
  | escape | escapeInDouble =>
      constructor <;> simp [Scanner.step, mode, wordMode, WordMode.next, Scanner.push, first]

/-! ## Words -/

theorem splitWord_append (mode : WordMode) (chars : List Char) :
    (splitWord mode chars).1 ++ (splitWord mode chars).2 = chars := by
  induction chars generalizing mode with
  | nil => rfl
  | cons c rest ih =>
      unfold splitWord
      split
      · rfl
      · exact congrArg (c :: ·) (ih (mode.next c))

/--
Behind a word the reader is in it, with no other token read, and either the
line ends or a blank follows outside quotes.
-/
structure EndsWord (scanner : Scanner) (after : List Char) : Prop where
  inside : scanner.mode ≠ .between
  first : scanner.done = []
  ended : after ≠ [] → scanner.mode = .inWord ∧ ∃ c rest, after = c :: rest ∧ isBlank c = true

/-- Where colouring ends a word, the reader is behind that word. -/
theorem InStep.endsWord {mode : WordMode} {scanner : Scanner} (inStep : InStep mode scanner)
    (chars : List Char) :
    EndsWord (scanner.run (splitWord mode chars).1) (splitWord mode chars).2 := by
  induction chars generalizing mode scanner with
  | nil => exact ⟨inStep.inside, inStep.first, fun nonempty => absurd rfl nonempty⟩
  | cons c rest ih =>
      unfold splitWord
      split
      · rename_i ends
        obtain ⟨plain, white⟩ := by simpa using ends
        refine ⟨inStep.inside, inStep.first, fun _ => ⟨?_, c, rest, rfl, white⟩⟩
        have same := inStep.mode_eq.trans plain
        have inside := inStep.inside
        cases inMode : scanner.mode <;> simp_all [wordMode]
      · rename_i goesOn
        have dark : wordMode scanner.mode = .plain → isBlank c = false := by
          rw [inStep.mode_eq]
          simpa using goesOn
        have next := inStep_step inStep.first dark
        rw [inStep.mode_eq] at next
        exact ih next

/-- Behind the first word of a line that starts with it. -/
theorem endsWord_of_not_blank {c : Char} (dark : isBlank c = false) (rest : List Char) :
    EndsWord (Scanner.start.run (c :: (splitWord (WordMode.plain.next c) rest).1))
      (splitWord (WordMode.plain.next c) rest).2 := by
  have first : Scanner.start.done = [] := rfl
  have inStep : InStep (WordMode.plain.next c) (Scanner.start.step c) :=
    inStep_step first fun _ => dark
  exact inStep.endsWord rest

namespace EndsWord

variable {scanner : Scanner} {after : List Char}

/-- A reader outside quotes has read the word as one token. -/
theorem finish_of_inWord (endsWord : EndsWord scanner after) (inWord : scanner.mode = .inWord) :
    scanner.finish = .ok [scanner.token] := by
  simp [Scanner.finish, inWord, Scanner.emit, endsWord.first]

/-- A word on its own is one token or cannot be read. -/
theorem finish_cases (endsWord : EndsWord scanner after) :
    scanner.finish = .ok [scanner.token] ∨ ∃ error, scanner.finish = .error error := by
  have inside := endsWord.inside
  cases mode : scanner.mode with
  | between => exact absurd mode inside
  | inWord => exact Or.inl (endsWord.finish_of_inWord mode)
  | inSingle | inDouble | escape | escapeInDouble =>
      rw [Scanner.finish, mode]
      exact Or.inr ⟨_, rfl⟩

/-- What follows is read like a line of its own, after the token of the word. -/
theorem finish_run (endsWord : EndsWord scanner after) (nonempty : after ≠ []) :
    (scanner.run after).finish = (Token.scanChars after).map (scanner.token :: ·) := by
  obtain ⟨inWord, c, rest, rfl, white⟩ := endsWord.ended nonempty
  have ends : scanner.step c = Scanner.start.behind [scanner.token] := by
    simp [Scanner.step, inWord, white, Scanner.emit, Scanner.start, Scanner.behind, endsWord.first]
  have skips : Scanner.start.step c = .start := by
    simp [Scanner.step, Scanner.start, white]
  rw [Token.scanChars, Scanner.run_cons, Scanner.run_cons, ends, skips, Scanner.run_behind,
    Scanner.finish_behind]
  rfl

end EndsWord

/-! ## Cut lines -/

theorem cut_nil : cut [] = ⟨[], []⟩ := by
  unfold cut
  rfl

theorem eq_gap_append {chars rest : List Char} {c : Char}
    (found : chars.dropWhile isBlank = c :: rest) :
    chars = chars.takeWhile isBlank ++ c :: rest ∧ isBlank c = false := by
  have dark := List.head?_dropWhile_not isBlank chars
  rw [found] at dark
  refine ⟨?_, dark⟩
  rw [← found, List.takeWhile_append_dropWhile]

/-- The blanks before the first word. -/
def leadOf (chars : List Char) : Token.Gap where
  chars := chars.takeWhile isBlank
  blank := List.all_eq_true.mp List.all_takeWhile

/-- The characters of a piece. -/
def Piece.spelled (piece : Piece) : List Char :=
  piece.gap ++ piece.word

/-- The words of a cut line. -/
def Cut.words (cut : Cut) : List String :=
  cut.pieces.map fun piece => String.ofList piece.word

/-- Gaps of blanks and words in turn, which make up the characters of a line. -/
structure Cut.Divides (cut : Cut) (chars : List Char) : Prop where
  spelled : cut.pieces.flatMap Piece.spelled ++ cut.tail = chars
  gaps : ∀ piece ∈ cut.pieces, ∀ c ∈ piece.gap, isBlank c = true
  tail : ∀ c ∈ cut.tail, isBlank c = true
  /-- So every word takes at least one character. -/
  words : ∀ piece ∈ cut.pieces, ∃ c rest, piece.word = c :: rest ∧ isBlank c = false
  separated : ∀ piece ∈ cut.pieces.tail, piece.gap ≠ []

/-- A cut of characters that start with a blank has no word at its start. -/
theorem Cut.Divides.separated_of_blank {cut : Cut} {chars : List Char} (divides : cut.Divides chars)
    (blank : chars ≠ [] → ∃ c rest, chars = c :: rest ∧ isBlank c = true) :
    ∀ piece ∈ cut.pieces, piece.gap ≠ [] := by
  obtain ⟨pieces, tail⟩ := cut
  cases pieces with
  | nil => simp
  | cons first rest =>
      intro piece member
      rcases List.mem_cons.mp member with rfl | later
      · intro touching
        obtain ⟨d, word, same, dark⟩ := divides.words piece List.mem_cons_self
        have spelled := divides.spelled
        simp only [List.flatMap_cons, Piece.spelled, touching, same, List.nil_append,
          List.cons_append] at spelled
        obtain ⟨c, others, starts, white⟩ := blank (spelled ▸ List.cons_ne_nil _ _)
        rw [starts] at spelled
        obtain ⟨rfl, -⟩ := List.cons.inj spelled
        rw [dark] at white
        cases white
      · exact divides.separated piece later

/-- Colouring cuts a line into gaps and words. -/
theorem divides_cut (chars : List Char) : (cut chars).Divides chars := by
  fun_induction cut chars with
  | case1 chars blank =>
      have white := List.dropWhile_eq_nil_iff.mp blank
      exact ⟨rfl, by simp, white, by simp, by simp⟩
  | case2 chars c rest found first later ih =>
      obtain ⟨split, dark⟩ := eq_gap_append found
      have behind := endsWord_of_not_blank dark rest
      refine ⟨?_, ?_, ih.tail, ?_, ?_⟩
      · have word : first.1 ++ first.2 = rest := splitWord_append _ rest
        rw [List.flatMap_cons, List.append_assoc, ih.spelled, Piece.spelled, List.append_assoc,
          List.cons_append, word, ← split]
      · exact List.forall_mem_cons.mpr ⟨(leadOf chars).blank, ih.gaps⟩
      · exact List.forall_mem_cons.mpr ⟨⟨c, first.1, rfl, dark⟩, ih.words⟩
      · exact ih.separated_of_blank fun nonempty => (behind.ended nonempty).2

/-- The words of a cut line are read one by one like the line. -/
theorem oneByOne_cut (chars : List Char) :
    Token.OneByOne (cut chars).words (Token.scanChars chars) := by
  fun_induction cut chars with
  | case1 chars blank =>
      have white := List.dropWhile_eq_nil_iff.mp blank
      have read := Token.scanChars_gap_append ⟨chars, white⟩ []
      rw [List.append_nil] at read
      rw [read]
      exact .nil
  | case2 chars c rest found first later ih =>
      obtain ⟨split, dark⟩ := eq_gap_append found
      have behind := endsWord_of_not_blank dark rest
      have word : first.1 ++ first.2 = rest := splitWord_append _ rest
      have alone : Token.scan (String.ofList (c :: first.1)) =
          (Scanner.start.run (c :: first.1)).finish := by
        rw [Token.scan, String.toList_ofList, Token.scanChars]
      have whole : Token.scanChars chars =
          ((Scanner.start.run (c :: first.1)).run first.2).finish := by
        rw [split, ← word, ← List.cons_append, ← Scanner.run_append]
        exact Token.scanChars_gap_append (leadOf chars) _
      rw [whole]
      by_cases ends : first.2 = []
      · have last : later.pieces = [] :=
          congrArg Cut.pieces ((congrArg cut ends).trans cut_nil)
        rw [Cut.words, List.map_cons, last, ends, Scanner.run_nil]
        rcases behind.finish_cases with read | ⟨error, refused⟩
        · rw [read]
          exact .token (alone.trans read) .nil
        · rw [refused]
          exact .fault (alone.trans refused)
      · have read := behind.finish_of_inWord (behind.ended ends).1
        rw [behind.finish_run ends]
        exact .token (alone.trans read) ih

/-! ## Painted lines -/

/-- Holds of the sequences that set how a terminal shows what follows. -/
def IsStyle (code : String) : Prop :=
  ∃ numbers, numbers ≠ [] ∧ (∀ c ∈ numbers, c.isDigit = true ∨ c = ';') ∧
    code = "\x1b[" ++ String.ofList numbers ++ "m"

/-- A word as it is, or between the code of one colour and the code that ends all colours. -/
inductive Dressed (word : String) : String → Prop where
  | plain : Dressed word word
  | coloured {role : Role} {colour : String} (code : role.colour? = some colour)
      (style : IsStyle colour) : Dressed word (colour ++ word ++ "\x1b[0m")

/-- Gaps as they are and words that are dressed, in the order of the pieces. -/
inductive Dresses : List Piece → String → Prop where
  | nil : Dresses [] ""
  | cons {piece : Piece} {word text : String} {rest : List Piece}
      (dressed : Dressed (String.ofList piece.word) word) (later : Dresses rest text) :
      Dresses (piece :: rest) (String.ofList piece.gap ++ word ++ text)

theorem isStyle_of_colour? {role : Role} {colour : String} (code : role.colour? = some colour) :
    IsStyle colour := by
  cases role <;> cases code
  · exact ⟨['1', ';', '3', '2'], by decide, by simp, by decide +kernel⟩
  · exact ⟨['3', '1'], by decide, by simp, by decide +kernel⟩
  · exact ⟨['3', '3'], by decide, by simp, by decide +kernel⟩
  · exact ⟨['3', '6'], by decide, by simp, by decide +kernel⟩
  · exact ⟨['3', '5'], by decide, by simp, by decide +kernel⟩

theorem dressed_paint (role : Role) (word : String) : Dressed word (paint role word) := by
  unfold paint
  cases code : role.colour? with
  | none => exact .plain
  | some colour => exact .coloured code (isStyle_of_colour? code)

theorem dresses_join (role : String → Role) (pieces : List Piece) :
    Dresses pieces (String.join (pieces.map (paintPiece role))) := by
  induction pieces with
  | nil => exact .nil
  | cons piece rest ih =>
      rw [List.map_cons, String.join_cons]
      exact .cons (dressed_paint _ _) ih

theorem dresses_paintPieces (registry : Registry) (pieces : List Piece) :
    Dresses pieces (paintPieces registry pieces) := by
  cases pieces with
  | nil => exact .nil
  | cons first rest => exact .cons (dressed_paint _ _) (dresses_join argumentRole rest)

/--
What colouring promises of a line that is cut into gaps and words: the gaps and
words are shown in their order with nothing but colours added, and reading the
words one by one comes to the same as reading the line.
-/
structure Highlights (registry : Registry) (line : String) (cut : Cut) : Prop where
  divides : cut.Divides line.toList
  dresses : ∃ text, Dresses cut.pieces text ∧
    highlight registry line = text ++ String.ofList cut.tail
  oneByOne : Token.OneByOne cut.words (Token.scan line)

/-- Every line is coloured word by word, as it is read. -/
theorem highlights_words_as_read (registry : Registry) (line : String) :
    Highlights registry line (cut line.toList) where
  divides := divides_cut line.toList
  dresses := ⟨_, dresses_paintPieces registry _, rfl⟩
  oneByOne := oneByOne_cut line.toList

end Colouring

end CommandShell
