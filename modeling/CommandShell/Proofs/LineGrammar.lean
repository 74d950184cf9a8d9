import CommandShell.Token

/-!
# The grammar of lines

A line is laid out as words with blanks around them, and a word is a run of
segments: plain characters, escaped characters and quoted parts.  The reader
accepts exactly the lines that can be laid out, and reads one token per word.

The proof that nothing else is accepted follows the reader character by
character.  Its invariant splits what was read into a layout in which blanks
follow every word, and an open end whose shape is given by the mode.
-/

namespace CommandShell.Token

open Text (isBlank)

/-! ## Segments, words and layouts -/

/-- Holds of the characters that stand for themselves outside quotes. -/
def isPlain (c : Char) : Bool :=
  !isBlank c && c != '"' && c != '\'' && c != '\\'

/-- What can stand between double quotes. -/
inductive DoubleItem where
  | literal (c : Char) (inside : c ≠ '"' ∧ c ≠ '\\')
  | escaped (c : Char)

namespace DoubleItem

/-- The characters of an item as it is typed. -/
def written : DoubleItem → List Char
  | literal c _ => [c]
  | escaped c => ['\\', c]

/-- The character that an item stands for. -/
def read : DoubleItem → Char
  | literal c _ => c
  | escaped c => unescape c

end DoubleItem

/-- The parts that a word is made of. -/
inductive Segment where
  | plain (c : Char) (outside : isPlain c = true)
  | escaped (c : Char)
  | single (body : List Char) (inside : '\'' ∉ body)
  | double (items : List DoubleItem)

namespace Segment

/-- The characters of a segment as it is typed. -/
def written : Segment → List Char
  | plain c _ => [c]
  | escaped c => ['\\', c]
  | single body _ => '\'' :: (body ++ ['\''])
  | double items => '"' :: (items.flatMap DoubleItem.written ++ ['"'])

/-- The text that a segment stands for. -/
def read : Segment → List Char
  | plain c _ => [c]
  | escaped c => [unescape c]
  | single body _ => body
  | double items => items.map DoubleItem.read

/-- Holds of the segments between quotes. -/
def isQuoted : Segment → Bool
  | plain _ _ => false
  | escaped _ => false
  | single _ _ => true
  | double _ => true

end Segment

/-- A run of segments that touch. -/
structure Word where
  segments : List Segment
  nonempty : segments ≠ []

namespace Word

/-- The characters of a word as it is typed. -/
def written (word : Word) : List Char :=
  word.segments.flatMap Segment.written

/-- The token that a word stands for. -/
def token (word : Word) : Token where
  text := String.ofList (word.segments.flatMap Segment.read)
  quoted := word.segments.any Segment.isQuoted

end Word

/-- Blanks, possibly none. -/
structure Gap where
  chars : List Char
  blank : ∀ c ∈ chars, isBlank c = true

namespace Gap

/-- No blank at all. -/
def none : Gap :=
  ⟨[], by simp⟩

/-- The blanks with one more behind them. -/
def push (gap : Gap) {c : Char} (white : isBlank c = true) : Gap where
  chars := gap.chars ++ [c]
  blank other member := by
    rcases List.mem_append.mp member with earlier | last
    · exact gap.blank other earlier
    · exact List.mem_singleton.mp last ▸ white

end Gap

/--
Words with the blanks before the first one and the blanks after each of them.
Only the last word can stand without a blank after it.
-/
structure Layout where
  lead : Gap
  words : List (Word × Gap)
  separated : ∀ entry ∈ words.dropLast, entry.2.chars ≠ []

namespace Layout

/-- The characters of a word and of the blanks after it. -/
def spelled (entry : Word × Gap) : List Char :=
  entry.1.written ++ entry.2.chars

/-- The characters of a layout. -/
def written (layout : Layout) : List Char :=
  layout.lead.chars ++ layout.words.flatMap spelled

/-- One token for each word. -/
def tokens (layout : Layout) : List Token :=
  layout.words.map fun entry => entry.1.token

end Layout

/-! ## Reading what is laid out -/

namespace Scanner

/-- The reader before a word, with the tokens read so far in reverse order. -/
def resting (done : List Token) : Scanner :=
  ⟨.between, [], false, done⟩

/-- The reader behind segments that were added to the pending token. -/
def absorb (scanner : Scanner) (segments : List Segment) : Scanner where
  mode := .inWord
  pending := (segments.flatMap Segment.read).reverse ++ scanner.pending
  quoted := scanner.quoted || segments.any Segment.isQuoted
  done := scanner.done

/-- Holds when the reader is neither between quotes nor behind a backslash. -/
def Outside (scanner : Scanner) : Prop :=
  scanner.mode = .between ∨ scanner.mode = .inWord

theorem step_of_not_blank {scanner : Scanner} (outside : scanner.Outside) {c : Char}
    (dark : isBlank c = false) : scanner.step c = scanner.plain c := by
  rcases outside with mode | mode <;> simp [step, mode, dark]

theorem plain_of_isPlain {scanner : Scanner} {c : Char} (outside : isPlain c = true) :
    scanner.plain c = scanner.push .inWord c := by
  simp only [isPlain, Bool.and_eq_true, bne_iff_ne, ne_eq] at outside
  obtain ⟨⟨⟨-, notDouble⟩, notSingle⟩, notEscape⟩ := outside
  unfold plain
  split <;> simp_all

/-- The text between single quotes is kept as it is. -/
theorem run_single (body : List Char) (inside : '\'' ∉ body) (pending : List Char) (quoted : Bool)
    (done : List Token) :
    run ⟨.inSingle, pending, quoted, done⟩ (body ++ ['\'']) =
      ⟨.inWord, body.reverse ++ pending, quoted, done⟩ := by
  induction body generalizing pending with
  | nil => rfl
  | cons c body ih =>
      rw [List.mem_cons, not_or] at inside
      obtain ⟨notQuote, inside⟩ := inside
      have first : step ⟨.inSingle, pending, quoted, done⟩ c =
          ⟨.inSingle, c :: pending, quoted, done⟩ := by
        simp [step, push, Ne.symm notQuote]
      rw [List.cons_append, run_cons, first, ih inside]
      simp

/-- The text between double quotes is kept but for its escapes. -/
theorem run_double (items : List DoubleItem) (pending : List Char) (quoted : Bool)
    (done : List Token) :
    run ⟨.inDouble, pending, quoted, done⟩ (items.flatMap DoubleItem.written) =
      ⟨.inDouble, (items.map DoubleItem.read).reverse ++ pending, quoted, done⟩ := by
  induction items generalizing pending with
  | nil => rfl
  | cons item items ih =>
      have first : run ⟨.inDouble, pending, quoted, done⟩ item.written =
          ⟨.inDouble, item.read :: pending, quoted, done⟩ := by
        cases item with
        | literal c inside =>
            simp [DoubleItem.written, DoubleItem.read, step, push, inside.1, inside.2]
        | escaped c => simp [DoubleItem.written, DoubleItem.read, step, push]
      rw [List.flatMap_cons, run_append, first, ih]
      simp

/-- A segment adds what it stands for to the pending token. -/
theorem run_segment {scanner : Scanner} (outside : scanner.Outside) (segment : Segment) :
    scanner.run segment.written = scanner.absorb [segment] := by
  cases segment with
  | plain c isPlain =>
      have dark : isBlank c = false := by
        simp only [Token.isPlain, Bool.and_eq_true, Bool.not_eq_true'] at isPlain
        exact isPlain.1.1.1
      rw [Segment.written, run_cons, run_nil, step_of_not_blank outside dark,
        plain_of_isPlain isPlain]
      simp [push, absorb, Segment.read, Segment.isQuoted]
  | escaped c =>
      rw [Segment.written, run_cons, step_of_not_blank outside (by decide)]
      simp [plain, step, push, absorb, Segment.read, Segment.isQuoted]
  | single body inside =>
      rw [Segment.written, run_cons, step_of_not_blank outside (by decide)]
      simp [plain, openQuote, run_single body inside, absorb, Segment.read, Segment.isQuoted]
  | double items =>
      rw [Segment.written, run_cons, step_of_not_blank outside (by decide), run_append]
      simp [plain, openQuote, run_double, step, absorb, Segment.read, Segment.isQuoted]

theorem absorb_append (scanner : Scanner) (first second : List Segment) :
    scanner.absorb (first ++ second) = (scanner.absorb first).absorb second := by
  simp [absorb, Bool.or_assoc]

/-- A word leaves the reader in the word, with the text of the word pending. -/
theorem run_segments {scanner : Scanner} (outside : scanner.Outside) {segments : List Segment}
    (nonempty : segments ≠ []) :
    scanner.run (segments.flatMap Segment.written) = scanner.absorb segments := by
  induction segments generalizing scanner with
  | nil => exact absurd rfl nonempty
  | cons segment rest ih =>
      rw [List.flatMap_cons, run_append, run_segment outside]
      cases rest with
      | nil => rfl
      | cons next rest =>
          rw [ih (Or.inr rfl) (List.cons_ne_nil next rest), ← absorb_append]
          rfl

/-- Blanks before a word are skipped. -/
theorem run_resting (gap : Gap) (done : List Token) :
    (resting done).run gap.chars = resting done := by
  obtain ⟨chars, blank⟩ := gap
  induction chars with
  | nil => rfl
  | cons c chars ih =>
      have first : (resting done).step c = resting done := by
        simp [step, resting, blank c List.mem_cons_self]
      rw [run_cons, first]
      exact ih fun c member => blank c (List.mem_cons_of_mem _ member)

/-- The first blank after a word ends the token. -/
theorem run_blanks {scanner : Scanner} (mode : scanner.mode = .inWord) {gap : Gap}
    (nonempty : gap.chars ≠ []) :
    scanner.run gap.chars = resting (scanner.token :: scanner.done) := by
  obtain ⟨chars, blank⟩ := gap
  cases chars with
  | nil => exact absurd rfl nonempty
  | cons c chars =>
      have first : scanner.step c = resting (scanner.token :: scanner.done) := by
        simp [step, mode, blank c List.mem_cons_self, emit, resting]
      rw [run_cons, first]
      exact run_resting ⟨chars, fun c member => blank c (List.mem_cons_of_mem _ member)⟩ _

/-- The pending token behind a whole word is the token of the word. -/
theorem token_absorb_resting (word : Word) (done : List Token) :
    ((resting done).absorb word.segments).token = word.token := by
  simp [absorb, resting, token, Word.token]

/-- Words with their blanks are read as the tokens of the words. -/
theorem finish_run_words (words : List (Word × Gap))
    (separated : ∀ entry ∈ words.dropLast, entry.2.chars ≠ []) (done : List Token) :
    ((resting done).run (words.flatMap Layout.spelled)).finish =
      .ok (done.reverse ++ words.map fun entry => entry.1.token) := by
  induction words generalizing done with
  | nil => simp [resting, finish]
  | cons entry rest ih =>
      obtain ⟨word, gap⟩ := entry
      have behind : (resting done).run word.written = (resting done).absorb word.segments :=
        run_segments (Or.inl rfl) word.nonempty
      rw [List.flatMap_cons, Layout.spelled, List.append_assoc, run_append, behind]
      -- Without a blank the word is open until the line ends, so it has to be the last one.
      by_cases touching : gap.chars = []
      · have last : rest = [] := by
          cases rest with
          | nil => rfl
          | cons next rest => exact absurd touching (separated (word, gap) (by simp))
        subst last
        simp [touching, finish, absorb, emit, resting, token, Word.token]
      · rw [run_append, run_blanks rfl touching, token_absorb_resting, ih]
        · simp [absorb, resting]
        · intro entry member
          cases rest with
          | nil => cases member
          | cons next rest => exact separated entry (List.mem_cons_of_mem _ member)

end Scanner

/-- The reader accepts every layout and reads one token per word. -/
theorem scanChars_written (layout : Layout) : scanChars layout.written = .ok layout.tokens := by
  have skipped : Scanner.start.run layout.lead.chars = Scanner.resting [] :=
    Scanner.run_resting layout.lead []
  rw [scanChars, Layout.written, Scanner.run_append, skipped]
  simpa [Layout.tokens] using Scanner.finish_run_words layout.words layout.separated []

/-- Segments of every kind make up one token. -/
example : scan "a\\ b\"c \\\"\"'d '  e" = .ok [⟨"a bc \"d ", true⟩, ⟨"e", false⟩] := rfl

/-! ## Laying out what was read -/

/--
The characters after the last word that a blank ended, by the mode they leave
the reader in.
-/
inductive OpenEnd (done : List Token) : List Char → Scanner → Prop where
  | between : OpenEnd done [] (.resting done)
  | inWord (segments : List Segment) (nonempty : segments ≠ []) :
      OpenEnd done (segments.flatMap Segment.written) ((Scanner.resting done).absorb segments)
  | inSingle (segments : List Segment) (body : List Char) (inside : '\'' ∉ body) :
      OpenEnd done (segments.flatMap Segment.written ++ '\'' :: body)
        ⟨.inSingle, body.reverse ++ (segments.flatMap Segment.read).reverse, true, done⟩
  | inDouble (segments : List Segment) (items : List DoubleItem) :
      OpenEnd done (segments.flatMap Segment.written ++ '"' :: items.flatMap DoubleItem.written)
        ⟨.inDouble, (items.map DoubleItem.read).reverse ++
          (segments.flatMap Segment.read).reverse, true, done⟩
  | escape (segments : List Segment) :
      OpenEnd done (segments.flatMap Segment.written ++ ['\\'])
        ⟨.escape, (segments.flatMap Segment.read).reverse, segments.any Segment.isQuoted, done⟩
  | escapeInDouble (segments : List Segment) (items : List DoubleItem) :
      OpenEnd done
        (segments.flatMap Segment.written ++ '"' :: items.flatMap DoubleItem.written ++ ['\\'])
        ⟨.escapeInDouble, (items.map DoubleItem.read).reverse ++
          (segments.flatMap Segment.read).reverse, true, done⟩

namespace OpenEnd

variable {done : List Token}

/-- Outside quotes a character that is no blank continues the word or opens a part of it. -/
theorem plain (segments : List Segment) (scanner : Scanner)
    (pending : scanner.pending = (segments.flatMap Segment.read).reverse)
    (quoted : scanner.quoted = segments.any Segment.isQuoted) (tokens : scanner.done = done)
    {c : Char} (dark : isBlank c = false) :
    OpenEnd done (segments.flatMap Segment.written ++ [c]) (scanner.plain c) := by
  obtain ⟨mode, _, _, finished⟩ := scanner
  subst pending quoted tokens
  unfold Scanner.plain
  split
  · exact inDouble segments []
  · exact inSingle segments [] (by simp)
  · exact escape segments
  · rename_i notDouble notSingle notEscape
    have outside : isPlain c = true := by simp_all [isPlain]
    have longer : OpenEnd finished _ _ := inWord (segments ++ [.plain c outside]) (by simp)
    simpa [Scanner.absorb, Scanner.resting, Scanner.push, Segment.written, Segment.read,
      Segment.isQuoted] using longer

/--
One more character leaves an open end, is a blank where no word is open, or is
the blank that ends the open word.
-/
theorem step {tail : List Char} {scanner : Scanner} (openEnd : OpenEnd done tail scanner)
    (c : Char) :
    OpenEnd done (tail ++ [c]) (scanner.step c) ∨
      isBlank c = true ∧
        (tail = [] ∧ scanner.step c = .resting done ∨
          ∃ word : Word, tail = word.written ∧ scanner.step c = .resting (word.token :: done)) := by
  cases openEnd with
  | between =>
      by_cases white : isBlank c = true
      · exact Or.inr ⟨white, Or.inl ⟨rfl, by simp [Scanner.step, Scanner.resting, white]⟩⟩
      · rw [Bool.not_eq_true] at white
        rw [Scanner.step_of_not_blank (Or.inl rfl) white]
        exact Or.inl (plain [] (.resting done) rfl rfl rfl white)
  | inWord segments nonempty =>
      by_cases white : isBlank c = true
      · refine Or.inr ⟨white, Or.inr ⟨⟨segments, nonempty⟩, rfl, ?_⟩⟩
        rw [← Scanner.token_absorb_resting ⟨segments, nonempty⟩ done]
        simp [Scanner.step, Scanner.absorb, Scanner.emit, Scanner.resting, white]
      · rw [Bool.not_eq_true] at white
        rw [Scanner.step_of_not_blank (Or.inr rfl) white]
        have pending : ((Scanner.resting done).absorb segments).pending =
            (segments.flatMap Segment.read).reverse := by
          simp [Scanner.absorb, Scanner.resting]
        exact Or.inl (plain segments ((Scanner.resting done).absorb segments) pending rfl rfl white)
  | inSingle segments body inside =>
      left
      by_cases closes : c = '\''
      · subst closes
        have closed : OpenEnd done _ _ := inWord (segments ++ [.single body inside]) (by simp)
        simpa [Scanner.step, Scanner.absorb, Scanner.resting, Segment.written, Segment.read,
          Segment.isQuoted] using closed
      · have longer : OpenEnd done _ _ := inSingle segments (body ++ [c]) (by
          simp [inside, Ne.symm closes])
        simpa [Scanner.step, Scanner.push, closes] using longer
  | inDouble segments items =>
      left
      by_cases closes : c = '"'
      · subst closes
        have closed : OpenEnd done _ _ := inWord (segments ++ [.double items]) (by simp)
        simpa [Scanner.step, Scanner.absorb, Scanner.resting, Segment.written, Segment.read,
          Segment.isQuoted] using closed
      · by_cases escapes : c = '\\'
        · subst escapes
          simpa [Scanner.step] using escapeInDouble segments items
        · have longer : OpenEnd done _ _ :=
            inDouble segments (items ++ [.literal c ⟨closes, escapes⟩])
          simpa [Scanner.step, Scanner.push, closes, escapes, DoubleItem.written,
            DoubleItem.read] using longer
  | escape segments =>
      left
      have longer : OpenEnd done _ _ := inWord (segments ++ [.escaped c]) (by simp)
      simpa [Scanner.step, Scanner.push, Scanner.absorb, Scanner.resting, Segment.written,
        Segment.read, Segment.isQuoted] using longer
  | escapeInDouble segments items =>
      left
      have longer : OpenEnd done _ _ := inDouble segments (items ++ [.escaped c])
      simpa [Scanner.step, Scanner.push, DoubleItem.written, DoubleItem.read] using longer

end OpenEnd

namespace Layout

/-- Holds when blanks stand after every word. -/
def Closed (layout : Layout) : Prop :=
  ∀ entry ∈ layout.words, entry.2.chars ≠ []

/-- The layout with one more word. -/
def follow (layout : Layout) (closed : layout.Closed) (word : Word) (gap : Gap) : Layout where
  lead := layout.lead
  words := layout.words ++ [(word, gap)]
  separated := by
    rw [List.dropLast_concat]
    exact closed

theorem written_follow (layout : Layout) (closed : layout.Closed) (word : Word) (gap : Gap) :
    (layout.follow closed word gap).written = layout.written ++ (word.written ++ gap.chars) := by
  simp [follow, written, spelled]

theorem tokens_follow (layout : Layout) (closed : layout.Closed) (word : Word) (gap : Gap) :
    (layout.follow closed word gap).tokens = layout.tokens ++ [word.token] := by
  simp [follow, tokens]

theorem closed_follow (layout : Layout) (closed : layout.Closed) (word : Word) {gap : Gap}
    (nonempty : gap.chars ≠ []) : (layout.follow closed word gap).Closed := by
  intro entry member
  rcases List.mem_append.mp member with earlier | last
  · exact closed entry earlier
  · obtain rfl := List.mem_singleton.mp last
    exact nonempty

/-- One more blank goes to the blanks after the last word, or to those before all words. -/
theorem exists_blank_after (layout : Layout) (closed : layout.Closed) {c : Char}
    (white : isBlank c = true) :
    ∃ longer : Layout, longer.Closed ∧ longer.written = layout.written ++ [c] ∧
      longer.tokens = layout.tokens := by
  obtain ⟨lead, words, separated⟩ := layout
  rcases List.eq_nil_or_concat words with rfl | ⟨earlier, ⟨word, gap⟩, same⟩
  · exact ⟨⟨lead.push white, [], separated⟩, closed, by simp [written, Gap.push], rfl⟩
  · rw [List.concat_eq_append] at same
    subst same
    let shorter : Layout := ⟨lead, earlier, fun entry member =>
      closed entry (List.mem_append_left _ (List.dropLast_subset _ member))⟩
    have shorterClosed : shorter.Closed := fun entry member =>
      closed entry (List.mem_append_left _ member)
    refine ⟨shorter.follow shorterClosed word (gap.push white), ?_, ?_, ?_⟩
    · exact shorter.closed_follow shorterClosed word (by simp [Gap.push])
    · rw [written_follow]
      simp [written, shorter, spelled, Gap.push]
    · rw [tokens_follow]
      simp [tokens, shorter]

end Layout

/--
What the reader knows behind some characters: they are a layout with a blank
after every word, and an open end.
-/
structure Reads (chars : List Char) (scanner : Scanner) : Prop where
  split : ∃ (layout : Layout) (tail : List Char), layout.Closed ∧
    chars = layout.written ++ tail ∧ OpenEnd layout.tokens.reverse tail scanner

namespace Reads

theorem start : Reads [] .start :=
  ⟨⟨.none, [], by simp⟩, [], by simp [Layout.Closed], rfl, .between⟩

/-- Every character keeps what the reader knows. -/
theorem step {chars : List Char} {scanner : Scanner} (reads : Reads chars scanner) (c : Char) :
    Reads (chars ++ [c]) (scanner.step c) := by
  obtain ⟨layout, tail, closed, rfl, openEnd⟩ := reads.split
  rcases openEnd.step c with longer | ⟨white, ⟨rfl, rested⟩ | ⟨word, rfl, ended⟩⟩
  · exact ⟨layout, tail ++ [c], closed, by simp, longer⟩
  · obtain ⟨longer, closed, written, tokens⟩ := layout.exists_blank_after closed white
    refine ⟨longer, [], closed, by simp [written], ?_⟩
    rw [rested, tokens]
    exact .between
  · have nonempty : (Gap.none.push white).chars ≠ [] := by simp [Gap.push]
    refine ⟨layout.follow closed word (Gap.none.push white), [],
      layout.closed_follow closed word nonempty, ?_, ?_⟩
    · rw [Layout.written_follow]
      simp [Gap.push, Gap.none]
    · rw [ended, Layout.tokens_follow, List.reverse_append]
      exact .between

theorem run {first : List Char} {scanner : Scanner} (reads : Reads first scanner)
    (chars : List Char) : Reads (first ++ chars) (scanner.run chars) := by
  induction chars generalizing first scanner with
  | nil => simpa using reads
  | cons c chars ih => simpa using ih (reads.step c)

/-- When the line may end here, the characters can be laid out. -/
theorem exists_layout {chars : List Char} {scanner : Scanner} (reads : Reads chars scanner)
    {tokens : List Token} (accepted : scanner.finish = .ok tokens) :
    ∃ layout : Layout, layout.written = chars ∧ layout.tokens = tokens := by
  obtain ⟨layout, tail, closed, rfl, openEnd⟩ := reads.split
  -- The line cannot end in the modes between quotes and behind a backslash.
  cases openEnd with
  | between =>
      have same : layout.tokens.reverse.reverse = tokens := Except.ok.inj accepted
      exact ⟨layout, by simp, by simpa using same⟩
  | inWord segments nonempty =>
      let word : Word := ⟨segments, nonempty⟩
      have same : ((Scanner.resting layout.tokens.reverse).absorb segments).token ::
          layout.tokens.reverse = tokens.reverse := by
        rw [← Except.ok.inj accepted, List.reverse_reverse]
        rfl
      rw [Scanner.token_absorb_resting word] at same
      refine ⟨layout.follow closed word .none, ?_, ?_⟩
      · simp [Layout.written_follow, Gap.none, word, Word.written]
      · rw [Layout.tokens_follow, ← List.reverse_reverse tokens, ← same]
        simp
  | inSingle segments body inside => cases accepted
  | inDouble segments items => cases accepted
  | escape segments => cases accepted
  | escapeInDouble segments items => cases accepted

end Reads

/-! ## The accepted lines -/

theorem exists_layout_of_scanChars {chars : List Char} {tokens : List Token}
    (accepted : scanChars chars = .ok tokens) :
    ∃ layout : Layout, layout.written = chars ∧ layout.tokens = tokens :=
  (Reads.start.run chars).exists_layout accepted

/--
Reading a line gives tokens exactly when the line is laid out as the words of
these tokens, with optional blanks around them and blanks between them.
-/
theorem scan_eq_ok_iff_layout (line : String) (tokens : List Token) :
    scan line = .ok tokens ↔
      ∃ layout : Layout, layout.written = line.toList ∧ layout.tokens = tokens := by
  constructor
  · exact exists_layout_of_scanChars
  · rintro ⟨layout, written, rfl⟩
    rw [scan, ← written]
    exact scanChars_written layout

end CommandShell.Token
