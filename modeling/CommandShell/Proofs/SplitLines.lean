import CommandShell.Proofs.LineGrammar

/-!
# Lines that blanks split

A blank outside quotes splits a line.  What stands before it is read as a line
of its own, and so is what follows: behind the blank the reader is where it
started, with the tokens so far set apart.
-/

namespace CommandShell.Token

open Text (isBlank isBlankLine)

namespace Scanner

/-! ## Tokens read earlier -/

/-- The reader with tokens that were read before its own, the last one first. -/
def behind (scanner : Scanner) (earlier : List Token) : Scanner :=
  { scanner with done := scanner.done ++ earlier }

theorem plain_behind (scanner : Scanner) (earlier : List Token) (c : Char) :
    (scanner.behind earlier).plain c = (scanner.plain c).behind earlier := by
  unfold plain
  split <;> rfl

/-- Tokens that were read earlier have no part in a step. -/
theorem step_behind (scanner : Scanner) (earlier : List Token) (c : Char) :
    (scanner.behind earlier).step c = (scanner.step c).behind earlier := by
  have plain := scanner.plain_behind earlier c
  obtain ⟨mode, pending, quoted, done⟩ := scanner
  cases mode with
  | between | inWord =>
      unfold step
      dsimp only [behind] at plain ⊢
      split
      · rfl
      · exact plain
  | inSingle =>
      unfold step
      dsimp only [behind]
      split <;> rfl
  | inDouble =>
      unfold step
      dsimp only [behind]
      split
      · rfl
      · split <;> rfl
  | escape | escapeInDouble => rfl

theorem run_behind (scanner : Scanner) (earlier : List Token) (chars : List Char) :
    (scanner.behind earlier).run chars = (scanner.run chars).behind earlier := by
  induction chars generalizing scanner with
  | nil => rfl
  | cons c chars ih => rw [run_cons, run_cons, step_behind, ih]

/-- The tokens of the line are the earlier ones and those that the reader adds to them. -/
theorem finish_behind (scanner : Scanner) (earlier : List Token) :
    (scanner.behind earlier).finish = scanner.finish.map (earlier.reverse ++ ·) := by
  obtain ⟨mode, pending, quoted, done⟩ := scanner
  cases mode <;> simp [finish, behind, emit, token, Except.map]

end Scanner

/-! ## The blank behind an accepted line -/

/-- Where a line may end, a blank puts the reader back to its start. -/
theorem OpenEnd.step_blank {done tokens : List Token} {tail : List Char} {scanner : Scanner}
    (openEnd : OpenEnd done tail scanner) (accepted : scanner.finish = .ok tokens) {c : Char}
    (white : isBlank c = true) : scanner.step c = Scanner.start.behind tokens.reverse := by
  -- Between quotes and behind a backslash the line may not end.
  cases openEnd with
  | between =>
      obtain rfl := Except.ok.inj accepted
      simp [Scanner.step, Scanner.resting, Scanner.behind, Scanner.start, white]
  | inWord segments nonempty =>
      obtain rfl := Except.ok.inj accepted
      simp [Scanner.step, Scanner.absorb, Scanner.emit, Scanner.behind, Scanner.start, white]
  | inSingle segments body inside => cases accepted
  | inDouble segments items => cases accepted
  | escape segments => cases accepted
  | escapeInDouble segments items => cases accepted

/-- Nothing but the tokens is left of an accepted line and a blank after it. -/
theorem run_accepted_blank {first : List Char} {tokens : List Token}
    (accepted : scanChars first = .ok tokens) {c : Char} (white : isBlank c = true) :
    Scanner.start.run (first ++ [c]) = Scanner.start.behind tokens.reverse := by
  obtain ⟨layout, tail, -, split, openEnd⟩ := (Reads.start.run first).split
  rw [Scanner.run_append]
  exact openEnd.step_blank accepted white

/-- What follows an accepted line and a blank is read like a line of its own. -/
theorem scanChars_accepted_blank {first : List Char} {tokens : List Token}
    (accepted : scanChars first = .ok tokens) {c : Char} (white : isBlank c = true)
    (second : List Char) :
    scanChars (first ++ c :: second) = (scanChars second).map (tokens ++ ·) := by
  rw [← List.singleton_append, ← List.append_assoc, scanChars, Scanner.run_append,
    run_accepted_blank accepted white, Scanner.run_behind, Scanner.finish_behind,
    List.reverse_reverse, scanChars]

/-! ## Blanks that do not matter -/

/-- Blanks before the first word are skipped. -/
theorem scanChars_gap_append (gap : Gap) (chars : List Char) :
    scanChars (gap.chars ++ chars) = scanChars chars := by
  have rested : Scanner.start.run gap.chars = .start := Scanner.run_resting gap []
  rw [scanChars, Scanner.run_append, rested, scanChars]

/-- Blanks after an accepted line are skipped. -/
theorem scanChars_append_gap {chars : List Char} {tokens : List Token}
    (accepted : scanChars chars = .ok tokens) (gap : Gap) :
    scanChars (chars ++ gap.chars) = .ok tokens := by
  obtain ⟨blanks, white⟩ := gap
  cases blanks with
  | nil => rwa [List.append_nil]
  | cons c rest =>
      have later : scanChars rest = .ok [] := by
        have skipped := scanChars_gap_append
          ⟨rest, fun other member => white other (List.mem_cons_of_mem c member)⟩ []
        rwa [List.append_nil] at skipped
      rw [scanChars_accepted_blank accepted (white c List.mem_cons_self), later]
      simp [Except.map]

/-- The blanks of a blank line. -/
def Gap.ofLine {line : String} (blank : isBlankLine line = true) : Gap where
  chars := line.toList
  blank := List.all_eq_true.mp blank

/--
How an accepted line and a blank stand to whatever follows: nothing of the line
is pending, and both parts are read apart, however many blanks there are.
-/
structure Splits (first : String) (c : Char) (tokens : List Token) : Prop where
  reset : Scanner.start.run (first.push c).toList = Scanner.start.behind tokens.reverse
  joins : ∀ {second : String} {later : List Token}, scan second = .ok later →
    scan (first.push c ++ second) = .ok (tokens ++ later)
  fails : ∀ {second : String} {error : LexicalError}, scan second = .error error →
    scan (first.push c ++ second) = .error error
  leading : ∀ {blanks : String} (line : String), isBlankLine blanks = true →
    scan (blanks ++ line) = scan line
  trailing : ∀ {blanks : String}, isBlankLine blanks = true → scan (first ++ blanks) = .ok tokens
  repeated : ∀ {blanks : String} (second : String), isBlankLine blanks = true →
    scan (first.push c ++ blanks ++ second) = scan (first.push c ++ second)

/-- Reading goes over from an accepted line and a blank to the tokens of what follows. -/
theorem scan_push_blank_append {first : String} {tokens : List Token}
    (accepted : scan first = .ok tokens) {c : Char} (white : isBlank c = true) (second : String) :
    scan (first.push c ++ second) = (scan second).map (tokens ++ ·) := by
  have joined := scanChars_accepted_blank accepted white second.toList
  rw [scan, String.toList_append, String.toList_push, List.append_assoc]
  exact joined

theorem scan_blanks_append {blanks : String} (blank : isBlankLine blanks = true) (line : String) :
    scan (blanks ++ line) = scan line := by
  rw [scan, String.toList_append]
  exact scanChars_gap_append (.ofLine blank) line.toList

/-- A line is split at every blank behind a part that is accepted on its own. -/
theorem splits_at_blank {first : String} {tokens : List Token} (accepted : scan first = .ok tokens)
    {c : Char} (white : isBlank c = true) : Splits first c tokens where
  reset := by
    rw [String.toList_push]
    exact run_accepted_blank accepted white
  joins := by
    intro second later read
    rw [scan_push_blank_append accepted white, read]
    rfl
  fails := by
    intro second error refused
    rw [scan_push_blank_append accepted white, refused]
    rfl
  leading line blank := scan_blanks_append blank line
  trailing := by
    intro blanks blank
    rw [scan, String.toList_append]
    exact scanChars_append_gap accepted (.ofLine blank)
  repeated := by
    intro blanks second blank
    rw [String.append_assoc, scan_push_blank_append accepted white,
      scan_push_blank_append accepted white, scan_blanks_append blank]

/-- Quotes and escapes before the blank stay on their side. -/
theorem splits_behind_quotes :
    scan "a' 'b \\\"" = .ok [⟨"a b", true⟩, ⟨"\"", false⟩] ∧ isBlank '\t' = true ∧
      Splits "a' 'b \\\"" '\t' [⟨"a b", true⟩, ⟨"\"", false⟩] := by
  have accepted : scan "a' 'b \\\"" = .ok [⟨"a b", true⟩, ⟨"\"", false⟩] := rfl
  have white : isBlank '\t' = true := by decide
  exact ⟨accepted, white, splits_at_blank accepted white⟩

end CommandShell.Token
