import CommandShell.Proofs.SplitLines
import Mathlib.Data.List.Induction
import Mathlib.Logic.ExistsUnique

/-!
# How lines end

Whether a line can be read, and why not, shows in the mode that it leaves the
reader in.  The modes follow each other without the pending text, so what one
more character does to a line is known from how the line ends.  The end itself
is a matter of the last part of the line: of what stands behind the last blank
that is neither quoted nor escaped.
-/

namespace CommandShell.Token

open Text (isBlank)

/-! ## Modes without the text -/

namespace Mode

/-- The mode after a character outside quotes that is no blank. -/
def ofDark : Char → Mode
  | '"' => .inDouble
  | '\'' => .inSingle
  | '\\' => .escape
  | _ => .inWord

/-- The mode after one more character. -/
def next : Mode → Char → Mode
  | .between, c => if isBlank c then .between else ofDark c
  | .inWord, c => if isBlank c then .between else ofDark c
  | .inSingle, c => if c = '\'' then .inWord else .inSingle
  | .inDouble, c =>
      if c = '"' then .inWord else if c = '\\' then .escapeInDouble else .inDouble
  | .escape, _ => .inWord
  | .escapeInDouble, _ => .inDouble

/-- Only a backslash escapes. -/
theorem eq_backslash_of_next {mode : Mode} {c : Char}
    (escapes : mode.next c = .escape ∨ mode.next c = .escapeInDouble) : c = '\\' := by
  unfold next ofDark at escapes
  grind

end Mode

namespace Scanner

theorem mode_plain (scanner : Scanner) (c : Char) : (scanner.plain c).mode = Mode.ofDark c := by
  unfold plain
  split <;> simp_all [openQuote, push, Mode.ofDark]

/-- The next mode depends on the mode alone. -/
theorem mode_step (scanner : Scanner) (c : Char) :
    (scanner.step c).mode = scanner.mode.next c := by
  have plain := scanner.mode_plain c
  cases mode : scanner.mode with
  | between | inWord =>
      simp only [step, mode, Mode.next]
      split
      · simp [mode, emit]
      · exact plain
  | inSingle =>
      simp only [step, mode, Mode.next]
      split <;> rfl
  | inDouble =>
      simp only [step, mode, Mode.next]
      split
      · rfl
      · split <;> rfl
  | escape | escapeInDouble => simp [step, mode, Mode.next, push]

end Scanner

/-- The mode that a line leaves the reader in. -/
def endMode (line : String) : Mode :=
  (Scanner.start.run line.toList).mode

theorem endMode_push (line : String) (c : Char) :
    endMode (line.push c) = (endMode line).next c := by
  rw [endMode, String.toList_push, Scanner.run_append, Scanner.run_cons, Scanner.run_nil,
    Scanner.mode_step, endMode]

/-! ## Outcomes by mode -/

/-- Holds of a line that is read as tokens. -/
def Accepts (line : String) : Prop :=
  ∃ tokens, scan line = .ok tokens

/-- Holds of a line that ends between quotes. -/
def LeavesQuote (line : String) : Prop :=
  scan line = .error .unclosedQuote

/-- Holds of a line that ends right after a backslash. -/
def LeavesEscape (line : String) : Prop :=
  scan line = .error .loneEscape

theorem accepts_iff (line : String) :
    Accepts line ↔ endMode line = .between ∨ endMode line = .inWord := by
  rw [Accepts, scan, scanChars, Scanner.finish, endMode]
  split <;> simp [*]

theorem leavesQuote_iff (line : String) :
    LeavesQuote line ↔ endMode line = .inSingle ∨ endMode line = .inDouble := by
  rw [LeavesQuote, scan, scanChars, Scanner.finish, endMode]
  split <;> simp [*]

theorem leavesEscape_iff (line : String) :
    LeavesEscape line ↔ endMode line = .escape ∨ endMode line = .escapeInDouble := by
  rw [LeavesEscape, scan, scanChars, Scanner.finish, endMode]
  split <;> simp [*]

/-- A line that ends in an escape ends in a backslash. -/
theorem exists_eq_push_of_leavesEscape {line : String} (escape : LeavesEscape line) :
    ∃ front : String, line = front.push '\\' := by
  rw [leavesEscape_iff] at escape
  induction line using String.push_induction with
  | empty => rcases escape with mode | mode <;> cases mode
  | push front c ih =>
      rw [endMode_push] at escape
      obtain rfl := Mode.eq_backslash_of_next escape
      exact ⟨front, rfl⟩

/-! ## One more character -/

theorem opened_of_accepts {line : String} (accepts : Accepts line) :
    LeavesQuote (line.push '\'') ∧ LeavesQuote (line.push '"') ∧
      LeavesEscape (line.push '\\') := by
  rw [leavesQuote_iff, leavesQuote_iff, leavesEscape_iff, endMode_push, endMode_push, endMode_push]
  rcases (accepts_iff line).mp accepts with mode | mode <;> rw [mode] <;> decide

theorem closed_of_leavesQuote {line : String} (quote : LeavesQuote line) :
    (Accepts (line.push '\'') ∧ LeavesQuote (line.push '"')) ∨
      (Accepts (line.push '"') ∧ LeavesQuote (line.push '\'')) := by
  rw [accepts_iff, accepts_iff, leavesQuote_iff, leavesQuote_iff, endMode_push, endMode_push]
  rcases (leavesQuote_iff line).mp quote with mode | mode <;> rw [mode] <;> decide

/-- A character behind the last backslash goes back to the text around it. -/
theorem resumed_of_leavesEscape {line : String} (escape : LeavesEscape line) :
    (∀ c, Accepts (line.push c)) ∨
      ∀ c, LeavesQuote (line.push c) ∧ Accepts ((line.push c).push '"') := by
  simp only [accepts_iff, leavesQuote_iff, endMode_push]
  rcases (leavesEscape_iff line).mp escape with mode | mode
  · left
    intro c
    rw [mode]
    exact Or.inr rfl
  · right
    intro c
    rw [mode]
    exact ⟨Or.inr rfl, Or.inr rfl⟩

/-! ## The last part of a line -/

/--
A blank that is neither quoted nor escaped: the characters before it make up
words and blanks, so no quote and no escape is open.
-/
def FreeBlank (before : List Char) (c : Char) : Prop :=
  isBlank c = true ∧ ∃ layout : Layout, layout.written = before

/-- The part behind the last free blank, which is everything if there is none. -/
structure LastPart (chars part : List Char) : Prop where
  reaches : part = chars ∨ ∃ before c, chars = before ++ c :: part ∧ FreeBlank before c
  last : ∀ {before after : List Char} {c : Char}, chars = before ++ c :: after →
    FreeBlank before c → part <:+ after

namespace LastPart

theorem exists_of_chars (chars : List Char) : ∃ part, LastPart chars part := by
  induction chars using List.reverseRecOn with
  | nil => exact ⟨[], Or.inl rfl, by simp⟩
  | append_singleton chars c ih =>
      obtain ⟨part, lastPart⟩ := ih
      by_cases free : FreeBlank chars c
      · exact ⟨[], Or.inr ⟨chars, c, rfl, free⟩, fun _ _ => List.nil_suffix⟩
      · refine ⟨part ++ [c], ?_, ?_⟩
        · rcases lastPart.reaches with rfl | ⟨before, d, split, free⟩
          · exact Or.inl rfl
          · exact Or.inr ⟨before, d, by simp [split], free⟩
        · intro before after d split alsoFree
          -- The last character itself is no free blank, so it stands behind this one.
          rcases List.eq_nil_or_concat after with rfl | ⟨shorter, e, rfl⟩
          · obtain ⟨rfl, same⟩ := List.append_inj' split rfl
            obtain rfl := List.head_eq_of_cons_eq same
            exact absurd alsoFree free
          · rw [List.concat_eq_append, ← List.cons_append, ← List.append_assoc] at split
            obtain ⟨same, last⟩ := List.append_inj' split rfl
            rw [List.concat_eq_append, ← last]
            obtain ⟨skipped, rfl⟩ := lastPart.last same alsoFree
            exact ⟨skipped, by simp⟩

theorem suffix {chars part : List Char} (lastPart : LastPart chars part) : part <:+ chars := by
  rcases lastPart.reaches with rfl | ⟨before, c, rfl, -⟩
  · exact List.suffix_rfl
  · exact ⟨before ++ [c], by simp⟩

/-- Another last part is not longer. -/
theorem suffix_of_lastPart {chars part other : List Char} (lastPart : LastPart chars part)
    (another : LastPart chars other) : other <:+ part := by
  rcases lastPart.reaches with rfl | ⟨before, c, split, free⟩
  · exact another.suffix
  · exact another.last split free

theorem unique {chars part other : List Char} (lastPart : LastPart chars part)
    (another : LastPart chars other) : other = part :=
  (lastPart.suffix_of_lastPart another).eq_of_length_le
    (another.suffix_of_lastPart lastPart).length_le

/-- A line fails as its last part fails. -/
theorem error_iff {chars part : List Char} (lastPart : LastPart chars part)
    (error : LexicalError) : scanChars chars = .error error ↔ scanChars part = .error error := by
  rcases lastPart.reaches with rfl | ⟨before, c, rfl, white, layout, rfl⟩
  · rfl
  · rw [scanChars_accepted_blank (scanChars_written layout) white]
    cases scanChars part <;> simp [Except.map]

end LastPart

/--
What the outcome of a line says about its end: which characters open or close
it, and that a failure is one of the last part alone.
-/
structure Ending (line : String) : Prop where
  outcome : Accepts line ∨ LeavesQuote line ∨ LeavesEscape line
  accepts : Accepts line → LeavesQuote (line.push '\'') ∧ LeavesQuote (line.push '"') ∧
    LeavesEscape (line.push '\\')
  quote : LeavesQuote line →
    (Accepts (line.push '\'') ∧ LeavesQuote (line.push '"')) ∨
      (Accepts (line.push '"') ∧ LeavesQuote (line.push '\''))
  escape : LeavesEscape line → (∃ front : String, line = front.push '\\') ∧
    ((∀ c, Accepts (line.push c)) ∨
      ∀ c, LeavesQuote (line.push c) ∧ Accepts ((line.push c).push '"'))
  part : ∃! part, LastPart line.toList part
  error_iff : ∀ {part : List Char}, LastPart line.toList part → ∀ error,
    scan line = .error error ↔ scanChars part = .error error

/-- The outcome of every line classifies its end. -/
theorem ending_of_line (line : String) : Ending line where
  outcome := by
    rw [accepts_iff, leavesQuote_iff, leavesEscape_iff]
    cases endMode line <;> decide
  accepts := opened_of_accepts
  quote := closed_of_leavesQuote
  escape leaves := ⟨exists_eq_push_of_leavesEscape leaves, resumed_of_leavesEscape leaves⟩
  part := by
    obtain ⟨part, lastPart⟩ := LastPart.exists_of_chars line.toList
    exact ⟨part, lastPart, fun other another => lastPart.unique another⟩
  error_iff lastPart error := lastPart.error_iff error

end CommandShell.Token
