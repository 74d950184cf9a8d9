import CommandShell.Text.Ranges

/-!
# Blank characters and blank-separated words

A character is blank when it has the Unicode property `White_Space`.  Blanks
separate the words of a line; a line of blanks only is a blank line.
-/

namespace CommandShell.Text

/-- The scalar values with the Unicode property `White_Space`. -/
def blankRanges : Ranges :=
  [(0x09, 0x0D), (0x20, 0x20), (0x85, 0x85), (0xA0, 0xA0), (0x1680, 0x1680),
   (0x2000, 0x200A), (0x2028, 0x2029), (0x202F, 0x202F), (0x205F, 0x205F),
   (0x3000, 0x3000)]

/-- Holds of the characters that separate words. -/
def isBlank (c : Char) : Bool :=
  blankRanges.holds c

/-- Every character that the core library calls whitespace is blank. -/
theorem isBlank_of_isWhitespace {c : Char} (white : c.isWhitespace = true) :
    isBlank c = true := by
  simp only [Char.isWhitespace, Bool.or_eq_true, decide_eq_true_eq] at white
  rcases white with ((rfl | rfl) | rfl) | rfl <;> decide

/-- Holds of a line without any character that is not blank. -/
def isBlankLine (line : String) : Bool :=
  line.toList.all isBlank

/-- The longest final stretch of a list without blanks. -/
def trailingWord (chars : List Char) : List Char :=
  (chars.reverse.takeWhile fun c => !isBlank c).reverse

/-- The last word of a line; empty when the line is blank or ends in a blank. -/
def lastWord (line : String) : String :=
  String.ofList (trailingWord line.toList)

/-- The last word holds no blank. -/
theorem isBlank_of_mem_trailingWord {chars : List Char} {c : Char}
    (member : c ∈ trailingWord chars) : isBlank c = false := by
  simpa using List.all_eq_true.mp (List.all_takeWhile (l := chars.reverse)
    (p := fun c => !isBlank c)) c (List.mem_reverse.mp member)

end CommandShell.Text
