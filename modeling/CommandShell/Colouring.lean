import CommandShell.Command.Registry
import CommandShell.Number.Binary64
import CommandShell.Text.Alphabetic
import CommandShell.Text.Blank
import CommandShell.Text.Search

/-!
# Colours of a line

A line is cut into gaps of blanks and words, and each word is put between a
colour and the end of that colour according to its role.  A quoted or escaped
blank does not end a word, and an open quote lasts to the end of the line.
-/

namespace CommandShell.Colouring

open Text (isBlank hasStem)

/-! ## Words -/

/-- What the next character of a word is read by. -/
inductive WordMode where
  | plain
  | single
  | double
  /-- After a backslash; the flag says whether it stands between double quotes. -/
  | escaped (double : Bool)
  deriving DecidableEq

/-- How one character changes the mode. -/
def WordMode.next : WordMode → Char → WordMode
  | plain, c =>
      if c = '\\' then escaped false
      else if c = '"' then double
      else if c = '\'' then single
      else plain
  | single, c => if c = '\'' then plain else single
  | double, c => if c = '"' then plain else if c = '\\' then escaped true else double
  | escaped inDouble, _ => if inDouble then double else plain

/-- The rest of a word and what follows it. -/
def splitWord : WordMode → List Char → List Char × List Char
  | _, [] => ([], [])
  | mode, c :: rest =>
      if mode = .plain && isBlank c then ([], c :: rest)
      else
        let (word, after) := splitWord (mode.next c) rest
        (c :: word, after)

theorem length_splitWord_le (mode : WordMode) (chars : List Char) :
    (splitWord mode chars).2.length ≤ chars.length := by
  induction chars generalizing mode with
  | nil => simp [splitWord]
  | cons c rest ih =>
      unfold splitWord
      split
      · exact Nat.le_refl _
      · exact Nat.le_succ_of_le (ih (mode.next c))

/-- A gap of blanks and the word after it. -/
structure Piece where
  gap : List Char
  word : List Char
  deriving DecidableEq

/-- The pieces of a line and the gap after the last word. -/
structure Cut where
  pieces : List Piece
  tail : List Char
  deriving DecidableEq

/-- What follows the first word of a line is shorter than the line. -/
theorem length_rest_lt {chars rest : List Char} {c : Char} (mode : WordMode)
    (found : chars.dropWhile isBlank = c :: rest) :
    (splitWord mode rest).2.length < chars.length := by
  have shorter := length_splitWord_le mode rest
  have dropped := (List.dropWhile_sublist isBlank (l := chars)).length_le
  rw [found, List.length_cons] at dropped
  exact Nat.lt_of_lt_of_le (Nat.lt_succ_of_le shorter) dropped

/-- Cuts a line into its words and the gaps around them. -/
def cut (chars : List Char) : Cut :=
  match _ : chars.dropWhile isBlank with
  | [] => ⟨[], chars⟩
  | c :: rest =>
      let first := splitWord (WordMode.plain.next c) rest
      let later := cut first.2
      ⟨⟨chars.takeWhile isBlank, c :: first.1⟩ :: later.pieces, later.tail⟩
termination_by chars.length
decreasing_by exact length_rest_lt _ (by assumption)

/-! ## Roles -/

/-- What a word is coloured as. -/
inductive Role where
  | knownCommand
  | unknownCommand
  | quoted
  | flag
  | number
  | plain
  deriving DecidableEq

/-- The code that starts the colour of a role. -/
def Role.colour? : Role → Option String
  | knownCommand => some "\x1b[1;32m"
  | unknownCommand => some "\x1b[31m"
  | quoted => some "\x1b[33m"
  | flag => some "\x1b[36m"
  | number => some "\x1b[35m"
  | plain => none

/-- The code that ends every colour. -/
def reset : String := "\x1b[0m"

/-- Holds of one dash and one alphabetic character. -/
def isShortFlag : List Char → Bool
  | ['-', c] => Text.isAlphabetic c
  | _ => false

/-- The role of the first word. -/
def commandRole (registry : Registry) (word : String) : Role :=
  if registry.contains word then .knownCommand else .unknownCommand

/-- The role of a later word. -/
def argumentRole (word : String) : Role :=
  if hasStem "\"" word || hasStem "'" word then .quoted
  else if hasStem "--" word || isShortFlag word.toList then .flag
  else if (Number.Binary64.read? word).isSome then .number
  else .plain

/-! ## Painting -/

/-- The word in the colour of a role. -/
def paint (role : Role) (word : String) : String :=
  match role.colour? with
  | none => word
  | some colour => colour ++ word ++ reset

/-- A piece whose word is in the colour of its role. -/
def paintPiece (role : String → Role) (piece : Piece) : String :=
  let word := String.ofList piece.word
  String.ofList piece.gap ++ paint (role word) word

/-- The pieces in colours; the first word has roles of its own. -/
def paintPieces (registry : Registry) : List Piece → String
  | [] => ""
  | first :: rest =>
      paintPiece (commandRole registry) first ++ String.join (rest.map (paintPiece argumentRole))

/-- The line in colours; a blank line stays as it is. -/
def highlight (registry : Registry) (line : String) : String :=
  let cut := cut line.toList
  paintPieces registry cut.pieces ++ String.ofList cut.tail

end CommandShell.Colouring
