import CommandShell.Number.Integer

/-!
# Settings documents

A settings document is a TOML document without tables: comments, blank lines
and entries `key = value` whose value is a string, a whole number or a truth
value.  A document that uses anything else, or gives a key twice, is refused.
-/

namespace CommandShell

inductive Scalar where
  | text (content : String)
  | integer (number : Int)
  | truth (holds : Bool)
  deriving DecidableEq

/-- The entries of a document in the order of its lines. -/
abbrev Document := List (String × Scalar)

namespace Document

/-! ## Characters and line ends -/

/-- Holds of the characters that may stand between the parts of an entry. -/
def isSpace (c : Char) : Bool :=
  c == ' ' || c == '\t'

/-- Holds of the characters that may stand in comments and strings as they are. -/
def isTextChar (c : Char) : Bool :=
  c == '\t' || (' ' ≤ c && c != '\x7f')

/-- Holds of the characters of a key without quotes. -/
def isKeyChar (c : Char) : Bool :=
  c.isAlphanum || c == '-' || c == '_'

/-- What follows the spaces at the front. -/
def skipSpaces (chars : List Char) : List Char :=
  chars.dropWhile isSpace

/-- What follows the end of a line at the front. -/
def afterNewline? : List Char → Option (List Char)
  | '\n' :: rest => some rest
  | '\r' :: '\n' :: rest => some rest
  | _ => none

/-- What follows a comment, if one stands at the front. -/
def skipComment : List Char → List Char
  | '#' :: rest => rest.dropWhile isTextChar
  | chars => chars

/-- What follows a line of which only spaces and a comment are left. -/
def endLine? (chars : List Char) : Option (List Char) :=
  match skipComment (skipSpaces chars) with
  | [] => some []
  | rest => afterNewline? rest

/-! ## Strings -/

/-- A part of a string together with the characters after it. -/
structure Step (chars : List Char) where
  part : List Char
  rest : List Char
  shorter : rest.length < chars.length

/-- A string with what follows it: parts up to what closes it. -/
def readParts (closing? : List Char → Option (List Char × List Char))
    (step? : (chars : List Char) → Option (Step chars)) (chars : List Char) :
    Option (List Char × List Char) :=
  match closing? chars with
  | some result => some result
  | none =>
      match step? chars with
      | none => none
      | some step =>
          (readParts closing? step? step.rest).map fun (body, rest) => (step.part ++ body, rest)
termination_by chars.length
decreasing_by exact step.shorter

/-- One quote closes a string on a single line. -/
def closeOne (quote : Char) : List Char → Option (List Char × List Char)
  | c :: rest => if c = quote then some ([], rest) else none
  | [] => none

/--
Three quotes close a string of many lines, and up to two more before them
belong to it.
-/
def closeThree (quote : Char) (chars : List Char) : Option (List Char × List Char) :=
  let count := min (chars.takeWhile (· == quote)).length 5
  if 3 ≤ count then some (List.replicate (count - 3) quote, chars.drop count) else none

/-- The number that hexadecimal digits stand for. -/
def hexValue? (digits : List Char) : Option Nat :=
  digits.foldlM (fun value c =>
    if c.isDigit then some (16 * value + (c.toNat - '0'.toNat))
    else if 'a' ≤ c && c ≤ 'f' then some (16 * value + 10 + (c.toNat - 'a'.toNat))
    else if 'A' ≤ c && c ≤ 'F' then some (16 * value + 10 + (c.toNat - 'A'.toNat))
    else none) 0

def charOf? (value : Nat) : Option Char :=
  if value.isValidChar then some (Char.ofNat value) else none

/-- The character of an escape by a scalar value of so many digits. -/
def scalarStep? (chars : List Char) (digits : Nat) (after : List Char)
    (shorter : after.length < chars.length) : Option (Step chars) := do
  if after.length < digits then none
  else
    let c ← charOf? (← hexValue? (after.take digits))
    some ⟨[c], after.drop digits, by simp only [List.length_drop]; omega⟩

/-- The character that an escape of one letter stands for. -/
def shortEscape? : Char → Option Char
  | 'b' => some '\x08'
  | 't' => some '\t'
  | 'n' => some '\n'
  | 'f' => some '\x0c'
  | 'r' => some '\r'
  | '"' => some '"'
  | '\\' => some '\\'
  | _ => none

/-- An escape at the front. -/
def escapeStep? : (chars : List Char) → Option (Step chars)
  | '\\' :: c :: rest =>
      if c = 'u' then scalarStep? _ 4 rest (by simp only [List.length_cons]; omega)
      else if c = 'U' then scalarStep? _ 8 rest (by simp only [List.length_cons]; omega)
      else (shortEscape? c).map fun c => ⟨[c], rest, by simp only [List.length_cons]; omega⟩
  | _ => none

/-- A character that stands for itself at the front. -/
def plainStep? : (chars : List Char) → Option (Step chars)
  | c :: rest =>
      if isTextChar c then some ⟨[c], rest, by simp⟩ else none
  | [] => none

/-- The end of a line at the front, written in either way. -/
def newlineStep? : (chars : List Char) → Option (Step chars)
  | '\n' :: rest => some ⟨['\n'], rest, by simp⟩
  | '\r' :: '\n' :: rest => some ⟨['\n'], rest, by simp only [List.length_cons]; omega⟩
  | _ => none

/-- What follows spaces and line ends. -/
def skipLines : List Char → List Char
  | '\r' :: '\n' :: rest => skipLines rest
  | c :: rest => if isSpace c || c == '\n' then skipLines rest else c :: rest
  | [] => []

theorem length_skipLines_le (chars : List Char) : (skipLines chars).length ≤ chars.length := by
  fun_induction skipLines chars with
  | case1 rest ih => exact Nat.le_trans ih (by simp only [List.length_cons]; omega)
  | case2 c rest _ _ ih => exact Nat.le_trans ih (by simp)
  | case3 => exact Nat.le_refl _
  | case4 => exact Nat.le_refl _

/-- A backslash that ends a line joins it with the next text, however far that is. -/
def joinStep? : (chars : List Char) → Option (Step chars)
  | '\\' :: rest =>
      if (afterNewline? (skipSpaces rest)).isSome then
        some ⟨[], skipLines rest, Nat.lt_succ_of_le (length_skipLines_le rest)⟩
      else none
  | _ => none

/-- One part of a string between double quotes. -/
def basicStep? (chars : List Char) : Option (Step chars) :=
  if chars.head? = some '\\' then escapeStep? chars else plainStep? chars

/-- One part of a string of many lines between double quotes. -/
def longBasicStep? (chars : List Char) : Option (Step chars) :=
  (joinStep? chars).or ((newlineStep? chars).or (basicStep? chars))

/-- One part of a string of many lines between single quotes. -/
def longLiteralStep? (chars : List Char) : Option (Step chars) :=
  (newlineStep? chars).or (plainStep? chars)

/-- What follows the line end that may come right after three quotes. -/
def skipFirstNewline (chars : List Char) : List Char :=
  (afterNewline? chars).getD chars

/-- A string on a single line with what follows it. -/
def readShortString? : List Char → Option (List Char × List Char)
  | '"' :: rest => readParts (closeOne '"') basicStep? rest
  | '\'' :: rest => readParts (closeOne '\'') plainStep? rest
  | _ => none

/-- A string with what follows it. -/
def readString? : List Char → Option (List Char × List Char)
  | '"' :: '"' :: '"' :: rest =>
      readParts (closeThree '"') longBasicStep? (skipFirstNewline rest)
  | '\'' :: '\'' :: '\'' :: rest =>
      readParts (closeThree '\'') longLiteralStep? (skipFirstNewline rest)
  | chars => readShortString? chars

/-! ## Numbers -/

/-- The value of a digit in a base up to sixteen. -/
def digitIn? (base : Nat) (c : Char) : Option Nat :=
  (hexValue? [c]).filter fun digit => digit < base

/-- The number of digits in a base; single underscores may stand between digits. -/
def readGroups? (base : Nat) (chars : List Char) : Option Nat :=
  let groups := chars.splitOn '_'
  if groups.any List.isEmpty then none
  else groups.flatten.foldlM (fun value c => (digitIn? base c).map (base * value + ·)) 0

/-- The number of decimal digits without a leading zero. -/
def readDecimal? : List Char → Option Nat
  | ['0'] => some 0
  | '0' :: _ => none
  | chars => readGroups? 10 chars

/-- A whole number: a base and its digits, or decimal digits with a sign. -/
def readInteger? : List Char → Option Int
  | '0' :: 'x' :: digits => (readGroups? 16 digits).map fun n => (n : Int)
  | '0' :: 'o' :: digits => (readGroups? 8 digits).map fun n => (n : Int)
  | '0' :: 'b' :: digits => (readGroups? 2 digits).map fun n => (n : Int)
  | '-' :: digits => (readDecimal? digits).map fun n => -(n : Int)
  | '+' :: digits => (readDecimal? digits).map fun n => (n : Int)
  | digits => (readDecimal? digits).map fun n => (n : Int)

/-! ## Entries -/

/-- Holds of the characters of numbers and truth values. -/
def isWordChar (c : Char) : Bool :=
  isKeyChar c || c == '+' || c == '.'

/-- The value of a word without quotes. -/
def readWord? (word : List Char) : Option Scalar :=
  if word = "true".toList then some (.truth true)
  else if word = "false".toList then some (.truth false)
  else ((readInteger? word).filter Number.fitsInt64).map .integer

/-- A value with what follows it. -/
def readScalar? (chars : List Char) : Option (Scalar × List Char) :=
  match chars with
  | '"' :: _ | '\'' :: _ =>
      (readString? chars).map fun (body, rest) => (.text (String.ofList body), rest)
  | _ => (readWord? (chars.takeWhile isWordChar)).map (·, chars.dropWhile isWordChar)

/-- A key with what follows it. -/
def readKey? (chars : List Char) : Option (List Char × List Char) :=
  match chars with
  | '"' :: _ | '\'' :: _ => readShortString? chars
  | _ =>
      let key := chars.takeWhile isKeyChar
      if key.isEmpty then none else some (key, chars.dropWhile isKeyChar)

/-- An entry with the lines that follow it. -/
def readAssignment? (chars : List Char) : Option ((String × Scalar) × List Char) := do
  let (key, rest) ← readKey? chars
  match skipSpaces rest with
  | '=' :: rest =>
      let (value, rest) ← readScalar? (skipSpaces rest)
      let rest ← endLine? rest
      some ((String.ofList key, value), rest)
  | _ => none

/-! ## Lines -/

/-- The lines after a first line with the entry in it, if that line is well formed. -/
def readLine? (chars : List Char) : Option (Option (String × Scalar) × List Char) :=
  match endLine? chars with
  | some rest => some (none, rest)
  | none => (readAssignment? (skipSpaces chars)).map fun (entry, rest) => (some entry, rest)

/-- The entries of the lines; every line takes some characters. -/
def readLines? (chars : List Char) : Option Document :=
  if chars.isEmpty then some []
  else match readLine? chars with
    | none => none
    | some (entry, rest) =>
        if rest.length < chars.length then (readLines? rest).map (entry.toList ++ ·) else none
termination_by chars.length

/-- The text without the mark of byte order that it may start with. -/
def dropMark : List Char → List Char
  | '\ufeff' :: rest => rest
  | chars => chars

/-- The entries of a document, each key once. -/
def read? (text : String) : Option Document :=
  (readLines? (dropMark text.toList)).filter fun entries => (entries.map Prod.fst).Nodup

end Document

end CommandShell
