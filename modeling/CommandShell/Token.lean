import CommandShell.Text.Blank

/-!
# Tokens of a line

A line is read character by character.  Blanks outside quotes separate tokens;
single quotes keep everything literally; double quotes and the text outside
quotes take a backslash as an escape of the next character.  Quoted and plain
parts that touch belong to one token.
-/

namespace CommandShell

open Text (isBlank)

/-- A word of a line after quotes and escapes are resolved. -/
structure Token where
  text : String
  /-- Whether some part of the token stood between quotes. -/
  quoted : Bool
  deriving DecidableEq

/-- What stops a line from being read as tokens. -/
inductive LexicalError where
  | unclosedQuote
  /-- The line ends right after a backslash. -/
  | loneEscape
  /-- A token is needed and the line has none. -/
  | emptyLine
  deriving DecidableEq

def LexicalError.message : LexicalError → String
  | unclosedQuote => "unclosed quote"
  | loneEscape => "invalid escape sequence"
  | emptyLine => "empty input"

namespace Token

/-- The character that an escaped character stands for. -/
def unescape : Char → Char
  | 'n' => '\n'
  | 't' => '\t'
  | 'r' => '\r'
  | '0' => '\x00'
  | c => c

/-- Where in the line the reader stands. -/
inductive Mode where
  /-- Before a token or after one. -/
  | between
  /-- In a token and outside quotes. -/
  | inWord
  | inSingle
  | inDouble
  | escape
  /-- After a backslash between double quotes. -/
  | escapeInDouble
  deriving DecidableEq

/-- The state of the reader; the pending text and the tokens are kept last first. -/
structure Scanner where
  mode : Mode
  pending : List Char
  quoted : Bool
  done : List Token
  deriving DecidableEq

namespace Scanner

/-- The reader at the start of a line. -/
def start : Scanner :=
  ⟨.between, [], false, []⟩

/-- Takes a character into the pending token. -/
def push (scanner : Scanner) (mode : Mode) (c : Char) : Scanner :=
  { scanner with mode, pending := c :: scanner.pending }

def openQuote (scanner : Scanner) (mode : Mode) : Scanner :=
  { scanner with mode, quoted := true }

def token (scanner : Scanner) : Token :=
  ⟨String.ofList scanner.pending.reverse, scanner.quoted⟩

def emit (scanner : Scanner) : Scanner :=
  ⟨.between, [], false, scanner.token :: scanner.done⟩

/-- A character outside quotes that is no blank. -/
def plain (scanner : Scanner) (c : Char) : Scanner :=
  match c with
  | '"' => scanner.openQuote .inDouble
  | '\'' => scanner.openQuote .inSingle
  | '\\' => { scanner with mode := .escape }
  | c => scanner.push .inWord c

def step (scanner : Scanner) (c : Char) : Scanner :=
  match scanner.mode with
  | .between => if isBlank c then scanner else scanner.plain c
  | .inWord => if isBlank c then scanner.emit else scanner.plain c
  | .inSingle =>
      if c = '\'' then { scanner with mode := .inWord } else scanner.push .inSingle c
  | .inDouble =>
      if c = '"' then { scanner with mode := .inWord }
      else if c = '\\' then { scanner with mode := .escapeInDouble }
      else scanner.push .inDouble c
  | .escape => scanner.push .inWord (unescape c)
  | .escapeInDouble => scanner.push .inDouble (unescape c)

def run (scanner : Scanner) (chars : List Char) : Scanner :=
  chars.foldl step scanner

@[simp] theorem run_nil (scanner : Scanner) : scanner.run [] = scanner := rfl

@[simp] theorem run_cons (scanner : Scanner) (c : Char) (chars : List Char) :
    scanner.run (c :: chars) = (scanner.step c).run chars := rfl

theorem run_append (scanner : Scanner) (first second : List Char) :
    scanner.run (first ++ second) = (scanner.run first).run second := by
  simp [run, List.foldl_append]

/-- The tokens at the end of the line. -/
def finish (scanner : Scanner) : Except LexicalError (List Token) :=
  match scanner.mode with
  | .inSingle | .inDouble => .error .unclosedQuote
  | .escape | .escapeInDouble => .error .loneEscape
  | .inWord => .ok scanner.emit.done.reverse
  | .between => .ok scanner.done.reverse

end Scanner

def scanChars (chars : List Char) : Except LexicalError (List Token) :=
  (Scanner.start.run chars).finish

/-- The tokens of a line; a blank line has none. -/
def scan (line : String) : Except LexicalError (List Token) :=
  scanChars line.toList

/-- The tokens of a line that has to have one. -/
def scanSome (line : String) : Except LexicalError (List Token) :=
  match scan line with
  | .ok [] => .error .emptyLine
  | result => result

end Token

end CommandShell
