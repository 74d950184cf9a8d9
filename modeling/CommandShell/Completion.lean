import CommandShell.Command.Registry
import CommandShell.Text.Blank
import CommandShell.Text.Search
import CommandShell.Token
import CommandShell.Trie

/-!
# Completion of the last word

What may stand at the end of a partial line depends on the position of its last
word.  The first word is completed by command names and free words, a later
word that starts with a dash by the flags of the command, and any other word by
nothing.
-/

namespace CommandShell

open Text (isBlank hasStem)

/-- Where in a line the word to complete stands. -/
inductive Position where
  /-- The word names the command. -/
  | command
  /-- The word is a flag of the named command. -/
  | flag (command : String)
  | argument
  deriving DecidableEq

namespace Position

def endsBlank (line : String) : Bool :=
  line.toList.getLast?.any isBlank

/-- The position after the tokens of a line; `ended` says that a blank follows the last one. -/
def ofTokens (ended : Bool) (tokens : List Token) : Position :=
  match tokens with
  | [] => .command
  | [_] => if ended then .argument else .command
  | first :: second :: rest =>
      let last := (second :: rest).getLast (by simp)
      if !ended && hasStem "-" last.text then .flag first.text else .argument

/-- The position of the last word; a line without tokens to read names the command. -/
def ofLine (line : String) : Position :=
  match Token.scan line with
  | .error _ => .command
  | .ok tokens => ofTokens (endsBlank line) tokens

end Position

/-- The words that complete the first word of a line. -/
structure Completion where
  /-- The names of the registered commands. -/
  commands : Trie
  /-- Words added beside them. -/
  words : Trie
  deriving DecidableEq

namespace Completion

def empty : Completion :=
  ⟨.empty, .empty⟩

instance : Inhabited Completion := ⟨empty⟩

/-- The index whose command names are those of the registry. -/
def rebuild (completion : Completion) (registry : Registry) : Noted Completion :=
  let commands := Trie.ofList registry.names
  ⟨{ completion with commands },
    [⟨.debug, s!"completion index rebuilt with {commands.size} command(s)"⟩]⟩

/-- The index of a registry without further words. -/
def ofRegistry (registry : Registry) : Noted Completion :=
  empty.rebuild registry

/-- Adds a free word and says whether it is new. -/
def addWord (completion : Completion) (word : String) : Completion × Bool :=
  let (words, added) := completion.words.insert word
  ({ completion with words }, added)

/-- Takes a free word out and says whether it was there. -/
def removeWord (completion : Completion) (word : String) : Completion × Bool :=
  let (words, removed) := completion.words.remove word
  ({ completion with words }, removed)

def clearWords (completion : Completion) : Completion :=
  { completion with words := .empty }

/-- Puts a word at its place in an increasing list, unless it is there. -/
def insertWord (word : String) : List String → List String
  | [] => [word]
  | other :: rest =>
      if word < other then word :: other :: rest
      else if word = other then other :: rest
      else other :: insertWord word rest

/-- The words of two increasing lists in increasing order, each once. -/
def union (first second : List String) : List String :=
  first.foldr insertWord second

def dropDashes (word : String) : String :=
  String.ofList (word.toList.dropWhile (· == '-'))

/-- The flags of a command whose names continue the word, as they are written. -/
def flagCandidates (schema : Schema) (word : String) : List String :=
  (schema.flags.filter fun flag => hasStem (dropDashes word) flag.name).map fun flag =>
    "--" ++ flag.name

def candidatesAt (completion : Completion) (registry : Registry) (word : String) :
    Position → List String
  | .command => union (completion.commands.wordsWithStem word) (completion.words.wordsWithStem word)
  | .flag command =>
      match registry.schema? command with
      | none => []
      | some schema => flagCandidates schema word
  | .argument => []

/-- What completes the last word of a partial line. -/
def candidates (completion : Completion) (registry : Registry) (line : String) : List String :=
  completion.candidatesAt registry (Text.lastWord line) (Position.ofLine line)

theorem mem_insertWord {word other : String} {words : List String} :
    other ∈ insertWord word words ↔ other = word ∨ other ∈ words := by
  induction words with
  | nil => simp [insertWord]
  | cons first rest ih => grind [insertWord]

theorem mem_union {word : String} {first second : List String} :
    word ∈ union first second ↔ word ∈ first ∨ word ∈ second := by
  induction first with
  | nil => simp [union]
  | cons head rest ih =>
      simp only [union, List.foldr_cons] at ih ⊢
      rw [mem_insertWord, ih, List.mem_cons, or_assoc]

end Completion

end CommandShell
