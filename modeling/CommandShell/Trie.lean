/-!
# Sets of words with stem queries

A forest keeps the continuations of one stem: each tree has a label, a mark
that says whether a word ends there, and the forest of longer words.  Labels of
siblings increase, so the words come out in the order of their scalar values.
-/

namespace CommandShell

/-- Trees side by side, each with its label, its end mark and its own forest. -/
inductive Forest where
  | nil
  | tree (label : Char) (ends : Bool) (below rest : Forest)
  deriving DecidableEq

namespace Forest

/-- The forest of a single non-empty word; the empty word has no tree. -/
def single : List Char → Forest
  | [] => nil
  | c :: word => tree c word.isEmpty (single word) nil

/-- Adds a non-empty word. -/
def insert : List Char → Forest → Forest
  | [], forest => forest
  | c :: word, nil => single (c :: word)
  | c :: word, tree label ends below rest =>
      if c < label then tree c word.isEmpty (single word) (tree label ends below rest)
      else if c = label then tree label (ends || word.isEmpty) (insert word below) rest
      else tree label ends below (insert (c :: word) rest)

/-- A tree that is left out when no word ends in it or below it. -/
def pruned (label : Char) (ends : Bool) (below rest : Forest) : Forest :=
  match ends, below with
  | false, nil => rest
  | _, _ => tree label ends below rest

/-- Takes a non-empty word out and prunes what no longer leads to a word. -/
def erase : List Char → Forest → Forest
  | [], forest => forest
  | _ :: _, nil => nil
  | c :: word, tree label ends below rest =>
      if c = label then pruned label (ends && !word.isEmpty) (erase word below) rest
      else tree label ends below (erase (c :: word) rest)

/-- The end mark and the forest under one label. -/
def child? (c : Char) : Forest → Option (Bool × Forest)
  | nil => none
  | tree label ends below rest => if c = label then some (ends, below) else child? c rest

/-- The words of the forest in increasing order. -/
def words : Forest → List (List Char)
  | nil => []
  | tree label ends below rest =>
      (if ends then [[label]] else []) ++ (words below).map (label :: ·) ++ words rest

end Forest

/-- A finite set of words that is asked for the words with a given stem. -/
structure Trie where
  /-- Whether the empty word is in the set. -/
  ends : Bool
  below : Forest
  /-- The number of words. -/
  size : Nat
  deriving DecidableEq

namespace Trie

def empty : Trie :=
  ⟨false, .nil, 0⟩

instance : Inhabited Trie := ⟨empty⟩

/-- The end mark and the forest that a stem leads to. -/
def walk? : List Char → Bool × Forest → Option (Bool × Forest)
  | [], place => some place
  | c :: stem, place => (place.2.child? c).bind (walk? stem)

/-- The place that a stem leads to from the root. -/
def find? (trie : Trie) (stem : List Char) : Option (Bool × Forest) :=
  walk? stem (trie.ends, trie.below)

def contains (trie : Trie) (word : String) : Bool :=
  (trie.find? word.toList).any Prod.fst

/-- Adds a word and says whether it is new. -/
def insert (trie : Trie) (word : String) : Trie × Bool :=
  if trie.contains word then (trie, false)
  else
    ({ ends := trie.ends || word.toList.isEmpty
       below := trie.below.insert word.toList
       size := trie.size + 1 }, true)

/-- Takes a word out and says whether it was there. -/
def remove (trie : Trie) (word : String) : Trie × Bool :=
  if trie.contains word then
    ({ ends := trie.ends && !word.toList.isEmpty
       below := trie.below.erase word.toList
       size := trie.size - 1 }, true)
  else (trie, false)

def insertAll (trie : Trie) (words : List String) : Trie :=
  words.foldl (fun trie word => (trie.insert word).1) trie

def ofList (words : List String) : Trie :=
  empty.insertAll words

def isEmpty (trie : Trie) : Bool :=
  trie.size == 0

/-- The words with a stem, in increasing order. -/
def wordsWithStem (trie : Trie) (stem : String) : List String :=
  match trie.find? stem.toList with
  | none => []
  | some (ends, below) =>
      ((if ends then [[]] else []) ++ below.words).map fun tail =>
        String.ofList (stem.toList ++ tail)

/-- All words in increasing order. -/
def words (trie : Trie) : List String :=
  trie.wordsWithStem ""

end Trie

end CommandShell
