import CommandShell.Proofs.ByteOrder
import CommandShell.Proofs.WordSets
import Mathlib.Data.Finset.Card
import Mathlib.Data.Finset.Lattice.Basic

/-!
# Tries replay operations on sets

Operations on a new trie are replayed on a finite set of words.  After any of
them the trie answers for that set: it tells what is new and what is there, its
size is the number of words, and a stem gives the words of the set that start
with it, each once and in increasing order.
-/

namespace CommandShell.Trie

/-! ## Operations -/

/-- What can be done to a trie. -/
inductive Operation where
  | insert (word : String)
  | remove (word : String)
  /-- Adds words one after the other. -/
  | extend (words : List String)
  | clear

/-- The trie after an operation. -/
def perform (trie : Trie) : Operation → Trie
  | .insert word => (trie.insert word).1
  | .remove word => (trie.remove word).1
  | .extend words => trie.insertAll words
  | .clear => empty

/-- The trie after operations. -/
def performAll (trie : Trie) (operations : List Operation) : Trie :=
  operations.foldl perform trie

/-- The set after an operation on it. -/
def Operation.replay (words : Finset String) : Operation → Finset String
  | .insert word => words ∪ {word}
  | .remove word => words.erase word
  | .extend more => words ∪ more.toFinset
  | .clear => ∅

/-- The set of words after operations on the empty one. -/
def replayed (operations : List Operation) : Finset String :=
  operations.foldl Operation.replay ∅

/-! ## What every operation keeps -/

/-- A well-formed trie that contains the words of a set and no other. -/
structure Follows (trie : Trie) (words : Finset String) : Prop where
  wellFormed : trie.WellFormed
  contains_iff : ∀ word, trie.contains word = true ↔ word ∈ words

theorem follows_empty : empty.Follows ∅ :=
  ⟨wellFormed_empty, by simp⟩

namespace Follows

variable {trie : Trie} {words : Finset String}

theorem perform (follows : trie.Follows words) (operation : Operation) :
    (trie.perform operation).Follows (operation.replay words) := by
  cases operation with
  | insert word =>
      constructor
      · exact follows.wellFormed.insert word
      · intro other
        rw [Trie.perform, follows.wellFormed.contains_insert_iff, follows.contains_iff]
        simp [Operation.replay]
  | remove word =>
      constructor
      · exact follows.wellFormed.remove word
      · intro other
        rw [Trie.perform, follows.wellFormed.contains_remove_iff, follows.contains_iff]
        simp [Operation.replay]
  | extend more =>
      constructor
      · exact follows.wellFormed.insertAll more
      · intro other
        rw [Trie.perform, follows.wellFormed.contains_insertAll_iff, follows.contains_iff]
        simp [Operation.replay, or_comm]
  | clear => exact follows_empty

theorem performAll (follows : trie.Follows words) (operations : List Operation) :
    (trie.performAll operations).Follows (operations.foldl Operation.replay words) := by
  induction operations generalizing trie words with
  | nil => exact follows
  | cons operation rest ih => exact ih (follows.perform operation)

/-! ## What the trie answers -/

theorem mem_wordsWithStem_iff (follows : trie.Follows words) (stem word : String) :
    word ∈ trie.wordsWithStem stem ↔ word ∈ words ∧ stem.toList <+: word.toList := by
  rw [follows.wellFormed.mem_wordsWithStem_iff, follows.contains_iff, and_comm]

/-- The trie lists the words of the set. -/
theorem toFinset_words (follows : trie.Follows words) : trie.words.toFinset = words := by
  ext word
  rw [List.mem_toFinset, Trie.words, follows.mem_wordsWithStem_iff]
  simp

/-- The size is the number of words in the set. -/
theorem size_eq_card (follows : trie.Follows words) : trie.size = words.card := by
  have distinct : trie.words.Nodup := (follows.wellFormed.sorted_wordsWithStem "").nodup
  rw [← follows.wellFormed.length_words, ← List.toFinset_card_of_nodup distinct,
    follows.toFinset_words]

/-- The size is taken down only where a word is there to be counted. -/
theorem size_remove (follows : trie.Follows words) {word : String} (member : word ∈ words) :
    (trie.remove word).1.size + 1 = trie.size := by
  have removed : (trie.remove word).1.size = (words.erase word).card :=
    (follows.perform (.remove word)).size_eq_card
  rw [removed, follows.size_eq_card, Finset.card_erase_add_one member]

end Follows

/-- A word is added exactly when it is not there. -/
theorem insert_snd_iff (trie : Trie) (word : String) :
    (trie.insert word).2 = true ↔ trie.contains word = false := by
  unfold Trie.insert
  split <;> simp_all

/-- A word is taken out exactly when it is there. -/
theorem remove_snd_iff (trie : Trie) (word : String) :
    (trie.remove word).2 = true ↔ trie.contains word = true := by
  unfold Trie.remove
  split <;> simp_all

/-- What a trie tells of the set of words that it stands for. -/
structure Represents (trie : Trie) (words : Finset String) : Prop where
  inserts_iff : ∀ word, (trie.insert word).2 = true ↔ word ∉ words
  removes_iff : ∀ word, (trie.remove word).2 = true ↔ word ∈ words
  contains_iff : ∀ word, trie.contains word = true ↔ word ∈ words
  size_eq_card : trie.size = words.card
  /-- No count is taken below zero. -/
  counts_down : ∀ word ∈ words, (trie.remove word).1.size + 1 = trie.size
  isEmpty_iff : trie.isEmpty = true ↔ words = ∅
  mem_wordsWithStem_iff : ∀ stem word,
    word ∈ trie.wordsWithStem stem ↔ word ∈ words ∧ stem.toList <+: word.toList
  sorted : ∀ stem, (trie.wordsWithStem stem).Pairwise (· < ·)
  sorted_bytes : ∀ stem, ((trie.wordsWithStem stem).map textBytes).Pairwise (· < ·)

theorem Follows.represents {trie : Trie} {words : Finset String} (follows : trie.Follows words) :
    trie.Represents words where
  inserts_iff word := by
    rw [insert_snd_iff, ← Bool.not_eq_true, follows.contains_iff]
  removes_iff word := by
    rw [remove_snd_iff, follows.contains_iff]
  contains_iff := follows.contains_iff
  size_eq_card := follows.size_eq_card
  counts_down _ member := follows.size_remove member
  isEmpty_iff := by
    rw [isEmpty, follows.size_eq_card, beq_iff_eq, Finset.card_eq_zero]
  mem_wordsWithStem_iff := follows.mem_wordsWithStem_iff
  sorted := follows.wellFormed.sorted_wordsWithStem
  sorted_bytes stem := by
    rw [List.pairwise_map]
    apply (follows.wellFormed.sorted_wordsWithStem stem).imp
    intro first second less
    exact (textBytes_lt_iff first second).mpr less

/--
After any operations a new trie stands for the set on which the same operations
were replayed.
-/
theorem represents_replayed (operations : List Operation) :
    (empty.performAll operations).Represents (replayed operations) :=
  (follows_empty.performAll operations).represents

/-- Taking a word out leaves the longer word that goes on from it. -/
example : (empty.performAll [.extend ["boned", "", "bone"], .remove "bone"]).words =
    ["", "boned"] := rfl

end CommandShell.Trie
