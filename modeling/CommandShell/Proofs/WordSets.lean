import CommandShell.Trie

/-!
# Tries are sets of words

The labels of siblings in a forest increase, and with that the forest lists its
words in increasing order.  Adding a word adds it to the words and nothing else,
taking one out takes out that one, and the words with a stem are those that the
place of the stem continues.
-/

namespace CommandShell

namespace Forest

/-! ## Words that continue a stem -/

/-- The words that continue a stem, given the end mark and the forest that it leads to. -/
def tails (place : Bool × Forest) : List (List Char) :=
  (if place.1 then [[]] else []) ++ place.2.words

theorem words_tree (label : Char) (ends : Bool) (below rest : Forest) :
    (tree label ends below rest).words = (tails (ends, below)).map (label :: ·) ++ rest.words := by
  cases ends <;> simp [words, tails]

theorem nil_not_mem_words (forest : Forest) : [] ∉ forest.words := by
  induction forest with
  | nil => simp [words]
  | tree label ends below rest _ ih => simp [words_tree, ih]

theorem nil_mem_tails_iff (ends : Bool) (below : Forest) :
    [] ∈ tails (ends, below) ↔ ends = true := by
  cases ends <;> simp [tails, nil_not_mem_words]

theorem cons_mem_tails_iff (ends : Bool) (below : Forest) (c : Char) (word : List Char) :
    c :: word ∈ tails (ends, below) ↔ c :: word ∈ below.words := by
  cases ends <;> simp [tails]

theorem cons_mem_words_tree_iff (label : Char) (ends : Bool) (below rest : Forest) (c : Char)
    (word : List Char) :
    c :: word ∈ (tree label ends below rest).words ↔
      c = label ∧ word ∈ tails (ends, below) ∨ c :: word ∈ rest.words := by
  rw [words_tree, List.mem_append, List.mem_map]
  constructor
  · rintro (⟨tail, member, same⟩ | later)
    · obtain ⟨rfl, rfl⟩ := List.cons.inj same
      exact Or.inl ⟨rfl, member⟩
    · exact Or.inr later
  · rintro (⟨rfl, member⟩ | later)
    · exact Or.inl ⟨word, member, rfl⟩
    · exact Or.inr later

/-! ## Adding a word -/

@[simp] theorem insert_nil (forest : Forest) : forest.insert [] = forest := by
  cases forest <;> rfl

/-- The forest of a single word has no other word. -/
theorem tails_single (word : List Char) : tails (word.isEmpty, single word) = [word] := by
  induction word with
  | nil => rfl
  | cons c word ih => rw [tails, single, words_tree, ih]; rfl

theorem words_single (c : Char) (word : List Char) : (single (c :: word)).words = [c :: word] :=
  tails_single (c :: word)

/-- A place at which the empty word is added has that word and those it had. -/
theorem mem_tails_true_iff (forest : Forest) (ends : Bool) (word : List Char) :
    word ∈ tails (true, forest) ↔ word = [] ∨ word ∈ tails (ends, forest) := by
  cases ends <;> simp [tails]

/-- Adding a word adds it and no other. -/
theorem mem_tails_insert (forest : Forest) (ends : Bool) (word other : List Char) :
    other ∈ tails (ends || word.isEmpty, forest.insert word) ↔
      other = word ∨ other ∈ tails (ends, forest) := by
  induction forest generalizing ends word other with
  | nil =>
      cases word with
      | nil => simpa using mem_tails_true_iff nil ends other
      | cons c word =>
          have added : insert (c :: word) nil = single (c :: word) := rfl
          rw [added, tails, tails, words_single]
          simp [words, or_comm]
  | tree label mark below rest ihBelow ihRest =>
      cases word with
      | nil => simpa using mem_tails_true_iff (tree label mark below rest) ends other
      | cons c word =>
          cases other with
          | nil => simp [nil_mem_tails_iff]
          | cons d other =>
              rw [cons_mem_tails_iff, cons_mem_tails_iff, insert]
              split
              · rw [cons_mem_words_tree_iff c, tails_single]
                simp
              · split
                · rename_i same
                  subst same
                  simp only [cons_mem_words_tree_iff, ihBelow, List.cons.injEq, and_or_left,
                    or_assoc]
                · have later := ihRest false (c :: word) (d :: other)
                  rw [cons_mem_tails_iff, cons_mem_tails_iff] at later
                  simp only [cons_mem_words_tree_iff, later]
                  rw [or_left_comm]

/-! ## Order -/

/-- The labels of trees that stand side by side. -/
def labels : Forest → List Char
  | nil => []
  | tree label _ _ rest => label :: labels rest

/-- Holds when the labels of siblings increase everywhere in the forest. -/
def Ordered : Forest → Prop
  | nil => True
  | tree label _ below rest =>
      (∀ other ∈ rest.labels, label < other) ∧ below.Ordered ∧ rest.Ordered

theorem mem_labels_of_cons_mem_words {forest : Forest} {c : Char} {word : List Char}
    (member : c :: word ∈ forest.words) : c ∈ forest.labels := by
  induction forest with
  | nil => cases member
  | tree label ends below rest _ ih =>
      rw [cons_mem_words_tree_iff] at member
      rcases member with ⟨rfl, -⟩ | later
      · exact List.mem_cons_self
      · exact List.mem_cons_of_mem label (ih later)

theorem mem_labels_insert {forest : Forest} {c other : Char} {word : List Char}
    (member : other ∈ (forest.insert (c :: word)).labels) : other = c ∨ other ∈ forest.labels := by
  induction forest with
  | nil => simpa [insert, single, labels] using member
  | tree label ends below rest _ ih =>
      unfold insert at member
      split at member
      · simpa [labels] using member
      · split at member
        · exact Or.inr member
        · rcases List.mem_cons.mp member with rfl | later
          · exact Or.inr List.mem_cons_self
          · exact (ih later).imp_right (List.mem_cons_of_mem label)

theorem ordered_single (word : List Char) : (single word).Ordered := by
  induction word with
  | nil => trivial
  | cons c word ih => exact ⟨by simp [labels], ih, trivial⟩

theorem Ordered.insert {forest : Forest} (ordered : forest.Ordered) (word : List Char) :
    (forest.insert word).Ordered := by
  induction forest generalizing word with
  | nil =>
      cases word with
      | nil => trivial
      | cons c word => exact ordered_single (c :: word)
  | tree label ends below rest ihBelow ihRest =>
      cases word with
      | nil => exact ordered
      | cons c word =>
          obtain ⟨above, belowOrdered, restOrdered⟩ := ordered
          unfold Forest.insert
          split
          · rename_i less
            refine ⟨?_, ordered_single word, above, belowOrdered, restOrdered⟩
            rintro other member
            rcases List.mem_cons.mp member with rfl | later
            · exact less
            · exact Char.lt_trans less (above other later)
          · split
            · exact ⟨above, ihBelow belowOrdered word, restOrdered⟩
            · rename_i notLess different
              refine ⟨?_, belowOrdered, ihRest restOrdered (c :: word)⟩
              intro other member
              rcases mem_labels_insert member with rfl | later
              · exact Char.not_le.mp fun le =>
                  different (Char.le_antisymm le (Char.not_lt.mp notLess))
              · exact above other later

/-- A forest in order lists its words in increasing order. -/
theorem Ordered.sorted_tails {forest : Forest} (ordered : forest.Ordered) (ends : Bool) :
    (tails (ends, forest)).Pairwise (· < ·) := by
  induction forest generalizing ends with
  | nil => cases ends <;> simp [tails, words]
  | tree label mark below rest ihBelow ihRest =>
      obtain ⟨above, belowOrdered, restOrdered⟩ := ordered
      have here : ((tails (mark, below)).map (label :: ·)).Pairwise (· < ·) := by
        rw [List.pairwise_map]
        exact (ihBelow belowOrdered mark).imp fun less => List.cons_lt_cons_iff.mpr (.inr ⟨rfl, less⟩)
      have later : rest.words.Pairwise (· < ·) := ihRest restOrdered false
      have sorted : (tree label mark below rest).words.Pairwise (· < ·) := by
        rw [words_tree, List.pairwise_append]
        refine ⟨here, later, ?_⟩
        intro first inHere second inLater
        obtain ⟨tail, -, rfl⟩ := List.mem_map.mp inHere
        cases second with
        | nil => exact absurd inLater rest.nil_not_mem_words
        | cons c word =>
            have less := above c (mem_labels_of_cons_mem_words inLater)
            exact List.cons_lt_cons_iff.mpr (.inl less)
      cases ends with
      | false => exact sorted
      | true =>
          refine List.pairwise_cons.mpr ⟨?_, sorted⟩
          intro word member
          cases word with
          | nil => exact absurd member (nil_not_mem_words _)
          | cons c word => exact List.nil_lt_cons c word

theorem Ordered.nodup_tails {forest : Forest} (ordered : forest.Ordered) (ends : Bool) :
    (tails (ends, forest)).Nodup := by
  refine (ordered.sorted_tails ends).imp ?_
  rintro first second less rfl
  exact List.lt_irrefl first less

/-- In order, words with the same members are as many. -/
theorem Ordered.length_tails_eq {forest : Forest} (ordered : forest.Ordered) {ends : Bool}
    {words : List (List Char)} (distinct : words.Nodup)
    (same : ∀ word, word ∈ tails (ends, forest) ↔ word ∈ words) :
    (tails (ends, forest)).length = words.length :=
  ((List.perm_ext_iff_of_nodup (ordered.nodup_tails ends) distinct).mpr fun word =>
    same word).length_eq

/-! ## Taking a word out -/

@[simp] theorem erase_nil (forest : Forest) : forest.erase [] = forest := by
  cases forest <;> rfl

/-- What is left out has no words. -/
theorem words_pruned (label : Char) (ends : Bool) (below rest : Forest) :
    (pruned label ends below rest).words = (tree label ends below rest).words := by
  unfold pruned
  split <;> simp [words]

theorem mem_labels_pruned {label other : Char} {ends : Bool} {below rest : Forest}
    (member : other ∈ (pruned label ends below rest).labels) :
    other = label ∨ other ∈ rest.labels := by
  unfold pruned at member
  split at member
  · exact Or.inr member
  · exact List.mem_cons.mp member

theorem mem_labels_erase {forest : Forest} {other : Char} {word : List Char}
    (member : other ∈ (forest.erase word).labels) : other ∈ forest.labels := by
  induction forest generalizing word with
  | nil => cases word <;> exact member
  | tree label ends below rest _ ih =>
      cases word with
      | nil => exact member
      | cons c word =>
          unfold erase at member
          split at member
          · exact List.mem_cons.mpr (mem_labels_pruned member)
          · rcases List.mem_cons.mp member with rfl | later
            · exact List.mem_cons_self
            · exact List.mem_cons_of_mem label (ih later)

theorem Ordered.pruned {label : Char} {ends : Bool} {below rest : Forest}
    (ordered : (tree label ends below rest).Ordered) :
    (Forest.pruned label ends below rest).Ordered := by
  unfold Forest.pruned
  split
  · exact ordered.2.2
  · exact ordered

theorem Ordered.erase {forest : Forest} (ordered : forest.Ordered) (word : List Char) :
    (forest.erase word).Ordered := by
  induction forest generalizing word with
  | nil => cases word <;> trivial
  | tree label ends below rest ihBelow ihRest =>
      cases word with
      | nil => exact ordered
      | cons c word =>
          obtain ⟨above, belowOrdered, restOrdered⟩ := ordered
          unfold Forest.erase
          split
          · exact Ordered.pruned ⟨above, ihBelow belowOrdered word, restOrdered⟩
          · exact ⟨fun other member => above other (mem_labels_erase member), belowOrdered,
              ihRest restOrdered (c :: word)⟩

/-- A place at which the empty word is taken out has the other words that it had. -/
theorem mem_tails_false_iff (forest : Forest) (ends : Bool) (word : List Char) :
    word ∈ tails (false, forest) ↔ word ≠ [] ∧ word ∈ tails (ends, forest) := by
  cases word with
  | nil => simp [nil_mem_tails_iff]
  | cons c word => simp [cons_mem_tails_iff]

/-- In order, taking a word out takes out no other. -/
theorem mem_tails_erase {forest : Forest} (ordered : forest.Ordered) (ends : Bool)
    (word other : List Char) :
    other ∈ tails (ends && !word.isEmpty, forest.erase word) ↔
      other ≠ word ∧ other ∈ tails (ends, forest) := by
  induction forest generalizing ends word other with
  | nil =>
      cases word with
      | nil => simpa using mem_tails_false_iff nil ends other
      | cons c word => cases ends <;> simp +contextual [erase, tails, words]
  | tree label mark below rest ihBelow ihRest =>
      cases word with
      | nil => simpa using mem_tails_false_iff (tree label mark below rest) ends other
      | cons c word =>
          cases other with
          | nil => simp [nil_mem_tails_iff]
          | cons d other =>
              obtain ⟨above, belowOrdered, restOrdered⟩ := ordered
              rw [cons_mem_tails_iff, cons_mem_tails_iff, erase]
              split
              · rename_i same
                subst same
                rw [words_pruned, cons_mem_words_tree_iff, cons_mem_words_tree_iff,
                  ihBelow belowOrdered]
                -- The siblings have greater labels, so none of their words is the erased one.
                have elsewhere : d :: other ∈ rest.words → d ≠ c := by
                  rintro inRest rfl
                  exact Char.lt_irrefl d (above d (mem_labels_of_cons_mem_words inRest))
                grind
              · rename_i different
                have later := ihRest restOrdered false (c :: word) (d :: other)
                rw [cons_mem_tails_iff, cons_mem_tails_iff] at later
                rw [cons_mem_words_tree_iff, cons_mem_words_tree_iff, later]
                grind

/-! ## Following a stem -/

/-- In order, the words that start with a character are those of the tree with that label. -/
theorem cons_mem_words_iff {forest : Forest} (ordered : forest.Ordered) (c : Char)
    (word : List Char) :
    c :: word ∈ forest.words ↔ ∃ place, forest.child? c = some place ∧ word ∈ tails place := by
  induction forest with
  | nil => simp [words, child?]
  | tree label ends below rest _ ih =>
      obtain ⟨above, -, restOrdered⟩ := ordered
      rw [cons_mem_words_tree_iff, child?]
      split
      · rename_i same
        subst same
        have elsewhere : c :: word ∉ rest.words := fun inRest =>
          Char.lt_irrefl c (above c (mem_labels_of_cons_mem_words inRest))
        simp [elsewhere]
      · rename_i different
        simp [different, ih restOrdered]

theorem Ordered.child? {forest : Forest} (ordered : forest.Ordered) {c : Char}
    {place : Bool × Forest} (found : forest.child? c = some place) : place.2.Ordered := by
  induction forest with
  | nil => cases found
  | tree label ends below rest _ ih =>
      obtain ⟨-, belowOrdered, restOrdered⟩ := ordered
      unfold Forest.child? at found
      split at found
      · obtain rfl := Option.some.inj found
        exact belowOrdered
      · exact ih restOrdered found

end Forest

namespace Trie

open Forest (tails)

/-- A stem leads to the place with the words that continue it. -/
theorem append_mem_tails_iff {place : Bool × Forest} (ordered : place.2.Ordered)
    (stem tail : List Char) :
    stem ++ tail ∈ tails place ↔ ∃ found, walk? stem place = some found ∧ tail ∈ tails found := by
  induction stem generalizing place with
  | nil => simp [walk?]
  | cons c stem ih =>
      obtain ⟨ends, below⟩ := place
      rw [List.cons_append, Forest.cons_mem_tails_iff, Forest.cons_mem_words_iff ordered, walk?]
      cases child : below.child? c with
      | none => simp
      | some next => simp [ih (ordered.child? child)]

theorem ordered_walk? {place found : Bool × Forest} (ordered : place.2.Ordered)
    {stem : List Char} (leads : walk? stem place = some found) : found.2.Ordered := by
  induction stem generalizing place with
  | nil =>
      obtain rfl := Option.some.inj leads
      exact ordered
  | cons c stem ih =>
      obtain ⟨next, child, leads⟩ := Option.bind_eq_some_iff.mp leads
      exact ih (ordered.child? child) leads

/-! ## Well-formed tries -/

/-- The words of a trie as lists of characters. -/
def contents (trie : Trie) : List (List Char) :=
  tails (trie.ends, trie.below)

/-- What every operation keeps: siblings are in order, and the size counts the words. -/
structure WellFormed (trie : Trie) : Prop where
  ordered : trie.below.Ordered
  counted : trie.size = trie.contents.length

theorem wellFormed_empty : empty.WellFormed :=
  ⟨trivial, rfl⟩

@[simp] theorem contains_empty (word : String) : empty.contains word = false := by
  unfold contains find?
  cases word.toList <;> rfl

namespace WellFormed

variable {trie : Trie}

/-- A word is in the set exactly when it is among the contents. -/
theorem contains_iff (wellFormed : trie.WellFormed) (word : String) :
    trie.contains word = true ↔ word.toList ∈ trie.contents := by
  have led := @append_mem_tails_iff (trie.ends, trie.below) wellFormed.ordered word.toList []
  rw [List.append_nil] at led
  rw [contents, led, contains, find?, Option.any_eq_true]
  simp [Forest.nil_mem_tails_iff]

/-! ## Adding and taking out -/

theorem mem_contents_insert (wellFormed : trie.WellFormed) (word : String) (chars : List Char) :
    chars ∈ (trie.insert word).1.contents ↔ chars = word.toList ∨ chars ∈ trie.contents := by
  unfold Trie.insert
  split
  · rename_i known
    have member := (wellFormed.contains_iff word).mp known
    constructor
    · exact Or.inr
    · rintro (rfl | inside)
      · exact member
      · exact inside
  · exact Forest.mem_tails_insert trie.below trie.ends word.toList chars

theorem insert (wellFormed : trie.WellFormed) (word : String) :
    (trie.insert word).1.WellFormed := by
  have mem_contents := wellFormed.mem_contents_insert word
  unfold Trie.insert at mem_contents ⊢
  split at mem_contents
  · rename_i known
    rw [if_pos known]
    exact wellFormed
  · rename_i new
    rw [if_neg new]
    have ordered := wellFormed.ordered.insert word.toList
    have distinct : (word.toList :: trie.contents).Nodup :=
      List.nodup_cons.mpr ⟨mt (wellFormed.contains_iff word).mpr new,
        wellFormed.ordered.nodup_tails trie.ends⟩
    refine ⟨ordered, ?_⟩
    have length := ordered.length_tails_eq distinct fun chars => by
      rw [List.mem_cons]
      exact mem_contents chars
    exact (congrArg (· + 1) wellFormed.counted).trans length.symm

theorem mem_contents_remove (wellFormed : trie.WellFormed) (word : String) (chars : List Char) :
    chars ∈ (trie.remove word).1.contents ↔ chars ≠ word.toList ∧ chars ∈ trie.contents := by
  unfold Trie.remove
  split
  · exact Forest.mem_tails_erase wellFormed.ordered trie.ends word.toList chars
  · rename_i unknown
    rw [wellFormed.contains_iff] at unknown
    refine ⟨fun inside => ⟨?_, inside⟩, And.right⟩
    rintro rfl
    exact unknown inside

theorem remove (wellFormed : trie.WellFormed) (word : String) :
    (trie.remove word).1.WellFormed := by
  have mem_contents := wellFormed.mem_contents_remove word
  unfold Trie.remove at mem_contents ⊢
  split at mem_contents
  · rename_i known
    rw [if_pos known]
    have ordered := wellFormed.ordered.erase word.toList
    have nodup : trie.contents.Nodup := wellFormed.ordered.nodup_tails trie.ends
    refine ⟨ordered, ?_⟩
    have length := ordered.length_tails_eq (nodup.erase word.toList) fun chars => by
      rw [nodup.mem_erase_iff]
      exact mem_contents chars
    rw [List.length_erase_of_mem ((wellFormed.contains_iff word).mp known)] at length
    exact (congrArg (· - 1) wellFormed.counted).trans length.symm
  · rename_i unknown
    rw [if_neg unknown]
    exact wellFormed

/-- Adding a word adds it and no other. -/
theorem contains_insert_iff (wellFormed : trie.WellFormed) (word other : String) :
    (trie.insert word).1.contains other = true ↔ other = word ∨ trie.contains other = true := by
  rw [(wellFormed.insert word).contains_iff, wellFormed.mem_contents_insert,
    wellFormed.contains_iff, String.toList_inj]

/-- Taking a word out takes out no other. -/
theorem contains_remove_iff (wellFormed : trie.WellFormed) (word other : String) :
    (trie.remove word).1.contains other = true ↔ other ≠ word ∧ trie.contains other = true := by
  rw [(wellFormed.remove word).contains_iff, wellFormed.mem_contents_remove,
    wellFormed.contains_iff, ne_eq, String.toList_inj]

theorem insertAll (wellFormed : trie.WellFormed) (words : List String) :
    (trie.insertAll words).WellFormed := by
  induction words generalizing trie with
  | nil => exact wellFormed
  | cons word rest ih => exact ih (wellFormed.insert word)

theorem contains_insertAll_iff (wellFormed : trie.WellFormed) (words : List String)
    (other : String) :
    (trie.insertAll words).contains other = true ↔
      other ∈ words ∨ trie.contains other = true := by
  induction words generalizing trie with
  | nil => simp [Trie.insertAll]
  | cons word rest ih =>
      have later := ih (wellFormed.insert word)
      rw [wellFormed.contains_insert_iff] at later
      rw [List.mem_cons, or_assoc, or_left_comm]
      exact later

/-! ## Words with a stem -/

/-- The words with a stem are those of the set that start with it. -/
theorem mem_wordsWithStem_iff (wellFormed : trie.WellFormed) (stem word : String) :
    word ∈ trie.wordsWithStem stem ↔
      stem.toList <+: word.toList ∧ trie.contains word = true := by
  have leads := @append_mem_tails_iff (trie.ends, trie.below) wellFormed.ordered stem.toList
  rw [wellFormed.contains_iff]
  unfold wordsWithStem
  split
  · rename_i nowhere
    unfold find? at nowhere
    simp only [List.not_mem_nil, false_iff, not_and]
    rintro ⟨tail, chars⟩ inside
    rw [contents, ← chars, leads tail, nowhere] at inside
    obtain ⟨found, absent, -⟩ := inside
    cases absent
  · rename_i ends below found
    unfold find? at found
    constructor
    · intro member
      obtain ⟨tail, inside, rfl⟩ := List.mem_map.mp member
      rw [String.toList_ofList]
      exact ⟨List.prefix_append stem.toList tail, (leads tail).mpr ⟨(ends, below), found, inside⟩⟩
    · rintro ⟨⟨tail, chars⟩, inside⟩
      rw [contents, ← chars, leads tail, found] at inside
      obtain ⟨place, same, inside⟩ := inside
      obtain rfl := Option.some.inj same
      exact List.mem_map.mpr ⟨tail, inside, by rw [chars, String.ofList_toList]⟩

theorem sorted_wordsWithStem (wellFormed : trie.WellFormed) (stem : String) :
    (trie.wordsWithStem stem).Pairwise (· < ·) := by
  unfold wordsWithStem
  split
  · exact .nil
  · rename_i ends below found
    have ordered : below.Ordered :=
      @ordered_walk? (trie.ends, trie.below) (ends, below) wellFormed.ordered stem.toList found
    rw [List.pairwise_map]
    refine (ordered.sorted_tails ends).imp ?_
    intro first second less
    rw [String.lt_iff, String.toList_ofList, String.toList_ofList]
    exact List.append_left_lt less

/-- The size is the number of all words. -/
theorem length_words (wellFormed : trie.WellFormed) : trie.words.length = trie.size := by
  have all : trie.words = trie.contents.map fun tail => String.ofList tail := rfl
  rw [all, List.length_map, wellFormed.counted]

end WellFormed

theorem wellFormed_ofList (words : List String) : (ofList words).WellFormed :=
  wellFormed_empty.insertAll words

theorem contains_ofList_iff (words : List String) (word : String) :
    (ofList words).contains word = true ↔ word ∈ words := by
  rw [ofList, wellFormed_empty.contains_insertAll_iff]
  simp

/-- The words of a list in order are given back as they were. -/
theorem words_ofList {words : List String} (sorted : words.Pairwise (· < ·)) :
    (ofList words).words = words := by
  have wellFormed := wellFormed_ofList words
  have wordsSorted := wellFormed.sorted_wordsWithStem ""
  have same : ∀ word, word ∈ (ofList words).words ↔ word ∈ words := by
    intro word
    rw [Trie.words, wellFormed.mem_wordsWithStem_iff, contains_ofList_iff]
    simp
  have distinct : ∀ {list : List String}, list.Pairwise (· < ·) → list.Nodup := by
    intro list increasing
    refine increasing.imp ?_
    rintro word _ less rfl
    exact String.lt_irrefl word less
  refine List.Perm.eq_of_pairwise ?_ wordsSorted sorted
    ((List.perm_ext_iff_of_nodup (distinct wordsSorted) (distinct sorted)).mpr same)
  intro first second _ _ less greater
  exact absurd (String.lt_trans less greater) (String.lt_irrefl first)

theorem size_ofList {words : List String} (sorted : words.Pairwise (· < ·)) :
    (ofList words).size = words.length := by
  rw [← (wellFormed_ofList words).length_words, words_ofList sorted]

end Trie

end CommandShell
