import CommandShell.Proofs.ReplayedTries

/-!
# Tries have one shape for each set of words

Taking a word out prunes every branch that no longer leads to a word, so each
leaf of a forest ends a word.  A forest in order without dead branches is given
by its words: whatever operations have led to a set of words, in whatever order,
they leave the same trie.
-/

namespace CommandShell

namespace Forest

/-! ## Forests without dead branches -/

/-- The nodes of a forest, each by its end mark and the forest below it. -/
def nodes : Forest → List (Bool × Forest)
  | nil => []
  | tree _ ends below rest => (ends, below) :: (below.nodes ++ rest.nodes)

/-- Holds when every leaf ends a word. -/
def Trimmed (forest : Forest) : Prop :=
  ∀ node ∈ forest.nodes, node.2 = nil → node.1 = true

theorem trimmed_nil : nil.Trimmed := by
  simp [Trimmed, nodes]

theorem trimmed_tree_iff (label : Char) (ends : Bool) (below rest : Forest) :
    (tree label ends below rest).Trimmed ↔
      (below = nil → ends = true) ∧ below.Trimmed ∧ rest.Trimmed := by
  simp [Trimmed, nodes, or_imp, forall_and]

/-- Every node of a trimmed forest ends a word or has a node below it that does. -/
theorem Trimmed.exists_end {forest : Forest} (trimmed : forest.Trimmed) :
    ∀ node ∈ forest.nodes, node.1 = true ∨ ∃ lower ∈ node.2.nodes, lower.1 = true := by
  induction forest with
  | nil => simp [nodes]
  | tree label ends below rest ihBelow ihRest =>
      obtain ⟨atLeaf, belowTrimmed, restTrimmed⟩ := (trimmed_tree_iff _ _ _ _).mp trimmed
      rintro node member
      rcases List.mem_cons.mp member with rfl | member
      · cases below with
        | nil => exact Or.inl (atLeaf rfl)
        | tree next mark lower others =>
            have first : (mark, lower) ∈ (tree next mark lower others).nodes := List.mem_cons_self
            rcases ihBelow belowTrimmed _ first with here | ⟨deeper, inside, here⟩
            · exact Or.inr ⟨_, first, here⟩
            · refine Or.inr ⟨deeper, ?_, here⟩
              exact List.mem_cons_of_mem _ (List.mem_append_left _ inside)
      · rcases List.mem_append.mp member with inBelow | inRest
        · exact ihBelow belowTrimmed node inBelow
        · exact ihRest restTrimmed node inRest

/-- The first tree of a trimmed forest leads to a word. -/
theorem Trimmed.exists_mem_tails {label : Char} {ends : Bool} {below rest : Forest}
    (trimmed : (tree label ends below rest).Trimmed) : ∃ word, word ∈ tails (ends, below) := by
  induction below generalizing label ends rest with
  | nil =>
      obtain ⟨atLeaf, -⟩ := (trimmed_tree_iff _ _ _ _).mp trimmed
      exact ⟨[], (nil_mem_tails_iff _ _).mpr (atLeaf rfl)⟩
  | tree next mark lower others ih _ =>
      obtain ⟨-, belowTrimmed, -⟩ := (trimmed_tree_iff _ _ _ _).mp trimmed
      obtain ⟨word, member⟩ := ih belowTrimmed
      refine ⟨next :: word, (cons_mem_tails_iff _ _ _ _).mpr ?_⟩
      exact (cons_mem_words_tree_iff _ _ _ _ _ _).mpr (Or.inl ⟨rfl, member⟩)

/-! ## What every operation keeps -/

theorem trimmed_single (word : List Char) : (single word).Trimmed := by
  induction word with
  | nil => exact trimmed_nil
  | cons c word ih =>
      refine (trimmed_tree_iff _ _ _ _).mpr ⟨?_, ih, trimmed_nil⟩
      cases word <;> simp [single]

theorem insert_cons_ne_nil (forest : Forest) (c : Char) (word : List Char) :
    forest.insert (c :: word) ≠ nil := by
  cases forest with
  | nil => simp [insert, single]
  | tree label ends below rest =>
      unfold insert
      split
      · simp
      · split <;> simp

theorem Trimmed.insert {forest : Forest} (trimmed : forest.Trimmed) (word : List Char) :
    (forest.insert word).Trimmed := by
  induction forest generalizing word with
  | nil =>
      cases word with
      | nil => exact trimmed
      | cons c word => exact trimmed_single (c :: word)
  | tree label ends below rest ihBelow ihRest =>
      cases word with
      | nil => exact trimmed
      | cons c word =>
          obtain ⟨atLeaf, belowTrimmed, restTrimmed⟩ := (trimmed_tree_iff _ _ _ _).mp trimmed
          unfold Forest.insert
          split
          · obtain ⟨ended, wordTrimmed, -⟩ :=
              (trimmed_tree_iff _ _ _ _).mp (trimmed_single (c :: word))
            exact (trimmed_tree_iff _ _ _ _).mpr ⟨ended, wordTrimmed, trimmed⟩
          · split
            · refine (trimmed_tree_iff _ _ _ _).mpr ⟨?_, ihBelow belowTrimmed word, restTrimmed⟩
              intro bare
              cases word with
              | nil => simp
              | cons d word => exact absurd bare (insert_cons_ne_nil below d word)
            · exact (trimmed_tree_iff _ _ _ _).mpr
                ⟨atLeaf, belowTrimmed, ihRest restTrimmed (c :: word)⟩

/-- A tree that does not lead to a word is left out. -/
theorem Trimmed.pruned {below rest : Forest} (belowTrimmed : below.Trimmed)
    (restTrimmed : rest.Trimmed) (label : Char) (ends : Bool) :
    (Forest.pruned label ends below rest).Trimmed := by
  unfold Forest.pruned
  split
  · exact restTrimmed
  · rename_i alive
    refine (trimmed_tree_iff _ _ _ _).mpr ⟨?_, belowTrimmed, restTrimmed⟩
    rintro rfl
    cases ends with
    | false => exact absurd rfl (alive rfl)
    | true => rfl

theorem Trimmed.erase {forest : Forest} (trimmed : forest.Trimmed) (word : List Char) :
    (forest.erase word).Trimmed := by
  induction forest generalizing word with
  | nil => cases word <;> exact trimmed
  | tree label ends below rest ihBelow ihRest =>
      cases word with
      | nil => exact trimmed
      | cons c word =>
          obtain ⟨atLeaf, belowTrimmed, restTrimmed⟩ := (trimmed_tree_iff _ _ _ _).mp trimmed
          unfold Forest.erase
          split
          · exact (ihBelow belowTrimmed word).pruned restTrimmed _ _
          · exact (trimmed_tree_iff _ _ _ _).mpr
              ⟨atLeaf, belowTrimmed, ihRest restTrimmed (c :: word)⟩

/-! ## The shape of a set of words -/

/-- No label of a forest in order comes before the first one. -/
theorem Ordered.le_of_mem_labels {label c : Char} {ends : Bool} {below rest : Forest}
    (ordered : (tree label ends below rest).Ordered)
    (member : c ∈ (tree label ends below rest).labels) : label ≤ c := by
  rcases List.mem_cons.mp member with rfl | inRest
  · exact Char.le_refl c
  · have above : label < c := ordered.1 c inRest
    exact Char.not_lt.mp fun less => Char.lt_irrefl c (Char.lt_trans less above)

/-- In order, the words with the first label are those of the first tree. -/
theorem Ordered.first_mem_words_iff {label : Char} {ends : Bool} {below rest : Forest}
    (ordered : (tree label ends below rest).Ordered) (word : List Char) :
    label :: word ∈ (tree label ends below rest).words ↔ word ∈ tails (ends, below) := by
  rw [cons_mem_words_iff ordered, Forest.child?, if_pos rfl]
  simp

/-- In order, the words of the later trees are those with another label. -/
theorem Ordered.mem_words_rest_iff {label : Char} {ends : Bool} {below rest : Forest}
    (ordered : (tree label ends below rest).Ordered) (c : Char) (word : List Char) :
    c :: word ∈ rest.words ↔ c ≠ label ∧ c :: word ∈ (tree label ends below rest).words := by
  rw [cons_mem_words_tree_iff]
  constructor
  · intro inRest
    refine ⟨?_, Or.inr inRest⟩
    rintro rfl
    exact Char.lt_irrefl c (ordered.1 c (mem_labels_of_cons_mem_words inRest))
  · rintro ⟨different, ⟨same, -⟩ | inRest⟩
    · exact absurd same different
    · exact inRest

/-- A forest is in normal form when its labels are in order and no branch is dead. -/
structure Normal (forest : Forest) : Prop where
  ordered : forest.Ordered
  trimmed : forest.Trimmed

namespace Normal

theorem below {label : Char} {ends : Bool} {below rest : Forest}
    (normal : (tree label ends below rest).Normal) : below.Normal :=
  ⟨normal.ordered.2.1, ((trimmed_tree_iff _ _ _ _).mp normal.trimmed).2.1⟩

theorem rest {label : Char} {ends : Bool} {below rest : Forest}
    (normal : (tree label ends below rest).Normal) : rest.Normal :=
  ⟨normal.ordered.2.2, ((trimmed_tree_iff _ _ _ _).mp normal.trimmed).2.2⟩

theorem insert {forest : Forest} (normal : forest.Normal) (word : List Char) :
    (forest.insert word).Normal :=
  ⟨normal.ordered.insert word, normal.trimmed.insert word⟩

theorem erase {forest : Forest} (normal : forest.Normal) (word : List Char) :
    (forest.erase word).Normal :=
  ⟨normal.ordered.erase word, normal.trimmed.erase word⟩

/-- The first tree of a forest in normal form leads to a word of the forest. -/
theorem exists_mem_words {label : Char} {ends : Bool} {below rest : Forest}
    (normal : (tree label ends below rest).Normal) :
    ∃ word, label :: word ∈ (tree label ends below rest).words := by
  obtain ⟨word, member⟩ := normal.trimmed.exists_mem_tails
  exact ⟨word, (normal.ordered.first_mem_words_iff word).mpr member⟩

/-- The first label is not above the first label of a forest with fewer words. -/
theorem le_of_words_subset {label other : Char} {ends mark : Bool}
    {below rest lower later : Forest} (normal : (tree other mark lower later).Normal)
    (ordered : (tree label ends below rest).Ordered)
    (subset : ∀ word ∈ (tree other mark lower later).words,
      word ∈ (tree label ends below rest).words) : label ≤ other := by
  obtain ⟨word, member⟩ := normal.exists_mem_words
  exact ordered.le_of_mem_labels (mem_labels_of_cons_mem_words (subset _ member))

/-- Forests in normal form with the same words are the same. -/
theorem eq_of_words {first second : Forest} (firstNormal : first.Normal)
    (secondNormal : second.Normal) (same : ∀ word, word ∈ first.words ↔ word ∈ second.words) :
    first = second := by
  -- The second forest is general: below a tree it is the forest below the tree with that label.
  induction first generalizing second with
  | nil =>
      cases second with
      | nil => rfl
      | tree other mark lower later =>
          obtain ⟨word, member⟩ := secondNormal.exists_mem_words
          cases (same (other :: word)).mpr member
  | tree label ends below rest ihBelow ihRest =>
      cases second with
      | nil =>
          obtain ⟨word, member⟩ := firstNormal.exists_mem_words
          cases (same (label :: word)).mp member
      | tree other mark lower later =>
          obtain rfl : label = other := Char.le_antisymm
            (secondNormal.le_of_words_subset firstNormal.ordered fun word => (same word).mpr)
            (firstNormal.le_of_words_subset secondNormal.ordered fun word => (same word).mp)
          have sameTails : ∀ word, word ∈ tails (ends, below) ↔ word ∈ tails (mark, lower) := by
            intro word
            rw [← firstNormal.ordered.first_mem_words_iff, same,
              secondNormal.ordered.first_mem_words_iff]
          have sameMark : ends = mark := by
            rw [Bool.eq_iff_iff, ← nil_mem_tails_iff ends below, sameTails, nil_mem_tails_iff]
          have sameBelow : below = lower := by
            refine ihBelow firstNormal.below secondNormal.below fun word => ?_
            cases word with
            | nil => exact iff_of_false (nil_not_mem_words below) (nil_not_mem_words lower)
            | cons c word => rw [← cons_mem_tails_iff ends, sameTails, cons_mem_tails_iff]
          have sameRest : rest = later := by
            refine ihRest firstNormal.rest secondNormal.rest fun word => ?_
            cases word with
            | nil => exact iff_of_false (nil_not_mem_words rest) (nil_not_mem_words later)
            | cons c word =>
                rw [firstNormal.ordered.mem_words_rest_iff, same,
                  ← secondNormal.ordered.mem_words_rest_iff]
          rw [sameMark, sameBelow, sameRest]

/-- Adding a word that is there leaves every node as it was. -/
theorem insert_of_mem {forest : Forest} (normal : forest.Normal) {ends : Bool} {word : List Char}
    (member : word ∈ tails (ends, forest)) : forest.insert word = forest := by
  cases word with
  | nil => exact insert_nil forest
  | cons c word =>
      rw [cons_mem_tails_iff] at member
      refine (normal.insert _).eq_of_words normal fun other => ?_
      have inserted : other ∈ (forest.insert (c :: word)).words ↔
          other = c :: word ∨ other ∈ forest.words :=
        mem_tails_insert forest false (c :: word) other
      rw [inserted, or_iff_right_of_imp]
      rintro rfl
      exact member

/-- Taking out a word that is not there leaves every node as it was. -/
theorem erase_of_not_mem {forest : Forest} (normal : forest.Normal) {ends : Bool}
    {word : List Char} (absent : word ∉ tails (ends, forest)) : forest.erase word = forest := by
  cases word with
  | nil => exact erase_nil forest
  | cons c word =>
      rw [cons_mem_tails_iff] at absent
      refine (normal.erase _).eq_of_words normal fun other => ?_
      have erased : other ∈ (forest.erase (c :: word)).words ↔
          other ≠ c :: word ∧ other ∈ forest.words :=
        mem_tails_erase normal.ordered false (c :: word) other
      rw [erased, and_iff_right_of_imp]
      rintro inside rfl
      exact absent inside

end Normal

end Forest

namespace Trie

/-! ## Tries in normal form -/

/-- A well-formed trie without dead branches. -/
structure Normal (trie : Trie) : Prop where
  wellFormed : trie.WellFormed
  trimmed : trie.below.Trimmed

theorem normal_empty : empty.Normal :=
  ⟨wellFormed_empty, Forest.trimmed_nil⟩

namespace Normal

variable {trie : Trie}

theorem forest (normal : trie.Normal) : trie.below.Normal :=
  ⟨normal.wellFormed.ordered, normal.trimmed⟩

theorem insert (normal : trie.Normal) (word : String) : (trie.insert word).1.Normal := by
  refine ⟨normal.wellFormed.insert word, ?_⟩
  unfold Trie.insert
  split
  · exact normal.trimmed
  · exact normal.trimmed.insert word.toList

theorem remove (normal : trie.Normal) (word : String) : (trie.remove word).1.Normal := by
  refine ⟨normal.wellFormed.remove word, ?_⟩
  unfold Trie.remove
  split
  · exact normal.trimmed.erase word.toList
  · exact normal.trimmed

theorem insertAll (normal : trie.Normal) (words : List String) : (trie.insertAll words).Normal := by
  induction words generalizing trie with
  | nil => exact normal
  | cons word rest ih => exact ih (normal.insert word)

theorem perform (normal : trie.Normal) (operation : Operation) :
    (trie.perform operation).Normal := by
  cases operation with
  | insert word => exact normal.insert word
  | remove word => exact normal.remove word
  | extend words => exact normal.insertAll words
  | clear => exact normal_empty

theorem performAll (normal : trie.Normal) (operations : List Operation) :
    (trie.performAll operations).Normal := by
  induction operations generalizing trie with
  | nil => exact normal
  | cons operation rest ih => exact ih (normal.perform operation)

/-- Tries in normal form that contain the same words are the same, with all their nodes. -/
theorem eq_of_contains {other : Trie} (normal : trie.Normal) (otherNormal : other.Normal)
    (same : ∀ word, trie.contains word = true ↔ other.contains word = true) : trie = other := by
  have sameContents : ∀ chars, chars ∈ trie.contents ↔ chars ∈ other.contents := by
    intro chars
    have sameWord := same (String.ofList chars)
    rwa [normal.wellFormed.contains_iff, otherNormal.wellFormed.contains_iff,
      String.toList_ofList] at sameWord
  have ends : trie.ends = other.ends := by
    rw [Bool.eq_iff_iff, ← Forest.nil_mem_tails_iff trie.ends trie.below]
    exact (sameContents []).trans (Forest.nil_mem_tails_iff other.ends other.below)
  have below : trie.below = other.below := by
    refine normal.forest.eq_of_words otherNormal.forest fun word => ?_
    cases word with
    | nil =>
        exact iff_of_false (Forest.nil_not_mem_words trie.below) (Forest.nil_not_mem_words other.below)
    | cons c word =>
        rw [← Forest.cons_mem_tails_iff trie.ends, ← Forest.cons_mem_tails_iff other.ends]
        exact sameContents (c :: word)
  have size : trie.size = other.size := by
    rw [normal.wellFormed.counted, otherNormal.wellFormed.counted, contents, contents, ends, below]
  obtain ⟨_, _, _⟩ := trie
  cases ends
  cases below
  cases size
  rfl

end Normal

/-- Tries in normal form that follow the same set are the same. -/
theorem Follows.eq_of_normal {first second : Trie} {words : Finset String}
    (firstFollows : first.Follows words) (secondFollows : second.Follows words)
    (firstNormal : first.Normal) (secondNormal : second.Normal) : first = second := by
  refine firstNormal.eq_of_contains secondNormal fun word => ?_
  rw [firstFollows.contains_iff, secondFollows.contains_iff]

/-! ## One shape for each set -/

/-- The operations that take words out one after the other. -/
def removals (words : List String) : List Operation :=
  words.map .remove

theorem foldl_replay_removals (words : Finset String) (removed : List String) :
    (removals removed).foldl Operation.replay words = words \ removed.toFinset := by
  induction removed generalizing words with
  | nil => simp [removals]
  | cons word rest ih =>
      have step : (removals (word :: rest)).foldl Operation.replay words =
          (removals rest).foldl Operation.replay (words.erase word) := rfl
      rw [step, ih]
      ext other
      simp only [Finset.mem_sdiff, Finset.mem_erase, List.mem_toFinset, List.mem_cons]
      tauto

/--
What holds of a trie that stands for a set of words: no branch is dead, adding a
new word is undone by taking it out, and what is refused touches no node, even
where the branch of the word is gone through.
-/
structure IsCanonical (trie : Trie) (words : Finset String) : Prop where
  alive : ∀ node ∈ trie.below.nodes, node.1 = true ∨ ∃ lower ∈ node.2.nodes, lower.1 = true
  leaf : ∀ node ∈ trie.below.nodes, node.2 = .nil → node.1 = true
  remove_insert : ∀ word ∉ words, (trie.insert word).1.remove word = (trie, true)
  insert_refused : ∀ word ∈ words,
    trie.insert word = (trie, false) ∧ trie.below.insert word.toList = trie.below
  remove_refused : ∀ word ∉ words,
    trie.remove word = (trie, false) ∧ trie.below.erase word.toList = trie.below

namespace Follows

variable {trie : Trie} {words : Finset String}

theorem remove_insert (follows : trie.Follows words) (normal : trie.Normal) {word : String}
    (new : word ∉ words) : (trie.insert word).1.remove word = (trie, true) := by
  have inserted : (trie.insert word).1.Follows (words ∪ {word}) := follows.perform (.insert word)
  have removed : ((trie.insert word).1.remove word).1.Follows ((words ∪ {word}).erase word) :=
    inserted.perform (.remove word)
  have back : (words ∪ {word}).erase word = words := by
    rw [Finset.union_comm, ← Finset.insert_eq, Finset.erase_insert new]
  rw [back] at removed
  refine Prod.ext ?_ ?_
  · exact removed.eq_of_normal follows ((normal.insert word).remove word) normal
  · exact (remove_snd_iff _ word).mpr ((inserted.contains_iff word).mpr (by simp))

theorem isCanonical (follows : trie.Follows words) (normal : trie.Normal) :
    trie.IsCanonical words where
  alive := normal.trimmed.exists_end
  leaf := normal.trimmed
  remove_insert _ new := follows.remove_insert normal new
  insert_refused word member := by
    have known := (follows.contains_iff word).mpr member
    refine ⟨by rw [Trie.insert, if_pos known], ?_⟩
    exact normal.forest.insert_of_mem ((normal.wellFormed.contains_iff word).mp known)
  remove_refused word absent := by
    have unknown : ¬ trie.contains word = true := mt (follows.contains_iff word).mp absent
    refine ⟨by rw [Trie.remove, if_neg unknown], ?_⟩
    exact normal.forest.erase_of_not_mem (mt (normal.wellFormed.contains_iff word).mpr unknown)

end Follows

/--
After any operations a new trie has no dead branch, and it is the same trie as
after any other operations exactly if they leave the same set of words.  Taking
out every word leaves the empty trie.
-/
theorem isCanonical_performAll (operations : List Operation) :
    (empty.performAll operations).IsCanonical (replayed operations) ∧
      (∀ others, empty.performAll operations = empty.performAll others ↔
        replayed operations = replayed others) ∧
      ∀ removed : List String, (∀ word ∈ replayed operations, word ∈ removed) →
        empty.performAll (operations ++ removals removed) = empty := by
  have follows : ∀ operations, (empty.performAll operations).Follows (replayed operations) :=
    fun operations => follows_empty.performAll operations
  have normal : ∀ operations, (empty.performAll operations).Normal :=
    fun operations => normal_empty.performAll operations
  refine ⟨(follows operations).isCanonical (normal operations), ?_, ?_⟩
  · intro others
    constructor
    · intro same
      rw [← (follows operations).toFinset_words, same, (follows others).toFinset_words]
    · intro same
      have alike := follows others
      rw [← same] at alike
      exact (follows operations).eq_of_normal alike (normal operations) (normal others)
  · intro removed all
    have none : replayed (operations ++ removals removed) = ∅ := by
      rw [replayed, List.foldl_append, foldl_replay_removals, Finset.sdiff_eq_empty_iff_subset]
      intro word member
      exact List.mem_toFinset.mpr (all word member)
    have left := follows (operations ++ removals removed)
    rw [none] at left
    exact left.eq_of_normal follows_empty (normal _) normal_empty

/-- A branch that two words share goes with the second of them. -/
example : (empty.performAll [.extend ["bone", "bond"], .remove "bone", .remove "bond"]) = empty :=
  rfl

end Trie

end CommandShell
