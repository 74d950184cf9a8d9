import CommandShell.Completion
import Mathlib.Data.List.DropRight

/-!
# Words between blanks, and the last of them

Blanks cut a line into words without regard to quotes.  What completion calls
the last word is the last of these words, or nothing behind a blank.  Where that
word stands, and so what may complete it, is told by the tokens of the line.
-/

namespace CommandShell

open Text (isBlank hasStem trailingWord)

namespace Text

/-! ## Words between blanks -/

/-- The stretches between blanks that are not empty. -/
def wordsOf (chars : List Char) : List (List Char) :=
  (chars.splitOnP isBlank).filter fun piece => !piece.isEmpty

/-- The words of a line, which blanks separate. -/
def words (line : String) : List String :=
  (wordsOf line.toList).map String.ofList

@[simp] theorem wordsOf_nil : wordsOf [] = [] := rfl

/-- A blank separates the words before it from those behind it. -/
theorem wordsOf_append_cons (first : List Char) {c : Char} (white : isBlank c = true)
    (second : List Char) : wordsOf (first ++ c :: second) = wordsOf first ++ wordsOf second := by
  rw [wordsOf, List.splitOnP_append_cons first second white, List.filter_append]
  rfl

/-- Characters without a blank are one word. -/
theorem wordsOf_of_dark {word : List Char} (dark : ∀ c ∈ word, isBlank c = false)
    (nonempty : word ≠ []) : wordsOf word = [word] := by
  rw [wordsOf, List.splitOnP_eq_singleton dark]
  simpa using nonempty

/-- Holds of characters behind which a word starts: there are none, or a blank is the last. -/
def StartsWord (front : List Char) : Prop :=
  ∀ c, front.getLast? = some c → isBlank c = true

theorem startsWord_nil : StartsWord [] := by
  intro c last
  cases last

theorem startsWord_append_blank (before : List Char) {c : Char} (white : isBlank c = true) :
    StartsWord (before ++ [c]) := by
  intro d last
  rw [List.getLast?_concat] at last
  exact Option.some.inj last ▸ white

theorem StartsWord.cases {front : List Char} (starts : StartsWord front) :
    front = [] ∨ ∃ before c, front = before ++ [c] ∧ isBlank c = true := by
  rcases List.eq_nil_or_concat front with rfl | ⟨before, c, rfl⟩
  · exact Or.inl rfl
  · rw [List.concat_eq_append] at starts ⊢
    exact Or.inr ⟨before, c, rfl, starts c List.getLast?_concat⟩

section Behind

variable {front word : List Char}

theorem wordsOf_append (starts : StartsWord front) (dark : ∀ c ∈ word, isBlank c = false)
    (nonempty : word ≠ []) : wordsOf (front ++ word) = wordsOf front ++ [word] := by
  rcases starts.cases with rfl | ⟨before, c, rfl, white⟩
  · exact wordsOf_of_dark dark nonempty
  · rw [List.append_assoc, List.singleton_append, wordsOf_append_cons before white,
      wordsOf_of_dark dark nonempty, wordsOf_append_cons before white, wordsOf_nil,
      List.append_nil]

theorem trailingWord_append (starts : StartsWord front) (dark : ∀ c ∈ word, isBlank c = false) :
    trailingWord (front ++ word) = word := by
  have inside : ∀ c ∈ word.reverse, (!isBlank c) = true := by
    intro c member
    rw [dark c (List.mem_reverse.mp member)]
    rfl
  have none : (front.reverse.takeWhile fun c => !isBlank c) = [] := by
    rcases starts.cases with rfl | ⟨before, c, rfl, white⟩
    · rfl
    · simp [white]
  rw [trailingWord, List.reverse_append, List.takeWhile_append_of_pos inside, none,
    List.append_nil, List.reverse_reverse]

end Behind

/-- What stands before the last word. -/
def beforeLastWord (chars : List Char) : List Char :=
  chars.rdropWhile fun c => !isBlank c

theorem beforeLastWord_append_trailingWord (chars : List Char) :
    beforeLastWord chars ++ trailingWord chars = chars :=
  List.rdropWhile_append_rtakeWhile

theorem startsWord_beforeLastWord (chars : List Char) : StartsWord (beforeLastWord chars) := by
  intro c last
  have nonempty : beforeLastWord chars ≠ [] := by
    intro none
    simp [none] at last
  have white : ¬ (!isBlank ((beforeLastWord chars).getLast nonempty)) = true :=
    List.rdropWhile_last_not _ chars nonempty
  rw [List.getLast?_eq_some_getLast nonempty] at last
  rw [← Option.some.inj last]
  simpa using white

/-- The last word is empty where a word can start. -/
theorem trailingWord_eq_nil_iff (chars : List Char) :
    trailingWord chars = [] ↔ StartsWord chars := by
  constructor
  · intro none
    have whole := beforeLastWord_append_trailingWord chars
    rw [none, List.append_nil] at whole
    exact whole ▸ startsWord_beforeLastWord chars
  · intro starts
    have dark : ∀ c ∈ ([] : List Char), isBlank c = false := by simp
    have behind := trailingWord_append starts dark
    rwa [List.append_nil] at behind

/-- The last word is one of the words, unless it is empty. -/
theorem wordsOf_eq_append_trailingWord {chars : List Char} (nonempty : trailingWord chars ≠ []) :
    wordsOf chars = wordsOf (beforeLastWord chars) ++ [trailingWord chars] := by
  have split := wordsOf_append (startsWord_beforeLastWord chars)
    (fun _ => isBlank_of_mem_trailingWord) nonempty
  rwa [beforeLastWord_append_trailingWord] at split

/-- The line with another word in place of its last word. -/
def withLastWord (line word : String) : String :=
  String.ofList (beforeLastWord line.toList ++ word.toList)

end Text

namespace Position

open Text (wordsOf words withLastWord)

/-! ## The end of a line -/

theorem endsBlank_eq_true_iff (line : String) :
    endsBlank line = true ↔ line.toList ≠ [] ∧ trailingWord line.toList = [] := by
  rw [endsBlank, Option.any_eq_true, Text.trailingWord_eq_nil_iff]
  constructor
  · rintro ⟨c, last, white⟩
    refine ⟨List.ne_nil_of_mem (List.mem_of_getLast? last), ?_⟩
    intro other alsoLast
    rw [last] at alsoLast
    exact Option.some.inj alsoLast ▸ white
  · rintro ⟨nonempty, starts⟩
    rcases starts.cases with empty | ⟨before, c, chars, white⟩
    · exact absurd empty nonempty
    · exact ⟨c, by rw [chars, List.getLast?_concat], white⟩

theorem eq_nil_of_trailingWord_eq_nil {line : String} (goesOn : endsBlank line = false)
    (none : trailingWord line.toList = []) : line.toList = [] := by
  by_contra nonempty
  rw [(endsBlank_eq_true_iff line).mpr ⟨nonempty, none⟩] at goesOn
  cases goesOn

/-- The last word is the last one between blanks, or empty if there is none or a blank ends
the line. -/
theorem lastWord_eq (line : String) :
    Text.lastWord line = if endsBlank line then "" else (words line).getLast?.getD "" := by
  rw [Text.lastWord]
  by_cases none : trailingWord line.toList = []
  · rw [none]
    split
    · rfl
    · rename_i goesOn
      rw [Bool.not_eq_true] at goesOn
      rw [words, eq_nil_of_trailingWord_eq_nil goesOn none]
      rfl
  · have goesOn : ¬ endsBlank line = true := fun ends =>
      none ((endsBlank_eq_true_iff line).mp ends).2
    rw [if_neg goesOn, words, Text.wordsOf_eq_append_trailingWord none]
    simp

/-- Another last word leaves the words before it. -/
theorem words_withLastWord {line word : String} (goesOn : endsBlank line = false)
    (dark : ∀ c ∈ word.toList, isBlank c = false) (nonempty : word ≠ "") :
    words (withLastWord line word) = (words line).dropLast ++ [word] := by
  have visible : word.toList ≠ [] := by simpa using nonempty
  have before : (wordsOf line.toList).dropLast = wordsOf (Text.beforeLastWord line.toList) := by
    by_cases none : trailingWord line.toList = []
    · rw [eq_nil_of_trailingWord_eq_nil goesOn none]
      rfl
    · rw [Text.wordsOf_eq_append_trailingWord none, List.dropLast_concat]
  rw [words, withLastWord, String.toList_ofList,
    Text.wordsOf_append (Text.startsWord_beforeLastWord _) dark visible, words, ← List.map_dropLast,
    before, List.map_append, List.map_singleton, String.ofList_toList]

/-! ## Positions by tokens -/

theorem ofTokens_eq_command_iff (ended : Bool) (tokens : List Token) :
    ofTokens ended tokens = .command ↔
      tokens = [] ∨ (∃ token, tokens = [token]) ∧ ended = false := by
  unfold ofTokens
  split
  · simp
  · cases ended <;> simp
  · rename_i first second rest
    dsimp only
    split <;> simp

/-- A flag is completed where at least one token comes before it and no blank behind it. -/
theorem ofTokens_eq_flag_iff (ended : Bool) (tokens : List Token) (name : String) :
    ofTokens ended tokens = .flag name ↔
      ended = false ∧ ∃ first between last, tokens = first :: (between ++ [last]) ∧
        first.text = name ∧ hasStem "-" last.text = true := by
  constructor
  · intro position
    unfold ofTokens at position
    split at position
    · cases position
    · split at position <;> cases position
    · rename_i first second rest
      dsimp only at position
      split at position
      · rename_i found
        rw [Bool.and_eq_true, Bool.not_eq_true'] at found
        obtain rfl := Position.flag.inj position
        refine ⟨found.1, first, (second :: rest).dropLast, _, ?_, rfl, found.2⟩
        rw [List.dropLast_append_getLast]
      · cases position
  · rintro ⟨rfl, first, between, last, rfl, rfl, dashed⟩
    cases between with
    | nil => simp [ofTokens, dashed]
    | cons second rest => simp [ofTokens, dashed]

end Position

/-! ## Flags that are offered -/

/-- The characters of a word without the dashes in front. -/
def Text.undashed (word : String) : List Char :=
  word.toList.dropWhile (· == '-')

theorem Text.mem_of_mem_undashed {word : String} {c : Char} (member : c ∈ undashed word) :
    c ∈ word.toList :=
  (List.dropWhile_suffix _).subset member

/-- Nothing but dashes is dropped. -/
theorem Text.mem_undashed {word : String} {c : Char} (member : c ∈ word.toList) (noDash : c ≠ '-') :
    c ∈ undashed word := by
  have split : word.toList.takeWhile (· == '-') ++ undashed word = word.toList :=
    List.takeWhile_append_dropWhile
  rw [← split] at member
  rcases List.mem_append.mp member with dashes | kept
  · have dash := List.mem_takeWhile_imp dashes
    exact absurd (beq_iff_eq.mp dash) noDash
  · exact kept

/-- Holds of a flag whose name starts with the word without the dashes in front. -/
def Flag.Continues (flag : Flag) (word : String) : Prop :=
  Text.undashed word <+: flag.name.toList

instance (flag : Flag) (word : String) : Decidable (flag.Continues word) :=
  inferInstanceAs (Decidable (_ <+: _))

/-- Two dashes and a stem of the name are continued by the flag. -/
theorem Flag.continues_dashes {flag : Flag} {stem : String}
    (noDash : flag.name.toList.head? ≠ some '-') (starts : stem.toList <+: flag.name.toList) :
    flag.Continues ("--" ++ stem) := by
  have kept : stem.toList.dropWhile (· == '-') = stem.toList := by
    cases chars : stem.toList with
    | nil => rfl
    | cons c rest =>
        obtain ⟨more, name⟩ := starts
        have other : c ≠ '-' := by
          rintro rfl
          rw [← name, chars] at noDash
          exact noDash rfl
        rw [List.dropWhile_cons_of_neg (by simpa using other)]
  have dropped : Text.undashed ("--" ++ stem) = stem.toList := by
    rw [Text.undashed, String.toList_append]
    exact kept
  rwa [Flag.Continues, dropped]

namespace Completion

/-- The flags that are offered are those of the named command, in the order of declaration. -/
theorem candidates_of_flag (completion : Completion) (registry : Registry) {line name : String}
    (position : Position.ofLine line = .flag name) :
    completion.candidates registry line =
      match registry.schema? name with
      | none => []
      | some schema => flagCandidates schema (Text.lastWord line) := by
  rw [candidates, position]
  rfl

theorem hasStem_dropDashes_iff (word : String) (flag : Flag) :
    hasStem (dropDashes word) flag.name = true ↔ flag.Continues word := by
  rw [Text.hasStem_eq_true_iff, dropDashes, String.toList_ofList]
  rfl

/-- Exactly the declared flags that continue the word are offered, in the order of declaration. -/
theorem flagCandidates_eq (schema : Schema) (word : String) :
    flagCandidates schema word =
      (schema.flags.filter fun flag => flag.Continues word).map fun flag => "--" ++ flag.name := by
  rw [flagCandidates]
  congr 1
  refine List.filter_congr fun flag _ => ?_
  rw [Bool.eq_iff_iff, decide_eq_true_iff]
  exact hasStem_dropDashes_iff word flag

theorem mem_flagCandidates_iff (schema : Schema) (word candidate : String) :
    candidate ∈ flagCandidates schema word ↔
      ∃ flag ∈ schema.flags, flag.Continues word ∧ candidate = "--" ++ flag.name := by
  rw [flagCandidates_eq, List.mem_map]
  constructor
  · rintro ⟨flag, member, rfl⟩
    obtain ⟨declared, continues⟩ := List.mem_filter.mp member
    exact ⟨flag, declared, of_decide_eq_true continues, rfl⟩
  · rintro ⟨flag, declared, continues, rfl⟩
    exact ⟨flag, List.mem_filter.mpr ⟨declared, decide_eq_true continues⟩, rfl⟩

end Completion

end CommandShell
