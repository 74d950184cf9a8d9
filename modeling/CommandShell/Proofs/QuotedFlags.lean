import CommandShell.Proofs.LineEnds
import CommandShell.Proofs.UnquotedLines

/-!
# Flags behind quotes and backslashes

That a flag stands at the end of a line is told by the last token.  The word
that an offered flag continues is cut at the last blank, though, also where that
blank is quoted or escaped.  Word and token are the same if the last part of the
line holds no quote and no backslash.  If it holds a blank, the token has the
blank and the word is without it, and flags are offered that do not continue
the token.
-/

namespace CommandShell

open Text (isBlank trailingWord IsUnquoted undashed)

theorem Text.ne_of_isBlank {c d : Char} (white : isBlank c = true) (dark : isBlank d = false) :
    c ≠ d := by
  rintro rfl
  rw [white] at dark
  cases dark

namespace Token

/-! ## Blanks in words -/

theorem unescape_of_isBlank {c : Char} (white : isBlank c = true) : unescape c = c :=
  unescape_of_not_plain (by simp [isPlain, white])

theorem DoubleItem.read_of_isBlank {item : DoubleItem} {c : Char} (white : isBlank c = true)
    (member : c ∈ item.written) : item.read = c := by
  cases item with
  | literal d inside => exact (List.mem_singleton.mp member).symm
  | escaped d =>
      have noEscape : c ≠ '\\' := Text.ne_of_isBlank white rfl
      obtain rfl : c = d := by simpa [written, noEscape] using member
      exact unescape_of_isBlank white

/-- What is typed as a blank stands for itself, whatever keeps it in the word. -/
theorem Segment.mem_read_of_isBlank {segment : Segment} {c : Char} (white : isBlank c = true)
    (member : c ∈ segment.written) : c ∈ segment.read := by
  have noDouble : c ≠ '"' := Text.ne_of_isBlank white rfl
  have noSingle : c ≠ '\'' := Text.ne_of_isBlank white rfl
  have noEscape : c ≠ '\\' := Text.ne_of_isBlank white rfl
  cases segment with
  | plain d outside => exact member
  | escaped d =>
      obtain rfl : c = d := by simpa [written, noEscape] using member
      rw [Segment.read, unescape_of_isBlank white]
      exact List.mem_singleton_self c
  | single body inside => simpa [written, Segment.read, noSingle] using member
  | double items =>
      have inItems : ∃ item ∈ items, c ∈ item.written := by
        simpa [written, noDouble] using member
      obtain ⟨item, itemMember, inItem⟩ := inItems
      exact List.mem_map.mpr ⟨item, itemMember, item.read_of_isBlank white inItem⟩

theorem Word.mem_token_of_isBlank {word : Word} {c : Char} (white : isBlank c = true)
    (member : c ∈ word.written) : c ∈ word.token.text.toList := by
  obtain ⟨segment, segmentMember, inSegment⟩ := List.mem_flatMap.mp member
  rw [Word.token, String.toList_ofList]
  exact List.mem_flatMap.mpr
    ⟨segment, segmentMember, Segment.mem_read_of_isBlank white inSegment⟩

/-! ## The word in the last part -/

theorem freeBlank_of_scanChars {before : List Char} {tokens : List Token}
    (read : scanChars before = .ok tokens) {c : Char} (white : isBlank c = true) :
    FreeBlank before c := by
  obtain ⟨layout, written, -⟩ := exists_layout_of_scanChars read
  exact ⟨white, layout, written⟩

theorem FreeBlank.exists_scanChars {before : List Char} {c : Char} (free : FreeBlank before c) :
    ∃ tokens, scanChars before = .ok tokens := by
  obtain ⟨-, layout, rfl⟩ := free
  exact ⟨layout.tokens, scanChars_written layout⟩

/-- Characters that are read and hold no free blank are one word. -/
theorem exists_word_of_scanChars {part : List Char} {tokens : List Token}
    (read : scanChars part = .ok tokens) (nonempty : part ≠ [])
    (bound : ∀ before c after, part = before ++ c :: after → ¬ FreeBlank before c) :
    ∃ word : Word, part = word.written ∧ tokens = [word.token] := by
  obtain ⟨⟨⟨lead, leadBlank⟩, words, separated⟩, rfl, rfl⟩ := exists_layout_of_scanChars read
  cases lead with
  | cons c blanks =>
      have none : scanChars [] = .ok [] := rfl
      have free := freeBlank_of_scanChars none (leadBlank c List.mem_cons_self)
      exact absurd free (bound [] c _ rfl)
  | nil =>
      cases words with
      | nil => exact absurd rfl nonempty
      | cons entry rest =>
          obtain ⟨word, ⟨gap, gapBlank⟩⟩ := entry
          cases gap with
          | cons c blanks =>
              have free :=
                freeBlank_of_scanChars (scanChars_word word) (gapBlank c List.mem_cons_self)
              refine absurd free (bound word.written c (blanks ++ rest.flatMap Layout.spelled) ?_)
              simp [Layout.written, Layout.spelled]
          | nil =>
              -- Only the last word can stand without a blank after it.
              cases rest with
              | nil => exact ⟨word, by simp [Layout.written, Layout.spelled], rfl⟩
              | cons next rest => exact absurd rfl (separated _ List.mem_cons_self)

namespace LastPart

variable {chars part : List Char} {tokens : List Token}

/-- No blank in the last part is free. -/
theorem not_freeBlank (lastPart : LastPart chars part) {before after : List Char} {c : Char}
    (split : part = before ++ c :: after) : ¬ FreeBlank before c := by
  intro free
  have shorter : part <:+ after := by
    rcases lastPart.reaches with same | ⟨front, d, whole, earlier⟩
    · exact lastPart.last (same ▸ split) free
    · -- What stands before the part is read too, so the blank is also free in the whole line.
      obtain ⟨first, readFirst⟩ := earlier.exists_scanChars
      obtain ⟨second, readSecond⟩ := free.exists_scanChars
      have read : scanChars (front ++ d :: before) = .ok (first ++ second) := by
        rw [scanChars_accepted_blank readFirst earlier.1, readSecond]
        rfl
      have further : chars = (front ++ d :: before) ++ c :: after := by
        rw [whole, split, List.append_assoc, List.cons_append]
      exact lastPart.last further (freeBlank_of_scanChars read free.1)
  have length := shorter.length_le
  rw [split, List.length_append, List.length_cons] at length
  omega

/-- The last part of an accepted line that goes on is one word, and the last token is its token. -/
theorem exists_word (lastPart : LastPart chars part) (read : scanChars chars = .ok tokens)
    (goesOn : trailingWord chars ≠ []) :
    ∃ word : Word, part = word.written ∧ tokens.getLast? = some word.token := by
  have nonempty : part ≠ [] := by
    rintro rfl
    refine goesOn ((Text.trailingWord_eq_nil_iff chars).mpr ?_)
    rcases lastPart.reaches with rfl | ⟨before, d, rfl, free⟩
    · exact Text.startsWord_nil
    · exact Text.startsWord_append_blank before free.1
  have single {later : List Token} (readPart : scanChars part = .ok later) :
      ∃ word : Word, part = word.written ∧ later = [word.token] :=
    exists_word_of_scanChars readPart nonempty fun _ _ _ => lastPart.not_freeBlank
  rcases lastPart.reaches with rfl | ⟨before, d, rfl, free⟩
  · obtain ⟨word, written, rfl⟩ := single read
    exact ⟨word, written, rfl⟩
  · obtain ⟨first, readFirst⟩ := free.exists_scanChars
    rw [scanChars_accepted_blank readFirst free.1] at read
    cases readPart : scanChars part with
    | error error =>
        rw [readPart] at read
        cases read
    | ok later =>
        rw [readPart] at read
        obtain ⟨word, written, rfl⟩ := single readPart
        obtain rfl := Except.ok.inj read
        exact ⟨word, written, List.getLast?_concat⟩

/-- A last part without any blank is the last word. -/
theorem trailingWord_eq (lastPart : LastPart chars part) (dark : ∀ c ∈ part, isBlank c = false) :
    trailingWord chars = part := by
  rcases lastPart.reaches with rfl | ⟨before, d, rfl, free⟩
  · exact Text.trailingWord_append Text.startsWord_nil dark
  · rw [← List.singleton_append, ← List.append_assoc]
    exact Text.trailingWord_append (Text.startsWord_append_blank before free.1) dark

/-- Without quotes and backslashes every blank would be free, so there is none. -/
theorem isBlank_of_isUnquoted (lastPart : LastPart chars part) (unquoted : IsUnquoted part) :
    ∀ c ∈ part, isBlank c = false := by
  intro c member
  obtain ⟨before, after, rfl⟩ := List.append_of_mem member
  by_contra white
  rw [Bool.not_eq_false] at white
  have first : IsUnquoted before := fun d inBefore =>
    unquoted d (List.mem_append_left _ inBefore)
  exact lastPart.not_freeBlank rfl (freeBlank_of_scanChars (scanChars_of_isUnquoted first) white)

end LastPart

/-! ## The last token -/

/-- The last token of a line that can be read. -/
def lastToken? (line : String) : Option Token :=
  match scan line with
  | .error _ => none
  | .ok tokens => tokens.getLast?

theorem text_of_written {word : Word} (dark : ∀ c ∈ word.written, isBlank c = false)
    (unquoted : IsUnquoted word.written) : word.token.text.toList = word.written := by
  have nonempty : word.written ≠ [] := by
    intro none
    have read := scanChars_word word
    rw [none] at read
    cases read
  have plain : ∀ c ∈ word.written, isPlain c = true := fun c member =>
    (isPlain_eq_true_iff c).mpr ⟨dark c member, unquoted c member⟩
  have read := scanChars_word word
  rw [scanChars_of_isPlain plain nonempty] at read
  obtain ⟨same, -⟩ := List.cons.inj (Except.ok.inj read)
  rw [← same, bare, String.toList_ofList]

end Token

open Token (LastPart lastToken?)

/-- Where a flag is completed, the last part of the line is the word of the last token. -/
theorem Position.exists_word_of_flag {line name : String} (position : ofLine line = .flag name)
    {part : List Char} (lastPart : LastPart line.toList part) :
    ∃ word : Token.Word, part = word.written ∧ lastToken? line = some word.token := by
  unfold ofLine at position
  split at position
  · cases position
  · rename_i tokens read
    obtain ⟨goesOn, first, between, last, rfl, -⟩ := (ofTokens_eq_flag_iff _ _ _).mp position
    have more : trailingWord line.toList ≠ [] := by
      intro none
      rw [Token.scan, eq_nil_of_trailingWord_eq_nil goesOn none] at read
      cases read
    obtain ⟨word, written, final⟩ := lastPart.exists_word read more
    exact ⟨word, written, by rw [lastToken?, read]; exact final⟩

namespace Completion

/-! ## Flags that continue the last token -/

section Offers

variable (completion : Completion) (registry : Registry) {line name : String}

/-- Exactly the declared flags that continue the last word are offered. -/
theorem mem_candidates_of_flag_iff (position : Position.ofLine line = .flag name)
    (candidate : String) :
    candidate ∈ completion.candidates registry line ↔
      ∃ schema, registry.schema? name = some schema ∧ ∃ flag ∈ schema.flags,
        flag.Continues (Text.lastWord line) ∧ candidate = "--" ++ flag.name := by
  rw [completion.candidates_of_flag registry position]
  cases registry.schema? name with
  | none => simp
  | some schema => simp [mem_flagCandidates_iff]

variable (line)

/-- Holds if the flags that are offered are declared ones that continue the last token. -/
def ExtendsLastToken : Prop :=
  ∀ name, Position.ofLine line = .flag name →
    ∀ candidate ∈ completion.candidates registry line,
      ∃ schema, registry.schema? name = some schema ∧ ∃ flag ∈ schema.flags,
        candidate = "--" ++ flag.name ∧
          ∃ token, lastToken? line = some token ∧ flag.Continues token.text

variable {line}

/-- For that, each declared flag that continues the last word has to continue the token. -/
theorem extendsLastToken_iff {token : Token} (position : Position.ofLine line = .flag name)
    (last : lastToken? line = some token) :
    completion.ExtendsLastToken registry line ↔
      ∀ schema, registry.schema? name = some schema → ∀ flag ∈ schema.flags,
        flag.Continues (Text.lastWord line) → flag.Continues token.text := by
  constructor
  · intro extended schema registered flag declared continues
    have offered := (completion.mem_candidates_of_flag_iff registry position _).mpr
      ⟨schema, registered, flag, declared, continues, rfl⟩
    obtain ⟨-, -, other, -, sameName, sameLast, lastOther, otherContinues⟩ :=
      extended name position _ offered
    rw [last] at lastOther
    obtain rfl := Option.some.inj lastOther
    have same : flag.name = other.name := by simpa using sameName
    rwa [Flag.Continues, same]
  · intro each other alsoFlag candidate member
    rw [position] at alsoFlag
    obtain rfl := Position.flag.inj alsoFlag
    obtain ⟨schema, registered, flag, declared, continues, rfl⟩ :=
      (completion.mem_candidates_of_flag_iff registry position candidate).mp member
    exact ⟨schema, registered, flag, declared, rfl, token, last,
      each schema registered flag declared continues⟩

end Offers

/-! ## Lines on which the token is continued -/

section Line

variable {line name : String} {part : List Char} {word : Token.Word}

theorem text_eq_lastWord (lastPart : LastPart line.toList word.written)
    (dark : ∀ c ∈ word.written, isBlank c = false) (unquoted : IsUnquoted word.written) :
    word.token.text = Text.lastWord line := by
  rw [Text.lastWord, lastPart.trailingWord_eq dark, ← Token.text_of_written dark unquoted,
    String.ofList_toList]

/-- A name without quotes and backslashes continues only text without them. -/
theorem isUnquoted_of_continues {flag : Flag} (ordinary : IsUnquoted flag.name.toList)
    {text : String} (continues : flag.Continues text) : IsUnquoted text.toList := by
  intro c member
  by_cases dash : c = '-'
  · rw [dash]
    decide
  · exact ordinary c (continues.subset (Text.mem_undashed member dash))

/-- Without a blank in the last part, flags with ordinary names continue the token. -/
theorem extendsLastToken_of_dark (completion : Completion) (registry : Registry)
    (lastPart : LastPart line.toList part) (dark : ∀ c ∈ part, isBlank c = false)
    (ordinary : ∀ {name schema}, registry.schema? name = some schema →
      ∀ flag ∈ schema.flags, IsUnquoted flag.name.toList) :
    completion.ExtendsLastToken registry line := by
  intro name position
  obtain ⟨word, rfl, last⟩ := Position.exists_word_of_flag position lastPart
  refine (completion.extendsLastToken_iff registry position last).mpr ?_ name position
  intro schema registered flag declared continues
  have unquoted : IsUnquoted word.written := by
    have text := isUnquoted_of_continues (ordinary registered flag declared) continues
    rwa [Text.lastWord, lastPart.trailingWord_eq dark, String.toList_ofList] at text
  rwa [text_eq_lastWord lastPart dark unquoted]

/-- Without quotes and backslashes in the last part, all flags that are offered do. -/
theorem extendsLastToken_of_isUnquoted (completion : Completion) (registry : Registry)
    (lastPart : LastPart line.toList part) (unquoted : IsUnquoted part) :
    completion.ExtendsLastToken registry line := by
  intro name position
  obtain ⟨word, rfl, last⟩ := Position.exists_word_of_flag position lastPart
  have same := text_eq_lastWord lastPart (lastPart.isBlank_of_isUnquoted unquoted) unquoted
  refine (completion.extendsLastToken_iff registry position last).mpr ?_ name position
  intro schema registered flag declared continues
  rwa [same]

/-! ## Lines on which it is not -/

/-- A command with one flag, which answers nothing. -/
def declaring (name flag : String) : Command where
  schema := { name, flags := [{ name := flag, type := .switch }] }
  handler _ _ journal := (.silent, journal)

/-- The registry of that command alone. -/
def declaringAlone (name flag : String) (named : name ≠ "") : Registry :=
  Registry.empty.insert (declaring name flag) named

theorem schema?_declaringAlone (flag : String) (named : name ≠ "") :
    (declaringAlone name flag named).schema? name = some (declaring name flag).schema := by
  simp [declaringAlone, Registry.schema?, Registry.find?, Registry.insert, declaring, Command.name]

/-- A flag that is named like the last word is offered, so the token has to be a stem of it. -/
theorem prefix_of_extendsLastToken {completion : Completion} {token : Token}
    (position : Position.ofLine line = .flag name) (last : lastToken? line = some token)
    (named : name ≠ "")
    (extended : completion.ExtendsLastToken
      (declaringAlone name (String.ofList (undashed (Text.lastWord line))) named) line) :
    undashed token.text <+: undashed (Text.lastWord line) := by
  have registered := schema?_declaringAlone (String.ofList (undashed (Text.lastWord line))) named
  have continues := (completion.extendsLastToken_iff _ position last).mp extended _ registered _
    (List.mem_singleton_self _) (by simp [Flag.Continues])
  rwa [Flag.Continues, String.toList_ofList] at continues

/-- The last word has no blank, so a token with a blank is not a stem of it. -/
theorem not_prefix_of_blank {c : Char} (white : isBlank c = true) (member : c ∈ word.written) :
    ¬ undashed word.token.text <+: undashed (Text.lastWord line) := by
  intro starts
  have noDash : c ≠ '-' := Text.ne_of_isBlank white rfl
  have inToken := Text.mem_undashed (Token.Word.mem_token_of_isBlank white member) noDash
  have inWord := Text.mem_of_mem_undashed (starts.subset inToken)
  rw [Text.lastWord, String.toList_ofList] at inWord
  rw [Text.isBlank_of_mem_trailingWord inWord] at white
  cases white

end Line

/--
What is offered where a flag is completed, and when it continues the last
token: for a registry exactly if each of its flags that continues the last word
continues the token; for all registries exactly if the token is a stem of the
last word, dashes apart.  So it is with ordinary names if the last part has no
blank; if it has one, there is a registry with which it is not.
-/
structure OffersFlags (line : String) : Prop where
  offered : ∀ (completion : Completion) (registry : Registry) {name : String},
    Position.ofLine line = .flag name → ∀ candidate,
      candidate ∈ completion.candidates registry line ↔
        ∃ schema, registry.schema? name = some schema ∧ ∃ flag ∈ schema.flags,
          flag.Continues (Text.lastWord line) ∧ candidate = "--" ++ flag.name
  continues_iff : ∀ (completion : Completion) (registry : Registry) {name : String} {token : Token},
    Position.ofLine line = .flag name → lastToken? line = some token →
      (completion.ExtendsLastToken registry line ↔
        ∀ schema, registry.schema? name = some schema → ∀ flag ∈ schema.flags,
          flag.Continues (Text.lastWord line) → flag.Continues token.text)
  stem_iff : ∀ {name : String} {token : Token}, Position.ofLine line = .flag name →
    lastToken? line = some token →
      ((∀ (completion : Completion) registry, completion.ExtendsLastToken registry line) ↔
        name = "" ∨ undashed token.text <+: undashed (Text.lastWord line))
  unquoted : ∀ {part : List Char}, LastPart line.toList part → IsUnquoted part →
    ∀ (completion : Completion) registry, completion.ExtendsLastToken registry line
  ordinary : ∀ {part : List Char}, LastPart line.toList part → (∀ c ∈ part, isBlank c = false) →
    ∀ (completion : Completion) (registry : Registry),
      (∀ {name schema}, registry.schema? name = some schema →
        ∀ flag ∈ schema.flags, IsUnquoted flag.name.toList) →
          completion.ExtendsLastToken registry line
  blank : ∀ {part : List Char} {name : String} {c : Char}, LastPart line.toList part → c ∈ part →
    isBlank c = true → Position.ofLine line = .flag name → name ≠ "" →
      ∃ registry, ∀ completion : Completion, ¬ completion.ExtendsLastToken registry line

/-- On every line the flags that are offered continue the last word, which may not be the token. -/
theorem offersFlags_of_line (line : String) : OffersFlags line where
  offered completion registry _ position := completion.mem_candidates_of_flag_iff registry position
  continues_iff completion registry _ _ position last :=
    completion.extendsLastToken_iff registry position last
  stem_iff := by
    intro name token position last
    constructor
    · intro always
      by_cases unnamed : name = ""
      · exact Or.inl unnamed
      · exact Or.inr (prefix_of_extendsLastToken position last unnamed (always empty _))
    · intro given completion registry
      apply (completion.extendsLastToken_iff registry position last).mpr
      intro schema registered flag declared continues
      rcases given with rfl | starts
      · exact absurd rfl (registry.ne_empty_of_schema? registered)
      · exact starts.trans continues
  unquoted lastPart unquoted completion registry :=
    completion.extendsLastToken_of_isUnquoted registry lastPart unquoted
  ordinary lastPart dark completion registry ordinary :=
    completion.extendsLastToken_of_dark registry lastPart dark ordinary
  blank := by
    intro part name c lastPart member white position named
    obtain ⟨word, rfl, last⟩ := Position.exists_word_of_flag position lastPart
    refine ⟨declaringAlone name (String.ofList (undashed (Text.lastWord line))) named, ?_⟩
    intro completion extended
    exact not_prefix_of_blank white member
      (prefix_of_extendsLastToken position last named extended)

/-- The registry of a command for the status, which can be verbose. -/
def statusAlone : Registry :=
  declaringAlone "status" "verbose" (by simp)

/-- Behind an escaped blank a flag is offered that does not continue the token. -/
theorem not_extendsLastToken_escaped :
    Position.ofLine "status --x\\ ve" = .flag "status" ∧
      lastToken? "status --x\\ ve" = some ⟨"--x ve", false⟩ ∧
      (ofRegistry statusAlone).value.candidates statusAlone "status --x\\ ve" = ["--verbose"] ∧
      ¬ (ofRegistry statusAlone).value.ExtendsLastToken statusAlone "status --x\\ ve" := by
  have position : Position.ofLine "status --x\\ ve" = .flag "status" := rfl
  have last : lastToken? "status --x\\ ve" = some ⟨"--x ve", false⟩ := rfl
  have candidates :
      (ofRegistry statusAlone).value.candidates statusAlone "status --x\\ ve" = ["--verbose"] := rfl
  refine ⟨position, last, candidates, ?_⟩
  intro extended
  have registered := schema?_declaringAlone "verbose" (by simp : "status" ≠ "")
  have continues := ((ofRegistry statusAlone).value.extendsLastToken_iff _ position last).mp
    extended _ registered _ (List.mem_singleton_self _) (by decide)
  exact absurd continues (by decide)

end Completion

end CommandShell
