import CommandShell.Proofs.LineGrammar

/-!
# Tokens that can be typed

Every text can be typed as a token between double quotes.  Every text that is
not empty can also be typed outside quotes, with a backslash before the
characters that do not stand for themselves.  Nothing else is missing from the
tokens of lines: outside quotes a token is never empty, since every segment
there stands for a character.
-/

namespace CommandShell.Token

/-! ## Quoting and escaping -/

/-- The text between double quotes, with a backslash before quotes and backslashes. -/
def quote (text : String) : List Char :=
  '"' :: (text.toList.flatMap (fun c => if c ≠ '"' ∧ c ≠ '\\' then [c] else ['\\', c]) ++ ['"'])

/-- The text with a backslash before blanks, quotes and backslashes. -/
def escape (text : String) : List Char :=
  text.toList.flatMap fun c => if isPlain c then [c] else ['\\', c]

/-- What a backslash turns into another character needs no backslash. -/
theorem unescape_of_not_plain {c : Char} (marked : isPlain c = false) : unescape c = c := by
  unfold unescape
  split
  all_goals first
    | rfl
    | exact absurd marked (by decide)

/-- The segment that stands for one character outside quotes. -/
def Segment.ofChar (c : Char) : Segment :=
  if outside : isPlain c = true then .plain c outside else .escaped c

theorem Segment.written_ofChar (c : Char) :
    (ofChar c).written = if isPlain c then [c] else ['\\', c] := by
  unfold ofChar
  split <;> rfl

theorem Segment.read_ofChar (c : Char) : (ofChar c).read = [c] := by
  unfold ofChar
  split
  · rfl
  · rename_i marked
    rw [Bool.not_eq_true] at marked
    rw [Segment.read, unescape_of_not_plain marked]

theorem Segment.isQuoted_ofChar (c : Char) : (ofChar c).isQuoted = false := by
  unfold ofChar
  split <;> rfl

/-- The item that stands for one character between double quotes. -/
def DoubleItem.ofChar (c : Char) : DoubleItem :=
  if inside : c ≠ '"' ∧ c ≠ '\\' then .literal c inside else .escaped c

theorem DoubleItem.written_ofChar (c : Char) :
    (ofChar c).written = if c ≠ '"' ∧ c ≠ '\\' then [c] else ['\\', c] := by
  unfold ofChar
  split <;> rfl

theorem DoubleItem.read_ofChar (c : Char) : (ofChar c).read = c := by
  unfold ofChar
  split
  · rfl
  · rename_i marked
    have notPlain : isPlain c = false := by
      simp only [isPlain]
      grind
    exact unescape_of_not_plain notPlain

namespace Word

/-- The word that is a text between double quotes. -/
def quoted (text : String) : Word :=
  ⟨[.double (text.toList.map DoubleItem.ofChar)], List.cons_ne_nil _ _⟩

/-- The word that is a text outside quotes. -/
def escaped (text : String) (nonempty : text ≠ "") : Word :=
  ⟨text.toList.map Segment.ofChar, by simpa using nonempty⟩

theorem written_quoted (text : String) : (quoted text).written = quote text := by
  simp [quoted, written, quote, Segment.written, List.flatMap_map, DoubleItem.written_ofChar]

theorem token_quoted (text : String) : (quoted text).token = ⟨text, true⟩ := by
  have read : (text.toList.map DoubleItem.ofChar).map DoubleItem.read = text.toList := by
    simp [Function.comp_def, DoubleItem.read_ofChar]
  simp only [quoted, token, List.flatMap_singleton, Segment.read, read, String.ofList_toList]
  rfl

theorem written_escaped (text : String) (nonempty : text ≠ "") :
    (escaped text nonempty).written = escape text := by
  simp [escaped, written, escape, List.flatMap_map, Segment.written_ofChar]

theorem token_escaped (text : String) (nonempty : text ≠ "") :
    (escaped text nonempty).token = ⟨text, false⟩ := by
  have read : (text.toList.map Segment.ofChar).flatMap Segment.read = text.toList := by
    simp [List.flatMap_map, Segment.read_ofChar]
  have quoted : (text.toList.map Segment.ofChar).any Segment.isQuoted = false := by
    simp [Segment.isQuoted_ofChar]
  simp only [escaped, token, read, quoted, String.ofList_toList]

end Word

/-! ## Words with one blank between them -/

def Gap.space : Gap where
  chars := [' ']
  blank c member := by
    obtain rfl := List.mem_singleton.mp member
    rfl

namespace Layout

/-- Words with one space between neighbours. -/
def spacing (word : Word) : List Word → List (Word × Gap)
  | [] => [(word, .none)]
  | next :: rest => (word, .space) :: spacing next rest

theorem spacing_ne_nil (word : Word) (rest : List Word) : spacing word rest ≠ [] := by
  cases rest <;> exact List.cons_ne_nil _ _

theorem separated_spacing (word : Word) (rest : List Word) :
    ∀ entry ∈ (spacing word rest).dropLast, entry.2.chars ≠ [] := by
  induction rest generalizing word with
  | nil => simp [spacing]
  | cons next rest ih =>
      rw [spacing, List.dropLast_cons_of_ne_nil (spacing_ne_nil next rest)]
      intro entry member
      rcases List.mem_cons.mp member with rfl | later
      · exact List.cons_ne_nil _ _
      · exact ih next entry later

def spaced (word : Word) (rest : List Word) : Layout :=
  ⟨.none, spacing word rest, separated_spacing word rest⟩

theorem written_spaced (word : Word) (rest : List Word) :
    (spaced word rest).written = word.written ++ rest.flatMap fun next => ' ' :: next.written := by
  have spelled : (spacing word rest).flatMap Layout.spelled =
      word.written ++ rest.flatMap fun next => ' ' :: next.written := by
    induction rest generalizing word with
    | nil => simp [spacing, Layout.spelled, Gap.none]
    | cons next rest ih => simp [spacing, Layout.spelled, Gap.space, ih]
  exact spelled

theorem tokens_spaced (word : Word) (rest : List Word) :
    (spaced word rest).tokens = word.token :: rest.map Word.token := by
  have tokens : (spacing word rest).map (fun entry => entry.1.token) =
      word.token :: rest.map Word.token := by
    induction rest generalizing word with
    | nil => rfl
    | cons next rest ih => rw [spacing, List.map_cons, ih, List.map_cons]
  exact tokens

end Layout

/-- A word alone is read as its token. -/
theorem scanChars_word (word : Word) : scanChars word.written = .ok [word.token] := by
  have read := scanChars_written (.spaced word [])
  rw [Layout.written_spaced, Layout.tokens_spaced] at read
  simpa using read

/-! ## Lines for tokens -/

/-- The word that a token is typed as; what is empty stands between quotes. -/
def Word.ofToken (token : Token) : Word :=
  if bare : token.quoted = false ∧ token.text ≠ "" then .escaped token.text bare.2
  else .quoted token.text

/-- Holds of a token that lines give: outside quotes it has at least one character. -/
def IsTypable (token : Token) : Prop :=
  token.quoted = false → token.text ≠ ""

/-- A token that can be typed is the token of its word. -/
theorem Word.token_ofToken {token : Token} (typable : token.IsTypable) :
    (ofToken token).token = token := by
  obtain ⟨text, quoted⟩ := token
  cases quoted with
  | false =>
      have nonempty : text ≠ "" := typable rfl
      rw [ofToken, dif_pos ⟨rfl, nonempty⟩]
      exact token_escaped text nonempty
  | true =>
      rw [ofToken, dif_neg (by simp)]
      exact token_quoted text

/-- A line with the words of tokens and one space between neighbours. -/
def typed : List Token → String
  | [] => ""
  | token :: rest =>
      String.ofList (Layout.spaced (.ofToken token) (rest.map Word.ofToken)).written

/-- Tokens that can be typed are read back from their line. -/
theorem scan_typed {tokens : List Token} (typable : ∀ token ∈ tokens, token.IsTypable) :
    scan (typed tokens) = .ok tokens := by
  cases tokens with
  | nil => rfl
  | cons token rest =>
      have first : (Word.ofToken token).token = token :=
        Word.token_ofToken (typable token List.mem_cons_self)
      have others : (rest.map Word.ofToken).map Word.token = rest := by
        have each : ∀ other ∈ rest, (Word.token ∘ Word.ofToken) other = id other := by
          intro other member
          exact Word.token_ofToken (typable other (List.mem_cons_of_mem token member))
        rw [List.map_map, List.map_congr_left each, List.map_id]
      rw [typed, scan, String.toList_ofList, scanChars_written, Layout.tokens_spaced, first, others]

/-! ## Tokens of lines -/

/-- Outside quotes a segment stands for one character. -/
theorem Segment.read_ne_nil {segment : Segment} (unquoted : segment.isQuoted = false) :
    segment.read ≠ [] := by
  cases segment with
  | plain c outside => exact List.cons_ne_nil _ _
  | escaped c => exact List.cons_ne_nil _ _
  | single body inside => cases unquoted
  | double items => cases unquoted

/-- A word has a segment, so it stands for a token that can be typed. -/
theorem Word.isTypable_token (word : Word) : word.token.IsTypable := by
  obtain ⟨segments, nonempty⟩ := word
  intro unquoted empty
  cases segments with
  | nil => exact nonempty rfl
  | cons first rest =>
      have firstUnquoted : first.isQuoted = false := by
        simp only [token, List.any_cons, Bool.or_eq_false_iff] at unquoted
        exact unquoted.1
      have nothing : first.read ++ rest.flatMap Segment.read = [] := by
        simpa [token] using congrArg String.toList empty
      exact Segment.read_ne_nil firstUnquoted (List.append_eq_nil_iff.mp nothing).1

/-- Whatever a line holds, its tokens can be typed. -/
theorem isTypable_of_scan {line : String} {tokens : List Token} (read : scan line = .ok tokens) :
    ∀ token ∈ tokens, token.IsTypable := by
  obtain ⟨layout, -, rfl⟩ := exists_layout_of_scanChars read
  intro token member
  obtain ⟨entry, -, rfl⟩ := List.mem_map.mp member
  exact entry.1.isTypable_token

/-- Lines give exactly the lists of tokens in which every token outside quotes has a character. -/
theorem exists_scan_eq_ok_iff (tokens : List Token) :
    (∃ line, scan line = .ok tokens) ↔
      ∀ token ∈ tokens, token.quoted = false → token.text ≠ "" := by
  constructor
  · rintro ⟨line, read⟩
    exact isTypable_of_scan read
  · intro typable
    exact ⟨typed tokens, scan_typed typable⟩

/-- Empty tokens between quotes are neither lost nor joined to their neighbours. -/
example : scan "\"\" \\n\\  \"\" ''" = .ok [⟨"", true⟩, ⟨"\n ", false⟩, ⟨"", true⟩, ⟨"", true⟩] :=
  rfl

end CommandShell.Token
