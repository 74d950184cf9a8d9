import CommandShell.Proofs.DecimalNumerals
import CommandShell.Proofs.DocumentSettings
import Mathlib.Data.Nat.Digits.Defs

/-!
# Documents that are read back

Every list of entries whose keys differ and whose numbers have 64 bits can be
written as a document, one line for each entry, and is read back as it was.  So
no settings are out of reach of a document.
-/

namespace CommandShell.Document

/-! ## Writing -/

/-- The last hexadecimal digits of a number, as many as are asked for. -/
def hexDigits : Nat → Nat → List Char
  | 0, _ => []
  | count + 1, number => hexDigits count (number / 16) ++ [(number % 16).digitChar]

/-- A character between double quotes: as it is, behind a backslash, or by its scalar value. -/
def writtenChar (c : Char) : List Char :=
  if c = '"' ∨ c = '\\' then ['\\', c]
  else if c < ' ' ∨ c = '\x7f' then '\\' :: 'U' :: hexDigits 8 c.toNat
  else [c]

def writtenString (content : List Char) : List Char :=
  '"' :: (content.flatMap writtenChar ++ ['"'])

/-- Holds of keys that need no quotes. -/
def isBare (key : List Char) : Bool :=
  !key.isEmpty && key.all fun c => c.isAlphanum || c == '-' || c == '_'

def writtenKey (key : List Char) : List Char :=
  if isBare key then key else writtenString key

def writtenScalar : Scalar → List Char
  | .text content => writtenString content.toList
  | .integer number => (toString number).toList
  | .truth true => ['t', 'r', 'u', 'e']
  | .truth false => ['f', 'a', 'l', 's', 'e']

/-- The line of an entry. -/
def writtenEntry (entry : String × Scalar) : List Char :=
  writtenKey entry.1.toList ++ ' ' :: '=' :: ' ' :: (writtenScalar entry.2 ++ ['\n'])

/-- The document with the given entries. -/
def written (document : Document) : String :=
  String.ofList (document.flatMap writtenEntry)

/-! ## Strings -/

theorem length_hexDigits (count number : Nat) : (hexDigits count number).length = count := by
  induction count generalizing number with
  | zero => rfl
  | succ count ih => rw [hexDigits, List.length_append, ih, List.length_singleton]

theorem hexValue?_concat (digits : List Char) (c : Char) :
    hexValue? (digits ++ [c]) =
      (hexValue? digits).bind fun value => (hexValue? [c]).map (16 * value + ·) := by
  simp only [hexValue?, List.foldlM_append, List.foldlM_cons, List.foldlM_nil, bind_pure,
    Option.bind_eq_bind]
  refine Option.bind_congr fun value _ => ?_
  split
  · simp
  · split
    · simp [Nat.add_assoc]
    · split <;> simp [Nat.add_assoc]

theorem hexValue?_digitChar : ∀ digit < 16, hexValue? [digit.digitChar] = some digit := by
  decide

/-- Enough digits show the whole number. -/
theorem hexValue?_hexDigits {count number : Nat} (fits : number < 16 ^ count) :
    hexValue? (hexDigits count number) = some number := by
  induction count generalizing number with
  | zero =>
      obtain rfl : number = 0 := by omega
      rfl
  | succ count ih =>
      have front : number / 16 < 16 ^ count := by
        rw [Nat.pow_succ] at fits
        omega
      rw [hexDigits, hexValue?_concat, ih front, Option.bind_some,
        hexValue?_digitChar _ (Nat.mod_lt _ (by decide)), Option.map_some]
      exact congrArg some (Nat.div_add_mod number 16)

theorem charOf?_toNat (c : Char) : charOf? c.toNat = some c := by
  have valid : c.toNat.isValidChar := c.valid
  rw [charOf?, if_pos valid, Char.ofNat_toNat]

theorem toNat_lt (c : Char) : c.toNat < 16 ^ 8 :=
  c.val.toNat_lt

theorem scalarStep?_hexDigits {chars : List Char} (c : Char) (tail : List Char)
    (shorter : (hexDigits 8 c.toNat ++ tail).length < chars.length) :
    ∃ less, scalarStep? chars 8 (hexDigits 8 c.toNat ++ tail) shorter = some ⟨[c], tail, less⟩ := by
  have long : ¬ (hexDigits 8 c.toNat ++ tail).length < 8 := by
    rw [List.length_append, length_hexDigits]
    omega
  have first : (hexDigits 8 c.toNat ++ tail).take 8 = hexDigits 8 c.toNat :=
    List.take_left' (length_hexDigits 8 c.toNat)
  have behind : (hexDigits 8 c.toNat ++ tail).drop 8 = tail :=
    List.drop_left' (length_hexDigits 8 c.toNat)
  refine ⟨by rw [List.length_append] at shorter; omega, ?_⟩
  rw [scalarStep?, if_neg long]
  simp only [first, behind, hexValue?_hexDigits (toNat_lt c), charOf?_toNat, Option.bind_eq_bind,
    Option.bind_some]

/-- What is written for a character is one part of a string, and does not close it. -/
theorem basicStep?_writtenChar (c : Char) (tail : List Char) :
    closeOne '"' (writtenChar c ++ tail) = none ∧
      ∃ less, basicStep? (writtenChar c ++ tail) = some ⟨[c], tail, less⟩ := by
  by_cases marked : c = '"' ∨ c = '\\'
  · rw [writtenChar, if_pos marked]
    rcases marked with rfl | rfl
    · exact ⟨rfl, Nat.lt_succ_of_lt (Nat.lt_succ_self _), rfl⟩
    · exact ⟨rfl, Nat.lt_succ_of_lt (Nat.lt_succ_self _), rfl⟩
  · rw [writtenChar, if_neg marked]
    rw [not_or] at marked
    by_cases hidden : c < ' ' ∨ c = '\x7f'
    · rw [if_pos hidden]
      exact ⟨rfl, scalarStep?_hexDigits c tail (Nat.lt_succ_of_lt (Nat.lt_succ_self _))⟩
    · rw [if_neg hidden]
      rw [not_or, Char.not_lt] at hidden
      have stands : isTextChar c = true := by simp [isTextChar, hidden.1, hidden.2]
      refine ⟨?_, by simp, ?_⟩
      · rw [List.singleton_append, closeOne, if_neg marked.1]
      · simp [basicStep?, plainStep?, stands, marked.2]

theorem readParts_written (content rest : List Char) :
    readParts (closeOne '"') basicStep? (content.flatMap writtenChar ++ '"' :: rest) =
      some (content, rest) := by
  induction content with
  | nil =>
      rw [readParts]
      rfl
  | cons c content ih =>
      obtain ⟨opened, less, read⟩ :=
        basicStep?_writtenChar c (content.flatMap writtenChar ++ '"' :: rest)
      rw [List.flatMap_cons, List.append_assoc, readParts, opened]
      simp only [read, ih, Option.map_some, List.singleton_append]

theorem writtenString_append (content rest : List Char) :
    writtenString content ++ rest = '"' :: (content.flatMap writtenChar ++ '"' :: rest) := by
  rw [writtenString, List.cons_append, List.append_assoc, List.singleton_append]

theorem readShortString?_written (content rest : List Char) :
    readShortString? (writtenString content ++ rest) = some (content, rest) := by
  rw [writtenString_append]
  exact readParts_written content rest

theorem readString?_of_opened {chars : List Char} (opened : closeOne '"' chars = none) :
    readString? ('"' :: chars) = readShortString? ('"' :: chars) := by
  unfold readString?
  split
  · rename_i same
    obtain rfl := (List.cons.inj same).2
    cases opened
  · rename_i same
    cases (List.cons.inj same).1
  · rfl

/-- A string is read back where no quote follows it. -/
theorem readString?_written (content rest : List Char) :
    readString? (writtenString content ++ '\n' :: rest) = some (content, '\n' :: rest) := by
  rw [← readShortString?_written content ('\n' :: rest)]
  cases content with
  | nil => rfl
  | cons c content =>
      rw [writtenString_append, List.flatMap_cons, List.append_assoc]
      exact readString?_of_opened (basicStep?_writtenChar c _).1

/-! ## Numbers -/

theorem digitChar_ne_zero : ∀ digit < 10, 0 < digit → digit.digitChar ≠ '0' := by
  decide

/-- Only zero is written with a zero in front. -/
theorem toDigits_ne_zero_cons {n : Nat} (pos : 0 < n) (rest : List Char) :
    Nat.toDigits 10 n ≠ '0' :: rest := by
  induction n using Nat.strongRecOn generalizing rest with
  | ind n ih =>
      rw [Nat.toDigits_eq_if (by decide)]
      split
      · rename_i small
        exact fun same => digitChar_ne_zero n small pos (List.cons.inj same).1
      · rename_i great
        intro same
        rcases List.append_eq_cons_iff.mp same with ⟨empty, -⟩ | ⟨front, digits, -⟩
        · exact Nat.toDigits_ne_nil empty
        · exact ih (n / 10) (by omega) (by omega) front digits

theorem digitIn?_ten {c : Char} (digit : c.isDigit = true) :
    digitIn? 10 c = some (c.toNat - '0'.toNat) := by
  have value : hexValue? [c] = some (c.toNat - '0'.toNat) := by
    simp [hexValue?, digit]
  have small : c.toNat - '0'.toNat < 10 := by
    obtain ⟨least, most⟩ := Char.isDigit_iff_toNat.mp digit
    have zero : '0'.toNat = 48 := rfl
    have nine : '9'.toNat = 57 := rfl
    omega
  rw [digitIn?, value, Option.filter_some, if_pos (decide_eq_true small)]

theorem foldlM_digitIn?_ten {digits : List Char} (decimal : ∀ c ∈ digits, c.isDigit = true)
    (value : Nat) :
    digits.foldlM (fun value c => (digitIn? 10 c).map (10 * value + ·)) value =
      some (Nat.ofDigitChars 10 digits value) := by
  induction digits generalizing value with
  | nil => rfl
  | cons c rest ih =>
      rw [List.forall_mem_cons] at decimal
      rw [List.foldlM_cons, digitIn?_ten decimal.1, Option.map_some, Nat.ofDigitChars_cons,
        ← ih decimal.2]
      rfl

theorem readGroups?_ten {digits : List Char} (nonempty : digits ≠ [])
    (decimal : ∀ c ∈ digits, c.isDigit = true) :
    readGroups? 10 digits = some (Nat.ofDigitChars 10 digits 0) := by
  have alone : digits.splitOn '_' = [digits] := by
    refine List.splitOn_eq_singleton fun member => ?_
    exact absurd (decimal '_' member) (by decide)
  simp only [readGroups?, alone, List.any_cons, List.any_nil, Bool.or_false, List.isEmpty_iff,
    nonempty, if_false, List.flatten_cons, List.flatten_nil, List.append_nil,
    foldlM_digitIn?_ten decimal]

theorem readDecimal?_toString (count : Nat) :
    readDecimal? (toString count).toList = some count := by
  rw [Nat.toString_eq_repr, Nat.toList_repr]
  rcases Nat.eq_zero_or_pos count with rfl | pos
  · rfl
  · have decimal : ∀ c ∈ Nat.toDigits 10 count, c.isDigit = true := fun c =>
      Nat.isDigit_of_mem_toDigits (by decide) (by decide)
    rw [readDecimal?]
    · rw [readGroups?_ten Nat.toDigits_ne_nil decimal, Nat.ofDigitChars_ten_toDigits]
    · exact toDigits_ne_zero_cons pos []
    · exact toDigits_ne_zero_cons pos

theorem isDigit_or_of_mem_toString (number : Int) {c : Char}
    (member : c ∈ (toString number).toList) : c.isDigit = true ∨ c = '-' := by
  cases number with
  | ofNat count => exact Or.inl (Number.isDigit_of_mem_toString count member)
  | negSucc count =>
      rw [Number.toList_toString_negSucc, List.mem_cons] at member
      exact member.symm.imp_left (Number.isDigit_of_mem_toString (count + 1))

theorem toString_ne_nil (number : Int) : (toString number).toList ≠ [] := by
  intro empty
  have numeral := Number.numeral_toString number
  rw [empty] at numeral
  cases numeral with
  | unsigned run => exact run.ne_nil rfl

theorem readInteger?_toString (number : Int) :
    readInteger? (toString number).toList = some number := by
  cases number with
  | negSucc count =>
      rw [Number.toList_toString_negSucc, readInteger?, readDecimal?_toString]
      rfl
  | ofNat count =>
      change readInteger? (toString count).toList = some (count : Int)
      rcases Nat.eq_zero_or_pos count with rfl | pos
      · rfl
      · have noZero : ∀ rest, (toString count).toList ≠ '0' :: rest := by
          rw [Nat.toString_eq_repr, Nat.toList_repr]
          exact toDigits_ne_zero_cons pos
        rw [readInteger?, readDecimal?_toString]
        · rfl
        · exact fun rest => noZero _
        · exact fun rest => noZero _
        · exact fun rest => noZero _
        · exact Number.toString_ne_cons count (by decide)
        · exact Number.toString_ne_cons count (by decide)

/-! ## Values -/

/-- Holds of the values that a document can give; its numbers have 64 bits. -/
def Fits : Scalar → Prop
  | .integer number => -9223372036854775808 ≤ number ∧ number ≤ 9223372036854775807
  | _ => True

theorem readWord?_toString {number : Int} (fits : Fits (.integer number)) :
    readWord? (toString number).toList = some (.integer number) := by
  have noWord : ∀ (text : String) c rest, text.toList = c :: rest → c.isDigit = false → c ≠ '-' →
      (toString number).toList ≠ text.toList := by
    intro text c rest chars noDigit noMinus same
    have member : c ∈ (toString number).toList := by
      rw [same, chars]
      exact List.mem_cons_self
    rcases isDigit_or_of_mem_toString number member with digit | minus
    · rw [noDigit] at digit
      cases digit
    · exact noMinus minus
  have inRange : Number.fitsInt64 number = true := by
    rw [Number.fitsInt64, Bool.and_eq_true, decide_eq_true_iff, decide_eq_true_iff]
    exact fits
  rw [readWord?, if_neg (noWord "true" 't' _ rfl rfl (by decide)),
    if_neg (noWord "false" 'f' _ rfl rfl (by decide)), readInteger?_toString, Option.filter_some,
    if_pos inRange, Option.map_some]

theorem isWordChar_of_isKeyChar {c : Char} (stands : isKeyChar c = true) : isWordChar c = true := by
  rw [isWordChar, stands]
  rfl

theorem isWordChar_toString (number : Int) :
    ∀ c ∈ (toString number).toList, isWordChar c = true := by
  intro c member
  rcases isDigit_or_of_mem_toString number member with digit | rfl
  · refine isWordChar_of_isKeyChar ?_
    rw [isKeyChar, Char.isAlphanum, digit, Bool.or_true]
    rfl
  · rfl

/-- A character that stands for no quote decides that a word comes first. -/
theorem append_ne_cons {word : List Char} {stands : Char → Bool} (nonempty : word ≠ [])
    (all : ∀ c ∈ word, stands c = true) {c : Char} (other : stands c = false)
    (rest tail : List Char) : word ++ rest ≠ c :: tail := by
  cases word with
  | nil => exact absurd rfl nonempty
  | cons first word =>
      intro same
      obtain rfl := (List.cons.inj same).1
      rw [all first List.mem_cons_self] at other
      cases other

theorem readScalar?_word {word : List Char} (nonempty : word ≠ [])
    (stands : ∀ c ∈ word, isWordChar c = true) (rest : List Char) :
    readScalar? (word ++ '\n' :: rest) = (readWord? word).map (·, '\n' :: rest) := by
  have front : (word ++ '\n' :: rest).takeWhile isWordChar = word := by
    rw [List.takeWhile_append_of_pos stands, List.takeWhile_cons_of_neg (by decide),
      List.append_nil]
  have behind : (word ++ '\n' :: rest).dropWhile isWordChar = '\n' :: rest := by
    rw [List.dropWhile_append_of_pos stands, List.dropWhile_cons_of_neg (by decide)]
  rw [readScalar?, front, behind]
  · exact append_ne_cons nonempty stands (by decide) _
  · exact append_ne_cons nonempty stands (by decide) _

theorem readScalar?_written {scalar : Scalar} (fits : Fits scalar) (rest : List Char) :
    readScalar? (writtenScalar scalar ++ '\n' :: rest) = some (scalar, '\n' :: rest) := by
  cases scalar with
  | text content =>
      have read := readString?_written content.toList rest
      rw [writtenString_append] at read
      rw [writtenScalar, writtenString_append, readScalar?, read, Option.map_some]
      simp only [String.ofList_toList]
  | integer number =>
      rw [writtenScalar, readScalar?_word (toString_ne_nil number) (isWordChar_toString number),
        readWord?_toString fits, Option.map_some]
  | truth holds =>
      cases holds with
      | true => rfl
      | false => rfl

/-! ## Keys -/

theorem isBare_eq_true_iff (key : List Char) :
    isBare key = true ↔ key ≠ [] ∧ ∀ c ∈ key, isKeyChar c = true := by
  rw [isBare, Bool.and_eq_true, List.all_eq_true, Bool.not_eq_true', List.isEmpty_eq_false_iff]
  rfl

theorem readKey?_written (key rest : List Char) :
    readKey? (writtenKey key ++ ' ' :: rest) = some (key, ' ' :: rest) := by
  by_cases bare : isBare key = true
  · rw [writtenKey, if_pos bare]
    obtain ⟨nonempty, stands⟩ := (isBare_eq_true_iff key).mp bare
    have front : (key ++ ' ' :: rest).takeWhile isKeyChar = key := by
      rw [List.takeWhile_append_of_pos stands, List.takeWhile_cons_of_neg (by decide),
        List.append_nil]
    have behind : (key ++ ' ' :: rest).dropWhile isKeyChar = ' ' :: rest := by
      rw [List.dropWhile_append_of_pos stands, List.dropWhile_cons_of_neg (by decide)]
    have given : ¬ key.isEmpty = true := by
      rw [List.isEmpty_iff]
      exact nonempty
    rw [readKey?]
    · simp only [front, behind, if_neg given]
    · exact append_ne_cons nonempty stands (by decide) _
    · exact append_ne_cons nonempty stands (by decide) _
  · rw [writtenKey, if_neg bare, writtenString_append, readKey?, ← writtenString_append]
    exact readShortString?_written key _

/-! ## Lines -/

/-- Holds of texts that start with no space, comment, line end or mark. -/
def Opens (chars : List Char) : Prop :=
  ∃ c rest, chars = c :: rest ∧ ∀ d ∈ [' ', '\t', '#', '\n', '\r', '\ufeff'], c ≠ d

theorem opens_of_isWordChar {word : List Char} (nonempty : word ≠ [])
    (stands : ∀ c ∈ word, isWordChar c = true) : Opens word := by
  -- Decided as a test of the list: the quantifier would go through all characters.
  have none : ∀ d ∈ [' ', '\t', '#', '\n', '\r', '\ufeff'], (!isWordChar d) = true :=
    List.all_eq_true.mp (by decide)
  cases word with
  | nil => exact absurd rfl nonempty
  | cons c rest =>
      refine ⟨c, rest, rfl, ?_⟩
      rintro d member rfl
      have other := none c member
      rw [stands c List.mem_cons_self] at other
      cases other

theorem opens_writtenString (content : List Char) : Opens (writtenString content) :=
  ⟨'"', _, rfl, by simp⟩

theorem opens_writtenScalar (scalar : Scalar) : Opens (writtenScalar scalar) := by
  cases scalar with
  | text content => exact opens_writtenString content.toList
  | integer number =>
      exact opens_of_isWordChar (toString_ne_nil number) (isWordChar_toString number)
  | truth holds =>
      cases holds with
      | true => exact opens_of_isWordChar (List.cons_ne_nil _ _) (List.all_eq_true.mp (by decide))
      | false => exact opens_of_isWordChar (List.cons_ne_nil _ _) (List.all_eq_true.mp (by decide))

theorem opens_writtenKey (key : List Char) : Opens (writtenKey key) := by
  by_cases bare : isBare key = true
  · rw [writtenKey, if_pos bare]
    obtain ⟨nonempty, stands⟩ := (isBare_eq_true_iff key).mp bare
    exact opens_of_isWordChar nonempty fun c member => isWordChar_of_isKeyChar (stands c member)
  · rw [writtenKey, if_neg bare]
    exact opens_writtenString key

namespace Opens

variable {chars : List Char}

theorem append (opens : Opens chars) (tail : List Char) : Opens (chars ++ tail) := by
  obtain ⟨c, rest, rfl, other⟩ := opens
  exact ⟨c, rest ++ tail, rfl, other⟩

theorem skipSpaces_eq (opens : Opens chars) : skipSpaces chars = chars := by
  obtain ⟨c, rest, rfl, other⟩ := opens
  have stays : ¬ isSpace c = true := by
    simp [isSpace, other ' ' (by simp), other '\t' (by simp)]
  rw [skipSpaces, List.dropWhile_cons_of_neg stays]

theorem endLine?_eq (opens : Opens chars) : endLine? chars = none := by
  have spaces := opens.skipSpaces_eq
  obtain ⟨c, rest, rfl, other⟩ := opens
  have noComment : skipComment (c :: rest) = c :: rest := by
    rw [skipComment]
    exact fun rest same => other '#' (by simp) (List.cons.inj same).1
  rw [endLine?, spaces, noComment]
  dsimp only
  rw [afterNewline?]
  · exact fun rest same => other '\n' (by simp) (List.cons.inj same).1
  · exact fun rest same => other '\r' (by simp) (List.cons.inj same).1

theorem dropMark_eq (opens : Opens chars) : dropMark chars = chars := by
  obtain ⟨c, rest, rfl, other⟩ := opens
  rw [dropMark]
  exact fun rest same => other '\ufeff' (by simp) (List.cons.inj same).1

end Opens

theorem writtenEntry_append (entry : String × Scalar) (tail : List Char) :
    writtenEntry entry ++ tail = writtenKey entry.1.toList ++
      ' ' :: '=' :: ' ' :: (writtenScalar entry.2 ++ '\n' :: tail) := by
  simp [writtenEntry]

theorem opens_writtenEntry (entry : String × Scalar) (tail : List Char) :
    Opens (writtenEntry entry ++ tail) := by
  rw [writtenEntry_append]
  exact (opens_writtenKey _).append _

/-- The line of an entry is read as the entry, whatever lines follow. -/
theorem readLine?_written {entry : String × Scalar} (fits : Fits entry.2) (tail : List Char) :
    readLine? (writtenEntry entry ++ tail) = some (some entry, tail) := by
  have opens := opens_writtenEntry entry tail
  rw [readLine?, opens.endLine?_eq, opens.skipSpaces_eq, writtenEntry_append]
  have value : skipSpaces (' ' :: (writtenScalar entry.2 ++ '\n' :: tail)) =
      writtenScalar entry.2 ++ '\n' :: tail :=
    ((opens_writtenScalar entry.2).append _).skipSpaces_eq
  have sign : skipSpaces (' ' :: '=' :: ' ' :: (writtenScalar entry.2 ++ '\n' :: tail)) =
      '=' :: ' ' :: (writtenScalar entry.2 ++ '\n' :: tail) := rfl
  have ended : endLine? ('\n' :: tail) = some tail := rfl
  simp only [readAssignment?, readKey?_written, Option.bind_eq_bind, Option.bind_some, sign, value,
    readScalar?_written fits, ended, String.ofList_toList, Option.map_some]

theorem readLines?_written {document : Document} (fits : ∀ entry ∈ document, Fits entry.2) :
    readLines? (document.flatMap writtenEntry) = some document := by
  induction document with
  | nil =>
      rw [List.flatMap_nil, readLines?]
      rfl
  | cons entry rest ih =>
      rw [List.forall_mem_cons] at fits
      have opens := opens_writtenEntry entry (rest.flatMap writtenEntry)
      have shorter : (rest.flatMap writtenEntry).length <
          (writtenEntry entry ++ rest.flatMap writtenEntry).length := by
        rw [List.length_append]
        exact Nat.lt_add_of_pos_left (by simp [writtenEntry])
      have nonempty : ¬ (writtenEntry entry ++ rest.flatMap writtenEntry).isEmpty = true := by
        obtain ⟨c, tail, chars, -⟩ := opens
        rw [chars]
        exact Bool.false_ne_true
      rw [List.flatMap_cons, readLines?, if_neg nonempty, readLine?_written fits.1]
      simp only [if_pos shorter, ih fits.2, Option.map_some, Option.toList_some,
        List.singleton_append]

/-- A document is read back, if it gives no key twice. -/
theorem read?_written {document : Document} (distinct : (document.map Prod.fst).Nodup)
    (fits : ∀ entry ∈ document, Fits entry.2) : read? (written document) = some document := by
  have noMark : dropMark (document.flatMap writtenEntry) = document.flatMap writtenEntry := by
    cases document with
    | nil => rfl
    | cons entry rest => exact (opens_writtenEntry entry _).dropMark_eq
  rw [read?, written, String.toList_ofList, noMark, readLines?_written fits, Option.filter_some,
    if_pos (decide_eq_true distinct)]

example : written [("prompt", .text "\"$ "), ("a key", .integer (-7)), ("show_banner", .truth false)] =
    "prompt = \"\\\"$ \"\n\"a key\" = -7\nshow_banner = false\n" := by
  decide +kernel

end CommandShell.Document

namespace CommandShell.Settings

/-- An entry for each setting that has a value. -/
def entries (settings : Settings) : Document :=
  [("history_capacity", .integer settings.historyCapacity),
    ("persist_history", .truth settings.persistHistory), ("prompt", .text settings.prompt),
    ("show_banner", .truth settings.showBanner), ("log_level", .text settings.logLevel)] ++
  (settings.historyFile.map fun path => ("history_file", .text path.text)).toList

theorem ofDocument?_entries (settings : Settings) :
    ofDocument? settings.entries = some settings := by
  obtain ⟨capacity, file, persistence, prompt, banner, level⟩ := settings
  cases file <;> simp [ofDocument?, entries, set?, standard]

/--
What can be said of a way to decode documents that goes by their entries.  All
settings are those of some document, as far as a number of 64 bits can tell the
capacity.
-/
structure DecodesDocuments (decode : Decoder) : Prop where
  entries : ∀ text settings, decode text = some settings ↔
    ∃ document, Document.read? text = some document ∧ Reflects document settings
  written : ∀ {document : Document}, (document.map Prod.fst).Nodup →
    (∀ entry ∈ document, Document.Fits entry.2) → ∀ settings,
      decode (Document.written document) = some settings ↔ Reflects document settings
  reaches : ∀ {settings : Settings}, settings.historyCapacity ≤ 9223372036854775807 →
    decode (Document.written settings.entries) = some settings

theorem decodesDocuments_decode? : DecodesDocuments decode? where
  entries := decode?_eq_some_iff
  written distinct fits settings := by
    rw [decode?, Document.read?_written distinct fits, Option.bind_some]
    exact ofDocument?_eq_some_iff distinct settings
  reaches {settings} fits := by
    have distinct : (settings.entries.map Prod.fst).Nodup := by
      cases file : settings.historyFile <;> simp [Settings.entries, file]
    have scalars : ∀ entry ∈ settings.entries, Document.Fits entry.2 := by
      cases file : settings.historyFile <;> simp [Settings.entries, file, Document.Fits] <;> omega
    rw [decode?, Document.read?_written distinct scalars, Option.bind_some, ofDocument?_entries]

end CommandShell.Settings
