import CommandShell.History.File
import Mathlib.Data.List.Basic

/-!
# Lines of a history file

A text is given back by its bytes, and a byte below 128 belongs to one ASCII
character.  So a line that is read from a file never has a newline, and lines
without newlines are read as they were written, but for one final carriage
return.

A reader hands out the lines between newlines one by one.  Entering them comes
to the same as entering the lines that are text, unless a line cannot be read.
-/

namespace CommandShell

/-! ## Bytes of text -/

/-- A byte below 128 in the bytes of a character is all of them, and its code. -/
theorem eq_singleton_of_mem_utf8EncodeChar {c : Char} {byte : UInt8}
    (member : byte ∈ String.utf8EncodeChar c) (low : byte.toNat < 128) :
    String.utf8EncodeChar c = [byte] ∧ c.toNat = byte.toNat := by
  revert member
  fun_cases String.utf8EncodeChar c with
  | case1 v ascii =>
      intro member
      obtain rfl := List.mem_singleton.mp member
      have code : c.toNat = v := rfl
      refine ⟨rfl, ?_⟩
      rw [UInt8.toNat_ofNat']
      omega
  | case2 v | case3 v | case4 v =>
      -- Every byte of a longer encoding has its highest bit set.
      intro member
      have high : 128 ≤ byte.toNat := by
        simp only [List.mem_cons, List.not_mem_nil, or_false] at member
        rcases member with rfl | rfl | rfl | rfl <;> rw [UInt8.toNat_ofNat'] <;> omega
      omega

theorem textBytes_eq_toList (text : String) : textBytes text = text.toByteArray.data.toList := by
  rw [← String.utf8Encode_toList, List.utf8Encode, List.data_toByteArray]
  rfl

theorem textOfBytes?_textBytes (text : String) : textOfBytes? (textBytes text) = some text := by
  have same : (⟨(textBytes text).toArray⟩ : ByteArray) = text.toByteArray := by
    rw [textBytes_eq_toList]
  rw [textOfBytes?, same, String.fromUTF8?, dif_pos text.isValidUTF8]
  rfl

theorem textBytes_of_textOfBytes? {bytes : List UInt8} {text : String}
    (read : textOfBytes? bytes = some text) : textBytes text = bytes := by
  rw [textOfBytes?, String.fromUTF8?] at read
  split at read
  · obtain rfl := Option.some.inj read
    rw [textBytes_eq_toList]
    rfl
  · cases read

/-- A text whose characters are those of two texts has their bytes. -/
theorem textBytes_of_toList_eq_append {text : String} {first : List Char} {last : Char}
    (chars : text.toList = first ++ [last]) :
    textBytes text = textBytes (String.ofList first) ++ String.utf8EncodeChar last := by
  simp [textBytes, chars]

/-- The newline byte stands in the bytes of a text for newline characters only. -/
theorem newlineByte_mem_textBytes_iff (text : String) :
    newlineByte ∈ textBytes text ↔ '\n' ∈ text.toList := by
  rw [textBytes, List.mem_flatMap]
  constructor
  · rintro ⟨c, member, inBytes⟩
    obtain ⟨-, code⟩ := eq_singleton_of_mem_utf8EncodeChar inBytes (by decide)
    obtain rfl : c = '\n' := Char.toNat_inj.mp code
    exact member
  · intro member
    exact ⟨'\n', member, by decide⟩

/-- The return byte ends the bytes of a text for a final carriage return only. -/
theorem getLast?_textBytes_eq_returnByte_iff (text : String) :
    (textBytes text).getLast? = some returnByte ↔ text.toList.getLast? = some '\r' := by
  rcases List.eq_nil_or_concat text.toList with empty | ⟨first, last, chars⟩
  · simp [textBytes, empty]
  · rw [List.concat_eq_append] at chars
    obtain ⟨byte, isLast⟩ := Option.ne_none_iff_exists'.mp
      (mt List.getLast?_eq_none_iff.mp (@String.utf8EncodeChar_ne_nil last))
    rw [textBytes_of_toList_eq_append chars, chars, List.getLast?_concat, Option.some_inj,
      List.getLast?_append, isLast, Option.some_or, Option.some_inj]
    constructor
    · rintro rfl
      obtain ⟨-, code⟩ :=
        eq_singleton_of_mem_utf8EncodeChar (List.mem_of_getLast? isLast) (by decide)
      exact Char.toNat_inj.mp code
    · rintro rfl
      exact (Option.some.inj isLast).symm

namespace History

/-- A text without one final carriage return. -/
def withoutReturn (text : String) : String :=
  if text.toList.getLast? = some '\r' then String.ofList text.toList.dropLast else text

theorem withoutReturn_eq_self_iff (text : String) :
    withoutReturn text = text ↔ text.toList.getLast? ≠ some '\r' := by
  unfold withoutReturn
  by_cases final : text.toList.getLast? = some '\r'
  · rw [if_pos final]
    have nonempty : text.toList ≠ [] := by
      intro empty
      simp [empty] at final
    have shorter : String.ofList text.toList.dropLast ≠ text := by
      intro same
      have lengths := congrArg (fun text : String => text.toList.length) same
      have positive := List.length_pos_iff.mpr nonempty
      simp only [String.toList_ofList, List.length_dropLast] at lengths
      omega
    simp [final, shorter]
  · rw [if_neg final]
    simp [final]

/-- What is read of the bytes of a text is the text without one final carriage return. -/
theorem textOfBytes?_dropReturn (text : String) :
    textOfBytes? (dropReturn (textBytes text)) = some (withoutReturn text) := by
  unfold dropReturn withoutReturn
  have returns := getLast?_textBytes_eq_returnByte_iff text
  by_cases final : text.toList.getLast? = some '\r'
  · obtain ⟨first, chars⟩ := List.getLast?_eq_some_iff.mp final
    have bytes : textBytes text = textBytes (String.ofList first) ++ [returnByte] :=
      textBytes_of_toList_eq_append chars
    rw [if_pos (returns.mpr final), if_pos final, bytes, chars, List.dropLast_concat,
      List.dropLast_concat]
    exact textOfBytes?_textBytes (String.ofList first)
  · rw [if_neg (mt returns.mp final), if_neg final]
    exact textOfBytes?_textBytes text

/-! ## Lines between newlines -/

/-- The bytes between newlines; nothing after the last newline is no line. -/
def rawLines (content : List UInt8) : List (List UInt8) :=
  let pieces := content.splitOn newlineByte
  if pieces.getLast? = some [] then pieces.dropLast else pieces

/-- The lines of a file; a line that is not text has no value. -/
def fileLines (content : List UInt8) : List (Option String) :=
  (rawLines content).map fun line => textOfBytes? (dropReturn line)

/-- The lines of a file that are text. -/
def textLines (content : List UInt8) : List String :=
  (fileLines content).filterMap id

theorem not_mem_of_mem_splitOn {separator : UInt8} {bytes piece : List UInt8}
    (member : piece ∈ bytes.splitOn separator) : separator ∉ piece := by
  induction bytes generalizing piece with
  | nil =>
      obtain rfl : piece = [] := by simpa using member
      exact List.not_mem_nil
  | cons byte rest ih =>
      rw [List.splitOn_cons_eq_if_modifyHead] at member
      split at member
      · rcases List.mem_cons.mp member with rfl | later
        · exact List.not_mem_nil
        · exact ih later
      · rename_i other
        cases pieces : rest.splitOn separator with
        | nil => exact absurd pieces (List.splitOn_ne_nil separator rest)
        | cons first later =>
            rw [pieces, List.modifyHead_cons, List.mem_cons] at member
            rcases member with rfl | inLater
            · have notFirst : separator ∉ first := ih (pieces ▸ List.mem_cons_self)
              have differ : separator ≠ byte := fun same => other (beq_iff_eq.mpr same.symm)
              rw [List.mem_cons, not_or]
              exact ⟨differ, notFirst⟩
            · exact ih (pieces ▸ List.mem_cons_of_mem first inLater)

theorem mem_splitOn_of_mem_rawLines {content line : List UInt8}
    (member : line ∈ rawLines content) : line ∈ content.splitOn newlineByte := by
  unfold rawLines at member
  dsimp only at member
  split at member
  · exact List.dropLast_subset _ member
  · exact member

/-- A line that is read from a file has no newline. -/
theorem newline_not_mem_of_mem_textLines {content : List UInt8} {line : String}
    (member : line ∈ textLines content) : '\n' ∉ line.toList := by
  obtain ⟨read, inFile, rfl⟩ : ∃ read ∈ fileLines content, read = some line := by
    simpa [textLines] using member
  obtain ⟨bytes, isLine, decoded⟩ := List.mem_map.mp inFile
  have noNewline : newlineByte ∉ bytes :=
    not_mem_of_mem_splitOn (mem_splitOn_of_mem_rawLines isLine)
  rw [← newlineByte_mem_textBytes_iff, textBytes_of_textOfBytes? decoded]
  intro inside
  unfold dropReturn at inside
  split at inside
  · exact noNewline (List.dropLast_subset _ inside)
  · exact noNewline inside

/-- Up to a newline the lines are the pieces before it. -/
theorem rawLines_append_newline (front rest : List UInt8) :
    rawLines (front ++ newlineByte :: rest) = front.splitOn newlineByte ++ rawLines rest := by
  have pieces : rest.splitOn newlineByte ≠ [] := List.splitOn_ne_nil newlineByte rest
  unfold rawLines
  dsimp only
  rw [List.splitOn_append_cons_self, List.getLast?_append_of_ne_nil _ pieces]
  split
  · exact List.dropLast_append_of_ne_nil pieces
  · rfl

/-- What ends in a newline, or is empty, can be read apart from what follows. -/
theorem textLines_append {first : List UInt8}
    (ended : first = [] ∨ first.getLast? = some newlineByte) (second : List UInt8) :
    textLines (first ++ second) = textLines first ++ textLines second := by
  have lines : rawLines (first ++ second) = rawLines first ++ rawLines second := by
    rcases ended with rfl | final
    · rfl
    · obtain ⟨front, rfl⟩ := List.getLast?_eq_some_iff.mp final
      have alone : rawLines (front ++ [newlineByte]) = front.splitOn newlineByte := by
        rw [rawLines_append_newline]
        exact List.append_nil _
      rw [alone, List.append_assoc, List.singleton_append, rawLines_append_newline]
  rw [textLines, fileLines, lines, List.map_append, List.filterMap_append]
  rfl

theorem splitOn_flatMap_ended {separator : UInt8} {lines : List (List UInt8)}
    (free : ∀ line ∈ lines, separator ∉ line) :
    (lines.flatMap fun line => line ++ [separator]).splitOn separator = lines ++ [[]] := by
  induction lines with
  | nil => simp
  | cons line rest ih =>
      rw [List.flatMap_cons, List.append_assoc, List.singleton_append,
        List.splitOn_append_cons_self_of_not_mem (free line List.mem_cons_self),
        ih fun other member => free other (List.mem_cons_of_mem line member)]
      rfl

/-- Lines without newlines are the lines of their file. -/
theorem rawLines_flatMap_ended {lines : List (List UInt8)}
    (free : ∀ line ∈ lines, newlineByte ∉ line) :
    rawLines (lines.flatMap fun line => line ++ [newlineByte]) = lines := by
  unfold rawLines
  simp [splitOn_flatMap_ended free]

/-- The file of a history without newlines gives its lines, each without one carriage return. -/
theorem textLines_fileContent {history : History}
    (free : ∀ line ∈ history.oldestFirst, '\n' ∉ line.toList) :
    textLines history.fileContent = history.oldestFirst.map withoutReturn := by
  have content : history.fileContent =
      (history.oldestFirst.map textBytes).flatMap fun line => line ++ [newlineByte] := by
    rw [fileContent, List.flatMap_map]
  have lines : rawLines history.fileContent = history.oldestFirst.map textBytes := by
    rw [content]
    apply rawLines_flatMap_ended
    intro bytes member
    obtain ⟨line, inHistory, rfl⟩ := List.mem_map.mp member
    rw [newlineByte_mem_textBytes_iff]
    exact free line inHistory
  have each : (fun bytes => textOfBytes? (dropReturn bytes)) ∘ textBytes = some ∘ withoutReturn :=
    funext textOfBytes?_dropReturn
  rw [textLines, fileLines, lines, List.map_map, each, List.filterMap_map, Function.id_comp,
    List.filterMap_eq_map]

/-! ## Lines that a reader hands out -/

/-- Behind bytes without a newline, a reader that does not fail hands out the lines of the file. -/
theorem linesFrom_none {pending : List UInt8} (free : newlineByte ∉ pending)
    (bytes : List UInt8) :
    linesFrom none pending bytes = (rawLines (pending.reverse ++ bytes)).map .ok := by
  have freeReverse {pending : List UInt8} (free : newlineByte ∉ pending) :
      pending.reverse.splitOn newlineByte = [pending.reverse] := by
    apply List.splitOn_eq_singleton
    rwa [List.mem_reverse]
  induction bytes generalizing pending with
  | nil =>
      rw [List.append_nil, rawLines, freeReverse free, linesFrom]
      cases pending with
      | nil => rfl
      | cons byte earlier => simp
  | cons byte rest ih =>
      rw [linesFrom]
      split
      · rename_i ends
        rw [ends, rawLines_append_newline, freeReverse free, ih List.not_mem_nil]
        rfl
      · rename_i goesOn
        have longer : newlineByte ∉ byte :: pending := by
          rw [List.mem_cons, not_or]
          exact ⟨Ne.symm goesOn, free⟩
        rw [ih longer, List.reverse_cons, List.append_assoc, List.singleton_append]

/-- Where reading fails, some lines come before the failure and nothing after it. -/
theorem exists_linesFrom_some (error : FileError) (pending bytes : List UInt8) :
    ∃ lines : List (List UInt8),
      linesFrom (some error) pending bytes = lines.map .ok ++ [.error error] := by
  induction bytes generalizing pending with
  | nil => exact ⟨[], rfl⟩
  | cons byte rest ih =>
      rw [linesFrom]
      split
      · obtain ⟨lines, handedOut⟩ := ih []
        exact ⟨pending.reverse :: lines, by rw [handedOut]; rfl⟩
      · exact ih (byte :: pending)

/-! ## Entering lines -/

variable {path : Path} {history : History} {count number : Nat}

/-- Lines that can all be read are entered as far as they are text, and only those count. -/
theorem value_enterLines_map_ok (lines : List (List UInt8)) :
    (enterLines path history count number (lines.map .ok)).value =
      .ok (history.addAll (lines.filterMap fun line => textOfBytes? (dropReturn line)),
        count + (lines.filterMap fun line => textOfBytes? (dropReturn line)).length) := by
  induction lines generalizing history count number with
  | nil => rfl
  | cons line rest ih =>
      rw [List.map_cons, enterLines]
      cases decoded : textOfBytes? (dropReturn line) with
      | none =>
          simp only [ih, List.filterMap_cons, decoded]
      | some text =>
          simp only [ih, List.filterMap_cons, decoded, addAll_cons, List.length_cons]
          rw [Nat.add_right_comm, Nat.add_assoc]

/-- A line that cannot be read undoes all lines before it. -/
theorem value_enterLines_error (lines : List (List UInt8)) (error : FileError)
    (rest : List (Except FileError (List UInt8))) :
    (enterLines path history count number (lines.map .ok ++ .error error :: rest)).value =
      .error (.ofFile path error) := by
  induction lines generalizing history count number with
  | nil => rfl
  | cons line later ih =>
      rw [List.map_cons, List.cons_append, enterLines]
      split <;> exact ih

theorem textLines_eq_filterMap (content : List UInt8) :
    textLines content =
      (rawLines content).filterMap fun line => textOfBytes? (dropReturn line) := by
  rw [textLines, fileLines, List.filterMap_map, Function.id_comp]

/-- A file that is read to its end enters its lines. -/
theorem value_loadFrom_whole (history : History) (path : Path) (content : List UInt8) :
    (history.loadFrom path (.ok ⟨content, none⟩)).value =
      .ok (history.addAll (textLines content), (textLines content).length) := by
  rw [loadFrom, linesFrom_none List.not_mem_nil, value_enterLines_map_ok, Nat.zero_add,
    textLines_eq_filterMap]
  rfl

/-- A file that cannot be read to its end is not loaded at all. -/
theorem value_loadFrom_broken (history : History) (path : Path) (content : List UInt8)
    (error : FileError) :
    (history.loadFrom path (.ok ⟨content, some error⟩)).value = .error (.ofFile path error) := by
  obtain ⟨lines, handedOut⟩ := exists_linesFrom_some error [] content
  rw [loadFrom, handedOut]
  exact value_enterLines_error lines error []

theorem value_loadFrom_error (history : History) (path : Path) {error : FileError}
    (found : error ≠ .notFound) :
    (history.loadFrom path (.error error)).value = .error (.ofFile path error) := by
  cases error with
  | notFound => exact absurd rfl found
  | notDirectory | isDirectory | nameTooLong | nulInPath | notText | other => rfl

section Stored

variable {store : FileStore}

/-- A file that can be read enters its lines. -/
theorem value_load_of_read {content : List UInt8} (read : store.read path = .ok content) :
    (history.load store path).value =
      .ok (history.addAll (textLines content), (textLines content).length) := by
  unfold FileStore.read at read
  unfold load
  cases opened : store.openFile path with
  | error error =>
      rw [opened] at read
      cases read
  | ok reading =>
      obtain ⟨bytes, failure⟩ := reading
      rw [opened] at read
      cases failure with
      | none =>
          obtain rfl := Except.ok.inj read
          exact history.value_loadFrom_whole path bytes
      | some error => cases read

/-- A file that cannot be read leaves the history, or is no failure because it is missing. -/
theorem value_load_of_read_error {error : FileError} (unread : store.read path = .error error) :
    (history.load store path).value = .ok (history, 0) ∨
      (history.load store path).value = .error (.ofFile path error) := by
  unfold FileStore.read at unread
  unfold load
  cases opened : store.openFile path with
  | error refused =>
      rw [opened] at unread
      obtain rfl := Except.error.inj unread
      by_cases missing : refused = .notFound
      · rw [missing]
        exact Or.inl rfl
      · exact Or.inr (history.value_loadFrom_error path missing)
  | ok reading =>
      obtain ⟨bytes, failure⟩ := reading
      rw [opened] at unread
      cases failure with
      | none => cases unread
      | some broken =>
          obtain rfl := Except.error.inj unread
          exact Or.inr (history.value_loadFrom_broken path bytes broken)

end Stored

end History

end CommandShell
