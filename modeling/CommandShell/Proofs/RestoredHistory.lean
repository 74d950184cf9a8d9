import CommandShell.Proofs.BoundedHistory
import CommandShell.Proofs.HistoryLines
import CommandShell.Proofs.StoredFiles

/-!
# Histories that a file gives back

A history that is saved and loaded into a new one of the same capacity comes
back if and only if a file can carry its lines: none of them has a newline, and
none ends in a carriage return.
-/

namespace CommandShell.History

/-- Holds of a line that a file can carry. -/
def IsPortable (line : String) : Prop :=
  '\n' ∉ line.toList ∧ line.toList.getLast? ≠ some '\r'

/-- Loading what was saved enters the lines of the file. -/
theorem load_of_save {history fresh : History} {store saved : FileStore} {path : Path}
    (written : (history.save store path).value = .ok saved) :
    (fresh.load saved path).value =
      .ok (fresh.addAll (textLines history.fileContent), (textLines history.fileContent).length) := by
  have content : saved.read path = .ok history.fileContent := by
    unfold save at written
    split at written
    · cases written
    · rename_i stored replaced
      obtain rfl := Except.ok.inj written
      exact FileStore.read_of_writePrivate replaced
  exact value_load_of_read content

/-- Lines that are entered into a new history come out in their order, if they come out. -/
theorem oldestFirst_addAll_sublist {fresh : History} (blank : fresh.entries = [])
    (lines : List String) : (fresh.addAll lines).oldestFirst.Sublist lines := by
  have follows := (follows_nil blank).addAll lines
  rw [List.nil_append] at follows
  rw [follows.oldestFirst, List.rtake]
  exact (List.drop_sublist _ _).trans
    ((List.destutter_sublist _ _).trans List.filter_sublist)

/-- Lines as a history holds them all come out when they are entered into a new one. -/
theorem oldestFirst_addAll_eq_self {fresh : History} (blank : fresh.entries = [])
    {lines : List String} (nonempty : ∀ line ∈ lines, line ≠ "") (distinct : lines.IsChain (· ≠ ·))
    (fits : lines.length ≤ fresh.capacity) : (fresh.addAll lines).oldestFirst = lines := by
  have follows := (follows_nil blank).addAll lines
  rw [List.nil_append] at follows
  rw [follows.oldestFirst, capacity_addAll, condensed_eq_self nonempty distinct, List.rtake,
    Nat.sub_eq_zero_of_le fits, List.drop_zero]

/-- A history that comes back has only lines that a file can carry. -/
theorem isPortable_of_restored {history fresh : History} (blank : fresh.entries = [])
    (same : (fresh.addAll (textLines history.fileContent)).oldestFirst = history.oldestFirst) :
    ∀ line ∈ history.oldestFirst, IsPortable line := by
  have sublist := oldestFirst_addAll_sublist blank (textLines history.fileContent)
  rw [same] at sublist
  have free : ∀ line ∈ history.oldestFirst, '\n' ∉ line.toList := fun line member =>
    newline_not_mem_of_mem_textLines (sublist.subset member)
  rw [textLines_fileContent free] at sublist
  -- As many lines are read as were written, so none of them changed.
  have unchanged : history.oldestFirst = history.oldestFirst.map withoutReturn :=
    sublist.eq_of_length (by rw [List.length_map])
  intro line member
  refine ⟨free line member, (withoutReturn_eq_self_iff line).mp ?_⟩
  have each := List.map_inj_left.mp (unchanged.symm.trans (List.map_id _).symm)
  exact each line member

theorem textLines_of_isPortable {history : History}
    (portable : ∀ line ∈ history.oldestFirst, IsPortable line) :
    textLines history.fileContent = history.oldestFirst := by
  rw [textLines_fileContent fun line member => (portable line member).1]
  have unchanged : ∀ line ∈ history.oldestFirst, withoutReturn line = id line :=
    fun line member => (withoutReturn_eq_self_iff line).mpr (portable line member).2
  rw [List.map_congr_left unchanged, List.map_id]

theorem entries_of_ofCapacity? {capacity : Nat} {fresh : History}
    (new : ofCapacity? capacity = some fresh) : fresh.entries = [] := by
  unfold ofCapacity? at new
  split at new
  · obtain rfl := Option.some.inj new
    rfl
  · cases new

/--
A history of any operations, saved and loaded into a new history of the same
capacity, comes back exactly when a file can carry each of its lines; then as
many lines are loaded as there are.
-/
theorem restored_iff_portable {capacity : Nat} {fresh : History}
    (new : ofCapacity? capacity = some fresh) (operations : List Operation)
    {store saved : FileStore} {path : Path}
    (written : ((fresh.performAll operations).save store path).value = .ok saved) :
    ∃ restored count, (fresh.load saved path).value = .ok (restored, count) ∧
      (restored.oldestFirst = (fresh.performAll operations).oldestFirst ↔
        ∀ line ∈ (fresh.performAll operations).oldestFirst, IsPortable line) ∧
      ((∀ line ∈ (fresh.performAll operations).oldestFirst, IsPortable line) →
        count = (fresh.performAll operations).size) := by
  have blank := entries_of_ofCapacity? new
  have records := ((follows_nil blank).performAll operations).records
  have fits : (fresh.performAll operations).oldestFirst.length ≤ fresh.capacity := by
    rw [length_oldestFirst, ← capacity_performAll fresh operations]
    exact records.bounded
  have nonempty : ∀ line ∈ (fresh.performAll operations).oldestFirst, line ≠ "" :=
    fun line member => records.nonempty line (List.mem_reverse.mp member)
  refine ⟨_, _, load_of_save written, ⟨isPortable_of_restored blank, ?_⟩, ?_⟩
  · intro portable
    rw [textLines_of_isPortable portable]
    exact oldestFirst_addAll_eq_self blank nonempty records.distinct fits
  · intro portable
    rw [textLines_of_isPortable portable, length_oldestFirst]

/-- A carriage return at the end of a line is lost, though a blank is not. -/
theorem restored_iff_portable_return :
    ofCapacity? 2 = some ⟨2, by decide, []⟩ ∧
      ((performAll ⟨2, by decide, []⟩ [.add " ", .add "a\r"]).save .empty ⟨"h"⟩).value =
        .ok ⟨[(⟨.working 0, ["h"]⟩, .file [32, 10, 97, 13, 10] 0o600)]⟩ ∧
      ∃ restored count, (load ⟨2, by decide, []⟩
          ⟨[(⟨.working 0, ["h"]⟩, .file [32, 10, 97, 13, 10] 0o600)]⟩ ⟨"h"⟩).value =
            .ok (restored, count) ∧
        (restored.oldestFirst = [" ", "a\r"] ↔ ∀ line ∈ [" ", "a\r"], IsPortable line) ∧
        ((∀ line ∈ [" ", "a\r"], IsPortable line) → count = 2) := by
  have new : ofCapacity? 2 = some ⟨2, by decide, []⟩ := rfl
  have written : ((performAll ⟨2, by decide, []⟩ [.add " ", .add "a\r"]).save .empty ⟨"h"⟩).value =
      .ok ⟨[(⟨.working 0, ["h"]⟩, .file [32, 10, 97, 13, 10] 0o600)]⟩ := rfl
  exact ⟨new, written, restored_iff_portable new [.add " ", .add "a\r"] written⟩

end CommandShell.History
