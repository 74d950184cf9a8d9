import CommandShell.Proofs.BoundedHistory

/-!
# Loading a history file is all or nothing

A history file that is read to its end enters the lines that are text, one
after the other, and they are counted whether or not they are kept.  A file that
is missing enters nothing.  Whatever else stops the reading leaves the history as
it was, however many lines were read before.  So a history goes on as it should
after every attempt, and files can be loaded in parts.
-/

namespace CommandShell.History

/-- What holds of every history that is used through its operations. -/
structure IsSound (history : History) : Prop where
  bounded : history.size ≤ history.capacity
  nonempty : ∀ line ∈ history.entries, line ≠ ""
  distinct : history.oldestFirst.IsChain (· ≠ ·)

/-! ## Sound histories -/

theorem Follows.isSound {history : History} {lines : List String}
    (follows : history.Follows lines) : history.IsSound :=
  ⟨follows.bounded, follows.nonempty, follows.distinct⟩

/-- A sound history is the end of a log, for instance of its own lines. -/
theorem IsSound.follows {history : History} (sound : history.IsSound) :
    history.Follows history.oldestFirst := by
  have nonempty : ∀ line ∈ history.oldestFirst, line ≠ "" := fun line member =>
    sound.nonempty line (List.mem_reverse.mp member)
  rw [Follows, condensed_eq_self nonempty sound.distinct, oldestFirst, List.reverse_reverse,
    List.take_of_length_le sound.bounded]

theorem IsSound.addAll {history : History} (sound : history.IsSound) (lines : List String) :
    (history.addAll lines).IsSound :=
  (sound.follows.addAll lines).isSound

/-! ## Ways that loading ends -/

section Reload

variable (history : History) (path : Path)

theorem reload_whole (content : List UInt8) :
    history.reload path (.ok ⟨content, none⟩) =
      (history.addAll (textLines content), .ok (textLines content).length) := by
  rw [reload, value_loadFrom_whole]

theorem reload_broken (content : List UInt8) (error : FileError) :
    history.reload path (.ok ⟨content, some error⟩) =
      (history, .error (.ofFile path error)) := by
  rw [reload, value_loadFrom_broken]

theorem reload_refused {error : FileError} (found : error ≠ .notFound) :
    history.reload path (.error error) = (history, .error (.ofFile path error)) := by
  rw [reload, value_loadFrom_error history path found]

/-- Every attempt leaves the history or enters lines into it. -/
theorem exists_reload_eq_addAll (opened : Except FileError FileReading) :
    ∃ lines, (history.reload path opened).1 = history.addAll lines := by
  cases opened with
  | error error =>
      by_cases missing : error = .notFound
      · rw [missing]
        exact ⟨[], rfl⟩
      · rw [history.reload_refused path missing]
        exact ⟨[], rfl⟩
  | ok reading =>
      obtain ⟨content, failure⟩ := reading
      cases failure with
      | none =>
          rw [reload_whole]
          exact ⟨textLines content, rfl⟩
      | some error =>
          rw [reload_broken]
          exact ⟨[], rfl⟩

end Reload

/--
What loading does to a history, whatever opening the file has led to and
wherever reading it fails: all lines that are text are entered, or nothing
changes.
-/
structure LoadsAllOrNothing (history : History) (path : Path) : Prop where
  whole : ∀ content, history.reload path (.ok ⟨content, none⟩) =
    (history.addAll (textLines content), .ok (textLines content).length)
  missing : history.reload path (.error .notFound) = (history, .ok 0)
  refused : ∀ error, error ≠ .notFound →
    history.reload path (.error error) = (history, .error (.ofFile path error))
  broken : ∀ content error, history.reload path (.ok ⟨content, some error⟩) =
    (history, .error (.ofFile path error))
  capacity : ∀ opened, (history.reload path opened).1.capacity = history.capacity
  sound : history.IsSound → ∀ opened, (history.reload path opened).1.IsSound
  /-- A file that ends in a newline, and one after it, are loaded like both in one. -/
  parts : ∀ {first : List UInt8}, first = [] ∨ first.getLast? = some newlineByte →
    ∀ (second : List UInt8) (later : Path), ∃ middle last count more,
      history.reload path (.ok ⟨first, none⟩) = (middle, .ok count) ∧
      middle.reload later (.ok ⟨second, none⟩) = (last, .ok more) ∧
      history.reload path (.ok ⟨first ++ second, none⟩) = (last, .ok (count + more))
  /-- This is how a file of a store is loaded. -/
  stored : ∀ store, history.perform (.load store path) =
    (history.reload path (store.openFile path)).1

/-- Loading a file replays its lines, or leaves the history as it was. -/
theorem loads_all_or_nothing (history : History) (path : Path) :
    LoadsAllOrNothing history path where
  whole := history.reload_whole path
  missing := rfl
  refused _ := history.reload_refused path
  broken := history.reload_broken path
  capacity opened := by
    obtain ⟨lines, loaded⟩ := history.exists_reload_eq_addAll path opened
    rw [loaded, capacity_addAll]
  sound isSound opened := by
    obtain ⟨lines, loaded⟩ := history.exists_reload_eq_addAll path opened
    rw [loaded]
    exact isSound.addAll lines
  parts := by
    intro first ended second later
    refine ⟨_, _, _, _, history.reload_whole path first, reload_whole _ later second, ?_⟩
    rw [reload_whole, textLines_append ended, addAll_append, List.length_append]
  stored _ := rfl

/-- Equal lines around one that is no text come to stand side by side; only one of them is kept. -/
example : reload ⟨2, by decide, []⟩ ⟨"h"⟩ (.ok ⟨[97, 10, 255, 10, 97, 13, 10, 10, 98], none⟩) =
    (⟨2, by decide, ["b", "a"]⟩, .ok 4) :=
  rfl

end CommandShell.History
