import CommandShell.Proofs.HistoryLines
import Mathlib.Data.List.Destutter
import Mathlib.Data.List.DropRight
import Mathlib.Data.List.Infix

/-!
# The history is the end of a log

The lines entered since the history was cleared last are a log without bound.
Without its empty lines, and with every run of equal lines as one line, the log
is condensed.  After any operations a new history holds the end of the condensed
log, as much of it as the capacity allows, and accepts exactly the lines that
make the condensed log longer.
-/

namespace CommandShell.History

/-! ## Condensed logs -/

/-- A log without empty lines and with one line for each run of equal lines. -/
def condensed (lines : List String) : List String :=
  (lines.filter fun line => !line.isEmpty).destutter (· ≠ ·)

@[simp] theorem condensed_nil : condensed [] = [] := rfl

/-- One more line counts unless it repeats the last one that counts. -/
theorem destutter'_concat (first : String) (lines : List String) (line : String) :
    (lines ++ [line]).destutter' (· ≠ ·) first =
      if (lines.destutter' (· ≠ ·) first).getLast? = some line then
        lines.destutter' (· ≠ ·) first
      else lines.destutter' (· ≠ ·) first ++ [line] := by
  induction lines generalizing first with
  | nil => by_cases same : first = line <;> simp [same]
  | cons next rest ih =>
      by_cases repeats : first = next
      · simpa [repeats] using ih next
      · have sameLast : (first :: rest.destutter' (· ≠ ·) next).getLast? =
            (rest.destutter' (· ≠ ·) next).getLast? :=
          List.getLast?_cons_of_ne_nil (List.destutter'_ne_nil _ _)
        rw [List.cons_append, List.destutter'_cons_pos _ repeats,
          List.destutter'_cons_pos _ repeats, ih, sameLast]
        split <;> rfl

theorem destutter_concat (lines : List String) (line : String) :
    (lines ++ [line]).destutter (· ≠ ·) =
      if (lines.destutter (· ≠ ·)).getLast? = some line then lines.destutter (· ≠ ·)
      else lines.destutter (· ≠ ·) ++ [line] := by
  cases lines with
  | nil => simp
  | cons first rest => exact destutter'_concat first rest line

/-- Empty lines and repetitions leave the condensed log as it was. -/
theorem condensed_concat (lines : List String) (line : String) :
    condensed (lines ++ [line]) =
      if line = "" ∨ (condensed lines).getLast? = some line then condensed lines
      else condensed lines ++ [line] := by
  unfold condensed
  by_cases blank : line = ""
  · simp [blank]
  · have kept : [line].filter (fun line => !line.isEmpty) = [line] := by simp [blank]
    rw [List.filter_append, kept, destutter_concat]
    simp only [blank, false_or]

theorem length_condensed_lt_iff (lines : List String) (line : String) :
    (condensed lines).length < (condensed (lines ++ [line])).length ↔
      line ≠ "" ∧ (condensed lines).getLast? ≠ some line := by
  rw [condensed_concat, ← not_or]
  split <;> simp_all

theorem nonempty_of_mem_condensed {lines : List String} {line : String}
    (member : line ∈ condensed lines) : line ≠ "" := by
  have kept := (List.destutter_sublist _ _).subset member
  simpa using (List.mem_filter.mp kept).2

theorem isChain_condensed (lines : List String) : (condensed lines).IsChain (· ≠ ·) :=
  List.isChain_destutter _ _

/-- A log without empty lines and repetitions is condensed. -/
theorem condensed_eq_self {lines : List String} (nonempty : ∀ line ∈ lines, line ≠ "")
    (distinct : lines.IsChain (· ≠ ·)) : condensed lines = lines := by
  have kept : lines.filter (fun line => !line.isEmpty) = lines :=
    List.filter_eq_self.mpr (by simpa using nonempty)
  rw [condensed, kept, List.destutter_of_isChain _ _ distinct]

/-! ## The end of a log -/

/-- The history holds the end of the condensed log. -/
def Follows (history : History) (lines : List String) : Prop :=
  history.entries = (condensed lines).reverse.take history.capacity

theorem follows_nil {history : History} (blank : history.entries = []) : history.Follows [] := by
  rw [Follows, blank]
  simp

namespace Follows

variable {history : History} {lines : List String}

/-- The latest line of the history is that of the log. -/
theorem head? (follows : history.Follows lines) :
    history.entries.head? = (condensed lines).getLast? := by
  have positive := history.capacity_pos
  rw [follows, List.head?_take, if_neg (by omega), List.head?_reverse]

/-- What is accepted makes the condensed log longer. -/
theorem accepts_iff (follows : history.Follows lines) (line : String) :
    history.accepts line = true ↔ line ≠ "" ∧ (condensed lines).getLast? ≠ some line := by
  rw [accepts, follows.head?]
  simp

/-- What is spared has room for one more line. -/
theorem spared_eq (follows : history.Follows lines) :
    history.spared = (condensed lines).reverse.take (history.capacity - 1) := by
  unfold spared size
  rw [follows, List.length_take]
  split
  · rename_i full
    rw [List.dropLast_eq_take, List.take_take, List.length_take, full]
    congr 1
    omega
  · rename_i room
    have short : (condensed lines).reverse.length ≤ history.capacity - 1 := by omega
    rw [List.take_of_length_le short, List.take_of_length_le (by omega)]

theorem add (follows : history.Follows lines) (line : String) :
    (history.add line).Follows (lines ++ [line]) := by
  have accepts_iff := follows.accepts_iff line
  rw [Follows, capacity_add, condensed_concat, History.add]
  split
  · rename_i accepted
    obtain ⟨nonempty, fresh⟩ := accepts_iff.mp accepted
    rw [if_neg (not_or.mpr ⟨nonempty, fresh⟩), List.reverse_concat,
      List.take_cons history.capacity_pos, ← follows.spared_eq]
  · rename_i refused
    rw [accepts_iff, ← not_or, not_not] at refused
    rw [if_pos refused]
    exact follows

theorem addAll (follows : history.Follows lines) (more : List String) :
    (history.addAll more).Follows (lines ++ more) := by
  induction more generalizing history lines with
  | nil => simpa using follows
  | cons line rest ih => simpa using ih (follows.add line)

end Follows

/-! ## Lines by their distance from the latest one -/

theorem place?_of_lt {history : History} {index : Nat} (inside : index < history.size) :
    history.place? index = some (history.size - 1 - index) := by
  have first : difference? history.size index = some (history.size - index) :=
    if_pos (by omega)
  have second : difference? (history.size - index) 1 = some (history.size - index - 1) :=
    if_pos (by omega)
  rw [place?, first, Option.bind_some, second, Nat.sub_right_comm]

/-- Behind the oldest line there is no place, however far. -/
theorem place?_of_le {history : History} {index : Nat} (beyond : history.size ≤ index) :
    history.place? index = none := by
  unfold place? difference?
  split
  · rename_i atEnd
    obtain rfl : index = history.size := by omega
    simp
  · rfl

theorem length_oldestFirst (history : History) : history.oldestFirst.length = history.size :=
  List.length_reverse

theorem get?_of_le {history : History} {index : Nat} (beyond : history.size ≤ index) :
    history.get? index = none := by
  rw [get?, place?_of_le beyond, Option.bind_none]

theorem get?_eq_getElem?_reverse (history : History) (index : Nat) :
    history.get? index = history.oldestFirst.reverse[index]? := by
  by_cases inside : index < history.size
  · rw [get?, place?_of_lt inside, Option.bind_some,
      List.getElem?_reverse (by rwa [length_oldestFirst]), length_oldestFirst]
  · have beyond : history.size ≤ index := Nat.not_lt.mp inside
    rw [get?_of_le beyond, List.getElem?_eq_none]
    rwa [List.length_reverse, length_oldestFirst]

/-! ## Operations -/

/-- What can be done to a history. -/
inductive Operation where
  | add (line : String)
  | clear
  /-- Enters the lines of a file. -/
  | load (store : FileStore) (path : Path)

/-- The lines that a file enters; there are none if it cannot be read. -/
def linesAt (store : FileStore) (path : Path) : List String :=
  match store.read path with
  | .error _ => []
  | .ok content => textLines content

/-- The history after an operation; a file that cannot be read leaves it as it was. -/
def perform (history : History) : Operation → History
  | .add line => history.add line
  | .clear => history.clear
  | .load store path => (history.reload path (store.openFile path)).1

/-- The history after operations. -/
def performAll (history : History) (operations : List Operation) : History :=
  operations.foldl perform history

/-- The lines entered since the history was cleared last, after one more operation. -/
def Operation.extend (lines : List String) : Operation → List String
  | add line => lines ++ [line]
  | clear => []
  | load store path => lines ++ linesAt store path

/-- The lines entered since the history was cleared last. -/
def entered (operations : List Operation) : List String :=
  operations.foldl Operation.extend []

/-- Loading a file enters its lines. -/
theorem perform_load (history : History) (store : FileStore) (path : Path) :
    history.perform (.load store path) = history.addAll (linesAt store path) := by
  rw [perform, reload_openFile, linesAt]
  cases read : store.read path with
  | error error =>
      rcases value_load_of_read_error read with same | refused
      · rw [same]
        rfl
      · rw [refused]
        rfl
  | ok content => rw [value_load_of_read read]

theorem capacity_addAll (history : History) (lines : List String) :
    (history.addAll lines).capacity = history.capacity := by
  induction lines generalizing history with
  | nil => rfl
  | cons line rest ih => rw [addAll_cons, ih, capacity_add]

theorem capacity_perform (history : History) (operation : Operation) :
    (history.perform operation).capacity = history.capacity := by
  cases operation with
  | add line => exact history.capacity_add line
  | clear => rfl
  | load store path =>
      rw [perform_load]
      exact history.capacity_addAll (linesAt store path)

theorem capacity_performAll (history : History) (operations : List Operation) :
    (history.performAll operations).capacity = history.capacity := by
  induction operations generalizing history with
  | nil => rfl
  | cons operation rest ih => exact (ih (history.perform operation)).trans (capacity_perform _ _)

theorem Follows.perform {history : History} {lines : List String}
    (follows : history.Follows lines) (operation : Operation) :
    (history.perform operation).Follows (operation.extend lines) := by
  cases operation with
  | add line => exact follows.add line
  | clear => exact follows_nil rfl
  | load store path =>
      rw [perform_load]
      exact follows.addAll (linesAt store path)

theorem Follows.performAll {history : History} {lines : List String}
    (follows : history.Follows lines) (operations : List Operation) :
    (history.performAll operations).Follows (operations.foldl Operation.extend lines) := by
  induction operations generalizing history lines with
  | nil => exact follows
  | cons operation rest ih => exact ih (follows.perform operation)

/-! ## What a history says of its log -/

/--
What a history promises, given the lines entered since it was cleared last: it
holds the end of the condensed log, tells which lines would make that longer,
and answers every question by what it holds.
-/
structure Records (history : History) (lines : List String) : Prop where
  latest : history.oldestFirst = (condensed lines).rtake history.capacity
  accepts_iff : ∀ line, history.accepts line = true ↔
    (condensed lines).length < (condensed (lines ++ [line])).length
  recalls : ∀ index, history.get? index = history.oldestFirst.reverse[index]?
  beyond : ∀ index, history.size ≤ index → history.get? index = none
  newestFirst : history.entries = history.oldestFirst.reverse
  finds : ∀ part, history.search part =
    history.entries.filter fun line => decide (part.toList <:+: line.toList)
  bounded : history.size ≤ history.capacity
  nonempty : ∀ line ∈ history.entries, line ≠ ""
  distinct : history.oldestFirst.IsChain (· ≠ ·)

theorem search_eq_filter_infix (history : History) (part : String) :
    history.search part =
      history.entries.filter fun line => decide (part.toList <:+: line.toList) := by
  refine List.filter_congr fun line _ => ?_
  rw [Bool.eq_iff_iff, Text.contains_eq_true_iff, decide_eq_true_iff]

namespace Follows

variable {history : History} {lines : List String}

theorem oldestFirst (follows : history.Follows lines) :
    history.oldestFirst = (condensed lines).rtake history.capacity := by
  rw [History.oldestFirst, follows, List.rtake_eq_reverse_take_reverse]

theorem bounded (follows : history.Follows lines) : history.size ≤ history.capacity := by
  rw [size, follows]
  exact List.length_take_le _ _

theorem nonempty (follows : history.Follows lines) : ∀ line ∈ history.entries, line ≠ "" := by
  intro line member
  rw [follows] at member
  exact nonempty_of_mem_condensed (List.mem_reverse.mp (List.mem_of_mem_take member))

theorem distinct (follows : history.Follows lines) :
    history.oldestFirst.IsChain (· ≠ ·) := by
  rw [follows.oldestFirst, List.rtake]
  exact (isChain_condensed lines).drop _

theorem records (follows : history.Follows lines) : history.Records lines where
  latest := follows.oldestFirst
  accepts_iff line := (follows.accepts_iff line).trans (length_condensed_lt_iff lines line).symm
  recalls := history.get?_eq_getElem?_reverse
  beyond _ := get?_of_le
  newestFirst := (List.reverse_reverse history.entries).symm
  finds := history.search_eq_filter_infix
  bounded := follows.bounded
  nonempty := follows.nonempty
  distinct := follows.distinct

end Follows

/--
With any capacity that is not zero there is a new history, and after any
operations it records the lines entered since it was cleared last.
-/
theorem records_entered {capacity : Nat} (positive : 0 < capacity) :
    ∃ history, ofCapacity? capacity = some history ∧ ∀ operations,
      (history.performAll operations).capacity = capacity ∧
        (history.performAll operations).Records (entered operations) := by
  refine ⟨⟨capacity, positive, []⟩, dif_pos positive, fun operations => ⟨?_, ?_⟩⟩
  · exact capacity_performAll _ operations
  · exact ((follows_nil rfl).performAll operations).records

/-- A history for two lines records what is entered in it. -/
theorem two_lines_record : 0 < 2 ∧ ∃ history, ofCapacity? 2 = some history ∧ ∀ operations,
    (history.performAll operations).capacity = 2 ∧
      (history.performAll operations).Records (entered operations) :=
  ⟨by decide, records_entered (by decide)⟩

end CommandShell.History
