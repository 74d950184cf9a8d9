/-!
# Tables keyed by name

A finite map from names to values whose entries stand in strictly increasing
order of their names.  Names are compared by scalar values, so each map has
exactly one list of entries, whatever the order of its insertions.
-/

namespace CommandShell

/-- A finite map from names; no name occurs twice. -/
structure NameTable (α : Type) where
  entries : List (String × α)
  sorted : (entries.map Prod.fst).Pairwise (· < ·)

namespace NameTable

variable {α β : Type}

/-! ## Entry lists -/

/-- Puts an entry at its place, over an entry of the same name. -/
def insertEntry (name : String) (value : α) : List (String × α) → List (String × α)
  | [] => [(name, value)]
  | entry :: rest =>
      if name < entry.1 then (name, value) :: entry :: rest
      else if name = entry.1 then (name, value) :: rest
      else entry :: insertEntry name value rest

theorem mem_names_insertEntry {name other : String} {value : α} {entries : List (String × α)} :
    other ∈ (insertEntry name value entries).map Prod.fst ↔
      other = name ∨ other ∈ entries.map Prod.fst := by
  induction entries with
  | nil => simp [insertEntry]
  | cons entry rest ih =>
      unfold insertEntry
      split
      · simp
      · split
        · rename_i same
          simp [same]
        · simp only [List.map_cons, List.mem_cons, ih]
          grind

/-- Of two different names one stands before the other. -/
theorem lt_of_not_lt_of_ne {name other : String} (notLess : ¬ name < other)
    (different : name ≠ other) : other < name :=
  String.not_le.mp fun le => different (String.le_antisymm le (String.not_lt.mp notLess))

theorem insertEntry_sorted (name : String) (value : α) {entries : List (String × α)}
    (sorted : (entries.map Prod.fst).Pairwise (· < ·)) :
    ((insertEntry name value entries).map Prod.fst).Pairwise (· < ·) := by
  induction entries with
  | nil => simp [insertEntry]
  | cons entry rest ih =>
      simp only [List.map_cons, List.pairwise_cons] at sorted
      unfold insertEntry
      split
      · rename_i less
        simp only [List.map_cons, List.pairwise_cons, List.mem_cons]
        refine ⟨?_, sorted⟩
        rintro other (rfl | member)
        · exact less
        · exact String.lt_trans less (sorted.1 other member)
      · split
        · rename_i same
          simp only [List.map_cons, List.pairwise_cons]
          exact ⟨same ▸ sorted.1, sorted.2⟩
        · rename_i notLess notSame
          simp only [List.map_cons, List.pairwise_cons]
          refine ⟨?_, ih sorted.2⟩
          intro other member
          rcases mem_names_insertEntry.mp member with same | member
          · exact same ▸ lt_of_not_lt_of_ne notLess notSame
          · exact sorted.1 other member

/-- The value of the first entry with a name. -/
def firstValue? (name : String) : List (String × α) → Option α
  | [] => none
  | entry :: rest => if name = entry.1 then some entry.2 else firstValue? name rest

/-! ## Operations -/

def empty : NameTable α :=
  ⟨[], .nil⟩

instance : Inhabited (NameTable α) := ⟨empty⟩

def find? (table : NameTable α) (name : String) : Option α :=
  firstValue? name table.entries

def contains (table : NameTable α) (name : String) : Bool :=
  (table.find? name).isSome

/-- Puts a value under a name, over a value that stands there. -/
def insert (table : NameTable α) (name : String) (value : α) : NameTable α :=
  ⟨insertEntry name value table.entries, insertEntry_sorted name value table.sorted⟩

def erase (table : NameTable α) (name : String) : NameTable α :=
  ⟨table.entries.filter fun entry => entry.1 != name,
    table.sorted.sublist (List.filter_sublist.map Prod.fst)⟩

/-- The names in increasing order. -/
def names (table : NameTable α) : List String :=
  table.entries.map Prod.fst

/-- The values in the order of their names. -/
def values (table : NameTable α) : List α :=
  table.entries.map Prod.snd

def size (table : NameTable α) : Nat :=
  table.entries.length

def map (f : α → β) (table : NameTable α) : NameTable β :=
  ⟨table.entries.map fun entry => (entry.1, f entry.2), by
    simpa [Function.comp_def] using table.sorted⟩

/-- The table of a list of entries; a later entry replaces an earlier one. -/
def ofList (entries : List (String × α)) : NameTable α :=
  entries.foldl (fun table entry => table.insert entry.1 entry.2) empty

/-! ## Look-up after an operation -/

@[simp] theorem find?_empty (name : String) : (empty : NameTable α).find? name = none := rfl

theorem firstValue?_insertEntry (name other : String) (value : α) (entries : List (String × α)) :
    firstValue? other (insertEntry name value entries) =
      if other = name then some value else firstValue? other entries := by
  induction entries with
  | nil => simp [insertEntry, firstValue?]
  | cons entry rest ih => grind [insertEntry, firstValue?]

@[simp] theorem find?_insert (table : NameTable α) (name other : String) (value : α) :
    (table.insert name value).find? other =
      if other = name then some value else table.find? other :=
  firstValue?_insertEntry name other value table.entries

@[simp] theorem find?_erase (table : NameTable α) (name other : String) :
    (table.erase name).find? other = if other = name then none else table.find? other := by
  simp only [find?, erase]
  induction table.entries with
  | nil => simp [firstValue?]
  | cons entry rest ih => grind [firstValue?]

@[simp] theorem find?_map (f : α → β) (table : NameTable α) (name : String) :
    (table.map f).find? name = (table.find? name).map f := by
  simp only [find?, map]
  induction table.entries with
  | nil => rfl
  | cons entry rest ih => grind [firstValue?]

theorem firstValue?_isSome_iff (name : String) (entries : List (String × α)) :
    (firstValue? name entries).isSome = true ↔ name ∈ entries.map Prod.fst := by
  induction entries with
  | nil => simp [firstValue?]
  | cons entry rest ih => grind [firstValue?]

theorem contains_eq_true_iff (table : NameTable α) (name : String) :
    table.contains name = true ↔ name ∈ table.names :=
  firstValue?_isSome_iff name table.entries

/-! ## Tables with the same look-ups -/

theorem firstValue?_eq_none_of_lt {name : String} {entries : List (String × α)}
    (below : ∀ other ∈ entries.map Prod.fst, name < other) : firstValue? name entries = none := by
  cases found : firstValue? name entries with
  | none => rfl
  | some value =>
      have member := (firstValue?_isSome_iff name entries).mp (by rw [found]; rfl)
      exact absurd (below name member) (String.lt_irrefl name)

/-- The first name of a sorted list is not above any name that has a value. -/
theorem le_of_firstValue? {entry : String × α} {rest : List (String × α)}
    (sorted : ((entry :: rest).map Prod.fst).Pairwise (· < ·)) {name : String}
    (found : (firstValue? name (entry :: rest)).isSome = true) : entry.1 ≤ name := by
  rw [firstValue?_isSome_iff, List.map_cons, List.mem_cons] at found
  rw [List.map_cons, List.pairwise_cons] at sorted
  rcases found with rfl | member
  · exact String.le_refl _
  · have above : entry.1 < name := sorted.1 name member
    exact String.not_lt.mp fun below => String.lt_irrefl _ (String.lt_trans below above)

theorem entries_eq_of_firstValue? {first second : List (String × α)}
    (firstSorted : (first.map Prod.fst).Pairwise (· < ·))
    (secondSorted : (second.map Prod.fst).Pairwise (· < ·))
    (same : ∀ name, firstValue? name first = firstValue? name second) : first = second := by
  induction first generalizing second with
  | nil =>
      cases second with
      | nil => rfl
      | cons entry rest => simpa [firstValue?] using same entry.1
  | cons entry rest ih =>
      cases second with
      | nil => simpa [firstValue?] using same entry.1
      | cons other later =>
          have entryFound : firstValue? entry.1 (other :: later) = some entry.2 := by
            rw [← same, firstValue?, if_pos rfl]
          have otherFound : firstValue? other.1 (entry :: rest) = some other.2 := by
            rw [same, firstValue?, if_pos rfl]
          have sameName : entry.1 = other.1 := String.le_antisymm
            (le_of_firstValue? firstSorted (by rw [otherFound]; rfl))
            (le_of_firstValue? secondSorted (by rw [entryFound]; rfl))
          have sameValue : entry.2 = other.2 := by
            rw [firstValue?, if_pos sameName] at entryFound
            exact (Option.some.inj entryFound).symm
          rw [List.map_cons, List.pairwise_cons] at firstSorted secondSorted
          have sameRest : ∀ name, firstValue? name rest = firstValue? name later := by
            intro name
            by_cases atHead : name = entry.1
            · rw [firstValue?_eq_none_of_lt (by rw [atHead]; exact firstSorted.1),
                firstValue?_eq_none_of_lt (by rw [atHead, sameName]; exact secondSorted.1)]
            · have tails := same name
              rwa [firstValue?, if_neg atHead, firstValue?, if_neg (sameName ▸ atHead)] at tails
          rw [ih firstSorted.2 secondSorted.2 sameRest, Prod.ext sameName sameValue]

/-- A table is given by its look-ups. -/
theorem ext_find? {first second : NameTable α}
    (same : ∀ name, first.find? name = second.find? name) : first = second := by
  obtain ⟨entries, sorted⟩ := first
  obtain ⟨others, othersSorted⟩ := second
  obtain rfl : entries = others := entries_eq_of_firstValue? sorted othersSorted same
  rfl

end NameTable

end CommandShell
