/-!
# Character classes given by ranges

A class of characters is a list of closed ranges of scalar values in
increasing order.
-/

namespace CommandShell.Text

/-- Closed ranges of scalar values. -/
abbrev Ranges := List (Nat × Nat)

namespace Ranges

/-- Holds when some range of the table contains the character. -/
def holds (table : Ranges) (c : Char) : Bool :=
  table.any fun range => range.1 ≤ c.toNat && c.toNat ≤ range.2

theorem holds_eq_true_iff (table : Ranges) (c : Char) :
    table.holds c = true ↔
      ∃ range ∈ table, range.1 ≤ c.toNat ∧ c.toNat ≤ range.2 := by
  simp [holds]

end Ranges

end CommandShell.Text
