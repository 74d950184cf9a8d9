import CommandShell.History.File
import CommandShell.NameTable

/-!
# The order of texts is the order of their bytes

Texts are compared by the scalar values of their characters.  The bytes of a
greater scalar value are greater, whatever follows them, so comparing the bytes
of two texts comes to the same.
-/

namespace CommandShell

/-- Bytes given by their numbers are compared like these numbers. -/
theorem ofNat_cons_lt_iff {first second : Nat} (firstByte : first < 256)
    (secondByte : second < 256) (rest later : List UInt8) :
    UInt8.ofNat first :: rest < UInt8.ofNat second :: later ↔
      first < second ∨ first = second ∧ rest < later := by
  rw [List.cons_lt_cons_iff, UInt8.lt_iff_toNat_lt, ← UInt8.toNat_inj, UInt8.toNat_ofNat',
    UInt8.toNat_ofNat', Nat.mod_eq_of_lt firstByte, Nat.mod_eq_of_lt secondByte]

/-- A scalar value is put together from the bits that its bytes carry. -/
theorem scalar_eq_digits {scalar : Nat} (bound : scalar < 0x110000) :
    scalar = 262144 * (scalar / 262144 % 8) + 4096 * (scalar / 4096 % 64) +
      64 * (scalar / 64 % 64) + scalar % 64 := by
  omega

/-- The bytes of a greater character are greater, whatever follows. -/
theorem utf8EncodeChar_append_lt {c d : Char} (less : c < d) (rest later : List UInt8) :
    String.utf8EncodeChar c ++ rest < String.utf8EncodeChar d ++ later := by
  have order : c.val.toNat < d.val.toNat := less
  have bound : d.val.toNat < 0x110000 := by
    have valid := d.valid
    simp only [UInt32.isValidChar, Nat.isValidChar] at valid
    omega
  unfold String.utf8EncodeChar
  generalize c.val.toNat = first at order
  generalize d.val.toNat = second at order bound
  dsimp only
  -- A longer encoding starts with a greater byte, and no greater value has a shorter one.
  repeat' split
  all_goals
    simp (disch := omega) only [List.cons_append, List.nil_append, ofNat_cons_lt_iff]
  any_goals omega
  -- What is left are two encodings of four bytes.
  have firstDigits := scalar_eq_digits (Nat.lt_trans order bound)
  have secondDigits := scalar_eq_digits bound
  omega

theorem flatMap_utf8EncodeChar_lt {chars others : List Char} (less : chars < others) :
    chars.flatMap String.utf8EncodeChar < others.flatMap String.utf8EncodeChar := by
  induction chars generalizing others with
  | nil =>
      cases others with
      | nil => exact absurd less (List.lt_irrefl [])
      | cons d others =>
          obtain ⟨byte, bytes, encoded⟩ :=
            List.exists_cons_of_ne_nil (@String.utf8EncodeChar_ne_nil d)
          rw [List.flatMap_cons, encoded]
          exact List.nil_lt_cons byte _
  | cons c chars ih =>
      cases others with
      | nil => exact absurd less (List.not_lt_nil (c :: chars))
      | cons d others =>
          rw [List.flatMap_cons, List.flatMap_cons]
          rcases List.cons_lt_cons_iff.mp less with smaller | ⟨rfl, later⟩
          · exact utf8EncodeChar_append_lt smaller _ _
          · exact List.append_left_lt (ih later)

theorem textBytes_lt {first second : String} (less : first < second) :
    textBytes first < textBytes second :=
  flatMap_utf8EncodeChar_lt (String.lt_iff.mp less)

/-- Texts are in the order of their bytes. -/
theorem textBytes_lt_iff (first second : String) :
    textBytes first < textBytes second ↔ first < second := by
  constructor
  · intro bytesLess
    apply Decidable.byContradiction
    intro notLess
    by_cases same : first = second
    · exact List.lt_irrefl _ (same ▸ bytesLess)
    · have greater := textBytes_lt (NameTable.lt_of_not_lt_of_ne notLess same)
      exact List.lt_asymm bytesLess greater
  · exact textBytes_lt

end CommandShell
