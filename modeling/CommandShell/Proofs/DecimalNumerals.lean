import CommandShell.Number.Integer
import Mathlib.Data.List.Induction

/-!
# Decimal numerals

A run of ASCII digits has a value, and a numeral is such a run with at most one
sign before it.  Exactly the numerals are read, each as its value, and every
number is read from its own decimal text.
-/

namespace CommandShell.Number

/-! ## Runs of digits -/

/-- The number that an ASCII digit stands for. -/
def digitValue (digit : Char) : Nat :=
  digit.toNat - '0'.toNat

/-- A run of at least one ASCII digit, the most significant one first, and its value. -/
inductive Digits : List Char → Nat → Prop where
  | one {digit : Char} (decimal : digit.isDigit = true) : Digits [digit] (digitValue digit)
  | next {before : List Char} {value : Nat} {digit : Char} (earlier : Digits before value)
      (decimal : digit.isDigit = true) :
      Digits (before ++ [digit]) (10 * value + digitValue digit)

theorem Digits.all_isDigit {digits : List Char} {value : Nat} (run : Digits digits value) :
    ∀ c ∈ digits, c.isDigit = true := by
  induction run with
  | one decimal => simpa using decimal
  | next earlier decimal ih =>
      intro c member
      rcases List.mem_append.mp member with inBefore | last
      · exact ih c inBefore
      · exact List.mem_singleton.mp last ▸ decimal

theorem Digits.ne_nil {digits : List Char} {value : Nat} (run : Digits digits value) :
    digits ≠ [] := by
  cases run <;> simp

theorem Digits.ofDigitChars_eq {digits : List Char} {value : Nat} (run : Digits digits value) :
    Nat.ofDigitChars 10 digits 0 = value := by
  induction run with
  | one decimal => rw [Nat.ofDigitChars_cons, Nat.ofDigitChars_nil, Nat.mul_zero, Nat.zero_add,
      digitValue]
  | next earlier decimal ih =>
      rw [Nat.ofDigitChars_append, ih, Nat.ofDigitChars_cons, Nat.ofDigitChars_nil, digitValue]

theorem digits_ofDigitChars {digits : List Char} (nonempty : digits ≠ [])
    (decimal : ∀ c ∈ digits, c.isDigit = true) :
    Digits digits (Nat.ofDigitChars 10 digits 0) := by
  -- The last digit is the one that is added to ten times the value so far.
  induction digits using List.reverseRecOn with
  | nil => exact absurd rfl nonempty
  | append_singleton before digit ih =>
      have last : digit.isDigit = true := decimal digit (by simp)
      cases before with
      | nil =>
          have run := Digits.one last
          rwa [← run.ofDigitChars_eq] at run
      | cons first rest =>
          have earlier := ih (List.cons_ne_nil first rest) fun c member =>
            decimal c (List.mem_append_left [digit] member)
          have run := earlier.next last
          rwa [← run.ofDigitChars_eq] at run

theorem readDigits?_eq_some_iff (digits : List Char) (value : Nat) :
    readDigits? digits = some value ↔ Digits digits value := by
  unfold readDigits?
  constructor
  · intro read
    split at read
    · cases read
    · rename_i run
      obtain rfl := Option.some.inj read
      simp only [Bool.or_eq_true, Bool.not_eq_true', not_or, Bool.not_eq_true, Bool.not_eq_false,
        List.isEmpty_eq_false_iff, List.all_eq_true] at run
      exact digits_ofDigitChars run.1 run.2
  · intro run
    have nonempty : digits.isEmpty = false := List.isEmpty_eq_false_iff.mpr run.ne_nil
    have decimal : digits.all Char.isDigit = true := List.all_eq_true.mpr run.all_isDigit
    rw [nonempty, decimal, run.ofDigitChars_eq]
    rfl

/-- Zeros before a run leave its value. -/
theorem Digits.zeros {digits : List Char} {value : Nat} (run : Digits digits value)
    (count : Nat) : Digits (List.replicate count '0' ++ digits) value := by
  have decimal : ∀ c ∈ List.replicate count '0' ++ digits, c.isDigit = true := by
    intro c member
    rcases List.mem_append.mp member with zero | inRun
    · exact List.eq_of_mem_replicate zero ▸ rfl
    · exact run.all_isDigit c inRun
  have padded := digits_ofDigitChars (List.append_ne_nil_of_right_ne_nil _ run.ne_nil) decimal
  rwa [Nat.ofDigitChars_append, Nat.ofDigitChars_replicate_zero, Nat.mul_zero,
    run.ofDigitChars_eq] at padded

/-! ## Numerals -/

/-- A numeral with its value: a run of digits behind at most one sign. -/
inductive Numeral : List Char → Int → Prop where
  | unsigned {digits : List Char} {value : Nat} (run : Digits digits value) :
      Numeral digits value
  | plus {digits : List Char} {value : Nat} (run : Digits digits value) :
      Numeral ('+' :: digits) value
  | minus {digits : List Char} {value : Nat} (run : Digits digits value) :
      Numeral ('-' :: digits) (-value)

theorem not_digits_cons {c : Char} (other : c.isDigit = false) {rest : List Char} {value : Nat} :
    ¬ Digits (c :: rest) value := by
  intro run
  rw [run.all_isDigit c List.mem_cons_self] at other
  cases other

theorem map_readDigits?_eq_some_iff (digits : List Char) (signed : Int → Int) (n : Int) :
    (readDigits? digits : Option Int).map signed = some n ↔
      ∃ value : Nat, Digits digits value ∧ signed value = n := by
  simp [Option.bind_eq_some_iff, readDigits?_eq_some_iff]

/-- Exactly the numerals are read, as their values. -/
theorem readSigned?_eq_some_iff (chars : List Char) (n : Int) :
    readSigned? chars = some n ↔ Numeral chars n := by
  constructor
  · intro read
    unfold readSigned? at read
    split at read
    · obtain ⟨value, run, rfl⟩ := (map_readDigits?_eq_some_iff _ _ n).mp read
      exact .minus run
    · obtain ⟨value, run, rfl⟩ := (map_readDigits?_eq_some_iff _ _ n).mp read
      exact .plus run
    · obtain ⟨value, run, rfl⟩ := (map_readDigits?_eq_some_iff _ _ n).mp read
      exact .unsigned run
  · intro numeral
    cases numeral with
    | minus run =>
        rw [readSigned?]
        exact (map_readDigits?_eq_some_iff _ _ _).mpr ⟨_, run, rfl⟩
    | plus run =>
        rw [readSigned?]
        exact (map_readDigits?_eq_some_iff _ _ _).mpr ⟨_, run, rfl⟩
    | unsigned run =>
        -- A run of digits does not start with a sign.
        have noSign : ∀ c : Char, c.isDigit = false → ∀ rest, chars ≠ c :: rest := by
          rintro c other rest rfl
          exact not_digits_cons other run
        rw [readSigned?]
        · exact (map_readDigits?_eq_some_iff _ _ _).mpr ⟨_, run, rfl⟩
        · exact noSign '-' (by decide)
        · exact noSign '+' (by decide)

/-- A numeral has one value. -/
theorem Numeral.unique {chars : List Char} {first second : Int} (one : Numeral chars first)
    (other : Numeral chars second) : first = second := by
  rw [← readSigned?_eq_some_iff] at one other
  exact Option.some.inj (one.symm.trans other)

/-! ## Numbers as text -/

theorem digits_toString (count : Nat) : Digits (toString count).toList count := by
  rw [Nat.toString_eq_repr, Nat.toList_repr]
  have decimal : ∀ c ∈ Nat.toDigits 10 count, c.isDigit = true := fun c =>
    Nat.isDigit_of_mem_toDigits (by decide) (by decide)
  have run := digits_ofDigitChars Nat.toDigits_ne_nil decimal
  rwa [Nat.ofDigitChars_ten_toDigits] at run

theorem toList_toString_negSucc (count : Nat) :
    (toString (Int.negSucc count)).toList = '-' :: (toString (count + 1)).toList :=
  String.toList_append

/-- The text of a number is a numeral with that number as its value. -/
theorem numeral_toString (n : Int) : Numeral (toString n).toList n := by
  cases n with
  | ofNat count => exact .unsigned (digits_toString count)
  | negSucc count =>
      rw [toList_toString_negSucc]
      exact .minus (digits_toString (count + 1))

theorem isDigit_of_mem_toString (count : Nat) {c : Char} (member : c ∈ (toString count).toList) :
    c.isDigit = true :=
  (digits_toString count).all_isDigit c member

theorem toString_ne_cons (count : Nat) {c : Char} (other : c.isDigit = false) (rest : List Char) :
    (toString count).toList ≠ c :: rest := by
  intro same
  have run := digits_toString count
  rw [same] at run
  exact not_digits_cons other run

/-- Every count of 64 bits is read from its decimal text. -/
theorem readCount?_toString {count : Nat} (fits : count ≤ countMax) :
    readCount? (toString count) = some count := by
  have unsigned : readUnsigned? (toString count).toList = some count := by
    rw [readUnsigned?]
    · exact (readDigits?_eq_some_iff _ _).mpr (digits_toString count)
    · exact toString_ne_cons count (by decide)
  rw [readCount?, unsigned]
  simp [fits]

end CommandShell.Number
