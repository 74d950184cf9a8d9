import CommandShell.Proofs.DecimalNumerals
import CommandShell.Proofs.ValidatedCalls
import Mathlib.Algebra.Group.Int.Defs

/-!
# Converted values of flags

A whole number is read from the numerals of the numbers of 64 bits and from no
other text, as the number that the numeral stands for.  Texts, whole numbers and
switches are read back from the way they are shown, and a value that was read
has the type that was asked for.
-/

namespace CommandShell

open Number (Digits Numeral)

namespace Value

/-- Holds of the values that a flag can have: a whole number has 64 bits. -/
def Fits : Value → Prop
  | .integer number => -2 ^ 63 ≤ number ∧ number ≤ 2 ^ 63 - 1
  | _ => True

/-! ## Whole numbers -/

theorem readInt64?_eq_some_iff_numeral (text : String) (number : Int) :
    Number.readInt64? text = some number ↔
      Numeral text.toList number ∧ Fits (.integer number) := by
  have least : Number.int64Min = -2 ^ 63 := by decide
  have most : Number.int64Max = 2 ^ 63 - 1 := by decide
  rw [Number.readInt64?_eq_some_iff, Number.readSigned?_eq_some_iff, least, most, Fits]

theorem read?_integer_eq_some_iff (text : String) (number : Int) :
    read? text .integer = some (.integer number) ↔
      Numeral text.toList number ∧ Fits (.integer number) := by
  rw [← readInt64?_eq_some_iff_numeral, read?, Option.map_eq_some_iff]
  constructor
  · rintro ⟨other, read, same⟩
    cases same
    exact read
  · intro read
    exact ⟨number, read, rfl⟩

/-- A text is refused when it is no numeral, or one of a number that has more than 64 bits. -/
theorem read?_integer_eq_none_iff (text : String) :
    read? text .integer = none ↔
      ∀ number, Numeral text.toList number → ¬ Fits (.integer number) := by
  rw [read?, Option.map_eq_none_iff, Option.eq_none_iff_forall_ne_some]
  refine forall_congr' fun number => ?_
  rw [ne_eq, readInt64?_eq_some_iff_numeral, not_and]

/-! ## Values of every type -/

theorem fits_of_read? {text : String} {type : ValueType} {value : Value}
    (read : read? text type = some value) : value.Fits := by
  cases value with
  | integer number =>
      obtain rfl : ValueType.integer = type := type_of_read? read
      exact ((read?_integer_eq_some_iff text number).mp read).2
  | text | real | switch => trivial

/-- A value that fits is read back from the way it is shown. -/
theorem read?_shown {value : Value} (exact : value.type ≠ .real) (fits : value.Fits) :
    read? value.shown value.type = some value := by
  cases value with
  | text content => rfl
  | integer number =>
      exact (read?_integer_eq_some_iff _ number).mpr ⟨Number.numeral_toString number, fits⟩
  | real number => exact absurd rfl exact
  | switch on => cases on <;> rfl

end Value

/-! ## Values in an invocation -/

/-- Every assignment in a division gives a value that fits. -/
theorem Schema.Divides.fits {schema : Schema} {tokens : List Token} {items : List Item}
    (divides : schema.Divides tokens items) {name : String} {value : Value}
    (member : .assignment name value ∈ items) : value.Fits := by
  induction divides with
  | done => cases member
  | argument noFlag later ih =>
      rcases List.mem_cons.mp member with same | inLater
      · cases same
      · exact ih inLater
  | switch refers resolves type later ih =>
      rcases List.mem_cons.mp member with same | inLater
      · cases same
        trivial
      · exact ih inLater
  | valued refers resolves type readValue later ih =>
      rcases List.mem_cons.mp member with same | inLater
      · cases same
        exact Value.fits_of_read? readValue
      · exact ih inLater

theorem Registry.fits_of_readLine {registry : Registry} {line : String} {invocation : Invocation}
    (read : registry.readLine line = .ok invocation) {name : String} {value : Value}
    (found : invocation.flag? name = some value) : value.Fits := by
  obtain ⟨tokens, unlined, -, readTokens, rfl⟩ :=
    (registry.readLine_eq_ok_iff line invocation).mp read
  obtain ⟨head, tail, command, items, -, -, divides, -, admits⟩ :=
    registry.exists_items_of_readTokens readTokens
  exact divides.fits ((admits.flags name value).mp found).mem

namespace Value

/--
How the values of flags are converted: which texts are whole numbers and which
numbers they are, that nothing is lost when a value is shown, and that no other
values come into an invocation.
-/
structure ConvertsExactly (text : String) : Prop where
  integer_iff : ∀ number, read? text .integer = some (.integer number) ↔
    Numeral text.toList number ∧ -2 ^ 63 ≤ number ∧ number ≤ 2 ^ 63 - 1
  refused_iff : read? text .integer = none ↔
    ∀ number, Numeral text.toList number → number < -2 ^ 63 ∨ 2 ^ 63 - 1 < number
  one_value : ∀ {chars : List Char} {first second : Int},
    Numeral chars first → Numeral chars second → first = second
  zeros : ∀ {digits : List Char} {value : Nat}, Digits digits value →
    ∀ count, Digits (List.replicate count '0' ++ digits) value
  typed : ∀ {type : ValueType} {value : Value}, read? text type = some value → value.type = type
  shown : ∀ value : Value, value.type ≠ .real →
    (read? value.shown value.type = some value ↔ value.Fits)
  assigned : ∀ {registry : Registry} {line : String} {invocation : Invocation},
    registry.readLine line = .ok invocation →
      ∀ {name : String} {value : Value}, invocation.flag? name = some value → value.Fits

/-- Values are converted without loss, and numbers are never wrapped. -/
theorem convertsExactly (text : String) : ConvertsExactly text where
  integer_iff := read?_integer_eq_some_iff text
  refused_iff := by
    rw [read?_integer_eq_none_iff]
    refine forall₂_congr fun number _ => ?_
    rw [Fits, not_and_or, Int.not_le, Int.not_le]
  one_value := Numeral.unique
  zeros := Digits.zeros
  typed := type_of_read?
  shown value exact := ⟨fits_of_read?, read?_shown exact⟩
  assigned read _ _ found := Registry.fits_of_readLine read found

/-- Both ends of the range are read, with zeros and a sign before them, and the next numbers are not. -/
example :
    read? "-0009223372036854775808" .integer = some (.integer (-2 ^ 63)) ∧
      read? "+9223372036854775807" .integer = some (.integer (2 ^ 63 - 1)) ∧
      read? "9223372036854775808" .integer = none ∧
      read? "-9223372036854775809" .integer = none := by
  decide +kernel

end Value

end CommandShell
