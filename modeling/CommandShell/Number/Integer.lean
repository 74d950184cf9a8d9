/-!
# Whole numbers in decimal

A numeral is an optional sign and at least one ASCII digit.  Leading zeros are
allowed.  A numeral outside the range asked for is refused, never wrapped.
-/

namespace CommandShell.Number

/-- The value of a list of ASCII digits; there has to be at least one. -/
def readDigits? (digits : List Char) : Option Nat :=
  if digits.isEmpty || !digits.all Char.isDigit then none
  else some (Nat.ofDigitChars 10 digits 0)

/-- The value of a numeral with an optional sign. -/
def readSigned? : List Char → Option Int
  | '-' :: digits => (readDigits? digits).map fun n => -(n : Int)
  | '+' :: digits => (readDigits? digits).map fun n => (n : Int)
  | digits => (readDigits? digits).map fun n => (n : Int)

def int64Min : Int := -9223372036854775808

def int64Max : Int := 9223372036854775807

def fitsInt64 (n : Int) : Bool :=
  int64Min ≤ n && n ≤ int64Max

/-- The greatest unsigned number of 64 bits. -/
def countMax : Nat := UInt64.size - 1

/-- Reads a signed number of 64 bits. -/
def readInt64? (text : String) : Option Int :=
  (readSigned? text.toList).filter fitsInt64

/-- The value of a numeral whose only sign may be a plus. -/
def readUnsigned? : List Char → Option Nat
  | '+' :: digits => readDigits? digits
  | digits => readDigits? digits

/-- Reads an unsigned number of 64 bits. -/
def readCount? (text : String) : Option Nat :=
  (readUnsigned? text.toList).filter fun n => n ≤ countMax

theorem readInt64?_eq_some_iff (text : String) (n : Int) :
    readInt64? text = some n ↔
      readSigned? text.toList = some n ∧ int64Min ≤ n ∧ n ≤ int64Max := by
  simp [readInt64?, fitsInt64, Option.filter_eq_some_iff]

end CommandShell.Number
