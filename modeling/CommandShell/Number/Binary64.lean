import CommandShell.Number.Integer

/-!
# Binary floating point of 64 bits

A number is its 64 bits: a sign, eleven bits of exponent and 52 bits of
fraction.  A finite number is `significand · 2 ^ scale`; a quotient of natural
numbers is rounded to the nearest such number, a tie to the even significand.
-/

namespace CommandShell.Number

/-- A binary floating-point number of 64 bits, infinities and NaNs included. -/
structure Binary64 where
  bits : UInt64
  deriving DecidableEq

namespace Binary64

/-! ## Fields -/

def isNegative (x : Binary64) : Bool :=
  Nat.pow 2 63 ≤ x.bits.toNat

/-- The eleven bits of the exponent. -/
def exponentField (x : Binary64) : Nat :=
  x.bits.toNat / Nat.pow 2 52 % Nat.pow 2 11

/-- The 52 bits of the fraction. -/
def fraction (x : Binary64) : Nat :=
  x.bits.toNat % Nat.pow 2 52

/-- Holds of the patterns that stand for no number. -/
def isNaN (x : Binary64) : Bool :=
  x.exponentField == 2047 && x.fraction != 0

def isInfinite (x : Binary64) : Bool :=
  x.exponentField == 2047 && x.fraction == 0

/-- The whole number that is scaled by a power of two. -/
def significand (x : Binary64) : Nat :=
  if x.exponentField = 0 then x.fraction else Nat.pow 2 52 + x.fraction

/-- The power of two that scales the significand. -/
def scale (x : Binary64) : Int :=
  if x.exponentField = 0 then -1074 else (x.exponentField : Int) - 1075

/-- The number with a sign and the 63 bits of a magnitude. -/
def ofMagnitude (negative : Bool) (magnitude : Nat) : Binary64 :=
  ⟨UInt64.ofNat (if negative then Nat.pow 2 63 + magnitude else magnitude)⟩

/-- The magnitude of infinity. -/
def infiniteMagnitude : Nat := 2047 * Nat.pow 2 52

/-- The magnitude of the NaN that reading gives. -/
def nanMagnitude : Nat := infiniteMagnitude + Nat.pow 2 51

/-! ## Rounding -/

/-- The nearest whole number to a quotient, the even one of two equally near. -/
def divNearest (num den : Nat) : Nat :=
  let quotient := num / den
  let twice := 2 * (num % den)
  if twice < den then quotient
  else if den < twice then quotient + 1
  else quotient + quotient % 2

/-- The exponent of the greatest power of two that a quotient reaches. -/
def floorLog2 (num den : Nat) : Int :=
  let estimate : Int := (num.log2 : Int) - den.log2
  if den * Nat.pow 2 estimate.toNat ≤ num * Nat.pow 2 (-estimate).toNat then estimate
  else estimate - 1

/-- The magnitude nearest to a positive quotient. -/
def nearestMagnitude (num den : Nat) : Nat :=
  let scale := max (floorLog2 num den - 52) (-1074)
  let rounded := divNearest (num * Nat.pow 2 (-scale).toNat) (den * Nat.pow 2 scale.toNat)
  min ((scale + 1074).toNat * Nat.pow 2 52 + rounded) infiniteMagnitude

/--
The magnitude nearest to a decimal `digits · 10 ^ exponent`.  A decimal whose
leading digit stands far outside the range of the finite numbers is decided by
its place alone.
-/
def magnitudeOfDecimal (digits : List Char) (exponent : Int) : Nat :=
  let digits := digits.dropWhile (· == '0')
  let number := Nat.ofDigitChars 10 digits 0
  let place := (digits.length : Int) + exponent
  if digits.isEmpty || place < -330 then 0
  else if 310 < place then infiniteMagnitude
  else nearestMagnitude (number * Nat.pow 10 exponent.toNat) (Nat.pow 10 (-exponent).toNat)

/-! ## Reading -/

/-- The names of infinity, in lower case. -/
def infinityNames : List String := ["inf", "infinity"]

/-- Reads the exponent mark and a signed exponent, or nothing at all. -/
def readExponent? : List Char → Option Int
  | [] => some 0
  | mark :: rest => if mark == 'e' || mark == 'E' then readSigned? rest else none

/--
Reads digits with at most one point and an optional exponent.  One digit is
needed, before the point or after it.
-/
def readDecimal? (chars : List Char) : Option Nat :=
  let whole := chars.takeWhile Char.isDigit
  let afterWhole := chars.dropWhile Char.isDigit
  let afterPoint := match afterWhole with
    | '.' :: rest => rest
    | _ => []
  let part := afterPoint.takeWhile Char.isDigit
  let rest := match afterWhole with
    | '.' :: _ => afterPoint.dropWhile Char.isDigit
    | other => other
  if whole.isEmpty && part.isEmpty then none
  else (readExponent? rest).map fun exponent =>
    magnitudeOfDecimal (whole ++ part) (exponent - part.length)

/-- Reads a magnitude: a decimal, a name of infinity or the name of NaN. -/
def readMagnitude? (chars : List Char) : Option Nat :=
  let name := String.ofList (chars.map Char.toLower)
  if infinityNames.contains name then some infiniteMagnitude
  else if name == "nan" then some nanMagnitude
  else readDecimal? chars

/-- Reads a number with an optional sign; the whole text has to be used. -/
def read? (text : String) : Option Binary64 :=
  match text.toList with
  | '-' :: rest => (readMagnitude? rest).map (ofMagnitude true)
  | '+' :: rest => (readMagnitude? rest).map (ofMagnitude false)
  | chars => (readMagnitude? chars).map (ofMagnitude false)

end Binary64

end CommandShell.Number
