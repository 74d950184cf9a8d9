import CommandShell.Number.Binary64

/-!
# The fewest digits that read back

The text of a finite number is the decimal of fewest significant digits among
those that round to it, and of these the nearest one; a tie goes to the greater
magnitude.  It is written in positional notation without an exponent.
-/

namespace CommandShell.Number.Binary64

/-! ## Decimals near a number -/

/-- A decimal `coefficient · 10 ^ exponent`. -/
structure Decimal where
  coefficient : Nat
  exponent : Int

/--
Holds when `a · 10 ^ k` is at most `b · 2 ^ s`; both sides are scaled to whole
numbers first.
-/
def tenLeTwo (a : Nat) (k : Int) (b : Nat) (s : Int) : Bool :=
  a * Nat.pow 10 k.toNat * Nat.pow 2 (-s).toNat ≤ b * Nat.pow 2 s.toNat * Nat.pow 10 (-k).toNat

/-- Holds when `b · 2 ^ s` is at most `a · 10 ^ k`. -/
def twoLeTen (b : Nat) (s : Int) (a : Nat) (k : Int) : Bool :=
  b * Nat.pow 2 s.toNat * Nat.pow 10 (-k).toNat ≤ a * Nat.pow 10 k.toNat * Nat.pow 2 (-s).toNat

/-- The greatest whole number of steps `10 ^ k` in `b · 2 ^ s`. -/
def stepsBelow (b : Nat) (s : Int) (k : Int) : Nat :=
  (b * Nat.pow 2 s.toNat * Nat.pow 10 (-k).toNat) / (Nat.pow 10 k.toNat * Nat.pow 2 (-s).toNat)

/--
Four times the significand at the lower end of the reals that round to the
number: half a step down, or a quarter step where the spacing changes.
-/
def lowerEnd (x : Binary64) : Nat :=
  if x.fraction = 0 && 1 < x.exponentField then 4 * x.significand - 1
  else 4 * x.significand - 2

/-- Four times the significand at the upper end of the reals that round to the number. -/
def upperEnd (x : Binary64) : Nat :=
  4 * x.significand + 2

/-- Holds when a decimal rounds to the number; an end does iff the significand is even. -/
def rounds (x : Binary64) (decimal : Decimal) : Bool :=
  let s := x.scale - 2
  if x.significand % 2 = 0 then
    twoLeTen x.lowerEnd s decimal.coefficient decimal.exponent &&
      tenLeTwo decimal.coefficient decimal.exponent x.upperEnd s
  else
    !tenLeTwo decimal.coefficient decimal.exponent x.lowerEnd s &&
      !twoLeTen x.upperEnd s decimal.coefficient decimal.exponent

/-- The exponent of the greatest power of ten that the number reaches. -/
def floorLog10 (x : Binary64) : Int :=
  let estimate := (((x.significand.log2 : Int) + x.scale) * 30103) / 100000
  if tenLeTwo 1 (estimate + 1) x.significand x.scale then estimate + 1 else estimate

/--
The nearer of the number's two neighbours on the grid of `count` significant
digits, as far as they round to the number.
-/
def nearestOfLength? (x : Binary64) (count : Nat) : Option Decimal :=
  let exponent := x.floorLog10 + 1 - count
  let steps := stepsBelow x.significand x.scale exponent
  let below : Decimal := ⟨steps, exponent⟩
  let above : Decimal := ⟨steps + 1, exponent⟩
  let aboveIsNearer := tenLeTwo (2 * steps + 1) exponent (2 * x.significand) x.scale
  if x.rounds above && (aboveIsNearer || !x.rounds below) then some above
  else if x.rounds below then some below
  else none

/-- Seventeen significant digits always tell two numbers apart. -/
def maxDigits : Nat := 17

/-- The shortest decimal that rounds to the number, the nearest of that length. -/
def shortest (x : Binary64) : Decimal :=
  let found := (List.range maxDigits).findSome? fun n => x.nearestOfLength? (n + 1)
  found.getD ⟨x.significand * Nat.pow 2 x.scale.toNat, 0⟩

/-! ## Positional notation -/

/-- The digits of a decimal with a point among them and no needless zero. -/
def Decimal.positional (decimal : Decimal) : List Char :=
  let all := Nat.toDigits 10 decimal.coefficient
  let digits := (all.reverse.dropWhile (· == '0')).reverse
  let exponent := decimal.exponent + ((all.length - digits.length : Nat) : Int)
  let places := (-exponent).toNat
  if 0 ≤ exponent then digits ++ List.replicate exponent.toNat '0'
  else if places < digits.length then
    digits.take (digits.length - places) ++ '.' :: digits.drop (digits.length - places)
  else '0' :: '.' :: List.replicate (places - digits.length) '0' ++ digits

def text (x : Binary64) : String :=
  if x.isNaN then "NaN"
  else
    let magnitude :=
      if x.isInfinite then "inf"
      else if x.significand = 0 then "0"
      else String.ofList x.shortest.positional
    if x.isNegative then "-" ++ magnitude else magnitude

end CommandShell.Number.Binary64
