import GraphImport.Binary64.Rounding

/-!
# Shortest decimals

The decimal with the fewest significant digits that still reads back as a given double and, of
those, the one nearest to it.

For no digit, one digit, two digits and so on, the two neighbours of the exact value on the grid of
such decimals are read back; the first grid on which one of them gives the double wins. If any
decimal of a grid reads back, one of the two neighbours does, because the numbers that read back as
one double form an interval around it. So the last digit is never a zero: a grid before would have
won.

* `Decimal` — a coefficient and a power of ten.
* `Decimal.Tie` — which of two equally near shortest decimals is taken.
* `Decimal.shortest` — the shortest decimal of a finite double, without its sign.
-/

namespace GraphImport

/-- The number `coefficient * 10 ^ exponent`. -/
structure Decimal where
  /-- The digits, as one number. -/
  coefficient : Nat
  /-- The power of ten that the last digit counts. -/
  exponent : Int
deriving DecidableEq

namespace Decimal

/-- Which of two equally near decimals is taken. -/
inductive Tie where
  /-- The larger one. -/
  | up
  /-- The one with the even last digit. -/
  | even
deriving DecidableEq

/-- Number of decimal digits of a positive number. -/
def digitCount (n : Nat) : Nat := (Nat.toDigits 10 n).length

/-- Positive doubles are at least `10 ^ -digitRoom`, so this many places bring a digit of each in
front of the point. -/
def digitRoom : Nat := 324

/-- For a value in units, the number of digits in front of the point once it is multiplied by
`10 ^ digitRoom`. -/
def leadingDigits (units : Nat) : Nat :=
  digitCount (units * 10 ^ digitRoom / Binary64.unitsPerOne)

/-- The decimal as a quotient of natural numbers. -/
def ratio (d : Decimal) : Nat × Nat :=
  (d.coefficient * 10 ^ d.exponent.toNat, 10 ^ (-d.exponent).toNat)

/-- The decimal reads back as the double with the given magnitude. -/
def readsBack (magnitude : Nat) (d : Decimal) : Bool :=
  Binary64.nearestMagnitude d.ratio.1 d.ratio.2 == magnitude

/-- The nearest decimal with the given number of significant digits that reads back as the double,
if one of the two neighbours of its value does; `lead` is the number of leading digits. -/
def atPrecision (tie : Tie) (magnitude lead digits : Nat) : Option Decimal :=
  let units := Binary64.unitsOfMagnitude magnitude
  let num := units * 10 ^ (digitRoom + digits)
  let den := Binary64.unitsPerOne * 10 ^ lead
  let exponent : Int := (lead : Int) - (digitRoom + digits : Nat)
  let below : Decimal := ⟨num / den, exponent⟩
  let above : Decimal := ⟨num / den + 1, exponent⟩
  let rest := num % den
  let belowIsNearer :=
    decide (2 * rest < den) ||
      decide (2 * rest = den) && tie == .even && below.coefficient % 2 == 0
  if readsBack magnitude below && (belowIsNearer || !readsBack magnitude above) then some below
  else if readsBack magnitude above then some above
  else none

/-- The value of a double, written out in full. -/
def exact (magnitude : Nat) : Decimal :=
  ⟨Binary64.unitsOfMagnitude magnitude * 5 ^ 1074, -1074⟩

/-- Tries one precision after the other; `left` of them are allowed. -/
def shortestFrom (tie : Tie) (magnitude lead : Nat) : (left : Nat) → (digits : Nat) → Decimal
  | 0, _ => exact magnitude
  | left + 1, digits =>
    (atPrecision tie magnitude lead digits).getD
      (shortestFrom tie magnitude lead left (digits + 1))

/-- Seventeen significant digits always suffice to read a double back. -/
def maxDigits : Nat := 17

/-- The shortest decimal that reads back as the absolute value of a finite double. The first grid
has no digit in front of its end: its upper neighbour is the next power of ten. -/
def shortest (tie : Tie) (x : Binary64) : Decimal :=
  if x.isZero then ⟨0, 0⟩
  else shortestFrom tie x.magnitude (leadingDigits x.units) (maxDigits + 1) 0

end Decimal

end GraphImport
