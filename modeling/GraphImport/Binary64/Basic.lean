import GraphImport.Power

/-!
# Double-precision words

A double is kept as its 64-bit word, so that two doubles are the same exactly when their words
are. Every finite double is a whole number of the smallest positive one, `2 ^ -1074`; that number
is `Binary64.units`, and all arithmetic of this library is done on it, exactly.

* `Binary64.magnitude`, `Binary64.isNegative` — the word without its sign, and the sign.
* `Binary64.units` — the absolute value of a finite double, in units of `2 ^ -1074`.
* `Binary64.equals` — numeric equality: a NaN equals nothing, and the two zeros are equal.
* `Binary64.wholeNumber?` — the integer that a double is, if it is one.
-/

namespace GraphImport

/-- A double, given by its word: sign, 11 bits of exponent, 52 bits of fraction. -/
structure Binary64 where
  /-- The word, with the sign in its highest bit. -/
  bits : UInt64
deriving DecidableEq

namespace Binary64

/-! ## The fields of a word -/

/-- The word of positive infinity; larger magnitudes are NaNs. -/
def infiniteMagnitude : Nat := 2047 * 2 ^ 52

/-- The word without its sign bit. -/
def magnitude (x : Binary64) : Nat := x.bits.toNat % 2 ^ 63

/-- The sign bit is set. -/
def isNegative (x : Binary64) : Bool := decide (2 ^ 63 ≤ x.bits.toNat)

/-- The double with the given sign and magnitude. -/
def ofMagnitude (negative : Bool) (magnitude : Nat) : Binary64 :=
  ⟨UInt64.ofNat (if negative then 2 ^ 63 + magnitude else magnitude)⟩

/-- The word stands for no number. -/
def isNaN (x : Binary64) : Bool := decide (infiniteMagnitude < x.magnitude)

/-- The word stands for one of the two infinities. -/
def isInfinite (x : Binary64) : Bool := decide (x.magnitude = infiniteMagnitude)

/-- The word stands for a number. -/
def isFinite (x : Binary64) : Bool := decide (x.magnitude < infiniteMagnitude)

/-- One of the two zeros. -/
def isZero (x : Binary64) : Bool := decide (x.magnitude = 0)

/-! ## The value of a word -/

/-- The value of a magnitude below infinity, in units of `2 ^ -1074`. The lowest exponent field
has no hidden bit and the same spacing as the one above it. -/
def unitsOfMagnitude (m : Nat) : Nat :=
  if m < 2 ^ 52 then m else (2 ^ 52 + m % 2 ^ 52) * 2 ^ (m / 2 ^ 52 - 1)

/-- The absolute value of a finite double, in units of `2 ^ -1074`. -/
def units (x : Binary64) : Nat := unitsOfMagnitude x.magnitude

/-- How many units the number one has. -/
def unitsPerOne : Nat := 2 ^ 1074

/-- The double with the other sign. -/
def negate (x : Binary64) : Binary64 := ofMagnitude (!x.isNegative) x.magnitude

/-- Numeric equality: a NaN equals nothing, not even itself, and the two zeros are equal. -/
def equals (x y : Binary64) : Bool :=
  !x.isNaN && !y.isNaN && (x.bits == y.bits || x.isZero && y.isZero)

/-- The integer that a double stands for, if it stands for one. -/
def wholeNumber? (x : Binary64) : Option Int :=
  if x.isFinite && x.units % unitsPerOne == 0 then
    let n : Int := x.units / unitsPerOne
    some (if x.isNegative then -n else n)
  else none

end Binary64

end GraphImport
