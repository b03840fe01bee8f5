import GraphImport.Decimal.Shortest

/-!
# Decimal notation

Two ways to write a decimal. Both always show that it may have a fraction: an integral value is
written with `.0`, or with an exponent.

* `Decimal.positional` — digits around a point, however many zeros that takes.
* `Decimal.diagnostic` — positional near one, with an exponent far from it; used where a message
  quotes a number.
-/

namespace GraphImport.Decimal

/-- The digits of a number, with zeros in front up to the given width. -/
def padded (width n : Nat) : String :=
  let digits := Nat.toDigits 10 n
  String.ofList (List.replicate (width - digits.length) '0' ++ digits)

/-- Digits around a point: `150.0`, `0.25`. -/
def positional (d : Decimal) : String :=
  if 0 ≤ d.exponent then
    toString (d.coefficient * 10 ^ d.exponent.toNat) ++ ".0"
  else
    let places := (-d.exponent).toNat
    toString (d.coefficient / 10 ^ places) ++ "." ++ padded places (d.coefficient % 10 ^ places)

/-- The power of ten of the first digit. -/
def leadingExponent (d : Decimal) : Int := (digitCount d.coefficient : Int) - 1 + d.exponent

/-- One digit, the others behind a point, and the power of ten with its sign: `1.5e+20`. -/
def scientific (d : Decimal) : String :=
  let digits := Nat.toDigits 10 d.coefficient
  let fraction := digits.drop 1
  let power := d.leadingExponent
  String.ofList (digits.take 1)
    ++ (if fraction.isEmpty then "" else "." ++ String.ofList fraction)
    ++ (if power < 0 then "e-" else "e+") ++ toString power.natAbs

/-- Positional when the first digit counts a power of ten from `10 ^ -5` to `10 ^ 15`, with an
exponent otherwise. -/
def diagnostic (d : Decimal) : String :=
  if d.coefficient = 0 ∨ (-5 ≤ d.leadingExponent ∧ d.leadingExponent ≤ 15) then d.positional
  else d.scientific

end GraphImport.Decimal

namespace GraphImport.Binary64

/-- The sign of a double as text. -/
def signText (x : Binary64) : String := if x.isNegative then "-" else ""

/-- A finite double as a message quotes it. -/
def diagnosticText (x : Binary64) : String :=
  x.signText ++ (Decimal.shortest .even x).diagnostic

end GraphImport.Binary64
