import GraphImport.Binary64.Basic

/-!
# Rounding to doubles

The double nearest to a quotient of natural numbers, with ties to the even word, and the products
and quotients of doubles that follow from it. Nothing is approximated on the way: a result is
rounded once, from its exact value.

* `Binary64.roundQuotient` — the integer nearest to a quotient, ties to even.
* `Binary64.nearestMagnitude` — the magnitude of the double nearest to a quotient.
* `Binary64.product`, `Binary64.quotient`, `Binary64.powerOfTen`.
-/

namespace GraphImport.Binary64

/-- The integer nearest to `num / den`; of two that are equally near, the even one. -/
def roundQuotient (num den : Nat) : Nat :=
  let below := num / den
  let rest := num % den
  if 2 * rest < den then below
  else if den < 2 * rest then below + 1
  else below + below % 2

/-- The magnitude of the double nearest to `num / den`, infinity when it is out of range.

Below `2 ^ 53` units the doubles are all whole numbers of units and a magnitude is its number of
units. Above, `shift` is the number of low bits that a significand of 53 bits leaves out; a
significand that rounds up to `2 ^ 53` carries into the exponent field by itself. -/
def nearestMagnitude (num den : Nat) : Nat :=
  let scaled := num * unitsPerOne
  let shift := Nat.log2 (scaled / den) - 52
  min (roundQuotient scaled (den * 2 ^ shift) + shift * 2 ^ 52) infiniteMagnitude

/-- The double nearest to `num / den`, with the given sign. -/
def nearest (negative : Bool) (num den : Nat) : Binary64 :=
  ofMagnitude negative (nearestMagnitude num den)

/-- The double nearest to a natural number. -/
def ofNat (n : Nat) : Binary64 := nearest false n 1

/-- The double nearest to `10 ^ k`. -/
def powerOfTen (k : Nat) : Binary64 := ofNat (10 ^ k)

/-- The product of two finite doubles, rounded. -/
def product (x y : Binary64) : Binary64 :=
  nearest (x.isNegative != y.isNegative) (x.units * y.units) (unitsPerOne * unitsPerOne)

/-- The quotient of a finite double by a finite one that is not zero, rounded. -/
def quotient (x y : Binary64) : Binary64 :=
  nearest (x.isNegative != y.isNegative) x.units y.units

end GraphImport.Binary64
