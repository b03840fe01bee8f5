import GraphImport.Binary64.Rounding
import GraphImport.Json.Fault

/-!
# Numerals

The numbers of a JSON text, in two steps: the text of a number is split into its parts, and the
parts are given a value.

An integer without fraction or exponent keeps its value as long as it fits in 64 bits. Every other
number becomes a double from a significand of at most 64 bits and a power of ten, with one rounding
for the significand and one for every power it is multiplied with or divided by. So a few numerals
become a neighbour of the double nearest to them.

* `Json.Numeral` — the parts of a number.
* `Json.readNumeral` — splits the text of a number.
* `Json.Numeral.value` — the number that the parts stand for.
* `Json.readNumber` — both steps.
-/

namespace GraphImport.Json

/-! ## The parts of a number -/

/-- The exponent of a numeral. -/
structure Exponent where
  /-- There is a minus sign. -/
  negative : Bool
  /-- The digits, at least one. -/
  digits : List Char
deriving DecidableEq

/-- A number as it is written. -/
structure Numeral where
  /-- There is a minus sign. -/
  negative : Bool
  /-- The digits in front of the point, at least one. -/
  whole : List Char
  /-- The digits behind the point, if there is one. -/
  fraction : Option (List Char)
  /-- The exponent, if there is one. -/
  exponent : Option Exponent
deriving DecidableEq

/-- The digits at the start of a text, and the rest. -/
def spanDigits (text : List Char) : List Char × List Char :=
  (text.takeWhile Char.isDigit, text.dropWhile Char.isDigit)

/-- The digits in front of the point: a zero alone, or digits of which the first is no zero. -/
def readWholePart : List Char → Except Fault (List Char × List Char)
  | [] => .error (.atEnd .endOfValue)
  | '0' :: rest =>
    match rest with
    | [] => .ok (['0'], [])
    | c :: _ => if c.isDigit then .error (.here .invalidNumber rest) else .ok (['0'], rest)
  | c :: rest =>
    if c.isDigit then .ok (spanDigits (c :: rest)) else .error (.here .invalidNumber (c :: rest))

/-- Digits where at least one is due. -/
def readDigits (text : List Char) : Except Fault (List Char × List Char) :=
  match text with
  | [] => .error (.atEnd .endOfValue)
  | c :: _ => if c.isDigit then .ok (spanDigits text) else .error (.here .invalidNumber text)

/-- The digits behind the point, if there is a point. -/
def readFraction : List Char → Except Fault (Option (List Char) × List Char)
  | '.' :: rest =>
    match readDigits rest with
    | .error fault => .error fault
    | .ok (digits, rest) => .ok (some digits, rest)
  | text => .ok (none, text)

/-- The sign of an exponent. -/
def readSign : List Char → Bool × List Char
  | '+' :: rest => (false, rest)
  | '-' :: rest => (true, rest)
  | text => (false, text)

/-- The exponent, if there is one. -/
def readExponent : List Char → Except Fault (Option Exponent × List Char)
  | [] => .ok (none, [])
  | c :: rest =>
    if c = 'e' ∨ c = 'E' then
      match readDigits (readSign rest).2 with
      | .error fault => .error fault
      | .ok (digits, after) => .ok (some ⟨(readSign rest).1, digits⟩, after)
    else .ok (none, c :: rest)

/-- The minus sign in front of a number, if there is one. -/
def readMinus : List Char → Bool × List Char
  | '-' :: rest => (true, rest)
  | text => (false, text)

/-- A number, split into its parts. -/
def readNumeral (text : List Char) : Except Fault (Numeral × List Char) := do
  let (whole, rest) ← readWholePart (readMinus text).2
  let (fraction, rest) ← readFraction rest
  let (exponent, rest) ← readExponent rest
  return (⟨(readMinus text).1, whole, fraction, exponent⟩, rest)

/-! ## The value of the parts -/

/-- The value of a decimal digit. -/
def digitValue (c : Char) : Nat := c.toNat - '0'.toNat

/-- Appends digits to a significand as long as the result fits in 64 bits. The first digit that
does not fit and all behind it are left out; their number is the second component. -/
def absorb : Nat → List Char → Nat × Nat
  | significand, [] => (significand, 0)
  | significand, digit :: rest =>
    let next := significand * 10 + digitValue digit
    if next < 2 ^ 64 then absorb next rest else (significand, rest.length + 1)

/-- The largest exponent that is worked out. -/
def exponentLimit : Nat := 2 ^ 31 - 1

/-- The value of the digits of an exponent, or the digits behind the first one with which the value
is over the limit. -/
def exponentValue : Nat → List Char → Except (List Char) Nat
  | value, [] => .ok value
  | value, digit :: rest =>
    let next := value * 10 + digitValue digit
    if next ≤ exponentLimit then exponentValue next rest else .error rest

/-- The largest power of ten that is a double. -/
def maxPower : Nat := 308

/-- The double that a significand of 64 bits and a power of ten give, without one if it is too
large. A power beyond the largest one is divided by in two steps; two steps bring any such
significand to zero if the power is beyond both. -/
def scale (significand : Nat) (exponent : Int) : Option Binary64 :=
  let start := Binary64.ofNat significand
  let power := exponent.natAbs
  if 0 ≤ exponent then
    if power ≤ maxPower then
      let product := start.product (.powerOfTen power)
      if product.isInfinite then none else some product
    else if significand = 0 then some start
    else none
  else if power ≤ maxPower then some (start.quotient (.powerOfTen power))
  else if power ≤ 2 * maxPower then
    some ((start.quotient (.powerOfTen maxPower)).quotient (.powerOfTen (power - maxPower)))
  else some (.ofNat 0)

/-- The double with the given sign. -/
def signed (negative : Bool) (x : Binary64) : Binary64 := if negative then x.negate else x

/-- The number of a significand that took in all digits of a numeral without fraction and
exponent. Zero with a minus sign, and what is below 64 bits with a sign, are doubles. -/
def wholeNumber (negative : Bool) (significand : Nat) : Number :=
  if negative then
    if significand = 0 ∨ 2 ^ 63 < significand then .double (Binary64.ofNat significand).negate
    else .integer (-significand)
  else .integer significand

/-- The number that a numeral stands for; `rest` is the text behind it. -/
def Numeral.value (numeral : Numeral) (rest : List Char) : Except Fault Number :=
  let (significand, left) := absorb 0 numeral.whole
  if left = 0 ∧ numeral.fraction = none ∧ numeral.exponent = none then
    .ok (wholeNumber numeral.negative significand)
  else
    let fraction := numeral.fraction.getD []
    let (significand, dropped) := absorb significand fraction
    let power : Int := (left : Int) - (fraction.length - dropped : Nat)
    let exponent := numeral.exponent.getD ⟨false, []⟩
    match exponentValue 0 exponent.digits with
    | .error behind =>
      if significand = 0 ∨ exponent.negative then
        .ok (.double (signed numeral.negative (.ofNat 0)))
      else .error (.behind .numberOutOfRange (behind ++ rest))
    | .ok value =>
      match scale significand (power + if exponent.negative then -(value : Int) else value) with
      | some x => .ok (.double (signed numeral.negative x))
      | none => .error (.behind .numberOutOfRange rest)

/-- A number and its value. -/
def readNumber (text : List Char) : Except Fault (Number × List Char) := do
  let (numeral, rest) ← readNumeral text
  let number ← numeral.value rest
  return (number, rest)

end GraphImport.Json
