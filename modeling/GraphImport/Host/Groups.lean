import GraphImport.Host.Table
import GraphImport.Text.Parts

/-!
# Addresses of eight groups

An address of 128 bits, as eight groups of hexadecimal digits with colons between them. Two colons
in a row stand for at least one group of zeros, once. The last two groups may be written as four
decimal numbers with points between them.

* `Host.groups?` — the address of a text.
-/

namespace GraphImport.Host

/-- Number of groups. -/
def groupCount : Nat := 8

/-- A group of one to four digits. -/
def group? (digits : List Char) : Option Nat :=
  if digits.isEmpty ∨ 4 < digits.length then none else numeral? 16 digits

/-- A number below 256, without a zero in front. -/
def octet? (digits : List Char) : Option Nat :=
  if digits.isEmpty ∨ 3 < digits.length ∨ (digits.head? = some '0' ∧ digits.length ≠ 1) then none
  else (numeral? 10 digits).filter (· < 256)

/-- The last part: one group, or four numbers that stand for two. -/
def lastGroups? (part : List Char) : Option (List Nat) :=
  if part.contains '.' then
    match (Text.parts (· == '.') part).mapM octet? with
    | some [a, b, c, d] => some [a * 256 + b, c * 256 + d]
    | _ => none
  else (group? part).map ([·])

/-- The groups of a text without two colons in a row; `isLast` tells whether the address ends
here. -/
def groupsBetween? (isLast : Bool) (text : List Char) : Option (List Nat) :=
  if text.isEmpty then some []
  else do
    let parts := Text.parts (· == ':') text
    let front ← parts.dropLast.mapM group?
    let last ← parts.getLast?
    let groups ← if isLast then lastGroups? last else (group? last).map ([·])
    return front ++ groups

/-- The texts in front of the first two colons in a row and behind them. -/
def atGap? : List Char → Option (List Char × List Char)
  | ':' :: ':' :: rest => some ([], rest)
  | c :: rest => (atGap? rest).map fun (front, back) => (c :: front, back)
  | [] => none

/-- The address of eight groups that a text stands for. -/
def groups? (text : List Char) : Option (List Nat) :=
  match atGap? text with
  | none => (groupsBetween? true text).filter (·.length = groupCount)
  | some (front, back) => do
    let front ← groupsBetween? false front
    let back ← groupsBetween? true back
    let count := front.length + back.length
    if count < groupCount then some (front ++ List.replicate (groupCount - count) 0 ++ back)
    else none

end GraphImport.Host
