import GraphImport.Host.Groups
import GraphImport.Host.Name
import GraphImport.Host.Octets

/-!
# Hosts

What a web address names as the place of a server.

* `Host` — a name, or an address of one of two kinds.
* `Host.ofText?` — the host that a text stands for.
-/

namespace GraphImport

/-- The place of a server. -/
inductive Host where
  /-- A name, as it is shown. -/
  | name (text : String)
  /-- An address of 32 bits. -/
  | octets (address : Nat)
  /-- An address of 128 bits, as groups of 16 bits. -/
  | groups (address : List Nat)
deriving DecidableEq

namespace Host

/-- The bytes of a text; a percent sign with two hexadecimal digits stands for a byte. -/
def bytesOf : List Char → List UInt8
  | '%' :: a :: b :: rest =>
    match hexValue? a, hexValue? b with
    | some high, some low => UInt8.ofNat (high * 16 + low) :: bytesOf rest
    | _, _ => '%'.val.toUInt8 :: bytesOf (a :: b :: rest)
  | c :: rest => String.utf8EncodeChar c ++ bytesOf rest
  | [] => []

/-- The text with its bytes decoded, if they are a text. -/
def decoded? (text : List Char) : Option (List Char) :=
  if text.contains '%' then
    (String.fromUTF8? (bytesOf text).toByteArray).map String.toList
  else some text

/-- The host that a text stands for. Square brackets hold an address of groups; what ends in a
number is an address of four numbers. -/
def ofText? (text : List Char) : Option Host :=
  if text.head? = some '[' then
    if text.getLast? = some ']' then (groups? text.dropLast.tail).map .groups else none
  else do
    let name ← nameOf? (← decoded? text)
    if endsInNumber name then (octets? name).map .octets else some (.name (String.ofList name))

end Host

end GraphImport
