import GraphImport.Host.Basic

/-!
# Addresses

The parts of a web address that a request needs, read as browsers read them: blanks around the
address and line breaks inside it do not count, backslashes are slashes, dot segments are resolved
up to a drive, and what may not stand in a request line is percent-encoded.

* `Address` — host, port and target.
* `Address.ofText?` — the address that a text stands for.
* `Address.encode` — percent-encoding.
-/

namespace GraphImport

/-- An address to which a request can be sent. -/
structure Address where
  /-- The host. -/
  host : Host
  /-- The port, if the address names one. -/
  port : Option Nat
  /-- What stands in the request line: the path and the query. -/
  target : String
deriving DecidableEq

namespace Address

/-! ## Percent-encoding -/

/-- A number below 16 as a hexadecimal digit, in upper case. -/
def hexDigit (n : Nat) : Char := (Nat.digitChar n).toUpper

/-- A byte behind a percent sign. -/
def encodeByte (byte : UInt8) : String :=
  String.ofList ['%', hexDigit (byte.toNat / 16), hexDigit (byte.toNat % 16)]

/-- A character as its UTF-8 bytes, each behind a percent sign. -/
def encodeChar (c : Char) : String :=
  String.join ((String.utf8EncodeChar c).map encodeByte)

/-- The text with the reserved characters, the controls and everything beyond ASCII encoded. -/
def encode (reserved : Char → Bool) (text : List Char) : String :=
  String.join <| text.map fun c =>
    if c ≤ '\x1f' || '\x7f' ≤ c || reserved c then encodeChar c else String.singleton c

/-- Characters that may not stand in a path. -/
def reservedInPath (c : Char) : Bool :=
  c ∈ [' ', '"', '#', '<', '>', '?', '\x60', '\x7b', '\x7d']

/-- Characters that may not stand in a query. -/
def reservedInQuery (c : Char) : Bool := c ∈ [' ', '"', '#', '<', '>', '\x27']

/-! ## Paths -/

/-- Both slashes part a path. -/
def isSlash (c : Char) : Bool := c == '/' || c == '\\'

/-- The segment stands for where it is; a dot may be percent-encoded. -/
def isHere (segment : List Char) : Bool :=
  String.ofList (segment.map Char.toLower) ∈ [".", "%2e"]

/-- The segment stands for the one above. -/
def isAbove (segment : List Char) : Bool :=
  String.ofList (segment.map Char.toLower) ∈ ["..", ".%2e", "%2e.", "%2e%2e"]

/-- The segment names a drive: a letter and a colon or bar. -/
def isDrive : List Char → Bool
  | [letter, mark] => letter.isAlpha && (mark == ':' || mark == '|')
  | _ => false

/-- The segments above, the last one first. A drive has nothing above it. -/
def above : List (List Char) → List (List Char)
  | [] => []
  | segment :: rest => if isDrive segment then segment :: rest else rest

/-- Resolves dot segments; `done` holds the segments in front, the last one first. A dot segment at
the end leaves an empty segment. -/
def resolve (done : List (List Char)) : List (List Char) → List (List Char)
  | [] => done.reverse
  | segment :: rest =>
    let kept :=
      if isAbove segment then above done else if isHere segment then done else segment :: done
    if rest.isEmpty && (isAbove segment || isHere segment) then ([] :: kept).reverse
    else resolve kept rest

/-- The path behind the host, from its first slash on. -/
def pathText (path : List Char) : String :=
  let segments := resolve [] (Text.parts isSlash (path.drop 1))
  String.join (segments.map fun segment => "/" ++ encode reservedInPath segment)

/-- The target of a request: the path, and the query unless it is empty. What follows a number sign
is not sent. -/
def targetText (text : List Char) : String :=
  let sent := text.takeWhile (· != '#')
  let path := sent.takeWhile (· != '?')
  let query := (sent.dropWhile (· != '?')).drop 1
  pathText path ++ (if query.isEmpty then "" else "?" ++ encode reservedInQuery query)

/-! ## Hosts -/

/-- The port behind a colon; it may be left out. -/
def port? : List Char → Option (Option Nat)
  | [] => some none
  | c :: digits =>
    if c = ':' ∧ digits.all Char.isDigit then
      if digits.isEmpty then some none
      else
        let port := Nat.ofDigitChars 10 digits 0
        if port < 2 ^ 16 then some (some port) else none
    else none

/-- The text behind the last at sign: what stands in front of it names a user. -/
def withoutUser (authority : List Char) : List Char :=
  (authority.reverse.takeWhile (· != '@')).reverse

/-- The text of the host: up to the first colon, or up to the closing bracket of an address of
groups. -/
def hostText (authority : List Char) : List Char :=
  if authority.head? = some '[' then
    let inside := authority.takeWhile (· != ']')
    authority.take (inside.length + 1)
  else authority.takeWhile (· != ':')

/-- The host and the port. -/
def hostAndPort? (authority : List Char) : Option (Host × Option Nat) := do
  let text := hostText authority
  return (← Host.ofText? text, ← port? (authority.drop text.length))

/-! ## Addresses -/

/-- The text without blanks and controls at both ends, and without tabs and line breaks. -/
def cleaned (text : List Char) : List Char :=
  let trimmed := ((text.dropWhile (· ≤ ' ')).reverse.dropWhile (· ≤ ' ')).reverse
  trimmed.filter fun c => c != '\t' && c != '\n' && c != '\r'

/-- The address that a text stands for, if it is one of the web. -/
def ofText? (text : String) : Option Address :=
  let chars := cleaned text.toList
  let scheme := chars.takeWhile (· != ':')
  let rest := (chars.drop (scheme.length + 1)).dropWhile isSlash
  let endsAuthority := fun c => isSlash c || c == '?' || c == '#'
  let authority := rest.takeWhile fun c => !endsAuthority c
  if String.ofList (scheme.map Char.toLower) ∈ ["http", "https"] ∧ scheme.length < chars.length then
    (hostAndPort? (withoutUser authority)).map fun (host, port) =>
      ⟨host, port, targetText (rest.drop authority.length)⟩
  else none

end Address

end GraphImport
