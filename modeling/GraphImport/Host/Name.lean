import GraphImport.Host.Direction
import GraphImport.Host.Joiner
import GraphImport.Host.Mapping
import GraphImport.Host.Mark
import GraphImport.Host.Punycode

/-!
# Names of hosts

A name is read in any script: its characters are brought to one form and the name is cut at its
points into labels. A label that stands for one beyond ASCII is decoded. The labels have to keep
the rules for marks, joiners and directions.

* `Host.labelOf?` — a label in the form in which it is shown.
* `Host.isLabel` — the rules for one label.
* `Host.nameOf?` — the name that a text stands for.
-/

namespace GraphImport.Host

/-! ## Labels -/

/-- What a label starts with that stands for one beyond ASCII. -/
def codeMark : List Char := "xn--".toList

/-- The largest number of characters of a label beyond ASCII. -/
def maxLabelLength : Nat := 1000

/-- The largest number of characters that stand for such a label. -/
def maxCodeLength : Nat := 2000

/-- Reading the text again changes nothing. -/
def isSettled (text : List Char) : Bool :=
  text.all (fun c => useOf c == .kept) && normalized text == text

/-- A label in the form in which it is shown. -/
def labelOf? (label : List Char) : Option (List Char) :=
  if codeMark.isPrefixOf label then
    let code := label.drop codeMark.length
    if code.all Text.isAscii ∧ code.length ≤ maxCodeLength then
      (Punycode.decode? code).filter fun shown => !shown.all Text.isAscii && isSettled shown
    else none
  else some label

/-- A label of ASCII characters has no rule of its own; any other starts with no mark and has
joiners only where they may stand. -/
def isLabel (label : List Char) : Bool :=
  label.all Text.isAscii
    || (label.length ≤ maxLabelLength && !(label.head?.map isMark).getD false
      && joinersFit [] label)

/-! ## Names -/

/-- ASCII characters that no name has. -/
def isForbidden (c : Char) : Bool :=
  c ≤ ' ' || c ∈ ['#', '/', ':', '<', '>', '?', '@', '[', '\\', ']', '^', '|', '%', '\x7f']

/-- What stands in the place of a character, unless it is refused. -/
def replaced? (c : Char) : Option (List Char) :=
  match useOf c with
  | .kept => some [c]
  | .replaced text => some text
  | .refused => none

/-- The text with its characters brought to one form. -/
def mapped? (text : List Char) : Option (List Char) :=
  (text.mapM replaced?).map fun texts => normalized texts.flatten

/-- The name that a text stands for. -/
def nameOf? (text : List Char) : Option (List Char) := do
  let labels ← (Text.parts (· == '.') (← mapped? text)).mapM labelOf?
  let name := List.intercalate ['.'] labels
  if labels.all isLabel ∧ directionsFit labels ∧ !name.any isForbidden ∧ !name.isEmpty then
    some name
  else none

end GraphImport.Host
