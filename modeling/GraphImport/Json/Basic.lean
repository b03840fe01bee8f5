import GraphImport.Binary64.Basic
import GraphImport.Entries

/-!
# JSON values

* `Json.Number` — an integer of 64 bits, signed or unsigned, or a double.
* `Json` — a JSON value; the members of an object keep their order.
-/

namespace GraphImport

/-- A number of a JSON text. -/
inductive Json.Number where
  /-- An integer from `-2 ^ 63` to `2 ^ 64 - 1`. -/
  | integer (n : Int)
  /-- Any other number. -/
  | double (x : Binary64)
deriving DecidableEq

/-- A JSON value. -/
inductive Json where
  /-- The value `null`. -/
  | null
  /-- A truth value. -/
  | bool (b : Bool)
  /-- A number. -/
  | number (n : Json.Number)
  /-- A string. -/
  | string (s : String)
  /-- An array. -/
  | array (items : List Json)
  /-- An object, with its members in order and no key twice. -/
  | object (members : List (String × Json))

instance : Inhabited Json := ⟨.null⟩

namespace Json

/-- The value is `null`. -/
def isNull : Json → Bool
  | null => true
  | _ => false

/-- The string that a value is, if it is one. -/
def string? : Json → Option String
  | string s => some s
  | _ => none

/-- The members of a value, if it is an object. -/
def members? : Json → Option (Entries Json)
  | object members => some members
  | _ => none

/-- The smallest integer of 64 bits with a sign. -/
def Number.minSigned : Int := -2 ^ 63

/-- One more than the largest integer of 64 bits with a sign. -/
def Number.signedBound : Int := 2 ^ 63

/-- The integer is one of 64 bits with a sign. -/
def Number.isSigned (n : Int) : Bool :=
  decide (minSigned ≤ n) && decide (n < signedBound)

end Json

end GraphImport
