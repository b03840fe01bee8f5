import GraphImport.Json.Basic

/-!
# Property values

What a property of a node or relationship can hold.

* `Value` — null, truth values, integers, doubles, strings and lists of values.
* `Value.ofJson` — the value that a JSON value stands for; only flat lists are taken from JSON.
* `ValueProblem` — why a JSON value stands for none.
-/

namespace GraphImport

/-- A property value. -/
inductive Value where
  /-- No value. -/
  | null
  /-- A truth value. -/
  | bool (b : Bool)
  /-- An integer. -/
  | int (n : Int)
  /-- A double. -/
  | double (x : Binary64)
  /-- A string. -/
  | string (s : String)
  /-- A list of values. -/
  | list (items : List Value)

instance : Inhabited Value := ⟨.null⟩

/-- Why a JSON value is no property value. -/
inductive ValueProblem where
  /-- A list holds a list or an object. -/
  | nestedList
  /-- The value is an object. -/
  | object
  /-- An integer does not fit in 64 bits with a sign. -/
  | outOfRange (n : Int)
deriving DecidableEq

/-- The wording of a problem. -/
def ValueProblem.message : ValueProblem → String
  | nestedList => "lists may only contain scalar values"
  | object => "property values must be scalars or lists"
  | outOfRange n => "integer " ++ toString n ++ " is out of range"

namespace Value

/-- The value is null. -/
def isNull : Value → Bool
  | null => true
  | _ => false

/-! ## Equality -/

mutual

/-- Equality of values: an integer differs from every double, and doubles are compared as
numbers. -/
def equals : Value → Value → Bool
  | null, null => true
  | bool a, bool b => a == b
  | int a, int b => a == b
  | double a, double b => a.equals b
  | string a, string b => a == b
  | list as, list bs => allEqual as bs
  | _, _ => false

/-- Equality of lists of values, item by item. -/
def allEqual : List Value → List Value → Bool
  | [], [] => true
  | a :: as, b :: bs => equals a b && allEqual as bs
  | _, _ => false

end

/-! ## From JSON -/

/-- The value of a number. -/
def ofNumber : Json.Number → Except ValueProblem Value
  | .integer n => if Json.Number.isSigned n then .ok (.int n) else .error (.outOfRange n)
  | .double x => .ok (.double x)

/-- The value of a scalar; arrays and objects are refused with the given problem. -/
def ofScalar (compound : Json → ValueProblem) : Json → Except ValueProblem Value
  | .null => .ok .null
  | .bool b => .ok (.bool b)
  | .number n => ofNumber n
  | .string s => .ok (.string s)
  | json => .error (compound json)

/-- The property value that a JSON value stands for. -/
def ofJson : Json → Except ValueProblem Value
  | .array items => return .list (← items.mapM (ofScalar fun _ => .nestedList))
  | json => ofScalar (fun _ => .object) json

end Value

end GraphImport
