import GraphImport.Property.Value

/-!
# Properties

The properties of an entry: values by key, in the order in which the keys first appeared. A null
value is kept but never written to a statement.

* `Properties` — values by key, no key twice.
* `Properties.insert`, `get?`, `ofPairs`, `select` — writing and looking up.
* `Properties.present` — the entries that are written to statements.
* `Properties.ofMembers` — the properties that the members of a JSON object stand for.
-/

namespace GraphImport

/-- Values by key, in order. -/
structure Properties where
  /-- The keys and their values. -/
  entries : Entries Value
  /-- No key stands twice. -/
  nodup : entries.keys.Nodup

/-- Why a JSON object does not stand for properties: a value of one of its members. -/
structure PropertyProblem where
  /-- The key of the member. -/
  key : String
  /-- What is wrong with its value. -/
  problem : ValueProblem
deriving DecidableEq

/-- The wording of a problem. -/
def PropertyProblem.message (p : PropertyProblem) : String :=
  "'" ++ p.key ++ "': " ++ p.problem.message

namespace Properties

/-- No properties. -/
def empty : Properties := ⟨[], .nil⟩

instance : Inhabited Properties := ⟨empty⟩

/-- Writes a property: in place when the key is present, at the end when it is new. -/
def insert (p : Properties) (key : String) (value : Value) : Properties :=
  ⟨p.entries.insert key value, Entries.nodup_keys_insert p.nodup⟩

/-- The value of a key. -/
def get? (p : Properties) (key : String) : Option Value := p.entries.find? key

/-- Writes pairs one after the other. -/
def ofPairs (pairs : List (String × Value)) : Properties :=
  pairs.foldl (fun p pair => p.insert pair.1 pair.2) empty

/-- Number of properties. -/
def size (p : Properties) : Nat := p.entries.length

/-- There is no property, not even a null one. -/
def isEmpty (p : Properties) : Bool := p.entries.isEmpty

/-- The entries that are written to statements: those whose value is not null. -/
def present (p : Properties) : Entries Value := p.entries.filter fun entry => !entry.2.isNull

/-- Some property is written to statements. -/
def anyPresent (p : Properties) : Bool := !p.present.isEmpty

/-- Equality in order: the same keys with equal values in the same places. -/
def equals (p q : Properties) : Bool :=
  p.entries.length == q.entries.length &&
    (p.entries.zip q.entries).all fun (a, b) => a.1 == b.1 && a.2.equals b.2

/-- Adds the properties of the given keys to `picked`, up to the first key that is missing. -/
def selectInto (p : Properties) (picked : Properties) : List String → Except String Properties
  | [] => .ok picked
  | key :: keys =>
    match p.get? key with
    | none => .error key
    | some value => selectInto p (picked.insert key value) keys

/-- The properties of the given keys, in the order of the keys, or the first key that is
missing. -/
def select (p : Properties) (keys : List String) : Except String Properties :=
  p.selectInto empty keys

/-- The value of a member. -/
def memberValue (key : String) (json : Json) : Except PropertyProblem Value :=
  match Value.ofJson json with
  | .ok value => .ok value
  | .error problem => .error ⟨key, problem⟩

/-- Adds the values of the members of a JSON object to the properties. -/
def insertMembers (p : Properties) : Entries Json → Except PropertyProblem Properties
  | [] => .ok p
  | (key, json) :: rest =>
    match memberValue key json with
    | .error problem => .error problem
    | .ok value => insertMembers (p.insert key value) rest

/-- The properties that the members of a JSON object stand for. -/
def ofMembers (members : Entries Json) : Except PropertyProblem Properties :=
  empty.insertMembers members

end Properties

end GraphImport
