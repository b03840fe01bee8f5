/-!
# Variables in scope

Every entry of a compiled document is bound to a short variable, so that later parts of a script can
refer to it. A key gets a variable at its first request and keeps it. Variables are numbered in the
order of first requests, so a scope is the list of its keys in that order, and the number of a
variable is the place of its key.

* `Variable` — a numbered variable, with its name.
* `Scope` — the keys that are bound, none twice.
* `Scope.bind` — the variable of a key, bound if it is new; `Scope.find?` only looks.
-/

namespace GraphImport

/-- A variable of a script. -/
structure Variable where
  /-- Its number. -/
  ordinal : Nat
deriving DecidableEq

/-- The name of a variable: `x0`, `x1` and so on. -/
def Variable.name (v : Variable) : String := "x" ++ toString v.ordinal

/-- The keys that are bound, in the order of their first requests. -/
structure Scope where
  /-- The keys; the place of a key is the number of its variable. -/
  keys : List Nat
  /-- No key is bound twice. -/
  nodup : keys.Nodup
deriving DecidableEq

namespace Scope

/-- No key is bound. -/
def empty : Scope := ⟨[], .nil⟩

/-- How many keys are bound. -/
def size (s : Scope) : Nat := s.keys.length

/-- The key is bound. -/
def contains (s : Scope) (key : Nat) : Bool := s.keys.contains key

/-- The variable of a key, if it is bound. -/
def find? (s : Scope) (key : Nat) : Option Variable :=
  if key ∈ s.keys then some ⟨s.keys.idxOf key⟩ else none

/-- A new key stands behind the others. -/
theorem nodup_append_new {keys : List Nat} {key : Nat} (h : keys.Nodup) (new : key ∉ keys) :
    (keys ++ [key]).Nodup := by
  rw [List.nodup_append]
  refine ⟨h, by simp, fun a ha b hb => ?_⟩
  rw [List.mem_singleton.1 hb]
  exact fun e => new (e ▸ ha)

/-- The scope in which a key is bound; a new key gets the next variable. -/
def extend (s : Scope) (key : Nat) : Scope :=
  if h : key ∈ s.keys then s else ⟨s.keys ++ [key], nodup_append_new s.nodup h⟩

/-- The variable of a key, and the scope in which it is bound. -/
def bind (s : Scope) (key : Nat) : Variable × Scope :=
  (⟨(s.extend key).keys.idxOf key⟩, s.extend key)

end Scope

end GraphImport
