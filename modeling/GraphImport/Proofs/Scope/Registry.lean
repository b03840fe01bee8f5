import GraphImport.Proofs.Scope.Numbering
import Mathlib.Data.Finmap

/-!
# Scopes as tables with a counter

A scope can be kept as a table of variables by key, which has no order, and a counter. A new key is
written into the table under the number of the counter, and the counter goes on. The two are kept in
step: the counter is the number of keys in the table, exactly the numbers below it are given, and so
the next number is always a new one. Nothing that is asked tells such a table from a scope.

* `Registry` — the table and the counter, with `Registry.bind` and the other calls.
* `Registry.Keeps` — a registry keeps a scope; `Registry.Keeps.bind` — one request.
* `Registry.InStep` — the table and the counter are in step, with `Registry.Keeps.inStep`.
* `Registry.keeps_run` — after any calls.
-/

namespace GraphImport

/-- Variables by key, and the number of the next one. -/
structure Registry where
  /-- The variables. -/
  table : Finmap fun _ : Nat => Variable
  /-- The number that the next new key gets. -/
  next : Nat

namespace Registry

/-! ## Calls -/

/-- No key is bound, and numbers start at zero. -/
def empty : Registry := ⟨∅, 0⟩

/-- The variable of a key, if it is bound. -/
def find? (r : Registry) (key : Nat) : Option Variable := r.table.lookup key

/-- The key is bound. -/
def contains (r : Registry) (key : Nat) : Bool := (r.find? key).isSome

/-- How many keys are bound. -/
def size (r : Registry) : Nat := r.table.keys.card

/-- The variable of a key, and the registry in which it is bound. A new key gets the number of the
counter, which goes on. -/
def bind (r : Registry) (key : Nat) : Variable × Registry :=
  match r.find? key with
  | some v => (v, r)
  | none => (⟨r.next⟩, ⟨r.table.insert key ⟨r.next⟩, r.next + 1⟩)

/-- The answer to a call, and the registry after it. A reset forgets the table and sets the counter
back. -/
def call : Scope.Call → Registry → Scope.Answer × Registry
  | .bind key, r => (.given (r.bind key).1, (r.bind key).2)
  | .find key, r => (.found (r.find? key), r)
  | .contains key, r => (.bound (r.contains key), r)
  | .reset, _ => (.done, .empty)

/-- The answers to calls one after the other, and the registry after them. -/
def run : List Scope.Call → Registry → List Scope.Answer × Registry
  | [], r => ([], r)
  | call :: calls, r =>
    let (answer, next) := Registry.call call r
    let (answers, last) := run calls next
    (answer :: answers, last)

theorem run_cons (call : Scope.Call) (calls : List Scope.Call) (r : Registry) :
    run (call :: calls) r =
      ((Registry.call call r).1 :: (run calls (Registry.call call r).2).1,
        (run calls (Registry.call call r).2).2) := rfl

variable {r : Registry} {s : Scope} {key : Nat}

/-- A key that is bound is left as it is. -/
theorem bind_of_find? {v : Variable} (h : r.find? key = some v) : r.bind key = (v, r) := by
  unfold bind
  rw [h]

/-- A new key is written with the counter. -/
theorem bind_of_new (h : r.find? key = none) :
    r.bind key = (⟨r.next⟩, ⟨r.table.insert key ⟨r.next⟩, r.next + 1⟩) := by
  unfold bind
  rw [h]

/-- Writing a new key makes the table larger by one. -/
theorem card_insert {table : Finmap fun _ : Nat => Variable} (h : table.lookup key = none)
    (v : Variable) : (table.insert key v).keys.card = table.keys.card + 1 := by
  have hnew : key ∉ table.keys := by
    rw [Finmap.mem_keys]
    exact Finmap.lookup_eq_none.mp h
  have hkeys : (table.insert key v).keys = insert key table.keys := by
    ext other
    rw [Finmap.mem_keys, Finmap.mem_insert, Finset.mem_insert, Finmap.mem_keys]
  rw [hkeys, Finset.card_insert_of_notMem hnew]

/-! ## Scopes in tables -/

/-- **The registry keeps the scope**: its table has the variables of the scope, and its counter
stands at the number of keys. -/
structure Keeps (r : Registry) (s : Scope) : Prop where
  /-- The same variables are found. -/
  find? : ∀ key, r.find? key = s.find? key
  /-- The table has as many keys. -/
  size : r.size = s.size
  /-- The counter stands at this number. -/
  next : r.next = s.size

theorem keeps_empty : empty.Keeps .empty := ⟨fun _ => rfl, rfl, rfl⟩

/-- The same keys are bound. -/
theorem Keeps.contains (h : r.Keeps s) (key : Nat) : r.contains key = s.contains key := by
  unfold Registry.contains
  rw [h.find?, Scope.isSome_find?]

/-- **A request has the same answer**, and leaves a registry that keeps the scope after it. -/
theorem Keeps.bind (h : r.Keeps s) (key : Nat) :
    (r.bind key).1 = (s.bind key).1 ∧ (r.bind key).2.Keeps (s.bind key).2 := by
  have hgiven : (s.extend key).find? key = some (s.bind key).1 := Scope.find?_extend_self s key
  change _ ∧ (r.bind key).2.Keeps (s.extend key)
  by_cases hkey : key ∈ s.keys
  · rw [Scope.extend_of_mem hkey] at hgiven ⊢
    rw [bind_of_find? ((h.find? key).trans hgiven)]
    exact ⟨rfl, h⟩
  · have hnew : r.find? key = none := (h.find? key).trans (if_neg hkey)
    have hsize : (s.extend key).size = s.size + 1 := by
      unfold Scope.size
      rw [Scope.keys_extend, if_neg hkey, List.length_append, List.length_singleton]
    -- The counter stands at the size, which is the number that the scope gives to a new key.
    have hfirst := Scope.find?_extend_of_not_mem hkey
    have hnext : (⟨r.next⟩ : Variable) = (s.bind key).1 := by
      rw [h.next]
      exact Option.some.inj (hfirst.symm.trans hgiven)
    rw [bind_of_new hnew]
    refine ⟨hnext, fun other => ?_, ?_, ?_⟩
    · by_cases hother : other = key
      · subst hother
        rw [hgiven, ← hnext]
        exact Finmap.lookup_insert r.table
      · have hold : (r.table.insert key ⟨r.next⟩).lookup other = r.table.lookup other :=
          Finmap.lookup_insert_of_ne r.table hother
        exact hold.trans ((h.find? other).trans (Scope.find?_extend_of_ne s hother).symm)
    · have hcard := card_insert hnew ⟨r.next⟩
      have htable : r.table.keys.card = s.size := h.size
      rw [hsize, ← htable]
      exact hcard
    · rw [hsize, ← h.next]

/-- **A call has the same answer**, and leaves a registry that keeps the scope after it. -/
theorem Keeps.call (h : r.Keeps s) (call : Scope.Call) :
    (Registry.call call r).1 = (call.run s).1 ∧ (Registry.call call r).2.Keeps (call.run s).2 := by
  cases call with
  | bind key =>
      obtain ⟨hanswer, hkeeps⟩ := h.bind key
      exact ⟨congrArg Scope.Answer.given hanswer, hkeeps⟩
  | find key => exact ⟨congrArg Scope.Answer.found (h.find? key), h⟩
  | contains key => exact ⟨congrArg Scope.Answer.bound (h.contains key), h⟩
  | reset => exact ⟨rfl, keeps_empty⟩

/-- Calls one after the other have the same answers. -/
theorem Keeps.run (h : r.Keeps s) (calls : List Scope.Call) :
    (Registry.run calls r).1 = (Scope.run calls s).1 ∧
      (Registry.run calls r).2.Keeps (Scope.run calls s).2 := by
  induction calls generalizing r s with
  | nil => exact ⟨rfl, h⟩
  | cons call calls ih =>
      obtain ⟨hanswer, hkeeps⟩ := h.call call
      obtain ⟨hanswers, hlast⟩ := ih hkeeps
      rw [run_cons, Scope.run_cons, hanswer, hanswers]
      exact ⟨rfl, hlast⟩

/-! ## Table and counter -/

/-- **The table and the counter are in step.** -/
structure InStep (r : Registry) : Prop where
  /-- The counter is the number of keys in the table. -/
  counter : r.next = r.size
  /-- Exactly the numbers below the counter are given. -/
  dense : ∀ v : Variable, (∃ key, r.find? key = some v) ↔ v.ordinal < r.next
  /-- No number is given twice. -/
  injective : ∀ key other v, r.find? key = some v → r.find? other = some v → key = other

/-- A registry that keeps a scope is in step. -/
theorem Keeps.inStep (h : r.Keeps s) : r.InStep where
  counter := h.next.trans h.size.symm
  dense v := by
    simp only [h.find?, h.next]
    exact Scope.exists_find?_iff s v
  injective key other v hkey hother := by
    rw [h.find?] at hkey hother
    exact Scope.find?_injective hkey hother

/-- **The table and the counter stay in step, and behave as a scope**: after any calls from the
beginning, the answers were those of a scope, and the registry keeps the scope after these calls. -/
theorem keeps_run (calls : List Scope.Call) :
    (run calls .empty).1 = (Scope.run calls .empty).1 ∧
      (run calls .empty).2.Keeps (Scope.run calls .empty).2 ∧ (run calls .empty).2.InStep := by
  obtain ⟨hanswers, hkeeps⟩ := keeps_empty.run calls
  exact ⟨hanswers, hkeeps, hkeeps.inStep⟩

end Registry

end GraphImport
