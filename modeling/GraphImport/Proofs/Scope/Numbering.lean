import GraphImport.Proofs.Scope.Growth
import Mathlib.Data.Finset.Card

/-!
# How keys are numbered

A scope numbers its keys in the order of their first requests. So its whole content is told by the
requests since the last reset: which keys they name, and how many others they name before each of
them. What else is asked of a scope leaves it as it is, and a reset leaves nothing of what was
before.

* `Scope.requesting` — the scope after requests one after the other.
* `Scope.numberIn` — the number of a key, told by requests, with `Scope.find?_requesting`.
* `Scope.NumberedBy` — a scope is numbered by requests, with `Scope.numberedBy_requesting`.
* `Scope.Call`, `Scope.run` — calls to a scope one after the other, with their answers.
* `Scope.requested` — the requests among the calls, with `Scope.run_eq_requesting`.
* `scope_numbered_by_requests` — what a scope holds after any calls.
-/

namespace GraphImport

namespace Scope

variable {s : Scope} {key : Nat} {requests : List Nat}

/-! ## Requests -/

/-- The scope in which these keys were requested one after the other. -/
def requesting (requests : List Nat) : Scope := requests.foldl extend empty

theorem requesting_append (requests others : List Nat) :
    requesting (requests ++ others) = others.foldl extend (requesting requests) := List.foldl_append

/-- One more request. -/
theorem requesting_concat (requests : List Nat) (key : Nat) :
    requesting (requests ++ [key]) = (requesting requests).extend key :=
  requesting_append requests [key]

/-- Further requests leave what is bound. -/
theorem extendedBy_requesting_append (requests others : List Nat) :
    (requesting requests).ExtendedBy (requesting (requests ++ others)) := by
  rw [requesting_append]
  generalize requesting requests = s
  induction others generalizing s with
  | nil => exact .refl s
  | cons key rest ih => exact (s.extendedBy_extend key).trans (ih _)

/-- **Exactly the keys that were requested are bound.** -/
theorem mem_requesting : key ∈ (requesting requests).keys ↔ key ∈ requests := by
  induction requests using List.reverseRecOn with
  | nil => exact Iff.rfl
  | append_singleton requests last ih =>
      rw [requesting_concat, mem_extend_iff, ih, List.mem_append, List.mem_singleton]

/-- As many keys are bound as different ones were requested. -/
theorem size_requesting (requests : List Nat) :
    (requesting requests).size = requests.toFinset.card := by
  have hsame : (requesting requests).keys.toFinset = requests.toFinset := by
    ext key
    rw [List.mem_toFinset, List.mem_toFinset, mem_requesting]
  rw [← hsame, List.toFinset_card_of_nodup (requesting requests).nodup]
  rfl

/-- A new key gets the first number that is free. -/
theorem find?_extend_of_not_mem (h : key ∉ s.keys) : (s.extend key).find? key = some ⟨s.size⟩ := by
  rw [find?_of_mem (mem_extend s key), keys_extend, if_neg h, List.idxOf_append_of_notMem h,
    List.idxOf_cons_self, Nat.add_zero]
  rfl

/-- A request gives what is found afterwards. -/
theorem find?_extend_self (s : Scope) (key : Nat) :
    (s.extend key).find? key = some (s.bind key).1 := find?_of_mem (mem_extend s key)

/-! ## Numbers -/

/-- **The number of a key by the requests**: how many different keys are requested before it is
requested first. All of them are before a key that is not requested. -/
def numberIn (requests : List Nat) (key : Nat) : Nat :=
  (requests.takeWhile fun other => other != key).toFinset.card

/-- Requests of other keys in front all count. -/
theorem numberIn_append {before : List Nat} (h : key ∉ before) (after : List Nat) :
    numberIn (before ++ after) key =
      (before ++ after.takeWhile fun other => other != key).toFinset.card := by
  have hbefore : ∀ other ∈ before, (other != key) = true := fun other hother =>
    bne_iff_ne.mpr fun heq => h (heq ▸ hother)
  unfold numberIn
  rw [List.takeWhile_append_of_pos hbefore]

/-- A key that is not requested has all requests before it. -/
theorem numberIn_of_not_mem (h : key ∉ requests) :
    numberIn requests key = requests.toFinset.card := by
  have hall := numberIn_append h []
  rwa [List.takeWhile_nil, List.append_nil] at hall

/-- **A key gets its number at its first request and keeps it.** -/
theorem find?_requesting (h : key ∈ requests) :
    (requesting requests).find? key = some ⟨numberIn requests key⟩ := by
  obtain ⟨before, after, rfl, hbefore⟩ := List.eq_append_cons_of_mem h
  -- At its first request the key is new, and as many keys are bound as are named before it.
  have hnew : key ∉ (requesting before).keys := mt mem_requesting.mp hbefore
  have hfirst : (requesting (before ++ [key])).find? key = some ⟨before.toFinset.card⟩ := by
    rw [requesting_concat, find?_extend_of_not_mem hnew, size_requesting]
  have hkept := extendedBy_requesting_append (before ++ [key]) after
  rw [List.append_assoc, List.singleton_append] at hkept
  rw [numberIn_append hbefore, List.takeWhile_cons_of_neg (by simp), List.append_nil]
  exact hkept.find? hfirst

/-- A request gives the number by the requests before it. -/
theorem bind_requesting (requests : List Nat) (key : Nat) :
    ((requesting requests).bind key).1 = ⟨numberIn requests key⟩ := by
  apply Option.some.inj
  rw [← find?_extend_self]
  by_cases h : key ∈ requests
  · rw [extend_of_mem (mem_requesting.mpr h), find?_requesting h]
  · rw [find?_extend_of_not_mem (mt mem_requesting.mp h), numberIn_of_not_mem h, size_requesting]

/-- **The numbers have no gap**: exactly those below the size are given. -/
theorem exists_find?_iff (s : Scope) (v : Variable) :
    (∃ key, s.find? key = some v) ↔ v.ordinal < s.size := by
  constructor
  · rintro ⟨key, hkey⟩
    have hmem := mem_of_find? hkey
    rw [find?_of_mem hmem] at hkey
    cases hkey
    exact List.idxOf_lt_length_of_mem hmem
  · intro hlt
    have hplace : v.ordinal < s.keys.length := hlt
    refine ⟨s.keys[v.ordinal], ?_⟩
    rw [find?_of_mem (List.getElem_mem hplace), s.nodup.idxOf_getElem v.ordinal hplace]

/-- **The scope is numbered by the requests.** -/
structure NumberedBy (s : Scope) (requests : List Nat) : Prop where
  /-- Exactly the keys that were requested are bound. -/
  contains : ∀ key, s.contains key = true ↔ key ∈ requests
  /-- Each of them has its number, and no other key has one. -/
  find? : ∀ key, s.find? key = if key ∈ requests then some ⟨numberIn requests key⟩ else none
  /-- Two keys with one variable are the same. -/
  injective : ∀ key other v, s.find? key = some v → s.find? other = some v → key = other
  /-- The numbers have no gap. -/
  dense : ∀ v : Variable, (∃ key, s.find? key = some v) ↔ v.ordinal < s.size
  /-- The size is the number of different keys. -/
  size : s.size = requests.toFinset.card
  /-- A further request gives the number of its key. -/
  bind : ∀ key, (s.bind key).1 = ⟨numberIn requests key⟩
  /-- The size is also the number that the next new key gets. -/
  next : ∀ key, key ∉ requests → (s.bind key).1 = ⟨s.size⟩

/-- **A scope is numbered by what was requested in it.** -/
theorem numberedBy_requesting (requests : List Nat) :
    (requesting requests).NumberedBy requests where
  contains key := contains_iff.trans mem_requesting
  find? key := by
    split_ifs with h
    · exact find?_requesting h
    · exact if_neg (mt mem_requesting.mp h)
  injective _ _ _ := find?_injective
  dense := exists_find?_iff _
  size := size_requesting requests
  bind := bind_requesting requests
  next key h := by rw [bind_requesting, numberIn_of_not_mem h, size_requesting]

/-! ## Calls -/

/-- A call to a scope. -/
inductive Call where
  /-- The variable of a key is requested. -/
  | bind (key : Nat)
  /-- The variable of a key is looked up. -/
  | find (key : Nat)
  /-- It is asked whether a key is bound. -/
  | contains (key : Nat)
  /-- All keys are forgotten. -/
  | reset

/-- What a call gives. -/
inductive Answer where
  /-- The variable of a key. -/
  | given (v : Variable)
  /-- The variable of a key, if it is bound. -/
  | found (v : Option Variable)
  /-- Whether a key is bound. -/
  | bound (b : Bool)
  /-- Nothing. -/
  | done
deriving DecidableEq

/-- The answer to a call, and the scope after it. -/
def Call.run : Call → Scope → Answer × Scope
  | bind key, s => (.given (s.bind key).1, (s.bind key).2)
  | find key, s => (.found (s.find? key), s)
  | contains key, s => (.bound (s.contains key), s)
  | reset, _ => (.done, .empty)

/-- The answers to calls one after the other, and the scope after them. -/
def run : List Call → Scope → List Answer × Scope
  | [], s => ([], s)
  | call :: calls, s =>
    let (answer, next) := call.run s
    let (answers, last) := run calls next
    (answer :: answers, last)

/-- The requests that count after a call: a reset forgets them. -/
def Call.record (requests : List Nat) : Call → List Nat
  | bind key => requests ++ [key]
  | find _ => requests
  | contains _ => requests
  | reset => []

/-- The keys that were requested since the last reset, in order. -/
def requested (calls : List Call) : List Nat := calls.foldl Call.record []

theorem run_cons (call : Call) (calls : List Call) (s : Scope) :
    run (call :: calls) s =
      ((call.run s).1 :: (run calls (call.run s).2).1, (run calls (call.run s).2).2) := rfl

/-- Calls behind others are made in the scope that these leave. -/
theorem run_append (calls others : List Call) (s : Scope) :
    run (calls ++ others) s =
      ((run calls s).1 ++ (run others (run calls s).2).1, (run others (run calls s).2).2) := by
  induction calls generalizing s with
  | nil => rfl
  | cons call calls ih => rw [List.cons_append, run_cons, run_cons, ih, List.cons_append]

/-- A call leaves the scope of the requests that count after it. -/
theorem Call.run_requesting (call : Call) (requests : List Nat) :
    (call.run (requesting requests)).2 = requesting (call.record requests) := by
  cases call with
  | bind key => exact (requesting_concat requests key).symm
  | find key => rfl
  | contains key => rfl
  | reset => rfl

/-- **Calls leave the scope of the requests that count after them.** -/
theorem run_eq_requesting (calls : List Call) :
    (run calls .empty).2 = requesting (requested calls) := by
  induction calls using List.reverseRecOn with
  | nil => rfl
  | append_singleton calls last ih =>
      unfold requested at ih ⊢
      rw [run_append, ih, List.foldl_append]
      exact last.run_requesting _

end Scope

/-- **A scope is numbered by its requests**, whatever else is called: after any calls, its keys are
those that were requested since the last reset, each with the number of different keys that were
requested before. Looking up changes nothing, and after a reset everything is answered as in the
beginning. -/
theorem scope_numbered_by_requests (calls : List Scope.Call) :
    (Scope.run calls .empty).2.NumberedBy (Scope.requested calls) ∧
      (∀ key, (Scope.run (calls ++ [.find key]) .empty).2 = (Scope.run calls .empty).2 ∧
        (Scope.run (calls ++ [.contains key]) .empty).2 = (Scope.run calls .empty).2) ∧
      ∀ later, Scope.run (calls ++ .reset :: later) .empty =
        ((Scope.run calls .empty).1 ++ .done :: (Scope.run later .empty).1,
          (Scope.run later .empty).2) := by
  refine ⟨?_, fun key => ⟨?_, ?_⟩, fun later => ?_⟩
  · rw [Scope.run_eq_requesting]
    exact Scope.numberedBy_requesting _
  · rw [Scope.run_append]
    rfl
  · rw [Scope.run_append]
    rfl
  · rw [Scope.run_append]
    rfl

/-- Keys are numbered by their first requests after the reset, not by their order. -/
example :
    (Scope.run [.bind 4, .reset, .bind 9, .find 4, .bind 2, .bind 9, .contains 2, .bind 4]
      .empty).1 =
        [.given ⟨0⟩, .done, .given ⟨0⟩, .found none, .given ⟨1⟩, .given ⟨0⟩, .bound true,
          .given ⟨2⟩] := by decide

end GraphImport
