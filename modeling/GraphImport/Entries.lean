/-!
# Ordered entries

Key–value pairs in the order in which their keys first appeared. Writing to a key that is present
replaces its value where it stands, so every key occurs once and the order is that of the first
writes.

* `Entries.insert` — writes one pair.
* `Entries.find?` — the value of a key.
* `Entries.keys` — the keys, in order; `keys_insert` and `nodup_keys_insert` say what writing does
  to them.
-/

namespace GraphImport

/-- Pairs of a key and a value, in order. -/
abbrev Entries (α : Type) := List (String × α)

namespace Entries

variable {α : Type}

/-- Writes a value: in place when the key is present, at the end when it is new. -/
def insert (key : String) (value : α) : Entries α → Entries α
  | [] => [(key, value)]
  | (k, v) :: rest => if k = key then (key, value) :: rest else (k, v) :: insert key value rest

/-- The value of a key. -/
def find? (key : String) : Entries α → Option α
  | [] => none
  | (k, v) :: rest => if k = key then some v else find? key rest

/-- The keys, in order. -/
def keys (entries : Entries α) : List String := entries.map fun entry => entry.1

@[simp] theorem keys_nil : keys ([] : Entries α) = [] := rfl

@[simp] theorem keys_cons (entry : String × α) (rest : Entries α) :
    keys (entry :: rest) = entry.1 :: keys rest := rfl

/-- Writing leaves the keys as they are, with a new key at the end. -/
theorem keys_insert (key : String) (value : α) (entries : Entries α) :
    keys (insert key value entries) =
      if key ∈ keys entries then keys entries else keys entries ++ [key] := by
  induction entries with
  | nil => simp [insert]
  | cons entry rest ih =>
    obtain ⟨k, v⟩ := entry
    by_cases h : k = key
    · simp [insert, h]
    · have h' : key ≠ k := fun e => h e.symm
      simp only [insert, if_neg h, keys_cons, ih, List.mem_cons, h', false_or]
      split <;> rfl

/-- Writing brings no key twice. -/
theorem nodup_keys_insert {key : String} {value : α} {entries : Entries α}
    (h : (keys entries).Nodup) : (keys (insert key value entries)).Nodup := by
  rw [keys_insert]
  split
  · exact h
  · rename_i new
    rw [List.nodup_append]
    refine ⟨h, by simp, fun a ha b hb => ?_⟩
    rw [List.mem_singleton.1 hb]
    exact fun e => new (e ▸ ha)

end Entries

end GraphImport
