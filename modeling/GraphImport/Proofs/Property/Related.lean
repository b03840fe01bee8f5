import GraphImport.Proofs.Property.Selection
import Mathlib.Data.List.Forall2

/-!
# Related entries

Entries that agree in their keys, one by one, and whose values are related. Looking up and writing
under a key keeps the relation.

* `rel_getElem?` — places of related lists; `exists_right` and `exists_left` take what is found apart.
* `Entries.Related` — entries with the same keys and related values.
* `Entries.Related.find?`, `Entries.Related.insert` — looking up and writing.
* `Properties.insertAll` — writes pairs one after the other.
* `Properties.entries_ofPairs` — pairs under different keys are written as they are.
-/

namespace GraphImport

/-! ## Optional values -/

section

variable {α β : Type} {Q : α → β → Prop} {found : Option α} {found' : Option β}

/-- What is there on the left has a related value on the right. -/
theorem exists_right (h : Option.Rel Q found found') {value : α} (hfound : found = some value) :
    ∃ value', found' = some value' ∧ Q value value' := by
  cases h with
  | none => exact nomatch hfound
  | some hvalue =>
      cases hfound
      exact ⟨_, rfl, hvalue⟩

/-- What is there on the right has a related value on the left. -/
theorem exists_left (h : Option.Rel Q found found') {value' : β} (hfound : found' = some value') :
    ∃ value, found = some value ∧ Q value value' := by
  cases h with
  | none => exact nomatch hfound
  | some hvalue =>
      cases hfound
      exact ⟨_, rfl, hvalue⟩

/-- In one place of related lists there are related items, or none. -/
theorem rel_getElem? {items : List α} {items' : List β} (h : List.Forall₂ Q items items') (i : Nat) :
    Option.Rel Q items[i]? items'[i]? := by
  induction h generalizing i with
  | nil => exact .none
  | cons hitem _ ih =>
      cases i with
      | zero => exact .some hitem
      | succ i => exact ih i

end

/-! ## Entries -/

namespace Entries

variable {α β : Type} {Q : α → β → Prop}

/-- **Entries with the same keys and related values**, one by one. -/
def Related (Q : α → β → Prop) (entries : Entries α) (entries' : Entries β) : Prop :=
  List.Forall₂ (fun entry entry' => entry.1 = entry'.1 ∧ Q entry.2 entry'.2) entries entries'

namespace Related

variable {entries : Entries α} {entries' : Entries β}

/-- The keys are the same and the values are related. -/
theorem iff_keys_values : Related Q entries entries' ↔
    entries.keys = entries'.keys ∧
      List.Forall₂ Q (entries.map Prod.snd) (entries'.map Prod.snd) := by
  unfold Related
  induction entries generalizing entries' with
  | nil =>
      cases entries' with
      | nil => simp
      | cons entry' rest' => simp
  | cons entry rest ih =>
      cases entries' with
      | nil => simp
      | cons entry' rest' =>
          rw [List.forall₂_cons, ih, keys_cons, keys_cons, List.cons.injEq, List.map_cons,
            List.map_cons, List.forall₂_cons, and_and_and_comm]

/-- Under one key related values are found, or none. -/
theorem find? (h : Related Q entries entries') (key : String) :
    Option.Rel Q (entries.find? key) (entries'.find? key) := by
  induction h with
  | nil => exact .none
  | @cons entry entry' rest rest' hentry _ ih =>
      obtain ⟨k, v⟩ := entry
      obtain ⟨k', v'⟩ := entry'
      obtain ⟨rfl, hvalue⟩ := hentry
      unfold Entries.find?
      by_cases hk : k = key
      · rw [if_pos hk, if_pos hk]
        exact .some hvalue
      · rw [if_neg hk, if_neg hk]
        exact ih

/-- Writing related values under a key keeps entries related. -/
theorem insert (h : Related Q entries entries') (key : String) {value : α} {value' : β}
    (hvalue : Q value value') :
    Related Q (entries.insert key value) (entries'.insert key value') := by
  induction h with
  | nil => exact .cons ⟨rfl, hvalue⟩ .nil
  | @cons entry entry' rest rest' hentry hrest ih =>
      obtain ⟨k, v⟩ := entry
      obtain ⟨k', v'⟩ := entry'
      obtain ⟨rfl, hv⟩ := hentry
      unfold Entries.insert
      by_cases hk : k = key
      · rw [if_pos hk, if_pos hk]
        exact .cons ⟨rfl, hvalue⟩ hrest
      · rw [if_neg hk, if_neg hk]
        exact .cons ⟨rfl, hv⟩ ih

end Related

end Entries

namespace Properties

/-- Writes pairs one after the other to properties. -/
def insertAll (p : Properties) (pairs : List (String × Value)) : Properties :=
  pairs.foldl (fun p pair => p.insert pair.1 pair.2) p

theorem insertAll_cons (p : Properties) (pair : String × Value) (rest : List (String × Value)) :
    p.insertAll (pair :: rest) = (p.insert pair.1 pair.2).insertAll rest := rfl

/-- Pairs under new keys are written behind the others. -/
theorem entries_insertAll_of_nodup {pairs : Entries Value} {p : Properties}
    (h : (p.entries.keys ++ pairs.keys).Nodup) :
    (p.insertAll pairs).entries = p.entries ++ pairs := by
  induction pairs generalizing p with
  | nil => exact (List.append_nil _).symm
  | cons pair rest ih =>
      obtain ⟨key, value⟩ := pair
      have hnew : key ∉ p.entries.keys := by
        intro hmem
        exact (List.nodup_append.mp h).2.2 key hmem key List.mem_cons_self rfl
      have hentries : (p.insert key value).entries = p.entries ++ [(key, value)] :=
        Entries.insert_of_not_mem hnew
      have hkeys : ((p.insert key value).entries.keys ++ Entries.keys rest).Nodup := by
        rw [hentries]
        simpa [Entries.keys] using h
      rw [insertAll_cons, ih hkeys, hentries, List.append_assoc, List.singleton_append]

/-- **Pairs under different keys** are written as they are. -/
theorem entries_ofPairs {pairs : Entries Value} (h : pairs.keys.Nodup) :
    (ofPairs pairs).entries = pairs := entries_insertAll_of_nodup h

end Properties

end GraphImport
