import GraphImport.Property.Properties

/-!
# Selected properties

Selecting properties by their keys looks at keys only: it takes entries as they are, and it fails
on the same key whatever the values are.

* `Properties.All` — a condition on all entries.
* `Properties.mapValues` — changes all values, with `Properties.select_mapValues`.
* `Properties.restricted` — the entries of some keys, with `Properties.entries_select`.
-/

namespace GraphImport

namespace Entries

variable {α β : Type}

/-- What is found is an entry. -/
theorem mem_of_find? {key : String} {value : α} {entries : Entries α}
    (h : entries.find? key = some value) : (key, value) ∈ entries := by
  induction entries with
  | nil => exact nomatch h
  | cons entry rest ih =>
      obtain ⟨k, v⟩ := entry
      unfold find? at h
      by_cases hk : k = key
      · rw [if_pos hk] at h
        cases h
        exact hk ▸ List.mem_cons_self
      · rw [if_neg hk] at h
        exact List.mem_cons_of_mem _ (ih h)

/-- An entry is found under its key when no key stands twice. -/
theorem find?_of_mem {key : String} {value : α} {entries : Entries α} (hnodup : entries.keys.Nodup)
    (h : (key, value) ∈ entries) : entries.find? key = some value := by
  induction entries with
  | nil => exact absurd h List.not_mem_nil
  | cons entry rest ih =>
      obtain ⟨k, v⟩ := entry
      rw [keys_cons, List.nodup_cons] at hnodup
      unfold find?
      rcases List.mem_cons.mp h with heq | hrest
      · cases heq
        exact if_pos rfl
      · have hkey : key ∈ keys rest := List.mem_map_of_mem hrest
        have hne : k ≠ key := by
          rintro rfl
          exact hnodup.1 hkey
        rw [if_neg hne]
        exact ih hnodup.2 hrest

/-- What is found is the value of one of the keys. -/
theorem isSome_find? {key : String} {entries : Entries α} :
    (entries.find? key).isSome = true ↔ key ∈ entries.keys := by
  induction entries with
  | nil => simp [find?]
  | cons entry rest ih =>
      obtain ⟨k, v⟩ := entry
      unfold find?
      by_cases hk : k = key
      · simp [hk]
      · rw [if_neg hk, ih, keys_cons, List.mem_cons]
        exact ⟨.inr, fun h => h.resolve_left (Ne.symm hk)⟩

/-- Writing brings one entry. -/
theorem mem_insert {key : String} {value : α} {entries : Entries α} {entry : String × α}
    (h : entry ∈ entries.insert key value) : entry = (key, value) ∨ entry ∈ entries := by
  induction entries with
  | nil => exact .inl (List.mem_singleton.mp h)
  | cons first rest ih =>
      obtain ⟨k, v⟩ := first
      unfold insert at h
      by_cases hk : k = key
      · rw [if_pos hk] at h
        rcases List.mem_cons.mp h with h | h
        · exact .inl h
        · exact .inr (List.mem_cons_of_mem _ h)
      · rw [if_neg hk] at h
        rcases List.mem_cons.mp h with h | h
        · exact .inr (h ▸ List.mem_cons_self)
        · rcases ih h with h | h
          · exact .inl h
          · exact .inr (List.mem_cons_of_mem _ h)

/-- Writing what is there already changes nothing. -/
theorem insert_of_find? {key : String} {value : α} {entries : Entries α}
    (h : entries.find? key = some value) : entries.insert key value = entries := by
  induction entries with
  | nil => exact nomatch h
  | cons entry rest ih =>
      obtain ⟨k, v⟩ := entry
      unfold find? at h
      unfold insert
      by_cases hk : k = key
      · rw [if_pos hk] at h
        cases h
        rw [if_pos hk, hk]
      · rw [if_neg hk] at h
        rw [if_neg hk, ih h]

/-- A new key is written at the end. -/
theorem insert_of_not_mem {key : String} {value : α} {entries : Entries α}
    (h : key ∉ entries.keys) : entries.insert key value = entries ++ [(key, value)] := by
  induction entries with
  | nil => rfl
  | cons entry rest ih =>
      obtain ⟨k, v⟩ := entry
      rw [keys_cons, List.mem_cons, not_or] at h
      unfold insert
      rw [if_neg (Ne.symm h.1), ih h.2]
      rfl

/-- There is something where something was written. -/
theorem insert_ne_nil (key : String) (value : α) (entries : Entries α) :
    entries.insert key value ≠ [] := by
  cases entries with
  | nil => exact List.cons_ne_nil _ _
  | cons entry rest =>
      unfold insert
      split
      · exact List.cons_ne_nil _ _
      · exact List.cons_ne_nil _ _

/-- What was written is found. -/
theorem find?_insert_self (key : String) (value : α) (entries : Entries α) :
    (entries.insert key value).find? key = some value := by
  induction entries with
  | nil => exact if_pos rfl
  | cons first rest ih =>
      obtain ⟨k, v⟩ := first
      unfold insert
      by_cases hk : k = key
      · rw [if_pos hk]
        exact if_pos rfl
      · rw [if_neg hk]
        exact (if_neg hk).trans ih

/-- Writing changes nothing under other keys. -/
theorem find?_insert_of_ne {key other : String} (hne : other ≠ key) (value : α)
    (entries : Entries α) : (entries.insert key value).find? other = entries.find? other := by
  induction entries with
  | nil => exact if_neg (Ne.symm hne)
  | cons first rest ih =>
      obtain ⟨k, v⟩ := first
      unfold insert
      by_cases hk : k = key
      · have hother : k ≠ other := fun heq => hne (heq.symm.trans hk)
        rw [if_pos hk]
        exact (if_neg (Ne.symm hne)).trans (if_neg hother).symm
      · rw [if_neg hk]
        unfold find?
        rw [ih]

/-- The entries with changed values. -/
def mapValues (f : α → β) (entries : Entries α) : Entries β :=
  entries.map fun entry => (entry.1, f entry.2)

variable (f : α → β)

@[simp] theorem keys_mapValues (entries : Entries α) : (entries.mapValues f).keys = entries.keys := by
  unfold mapValues keys
  rw [List.map_map]
  rfl

/-- What is found among changed values is the changed value. -/
theorem find?_mapValues (key : String) (entries : Entries α) :
    (entries.mapValues f).find? key = (entries.find? key).map f := by
  induction entries with
  | nil => rfl
  | cons entry rest ih =>
      obtain ⟨k, v⟩ := entry
      change (if k = key then some (f v) else find? key (mapValues f rest)) =
        (if k = key then some v else find? key rest).map f
      rw [ih]
      split <;> rfl

/-- Writing a changed value is changing the value that was written. -/
theorem insert_mapValues (key : String) (value : α) (entries : Entries α) :
    (entries.mapValues f).insert key (f value) = (entries.insert key value).mapValues f := by
  induction entries with
  | nil => rfl
  | cons entry rest ih =>
      obtain ⟨k, v⟩ := entry
      change (if k = key then (key, f value) :: mapValues f rest
        else (k, f v) :: insert key (f value) (mapValues f rest)) =
          mapValues f (if k = key then (key, value) :: rest else (k, v) :: insert key value rest)
      rw [ih]
      split <;> rfl

end Entries

namespace Properties

/-- Properties are the same when their entries are. -/
theorem eq_of_entries {p q : Properties} (h : p.entries = q.entries) : p = q := by
  cases p
  cases q
  cases h
  rfl

/-! ## Conditions on entries -/

/-- All entries meet the condition. -/
def All (P : String × Value → Prop) (p : Properties) : Prop := ∀ entry ∈ p.entries, P entry

variable {p : Properties}

/-! ## Changed values -/

/-- The properties with changed values. -/
def mapValues (f : Value → Value) (p : Properties) : Properties where
  entries := p.entries.mapValues f
  nodup := by
    rw [Entries.keys_mapValues]
    exact p.nodup

/-- Selecting changed values is changing selected values. -/
theorem selectInto_mapValues (f : Value → Value) (p picked : Properties) (keys : List String) :
    (p.mapValues f).selectInto (picked.mapValues f) keys =
      (p.selectInto picked keys).map (mapValues f) := by
  induction keys generalizing picked with
  | nil => rfl
  | cons key keys ih =>
      have hget : (p.mapValues f).get? key = (p.get? key).map f := Entries.find?_mapValues f key _
      unfold selectInto
      rw [hget]
      cases p.get? key with
      | none => rfl
      | some value =>
          have hinsert : (picked.mapValues f).insert key (f value) =
              (picked.insert key value).mapValues f :=
            eq_of_entries (Entries.insert_mapValues f key value picked.entries)
          dsimp only [Option.map_some]
          rw [hinsert]
          exact ih _

/-- **Selecting looks at keys only.** -/
theorem select_mapValues (f : Value → Value) (p : Properties) (keys : List String) :
    (p.mapValues f).select keys = (p.select keys).map (mapValues f) :=
  selectInto_mapValues f p empty keys

/-! ## Selected entries -/

/-- The entries of some keys: each key where it first stands in the list. -/
def restricted (p : Properties) (keys : List String) : Entries Value :=
  keys.eraseDups.filterMap fun key => (p.get? key).map fun value => (key, value)

/-- Restricted properties have no other entries. -/
theorem mem_of_mem_restricted {keys : List String} {entry : String × Value}
    (h : entry ∈ p.restricted keys) : entry ∈ p.entries := by
  obtain ⟨key, -, hentry⟩ := List.mem_filterMap.mp h
  obtain ⟨value, hvalue, rfl⟩ := Option.map_eq_some_iff.mp hentry
  exact Entries.mem_of_find? hvalue

/-- Entries that are picked already stand before those of the other keys. -/
theorem entries_selectInto {p picked q : Properties} {keys : List String}
    (hpicked : picked.All (· ∈ p.entries)) (h : p.selectInto picked keys = .ok q) :
    q.entries =
      picked.entries ++ p.restricted (keys.filter fun key => decide (key ∉ picked.entries.keys)) := by
  induction keys generalizing picked with
  | nil =>
      cases h
      exact (List.append_nil _).symm
  | cons key keys ih =>
      unfold selectInto at h
      cases hvalue : p.get? key with
      | none =>
          simp only [hvalue] at h
          exact nomatch h
      | some value =>
          simp only [hvalue] at h
          have hentry : (key, value) ∈ p.entries := Entries.mem_of_find? hvalue
          have hall : (picked.insert key value).All (· ∈ p.entries) := fun entry hmem => by
            rcases Entries.mem_insert hmem with rfl | hmem
            · exact hentry
            · exact hpicked entry hmem
          rw [ih hall h]
          by_cases hkey : key ∈ picked.entries.keys
          · -- The key has its value already, so nothing is written.
            have hfind : picked.entries.find? key = some value := by
              obtain ⟨own, hown⟩ := Option.isSome_iff_exists.mp (Entries.isSome_find?.mpr hkey)
              have hmem := hpicked _ (Entries.mem_of_find? hown)
              have hsame : some own = some value :=
                (Entries.find?_of_mem p.nodup hmem).symm.trans hvalue
              rwa [hsame] at hown
            have hinsert : (picked.insert key value).entries = picked.entries :=
              Entries.insert_of_find? hfind
            rw [hinsert, List.filter_cons_of_neg (by simpa using hkey)]
          · have hinsert : (picked.insert key value).entries = picked.entries ++ [(key, value)] :=
              Entries.insert_of_not_mem hkey
            have hkeys : (picked.insert key value).entries.keys = picked.entries.keys ++ [key] := by
              rw [hinsert]
              exact List.map_append
            have hrest : (keys.filter fun k => decide (k ∉ (picked.insert key value).entries.keys)) =
                (keys.filter fun k => decide (k ∉ picked.entries.keys)).filter
                  fun k => !(k == key) := by
              rw [hkeys, List.filter_filter]
              refine List.filter_congr fun k _ => Bool.eq_iff_iff.mpr ?_
              simp [not_or, and_comm]
            rw [hrest, hinsert, List.filter_cons_of_pos (by simpa using hkey), List.append_assoc]
            unfold restricted
            rw [List.eraseDups_cons, List.filterMap_cons, hvalue]
            rfl

/-- **Selected properties are the entries of the keys**, in the order in which the keys first stand
in the list. -/
theorem entries_select {p q : Properties} {keys : List String} (h : p.select keys = .ok q) :
    q.entries = p.restricted keys := by
  have hinto := entries_selectInto (fun _ hentry => absurd hentry List.not_mem_nil) h
  have hkeys : (keys.filter fun key => decide (key ∉ empty.entries.keys)) = keys :=
    List.filter_eq_self.mpr fun key _ => decide_eq_true List.not_mem_nil
  rwa [hkeys] at hinto

end Properties

end GraphImport
