import GraphImport.Proofs.Json.Unmerged
import GraphImport.Proofs.Property.Related
import Mathlib.Data.Finset.Card

/-!
# The order of insertion

Entries that are written one after the other stand in the order in which their keys were first
written, whatever is written again in between: a key that comes again keeps its place. What stands
under a key is what was written last.

* `FirstNamed` — the keys of a list, each where it is first named, with `FirstNamed.unique`.
* `FirstNamed.insert`, `FirstNamed.insertAll` — writing one pair, and writing pairs one after the
  other.
* `Entries.exists_find?_insertAll` — the value of a name is the one that was written last.
* `Entries.eq_of_find?` — entries with the same keys in the same order and the same values.
* `Properties.WrittenBy` — properties are what is left of pairs.
* `properties_in_insertion_order` — properties after any writing.
-/

namespace GraphImport

/-- **The keys that a list names, each where it is first named**: all of them, and a key that is first
named before another stands before it. -/
structure FirstNamed (named keys : List String) : Prop where
  /-- The keys are those that are named. -/
  mem : ∀ key, key ∈ keys ↔ key ∈ named
  /-- They stand in the order of their first places. -/
  order : keys.Pairwise fun key other => named.idxOf key < named.idxOf other

namespace FirstNamed

variable {named keys keys' : List String}

theorem nil : FirstNamed [] [] := ⟨fun _ => Iff.rfl, .nil⟩

/-- No key stands twice. -/
theorem nodup (h : FirstNamed named keys) : keys.Nodup :=
  h.order.imp fun hlt heq => Nat.ne_of_lt hlt (congrArg (List.idxOf · named) heq)

/-- There is only one such list of keys. -/
theorem unique (h : FirstNamed named keys) (h' : FirstNamed named keys') : keys = keys' := by
  have hperm : keys.Perm keys' :=
    (List.perm_ext_iff_of_nodup h.nodup h'.nodup).mpr fun key => (h.mem key).trans (h'.mem key).symm
  refine hperm.eq_of_pairwise (fun key other _ _ hlt hgt => ?_) h.order h'.order
  exact absurd hgt (Nat.lt_asymm hlt)

/-- Keys without repetition are named in their own order. -/
theorem self (h : keys.Nodup) : FirstNamed keys keys := by
  refine ⟨fun _ => Iff.rfl, List.pairwise_iff_getElem.mpr fun i j hi hj hlt => ?_⟩
  rwa [h.idxOf_getElem i hi, h.idxOf_getElem j hj]

variable {α : Type} {entries : Entries α}

/-- **Writing a pair names one more key**: a new key stands behind the others, and one that comes
again changes no place. -/
theorem insert (h : FirstNamed named entries.keys) (key : String) (value : α) :
    FirstNamed (named ++ [key]) (entries.insert key value).keys := by
  have hplace : ∀ k ∈ entries.keys, (named ++ [key]).idxOf k = named.idxOf k := fun k hk =>
    List.idxOf_append_of_mem ((h.mem k).mp hk)
  have horder : entries.keys.Pairwise fun k other =>
      (named ++ [key]).idxOf k < (named ++ [key]).idxOf other :=
    h.order.imp_of_mem fun hk hother hlt => by rwa [hplace _ hk, hplace _ hother]
  rw [Entries.keys_insert]
  by_cases hkey : key ∈ entries.keys
  · rw [if_pos hkey]
    refine ⟨fun k => ?_, horder⟩
    rw [h.mem, List.mem_append, List.mem_singleton]
    refine ⟨.inl, ?_⟩
    rintro (hk | rfl)
    · exact hk
    · exact (h.mem k).mp hkey
  · rw [if_neg hkey]
    refine ⟨fun k => ?_, List.pairwise_append.mpr ⟨horder, List.pairwise_singleton _ _, ?_⟩⟩
    · rw [List.mem_append, List.mem_append, h.mem]
    · intro k hk other hother
      obtain rfl := List.mem_singleton.mp hother
      have hnew : other ∉ named := mt (h.mem other).mpr hkey
      rw [hplace k hk, List.idxOf_append_of_notMem hnew]
      exact Nat.lt_of_lt_of_le (List.idxOf_lt_length_of_mem ((h.mem k).mp hk))
        (Nat.le_add_right _ _)

/-- **Writing pairs one after the other** leaves the keys in the order in which they were first
named. -/
theorem insertAll (h : FirstNamed named entries.keys) (pairs : List (String × α)) :
    FirstNamed (named ++ pairs.map Prod.fst) (entries.insertAll pairs).keys := by
  induction pairs generalizing named entries with
  | nil => rwa [List.map_nil, List.append_nil]
  | cons pair rest ih =>
      have hrest := ih (h.insert pair.1 pair.2)
      rwa [List.append_assoc, List.singleton_append] at hrest

/-- Pairs are written in the order in which their keys are first named. -/
theorem ofPairs (pairs : List (String × α)) :
    FirstNamed (pairs.map Prod.fst) (Entries.insertAll [] pairs).keys := by
  have hempty : FirstNamed [] (Entries.keys ([] : Entries α)) := .nil
  exact hempty.insertAll pairs

end FirstNamed

/-! ## Values -/

section

variable {α : Type} {name : String}

/-- The values of a name are those of its pairs. -/
theorem Json.mem_valuesOf {value : α} {pairs : List (String × α)} :
    value ∈ valuesOf name pairs ↔ (name, value) ∈ pairs := by
  unfold valuesOf
  simp only [List.mem_filterMap, Option.ite_none_right_eq_some, Option.some.injEq]
  constructor
  · rintro ⟨pair, hpair, rfl, rfl⟩
    exact hpair
  · exact fun hpair => ⟨_, hpair, rfl, rfl⟩

/-- A name that is written has a last value, and that is found. -/
theorem Entries.exists_find?_insertAll (entries : Entries α) {pairs : List (String × α)}
    (h : name ∈ pairs.map Prod.fst) :
    ∃ value, (name, value) ∈ pairs ∧ (Json.valuesOf name pairs).getLast? = some value ∧
      (entries.insertAll pairs).find? name = some value := by
  obtain ⟨pair, hpair, rfl⟩ := List.mem_map.mp h
  have hne : Json.valuesOf pair.1 pairs ≠ [] :=
    List.ne_nil_of_mem (Json.mem_valuesOf.mpr hpair)
  have hlast := List.getLast?_eq_some_getLast hne
  refine ⟨_, Json.mem_valuesOf.mp (List.getLast_mem hne), hlast, ?_⟩
  rw [Json.find?_insertAll, hlast]
  rfl

/-- Entries with the same keys in the same order and the same values are the same. -/
theorem Entries.eq_of_find? {entries entries' : Entries α} (hnodup : entries.keys.Nodup)
    (hkeys : entries.keys = entries'.keys)
    (hvalues : ∀ key ∈ entries.keys, entries.find? key = entries'.find? key) :
    entries = entries' := by
  induction entries generalizing entries' with
  | nil => exact (List.map_eq_nil_iff.mp hkeys.symm).symm
  | cons entry rest ih =>
      cases entries' with
      | nil => exact nomatch hkeys
      | cons entry' rest' =>
          obtain ⟨key, value⟩ := entry
          obtain ⟨key', value'⟩ := entry'
          rw [keys_cons, keys_cons, List.cons.injEq] at hkeys
          rw [keys_cons, List.nodup_cons] at hnodup
          obtain ⟨rfl, hkeys⟩ := hkeys
          have hfirst := hvalues key List.mem_cons_self
          unfold find? at hfirst
          rw [if_pos rfl, if_pos rfl, Option.some.injEq] at hfirst
          rw [hfirst, ih hnodup.2 hkeys fun other hother => ?_]
          have hne : key ≠ other := fun heq => hnodup.1 (heq ▸ hother)
          have hrest := hvalues other (List.mem_cons_of_mem _ hother)
          unfold find? at hrest
          rwa [if_neg hne, if_neg hne] at hrest

/-- Writing under a key that is there changes its entry and no other. -/
theorem Entries.insert_of_mem {key : String} {entries : Entries α} (hnodup : entries.keys.Nodup)
    (h : key ∈ entries.keys) (value : α) :
    entries.insert key value =
      entries.map fun entry => if entry.1 = key then (key, value) else entry := by
  induction entries with
  | nil => exact absurd h List.not_mem_nil
  | cons entry rest ih =>
      obtain ⟨k, v⟩ := entry
      rw [keys_cons, List.nodup_cons] at hnodup
      rw [keys_cons, List.mem_cons] at h
      rw [insert, List.map_cons]
      by_cases hk : k = key
      · -- The key stands nowhere else, so the other entries stay as they are.
        have hrest : ∀ other ∈ rest, (if other.1 = key then (key, value) else other) = other := by
          intro other hother
          apply if_neg
          intro heq
          apply hnodup.1
          rw [hk, ← heq]
          exact List.mem_map.mpr ⟨other, hother, rfl⟩
        rw [if_pos hk, if_pos hk, List.map_congr_left hrest, List.map_id']
      · rw [if_neg hk, if_neg hk, ih hnodup.2 (h.resolve_left (Ne.symm hk))]

end

/-! ## Properties -/

namespace Properties

/-- The entries of properties are written like all entries. -/
theorem entries_insertAll (p : Properties) (pairs : List (String × Value)) :
    (p.insertAll pairs).entries = p.entries.insertAll pairs := by
  induction pairs generalizing p with
  | nil => rfl
  | cons pair rest ih => exact ih (p.insert pair.1 pair.2)

/-- What is written to collected pairs could have been collected with them. -/
theorem insertAll_ofPairs (collected written : List (String × Value)) :
    (ofPairs collected).insertAll written = ofPairs (collected ++ written) :=
  List.foldl_append.symm

/-- **The properties are what is left of the pairs** that were written one after the other. -/
structure WrittenBy (p : Properties) (pairs : List (String × Value)) : Prop where
  /-- No key stands twice. -/
  nodup : p.entries.keys.Nodup
  /-- The keys are those that were written, in the order in which they were first written. -/
  firstNamed : FirstNamed (pairs.map Prod.fst) p.entries.keys
  /-- Under a key stands what was written last, and nothing if nothing was written. -/
  get? : ∀ key, p.get? key = (Json.valuesOf key pairs).getLast?
  /-- There are as many properties as different keys. -/
  size : p.size = (pairs.map Prod.fst).toFinset.card

/-- **Collected properties are what is left of their pairs.** -/
theorem writtenBy_ofPairs (pairs : List (String × Value)) : (ofPairs pairs).WrittenBy pairs := by
  have hentries : (ofPairs pairs).entries = Entries.insertAll [] pairs :=
    entries_insertAll empty pairs
  have hfirst : FirstNamed (pairs.map Prod.fst) (ofPairs pairs).entries.keys := by
    rw [hentries]
    exact .ofPairs pairs
  refine ⟨(ofPairs pairs).nodup, hfirst, fun key => ?_, ?_⟩
  · unfold Properties.get?
    rw [hentries, Json.find?_insertAll]
    exact Option.or_none
  · have hsame : (ofPairs pairs).entries.keys.toFinset = (pairs.map Prod.fst).toFinset := by
      ext key
      rw [List.mem_toFinset, List.mem_toFinset, hfirst.mem]
    rw [← hsame, List.toFinset_card_of_nodup (ofPairs pairs).nodup]
    exact (List.length_map _).symm

/-- **What writing a pair changes**: the entry of its key, or there is one more entry behind the
others. -/
theorem entries_insert (p : Properties) (key : String) (value : Value) :
    (p.insert key value).entries =
      if key ∈ p.entries.keys then
        p.entries.map fun entry => if entry.1 = key then (key, value) else entry
      else p.entries ++ [(key, value)] := by
  split_ifs with h
  · exact Entries.insert_of_mem p.nodup h value
  · exact Entries.insert_of_not_mem h

end Properties

/-- **Properties keep the order of insertion.** When pairs are collected and others are written to
them, what is left has each key once, in the order in which the keys were first written, with the
value that was written last; so it is too when nothing is collected and all pairs are written. A
further pair changes the value of its key only, or stands behind all others if the key is new. And
the entries can be collected again. -/
theorem properties_in_insertion_order (collected written : List (String × Value)) :
    let p := (Properties.ofPairs collected).insertAll written
    p.WrittenBy (collected ++ written) ∧
      (∀ key value, (p.insert key value).entries =
        if key ∈ p.entries.keys then
          p.entries.map fun entry => if entry.1 = key then (key, value) else entry
        else p.entries ++ [(key, value)]) ∧
      Properties.ofPairs p.entries = p := by
  intro p
  refine ⟨?_, p.entries_insert, Properties.eq_of_entries (Properties.entries_ofPairs p.nodup)⟩
  rw [show p = Properties.ofPairs (collected ++ written) from
    Properties.insertAll_ofPairs collected written]
  exact Properties.writtenBy_ofPairs _

/-- A key that comes again has a new value and its old place. -/
example :
    ((Properties.ofPairs [("zeta", .int 1), ("alpha", .null)]).insertAll
      [("mid", .int 3), ("zeta", .null), ("alpha", .int 2)]).entries =
        [("zeta", .null), ("alpha", .int 2), ("mid", .int 3)] := rfl

end GraphImport
