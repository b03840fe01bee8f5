import GraphImport.Proofs.Property.Insertion

/-!
# Selection by keys

Properties are selected by keys in the order in which the list first names them; a key that is named
again changes nothing. All keys have to be there: the first one that is missing is the error.

* `Properties.selectInto_eq_ok`, `Properties.selectInto_eq_error` — what comes of a selection.
* `Properties.selectInto_congr` — a selection looks at the values of its keys only.
* `Properties.select_eq_ok` — which properties are selected.
* `select_exact` — selection is exact.
-/

namespace GraphImport

namespace Properties

variable {p picked : Properties} {keys : List String}

/-- **Selected properties are written one after the other**: one pair for each key of the list. -/
theorem selectInto_eq_ok {q : Properties} :
    p.selectInto picked keys = .ok q ↔
      ∃ pairs : List (String × Value), pairs.map Prod.fst = keys ∧
        (∀ pair ∈ pairs, p.get? pair.1 = some pair.2) ∧
        q.entries = picked.entries.insertAll pairs := by
  induction keys generalizing picked with
  | nil =>
      constructor
      · intro h
        cases h
        exact ⟨[], rfl, fun pair hpair => absurd hpair List.not_mem_nil, rfl⟩
      · rintro ⟨pairs, hkeys, -, hentries⟩
        obtain rfl := List.map_eq_nil_iff.mp hkeys
        exact congrArg Except.ok (eq_of_entries hentries.symm)
  | cons key keys ih =>
      unfold selectInto
      cases hvalue : p.get? key with
      | none =>
          constructor
          · intro h
            cases h
          · rintro ⟨_ | ⟨pair, pairs⟩, hkeys, hfound, -⟩
            · cases hkeys
            · cases hkeys
              cases hvalue.symm.trans (hfound pair List.mem_cons_self)
      | some value =>
          refine ih.trans ?_
          constructor
          · rintro ⟨pairs, rfl, hfound, hentries⟩
            exact ⟨(key, value) :: pairs, rfl, List.forall_mem_cons.mpr ⟨hvalue, hfound⟩, hentries⟩
          · rintro ⟨_ | ⟨⟨k, v⟩, pairs⟩, hkeys, hfound, hentries⟩
            · cases hkeys
            · cases hkeys
              obtain ⟨hpair, hfound⟩ := List.forall_mem_cons.mp hfound
              cases hvalue.symm.trans hpair
              exact ⟨pairs, rfl, hfound, hentries⟩

/-- **The first key that is missing is the error.** -/
theorem selectInto_eq_error {key : String} :
    p.selectInto picked keys = .error key ↔
      ∃ before after, keys = before ++ key :: after ∧
        (∀ other ∈ before, other ∈ p.entries.keys) ∧ key ∉ p.entries.keys := by
  induction keys generalizing picked with
  | nil =>
      constructor
      · intro h
        cases h
      · rintro ⟨before, after, hkeys, -⟩
        exact absurd hkeys.symm (by simp)
  | cons first keys ih =>
      have hfirst : (p.get? first).isSome = true ↔ first ∈ p.entries.keys := Entries.isSome_find?
      unfold selectInto
      cases hvalue : p.get? first with
      | none =>
          rw [hvalue] at hfirst
          have hmissing : first ∉ p.entries.keys := mt hfirst.mpr Bool.false_ne_true
          constructor
          · intro h
            cases h
            exact ⟨[], keys, rfl, fun other hother => absurd hother List.not_mem_nil, hmissing⟩
          · rintro ⟨_ | ⟨other, before⟩, after, hkeys, hbefore, -⟩
            · cases hkeys
              rfl
            · cases hkeys
              exact absurd (hbefore first List.mem_cons_self) hmissing
      | some value =>
          rw [hvalue] at hfirst
          have hthere : first ∈ p.entries.keys := hfirst.mp rfl
          refine ih.trans ?_
          constructor
          · rintro ⟨before, after, rfl, hbefore, hmissing⟩
            exact ⟨first :: before, after, rfl, List.forall_mem_cons.mpr ⟨hthere, hbefore⟩, hmissing⟩
          · rintro ⟨_ | ⟨other, before⟩, after, hkeys, hbefore, hmissing⟩
            · cases hkeys
              exact absurd hthere hmissing
            · cases hkeys
              exact ⟨before, after, rfl, (List.forall_mem_cons.mp hbefore).2, hmissing⟩

/-- A selection looks at the values of its keys only. -/
theorem selectInto_congr {q : Properties} (h : ∀ key ∈ keys, q.get? key = p.get? key) :
    q.selectInto picked keys = p.selectInto picked keys := by
  induction keys generalizing picked with
  | nil => rfl
  | cons key keys ih =>
      obtain ⟨hkey, hkeys⟩ := List.forall_mem_cons.mp h
      unfold selectInto
      rw [hkey]
      cases p.get? key with
      | none => rfl
      | some value => exact ih hkeys

/-- All keys are there, or one of them is the first that is missing. -/
theorem exists_select_iff : (∃ q, p.select keys = .ok q) ↔ ∀ key ∈ keys, key ∈ p.entries.keys := by
  cases hselect : p.select keys with
  | ok q =>
      obtain ⟨pairs, rfl, hfound, -⟩ := selectInto_eq_ok.mp hselect
      refine ⟨fun _ key hkey => ?_, fun _ => ⟨q, rfl⟩⟩
      obtain ⟨pair, hpair, rfl⟩ := List.mem_map.mp hkey
      exact Entries.isSome_find?.mp (Option.isSome_of_eq_some (hfound pair hpair))
  | error key =>
      obtain ⟨before, after, rfl, -, hmissing⟩ := selectInto_eq_error.mp hselect
      constructor
      · rintro ⟨q, hq⟩
        cases hq
      · intro h
        exact absurd (h key (List.mem_append_right before List.mem_cons_self)) hmissing

/-- What is selected under a key is what stands there. -/
theorem get?_select {q : Properties} (h : p.select keys = .ok q) :
    ∀ key ∈ keys, ∃ value, p.get? key = some value ∧ q.get? key = some value := by
  obtain ⟨pairs, rfl, hfound, hentries⟩ := selectInto_eq_ok.mp h
  intro key hkey
  obtain ⟨value, hpair, -, hvalue⟩ := Entries.exists_find?_insertAll empty.entries hkey
  rw [← hentries] at hvalue
  exact ⟨value, hfound _ hpair, hvalue⟩

/-- The keys of the list are selected, in the order in which they are first named. -/
theorem firstNamed_select {q : Properties} (h : p.select keys = .ok q) :
    FirstNamed keys q.entries.keys := by
  obtain ⟨pairs, rfl, -, hentries⟩ := selectInto_eq_ok.mp h
  rw [hentries]
  exact .ofPairs pairs

/-- **Exactly these properties are selected**: those with the keys of the list, in the order in which
they are first named, and with the values that stand there. -/
theorem select_eq_ok {q : Properties} :
    p.select keys = .ok q ↔ FirstNamed keys q.entries.keys ∧
      ∀ key ∈ keys, ∃ value, p.get? key = some value ∧ q.get? key = some value := by
  refine ⟨fun h => ⟨firstNamed_select h, get?_select h⟩, fun ⟨hkeys, hvalues⟩ => ?_⟩
  have hthere : ∀ key ∈ keys, key ∈ p.entries.keys := fun key hkey => by
    obtain ⟨value, hvalue, -⟩ := hvalues key hkey
    exact Entries.isSome_find?.mp (Option.isSome_of_eq_some hvalue)
  obtain ⟨selected, hselected⟩ := exists_select_iff.mpr hthere
  have hfirst := firstNamed_select hselected
  have hsame : selected.entries = q.entries := by
    refine Entries.eq_of_find? selected.nodup (hfirst.unique hkeys) fun key hkey => ?_
    rw [hfirst.mem] at hkey
    obtain ⟨value, hvalue, hown⟩ := hvalues key hkey
    obtain ⟨other, hother, hfound⟩ := get?_select hselected key hkey
    rw [hvalue] at hother
    cases hother
    exact hfound.trans hown.symm
  rw [hselected, eq_of_entries hsame]

end Properties

/-- **Selection is exact.** Properties are selected exactly if all keys are there. Then they have the
keys of the list, each once and in the order in which the list first names them, with the values that
stand there, be they null or not. Otherwise the error is the first key of the list that is missing.
Selecting again changes nothing, and neither does selecting all keys in their order. -/
theorem select_exact (p : Properties) (keys : List String) :
    ((∃ q, p.select keys = .ok q) ↔ ∀ key ∈ keys, key ∈ p.entries.keys) ∧
    (∀ q, p.select keys = .ok q ↔ FirstNamed keys q.entries.keys ∧
      ∀ key ∈ keys, ∃ value, p.get? key = some value ∧ q.get? key = some value) ∧
    (∀ key, p.select keys = .error key ↔ ∃ before after, keys = before ++ key :: after ∧
      (∀ other ∈ before, other ∈ p.entries.keys) ∧ key ∉ p.entries.keys) ∧
    (∀ q, p.select keys = .ok q → q.select keys = .ok q) ∧
    p.select p.entries.keys = .ok p := by
  refine ⟨Properties.exists_select_iff, fun q => Properties.select_eq_ok,
    fun key => Properties.selectInto_eq_error, fun q hq => ?_, ?_⟩
  · have hsame : q.select keys = p.select keys := by
      refine Properties.selectInto_congr fun key hkey => ?_
      obtain ⟨value, hvalue, hown⟩ := Properties.get?_select hq key hkey
      rw [hvalue, hown]
    rw [hsame, hq]
  · refine Properties.select_eq_ok.mpr ⟨.self p.nodup, fun key hkey => ?_⟩
    obtain ⟨value, hvalue⟩ := Option.isSome_iff_exists.mp (Entries.isSome_find?.mpr hkey)
    exact ⟨value, hvalue, hvalue⟩

/-- A name and a note that is null are selected in the order of the keys, each once; selecting them
again changes nothing, and a key that is missing is found behind one that comes again. -/
theorem select_exact_repeated :
    let p := Properties.ofPairs [("id", .int 1), ("note", .null), ("name", .string "Alice")]
    (∃ q, p.select ["name", "note", "name"] = .ok q ∧
      q.select ["name", "note", "name"] = .ok q ∧ q.entries.keys = ["name", "note"] ∧
      FirstNamed ["name", "note", "name"] q.entries.keys) ∧
    p.select ["name", "name", "age", "id", "size"] = .error "age" := by
  intro p
  obtain ⟨hok, hexact, -, hagain, -⟩ := select_exact p ["name", "note", "name"]
  obtain ⟨q, hq⟩ := hok.mpr (by decide)
  obtain ⟨hfirst, -⟩ := (hexact q).mp hq
  refine ⟨⟨q, hq, hagain q hq, ?_, hfirst⟩, ?_⟩
  · exact hfirst.unique ⟨by grind, by decide⟩
  · exact ((select_exact p _).2.2.1 "age").mpr
      ⟨["name", "name"], ["id", "size"], rfl, by decide, by decide⟩

end GraphImport
