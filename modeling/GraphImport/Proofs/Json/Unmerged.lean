import GraphImport.Json.Reader
import GraphImport.Proofs.Property.Selection
import GraphImport.Proofs.Result

/-!
# JSON values with all their members

In a JSON value no key of an object stands twice: a member that comes again replaces the value where
it stands. What a text says of its members is seen before that. An unmerged value keeps all members
of its objects; it is read like a JSON value, and merging its members gives the JSON value.

* `Json.readPairs`, `Json.readUnmerged`, `Json.parseUnmerged` — values with all their members.
* `Json.ItemsRead`, `Json.PairsRead`, `Json.readUnmerged_eq_ok` — what stands where something has
  been read.
* `Json.merged` — the JSON value that an unmerged value stands for.
* `Json.valuesOf`, `Json.find?_insertAll` — the members of one name, of which the last one counts.
* `Json.readValue_eq`, `Json.parse_eq` — reading is reading all members and then merging them.
-/

namespace GraphImport

/-- Writes pairs one after the other. -/
def Entries.insertAll {α : Type} (entries : Entries α) (pairs : List (String × α)) : Entries α :=
  pairs.foldl (fun done pair => done.insert pair.1 pair.2) entries

namespace Json

variable {α β : Type}

/-! ## Reading -/

/-- The members behind an opening brace, and the closing one; all of them are kept. -/
def readPairs (read : Reader α) : (fuel : Nat) → (first : Bool) → Reader (List (String × α))
  | 0, _, _ => .error (.atEnd .endOfObject)
  | fuel + 1, first, text =>
    match nextMember first text with
    | .error fault => .error fault
    | .ok (.closed rest) => .ok ([], rest)
    | .ok (.more rest) =>
      match readQuoted fuel [] rest with
      | .error fault => .error fault
      | .ok (key, rest) =>
        match readColon rest with
        | .error fault => .error fault
        | .ok rest =>
          match read rest with
          | .error fault => .error fault
          | .ok (value, rest) =>
            match readPairs read fuel false rest with
            | .error fault => .error fault
            | .ok (pairs, rest) => .ok ((key, value) :: pairs, rest)

/-- An unmerged value, with at most `levels` arrays and objects inside each other. -/
def readUnmerged (fuel : Nat) : (levels : Nat) → Reader Json
  | levels, text =>
    match skipBlank text with
    | [] => .error (.atEnd .endOfValue)
    | c :: rest =>
      if c = '[' then
        match levels with
        | 0 => .error (.here .tooDeep (c :: rest))
        | levels + 1 => do
          let (items, rest) ← readItems (readUnmerged fuel levels) fuel true [] rest
          return (.array items, rest)
      else if c = '\x7b' then
        match levels with
        | 0 => .error (.here .tooDeep (c :: rest))
        | levels + 1 => do
          let (pairs, rest) ← readPairs (readUnmerged fuel levels) fuel true rest
          return (.object pairs, rest)
      else readScalar fuel c rest

/-- The unmerged value of a whole text. -/
def parseUnmerged (text : String) : Except ReadError Json := readAll readUnmerged text

/-! ## Steps -/

/-- A reader whose result is changed afterwards. -/
def mapReader (m : α → β) (read : Reader α) : Reader β := fun text =>
  (read text).map (Prod.map m id)

/-- Items are read behind those that are done. -/
theorem readItems_done (read : Reader α) (fuel : Nat) (first : Bool) (done : List α)
    (text : List Char) :
    readItems read fuel first done text =
      mapReader (done.reverse ++ ·) (readItems read fuel first []) text := by
  induction fuel generalizing first done text with
  | zero => rfl
  | succ fuel ih =>
      unfold mapReader at ih ⊢
      rw [readItems, readItems]
      rcases nextItem first text with fault | rest | rest
      · rfl
      · dsimp only
        rcases read rest with fault | ⟨item, rest⟩
        · rfl
        · dsimp only
          rw [ih false (item :: done), ih false [item]]
          rcases readItems read fuel false [] rest with fault | ⟨items, rest⟩
          · rfl
          · simp [Except.map]
      · simp [Except.map]

/-- **What has been read of an array**: its end, or an item in front of others. -/
inductive ItemsRead (read : Reader α) (fuel : Nat) (first : Bool) (text rest : List Char) :
    List α → Prop where
  /-- The array ends here. -/
  | closed (hnext : nextItem first text = .ok (.closed rest)) : ItemsRead read fuel first text rest []
  /-- An item stands here. -/
  | more {start after : List Char} {item : α} {items : List α}
    (hnext : nextItem first text = .ok (.more start)) (hitem : read start = .ok (item, after))
    (hitems : readItems read fuel false [] after = .ok (items, rest)) :
    ItemsRead read fuel first text rest (item :: items)

theorem readItems_eq_ok {read : Reader α} {fuel : Nat} {first : Bool} {text rest : List Char}
    {items : List α} (h : readItems read fuel first [] text = .ok (items, rest)) :
    ∃ left, fuel = left + 1 ∧ ItemsRead read left first text rest items := by
  cases fuel with
  | zero => exact nomatch h
  | succ left =>
      refine ⟨left, rfl, ?_⟩
      rw [readItems] at h
      split at h
      · exact nomatch h
      · rename_i hnext
        cases h
        exact .closed hnext
      · rename_i hnext
        split at h
        · exact nomatch h
        · rename_i item after hitem
          rw [readItems_done] at h
          unfold mapReader at h
          obtain ⟨⟨others, behind⟩, hothers, h⟩ := map_eq_ok.mp h
          cases h
          exact .more hnext hitem hothers

/-- **What has been read of an object**: its end, or a member in front of others. -/
inductive PairsRead (read : Reader α) (fuel : Nat) (first : Bool) (text rest : List Char) :
    List (String × α) → Prop where
  /-- The object ends here. -/
  | closed (hnext : nextMember first text = .ok (.closed rest)) :
    PairsRead read fuel first text rest []
  /-- A member stands here. -/
  | more {start named valued after : List Char} {key : String} {value : α}
    {pairs : List (String × α)} (hnext : nextMember first text = .ok (.more start))
    (hkey : readQuoted fuel [] start = .ok (key, named)) (hcolon : readColon named = .ok valued)
    (hvalue : read valued = .ok (value, after))
    (hpairs : readPairs read fuel false after = .ok (pairs, rest)) :
    PairsRead read fuel first text rest ((key, value) :: pairs)

theorem readPairs_eq_ok {read : Reader α} {fuel : Nat} {first : Bool} {text rest : List Char}
    {pairs : List (String × α)} (h : readPairs read fuel first text = .ok (pairs, rest)) :
    ∃ left, fuel = left + 1 ∧ PairsRead read left first text rest pairs := by
  cases fuel with
  | zero => exact nomatch h
  | succ left =>
      refine ⟨left, rfl, ?_⟩
      rw [readPairs] at h
      split at h
      · exact nomatch h
      · rename_i hnext
        cases h
        exact .closed hnext
      · rename_i hnext
        split at h
        · exact nomatch h
        · rename_i hkey
          split at h
          · exact nomatch h
          · rename_i hcolon
            split at h
            · exact nomatch h
            · rename_i hvalue
              split at h
              · exact nomatch h
              · rename_i hpairs
                cases h
                exact .more hnext hkey hcolon hvalue hpairs

/-- The value is neither an array nor an object. -/
def isScalar : Json → Bool
  | array _ | object _ => false
  | _ => true

/-- What stands in front of a scalar: a string starts with a quote, and nothing else does. -/
theorem readScalar_eq_ok {fuel : Nat} {c : Char} {text rest : List Char} {json : Json}
    (h : readScalar fuel c text = .ok (json, rest)) :
    (c = '"' ∧ ∃ s, json = .string s ∧ readQuoted fuel [] text = .ok (s, rest)) ∨
      (c ≠ '"' ∧ json.string? = none ∧ json.isScalar = true) := by
  unfold readScalar at h
  split_ifs at h with hnull htrue hfalse hquote hnumber
  · obtain ⟨after, -, h⟩ := bind_eq_ok.mp h
    cases h
    exact .inr ⟨by rw [hnull]; decide, rfl, rfl⟩
  · obtain ⟨after, -, h⟩ := bind_eq_ok.mp h
    cases h
    exact .inr ⟨by rw [htrue]; decide, rfl, rfl⟩
  · obtain ⟨after, -, h⟩ := bind_eq_ok.mp h
    cases h
    exact .inr ⟨by rw [hfalse]; decide, rfl, rfl⟩
  · obtain ⟨⟨s, after⟩, hquoted, h⟩ := bind_eq_ok.mp h
    cases h
    exact .inl ⟨hquote, s, rfl, hquoted⟩
  · obtain ⟨⟨n, after⟩, -, h⟩ := bind_eq_ok.mp h
    cases h
    exact .inr ⟨hquote, rfl, rfl⟩

/-- What is read as a scalar is one. -/
theorem isScalar_of_readScalar {fuel : Nat} {c : Char} {text rest : List Char} {json : Json}
    (h : readScalar fuel c text = .ok (json, rest)) : json.isScalar = true := by
  rcases readScalar_eq_ok h with ⟨-, s, rfl, -⟩ | ⟨-, -, hscalar⟩
  · rfl
  · exact hscalar

/-- **What stands where a value is read**: an array, an object or a scalar, behind blanks. -/
theorem readUnmerged_eq_ok {fuel levels : Nat} {text rest : List Char} {json : Json}
    (h : readUnmerged fuel levels text = .ok (json, rest)) :
    ∃ c after, skipBlank text = c :: after ∧
      ((c = '[' ∧ ∃ below items, levels = below + 1 ∧ json = .array items ∧
          readItems (readUnmerged fuel below) fuel true [] after = .ok (items, rest)) ∨
        (c = '\x7b' ∧ ∃ below pairs, levels = below + 1 ∧ json = .object pairs ∧
          readPairs (readUnmerged fuel below) fuel true after = .ok (pairs, rest)) ∨
        (c ≠ '[' ∧ c ≠ '\x7b' ∧ readScalar fuel c after = .ok (json, rest))) := by
  unfold readUnmerged at h
  split at h
  · exact nomatch h
  · rename_i c after hskip
    refine ⟨c, after, hskip, ?_⟩
    split_ifs at h with hbracket hbrace
    · cases levels with
      | zero => exact nomatch h
      | succ below =>
          obtain ⟨⟨items, behind⟩, hitems, h⟩ := bind_eq_ok.mp h
          cases h
          exact .inl ⟨hbracket, below, items, rfl, rfl, hitems⟩
    · cases levels with
      | zero => exact nomatch h
      | succ below =>
          obtain ⟨⟨pairs, behind⟩, hpairs, h⟩ := bind_eq_ok.mp h
          cases h
          exact .inr (.inl ⟨hbrace, below, pairs, rfl, rfl, hpairs⟩)
    · exact .inr (.inr ⟨hbracket, hbrace, h⟩)

/-! ## Merging -/

mutual

/-- The JSON value that an unmerged value stands for: members that come again are merged, on all
levels. -/
def merged : Json → Json
  | array items => .array (mergedItems items)
  | object pairs => .object (mergedMembers [] pairs)
  | json => json

/-- The items of an array. -/
def mergedItems : List Json → List Json
  | [] => []
  | item :: rest => merged item :: mergedItems rest

/-- The members of an object behind those that are `done`. -/
def mergedMembers (done : Entries Json) : List (String × Json) → Entries Json
  | [] => done
  | (key, value) :: rest => mergedMembers (done.insert key (merged value)) rest

end

theorem merged_array (items : List Json) : merged (.array items) = .array (items.map merged) := by
  have hitems : ∀ items, mergedItems items = items.map merged := by
    intro items
    induction items with
    | nil => rfl
    | cons item items ih => rw [mergedItems, ih, List.map_cons]
  rw [merged, hitems]

theorem merged_object (pairs : List (String × Json)) :
    merged (.object pairs) = .object (Entries.insertAll [] (pairs.map (Prod.map id merged))) := by
  have hmembers : ∀ done, mergedMembers done pairs =
      Entries.insertAll done (pairs.map (Prod.map id merged)) := by
    induction pairs with
    | nil => exact fun done => rfl
    | cons pair pairs ih =>
        intro done
        rw [mergedMembers, ih]
        rfl
  rw [merged, hmembers]

/-! ## Members of one name -/

/-- The values of the members of a name, in order. -/
def valuesOf (name : String) (pairs : List (String × α)) : List α :=
  pairs.filterMap fun pair => if pair.1 = name then some pair.2 else none

theorem valuesOf_cons_self (name : String) (value : α) (pairs : List (String × α)) :
    valuesOf name ((name, value) :: pairs) = value :: valuesOf name pairs := by
  simp [valuesOf]

theorem valuesOf_cons_of_ne {name key : String} (h : key ≠ name) (value : α)
    (pairs : List (String × α)) :
    valuesOf name ((key, value) :: pairs) = valuesOf name pairs := by
  simp [valuesOf, h]

theorem valuesOf_map (name : String) (m : α → β) (pairs : List (String × α)) :
    valuesOf name (pairs.map (Prod.map id m)) = (valuesOf name pairs).map m := by
  unfold valuesOf
  rw [List.filterMap_map, List.map_filterMap]
  refine congrArg (List.filterMap · pairs) (funext fun pair => ?_)
  dsimp only [Function.comp_apply, Prod.map, id]
  split_ifs
  · rfl
  · rfl

/-- Writing pairs brings no key twice. -/
theorem nodup_keys_insertAll {entries : Entries α} (h : entries.keys.Nodup)
    (pairs : List (String × α)) : (entries.insertAll pairs).keys.Nodup := by
  induction pairs generalizing entries with
  | nil => exact h
  | cons pair pairs ih => exact ih (Entries.nodup_keys_insert h)

/-- **What was written last is found.** -/
theorem find?_insertAll (name : String) (entries : Entries α) (pairs : List (String × α)) :
    (entries.insertAll pairs).find? name = (valuesOf name pairs).getLast?.or (entries.find? name) := by
  induction pairs generalizing entries with
  | nil => rfl
  | cons pair pairs ih =>
      obtain ⟨key, value⟩ := pair
      refine (ih (entries.insert key value)).trans ?_
      by_cases hkey : key = name
      · rw [hkey, valuesOf_cons_self, Entries.find?_insert_self, List.getLast?_cons]
        cases (valuesOf name pairs).getLast? with
        | none => rfl
        | some last => rfl
      · rw [valuesOf_cons_of_ne hkey, Entries.find?_insert_of_ne (Ne.symm hkey)]

/-! ## Reading and merging -/

/-- Changed items are the items changed. -/
theorem readItems_map (m : α → β) (read : Reader α) (fuel : Nat) (first : Bool) (done : List α)
    (text : List Char) :
    readItems (mapReader m read) fuel first (done.map m) text =
      mapReader (List.map m) (readItems read fuel first done) text := by
  induction fuel generalizing first done text with
  | zero => rfl
  | succ fuel ih =>
      unfold mapReader at ih ⊢
      rw [readItems, readItems]
      rcases nextItem first text with fault | rest | rest
      · rfl
      · dsimp only
        rcases read rest with fault | ⟨item, rest⟩
        · rfl
        · exact ih false (item :: done) rest
      · simp [Except.map]

/-- **Members are read by reading all of them** and writing them one after the other. -/
theorem readMembers_map (m : α → β) (read : Reader α) (fuel : Nat) (first : Bool)
    (done : Entries β) (text : List Char) :
    readMembers (mapReader m read) fuel first done text =
      mapReader (fun pairs => done.insertAll (pairs.map (Prod.map id m)))
        (readPairs read fuel first) text := by
  induction fuel generalizing first done text with
  | zero => rfl
  | succ fuel ih =>
      unfold mapReader at ih ⊢
      rw [readMembers, readPairs]
      rcases nextMember first text with fault | rest | rest
      · rfl
      · dsimp only
        rcases readQuoted fuel [] rest with fault | ⟨key, rest⟩
        · rfl
        · dsimp only
          rcases readColon rest with fault | rest
          · rfl
          · dsimp only
            rcases read rest with fault | ⟨value, rest⟩
            · rfl
            · refine (ih false (done.insert key (m value)) rest).trans ?_
              dsimp only
              rcases readPairs read fuel false rest with fault | ⟨pairs, rest⟩
              · rfl
              · rfl
      · rfl

/-- A scalar has no members. -/
theorem readScalar_merged (fuel : Nat) (c : Char) (rest : List Char) :
    mapReader merged (readScalar fuel c) rest = readScalar fuel c rest := by
  unfold mapReader readScalar
  split_ifs
  · rcases readWord "ull".toList rest with fault | rest
    · rfl
    · rfl
  · rcases readWord "rue".toList rest with fault | rest
    · rfl
    · rfl
  · rcases readWord "alse".toList rest with fault | rest
    · rfl
    · rfl
  · rcases readQuoted fuel [] rest with fault | ⟨s, rest⟩
    · rfl
    · rfl
  · rcases readNumber (c :: rest) with fault | ⟨n, rest⟩
    · rfl
    · rfl
  · rfl

/-- **A value is read by reading it with all its members** and merging them. -/
theorem readValue_eq (fuel levels : Nat) :
    readValue fuel levels = mapReader merged (readUnmerged fuel levels) := by
  induction levels with
  | zero =>
      funext text
      unfold readValue mapReader readUnmerged
      cases skipBlank text with
      | nil => rfl
      | cons c rest =>
          dsimp only
          split_ifs
          · rfl
          · rfl
          · exact (readScalar_merged fuel c rest).symm
  | succ levels ih =>
      funext text
      unfold readValue mapReader readUnmerged
      cases skipBlank text with
      | nil => rfl
      | cons c rest =>
          dsimp only
          split_ifs
          · have hitems := readItems_map merged (readUnmerged fuel levels) fuel true [] rest
            rw [List.map_nil, ← ih] at hitems
            rw [hitems]
            unfold mapReader
            rcases readItems (readUnmerged fuel levels) fuel true [] rest with
              fault | ⟨items, rest⟩
            · rfl
            · exact congrArg (fun json => Except.ok (json, rest)) (merged_array items).symm
          · have hmembers := readMembers_map merged (readUnmerged fuel levels) fuel true [] rest
            rw [← ih] at hmembers
            rw [hmembers]
            unfold mapReader
            rcases readPairs (readUnmerged fuel levels) fuel true rest with
              fault | ⟨pairs, rest⟩
            · rfl
            · exact congrArg (fun json => Except.ok (json, rest)) (merged_object pairs).symm
          · exact (readScalar_merged fuel c rest).symm

/-- A whole text is read by reading it and changing what is found. -/
theorem readAll_map (m : α → β) (read : (fuel levels : Nat) → Reader α) (text : String) :
    readAll (fun fuel levels => mapReader m (read fuel levels)) text =
      (readAll read text).map m := by
  unfold readAll mapReader
  dsimp only
  rcases read (fuelFor text.toList) maxLevels text.toList with fault | ⟨value, rest⟩
  · rfl
  · dsimp only [Except.map, Prod.map, id, bind, Except.bind]
    rcases readEnd rest with fault | _
    · rfl
    · rfl

/-- **The JSON value of a text** is its unmerged value with the members merged. -/
theorem parse_eq (text : String) : parse text = (parseUnmerged text).map merged := by
  have hreader : readValue = fun fuel levels => mapReader merged (readUnmerged fuel levels) :=
    funext fun fuel => funext fun levels => readValue_eq fuel levels
  unfold parse
  rw [hreader, readAll_map]
  rfl

end Json

end GraphImport
