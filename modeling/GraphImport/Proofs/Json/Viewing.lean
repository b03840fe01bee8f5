import GraphImport.Json.Decoder
import GraphImport.Proofs.Json.Mirror
import GraphImport.Proofs.Json.Skipping

/-!
# Decoders as views of JSON values

A decoder reads a typed value straight from a text. What it finds can be told from the JSON value of
the text, before members that come again are merged: it finds what a view of that value finds, and
fails where the view finds nothing.

* `Json.Gives` — what a reader has found.
* `Json.Decoder.Sees` — a decoder finds what a view finds.
* `Json.Decoder.any_sees`, `Json.Decoder.text_sees`, `Json.Decoder.list_sees`,
  `Json.Decoder.members_sees` — single decoders.
* `Json.FieldView`, `Json.Record.view`, `Json.Record.decoder_sees` — records.
* `Json.Record.pairView`, `Json.Record.pair_sees` — records of two fields.
* `Json.Decoder.Sees.decode` — whole texts.
-/

namespace GraphImport.Json

variable {α β σ : Type}

/-! ## What is found -/

/-- **The reader has found what is to be found**, with the rest behind it; if there is nothing to be
found it has failed. -/
inductive Gives (rest : List Char) : Except Fault (α × List Char) → Option α → Prop where
  /-- It has found something. -/
  | found (a : α) : Gives rest (.ok (a, rest)) (some a)
  /-- It has failed. -/
  | fails (fault : Fault) : Gives rest (.error fault) none

namespace Gives

variable {middle rest : List Char} {x : Except Fault (α × List Char)} {o : Option α}

/-- Another reader goes on with what has been found. -/
theorem andThen (h : Gives middle x o) {next : α → Reader β} {view : α → Option β}
    (hnext : ∀ a, Gives rest (next a middle) (view a)) :
    Gives rest
      (match x with
        | .error fault => .error fault
        | .ok (a, rest) => next a rest)
      (o.bind view) := by
  cases h with
  | found a => exact hnext a
  | fails fault => exact .fails fault

/-- What has been found may be changed. -/
theorem map (h : Gives rest x o) (m : α → β) :
    Gives rest
      (match x with
        | .error fault => .error fault
        | .ok (a, rest) => .ok (m a, rest))
      (o.map m) := by
  cases h with
  | found a => exact .found (m a)
  | fails fault => exact .fails fault

end Gives

/-- **The decoder finds what the view finds** in the unmerged value that stands in the text. -/
def Decoder.Sees (decoder : Decoder α) (view : Json → Option α) : Prop :=
  ∀ fuel levels text json rest, text.length < fuel →
    readUnmerged fuel levels text = .ok (json, rest) →
    Gives rest (decoder fuel levels text) (view json)

/-! ## Single decoders -/

namespace Decoder

variable {decoder : Decoder α} {view : Json → Option α}

/-- Any value is seen with its members merged. -/
theorem any_sees : any.Sees fun json => some json.merged := by
  intro fuel levels text json rest _ hread
  have hvalue : any fuel levels text = .ok (json.merged, rest) := by
    unfold any
    rw [readValue_eq]
    unfold mapReader
    rw [hread]
    rfl
  rw [hvalue]
  exact .found _

/-- Only strings are texts. -/
theorem text_sees : text.Sees string? := by
  intro fuel levels text json rest _ hread
  obtain ⟨c, after, hskip, hvalue⟩ := readUnmerged_eq_ok hread
  unfold Decoder.text
  rw [hskip]
  dsimp only
  rcases hvalue with ⟨rfl, below, items, -, rfl, -⟩ | ⟨rfl, below, pairs, -, rfl, -⟩ |
    ⟨-, -, hscalar⟩
  · exact .fails _
  · exact .fails _
  · rcases readScalar_eq_ok hscalar with ⟨rfl, s, rfl, hquoted⟩ | ⟨hquote, hstring, -⟩
    · rw [if_pos rfl, hquoted]
      exact .found s
    · rw [if_neg hquote, hstring]
      exact .fails _

/-- The view of an array, item by item. -/
def listView (view : Json → Option α) : Json → Option (List α)
  | .array items => items.mapM view
  | _ => none

/-- Items are seen one after the other. -/
theorem readItems_gives {fuel levels : Nat} (h : decoder.Sees view) {rounds : Nat} {first : Bool}
    {items : List Json} {text rest : List Char} (hfuel : text.length < fuel)
    (hread : readItems (readUnmerged fuel levels) rounds first [] text = .ok (items, rest)) :
    Gives rest (readItems (decoder fuel levels) rounds first [] text) (items.mapM view) := by
  induction items generalizing rounds first text with
  | nil =>
      obtain ⟨rounds, rfl, hitems⟩ := readItems_eq_ok hread
      cases hitems with
      | closed hnext =>
          rw [readItems, hnext]
          exact .found []
  | cons item items ih =>
      obtain ⟨rounds, rfl, hitems⟩ := readItems_eq_ok hread
      cases hitems with
      | @more start after _ _ hnext hitem hmore =>
          obtain ⟨-, -, -, -, -, -, hstart⟩ := nextItem_eq_more hnext
          obtain ⟨hafter, -⟩ := readUnmerged_passes fuel levels _ _ _ hitem
          rw [readItems, hnext, List.mapM_cons]
          refine (h fuel levels _ _ _ (by omega) hitem).andThen fun a => ?_
          -- The reader keeps what is done in front of it; the view does not, so it is taken out.
          rw [readItems_done]
          unfold mapReader
          have hgives := ih (by omega) hmore
          generalize readItems (decoder fuel levels) rounds false [] after = found at hgives ⊢
          generalize items.mapM view = seen at hgives ⊢
          cases hgives with
          | found others => exact .found (a :: others)
          | fails fault => exact .fails fault

/-- A list is seen item by item. -/
theorem list_sees (h : decoder.Sees view) : (list decoder).Sees (listView view) := by
  intro fuel levels text json rest hfuel hread
  obtain ⟨c, after, hskip, hvalue⟩ := readUnmerged_eq_ok hread
  have hlength := length_lt_of_skipBlank hskip
  unfold list
  rw [hskip]
  dsimp only
  rcases hvalue with ⟨rfl, below, items, rfl, rfl, hitems⟩ | ⟨rfl, below, pairs, -, rfl, -⟩ |
    ⟨hbracket, -, hscalar⟩
  · rw [if_pos rfl]
    exact readItems_gives h (by omega) hitems
  · exact .fails _
  · rw [if_neg hbracket]
    have hscalar := isScalar_of_readScalar hscalar
    have hnone : listView view json = none := by
      cases json with
      | array items => exact nomatch hscalar
      | _ => rfl
    rw [hnone]
    exact .fails _

/-- An object of any values is seen with its members merged. -/
theorem members_sees : (members any).Sees fun json => json.merged.members? := by
  intro fuel levels text json rest hfuel hread
  obtain ⟨c, after, hskip, hvalue⟩ := readUnmerged_eq_ok hread
  unfold members
  rw [hskip]
  dsimp only
  rcases hvalue with ⟨rfl, below, items, rfl, rfl, -⟩ | ⟨rfl, below, pairs, rfl, rfl, hpairs⟩ |
    ⟨-, hbrace, hscalar⟩
  · rw [merged_array]
    exact .fails _
  · rw [if_pos rfl, merged_object]
    have hmembers := readMembers_map merged (readUnmerged fuel below) fuel true [] after
    rw [← readValue_eq] at hmembers
    change Gives rest (readMembers (readValue fuel below) fuel true [] after) _
    rw [hmembers]
    unfold mapReader
    rw [hpairs]
    exact .found _
  · rw [if_neg hbrace]
    have hscalar := isScalar_of_readScalar hscalar
    have hnone : json.merged.members? = none := by
      cases json with
      | object pairs => exact nomatch hscalar
      | array items => exact nomatch hscalar
      | _ => rfl
    rw [hnone]
    exact .fails _

end Decoder

/-! ## Records -/

/-- **A field and its view.** -/
structure FieldView (σ : Type) where
  /-- The field. -/
  field : Field σ
  /-- What the field makes of a value. -/
  view : σ → Json → Option σ
  /-- The field finds what the view finds. -/
  sees : ∀ state, Decoder.Sees (field.read state) (view state)

/-- The view of a field that a decoder reads into one place of the state. -/
def FieldView.ofDecoder {decoder : Decoder α} {view : Json → Option α} (h : decoder.Sees view)
    (name : String) (defaulted : Bool) (get : σ → Option α) (set : σ → α → σ) : FieldView σ where
  field := .ofDecoder name defaulted get set decoder
  view := fun state json => (view json).map (set state)
  sees state fuel levels text json rest hfuel hread :=
    (h fuel levels text json rest hfuel hread).map (set state)

namespace Record

variable (views : List (FieldView σ))

/-- What a member adds to the state: the member of a field that has been read is refused, and one of
another name is passed over. -/
def memberView (state : σ) (pair : String × Json) : Option σ :=
  match views.find? fun v => v.field.name == pair.1 with
  | none => some state
  | some v => if v.field.isSet state then none else v.view state pair.2

/-- What the items of an array add to the state; there may be fewer items than fields, but not
more. -/
def itemsView : List (FieldView σ) → σ → List Json → Option σ
  | views, state, [] => if views.all fun v => v.field.defaulted then some state else none
  | [], _, _ :: _ => none
  | v :: views, state, json :: rest => (v.view state json).bind fun state => itemsView views state rest

/-- **The view of a record**: of the members of an object, or of the items of an array. -/
def view (record : Record σ α) : Json → Option α
  | .object pairs =>
    (pairs.foldlM (memberView views) record.start).bind fun state =>
      (record.finish state).toOption
  | .array items =>
    (itemsView views record.start items).bind fun state => (record.finish state).toOption
  | _ => none

variable {record : Record σ α} {views}

/-- A record is completed by its last step. -/
theorem complete_gives (state : σ) (rest : List Char) :
    Gives rest (record.complete state rest) (record.finish state).toOption := by
  unfold complete
  cases record.finish state with
  | error cause => exact .fails _
  | ok value => exact .found value

/-- A string that is read with some fuel is read with more. -/
theorem readQuoted_mono {fuel more : Nat} {done text rest : List Char} {s : String}
    (h : readQuoted fuel done text = .ok (s, rest)) (hle : fuel ≤ more) :
    readQuoted more done text = .ok (s, rest) := by
  induction fuel generalizing more done text with
  | zero => cases h
  | succ fuel ih =>
      obtain ⟨more, rfl⟩ := Nat.exists_eq_add_of_le' (Nat.le_trans (Nat.le_add_left 1 fuel) hle)
      have hle : fuel ≤ more := Nat.le_of_succ_le_succ hle
      unfold readQuoted at h ⊢
      cases text with
      | nil => cases h
      | cons c text =>
          dsimp only at h ⊢
          split_ifs at h ⊢ with hquote hbackslash hcontrol
          · exact h
          · rcases hescape : readEscape text with fault | ⟨character, after⟩
            · rw [hescape] at h
              cases h
            · rw [hescape] at h
              exact ih h hle
          · exact ih h hle

/-- The fields are found under the names of their views. -/
theorem find?_fields (hfields : views.map FieldView.field = record.fields) (key : String) :
    (record.fields.find? fun field => field.name == key) =
      (views.find? fun v => v.field.name == key).map FieldView.field := by
  rw [← hfields, List.find?_map]
  rfl

/-- **A member is seen.** -/
theorem readMember_gives (hfields : views.map FieldView.field = record.fields) {fuel levels : Nat}
    {named valued rest : List Char} {key : String} {json : Json} (hfuel : valued.length < fuel)
    (hcolon : readColon named = .ok valued)
    (hread : readUnmerged fuel levels valued = .ok (json, rest)) (state : σ) :
    Gives rest (record.readMember fuel levels key state named)
      (memberView views state (key, json)) := by
  unfold readMember memberView
  rw [find?_fields hfields]
  cases views.find? fun v => v.field.name == key with
  | none =>
      rw [Option.map_none, hcolon]
      dsimp only [bind, Except.bind]
      rw [skipValue_eq_ok hread hfuel]
      exact .found state
  | some v =>
      rw [Option.map_some]
      dsimp only
      split_ifs with hset
      · exact .fails _
      · rw [hcolon]
        exact v.sees state fuel levels valued json rest hfuel hread

/-- **The members of an object are seen** one after the other. -/
theorem readObject_gives (hfields : views.map FieldView.field = record.fields)
    {fuel levels rounds : Nat} {first : Bool} {pairs : List (String × Json)}
    {text rest : List Char} (hfuel : text.length < fuel) (hrounds : rounds ≤ fuel)
    (hread : readPairs (readUnmerged fuel levels) rounds first text = .ok (pairs, rest))
    (state : σ) :
    Gives rest (record.readObject fuel levels rounds first state text)
      ((pairs.foldlM (memberView views) state).bind fun state =>
        (record.finish state).toOption) := by
  induction pairs generalizing rounds first text state with
  | nil =>
      obtain ⟨rounds, rfl, hpairs⟩ := readPairs_eq_ok hread
      cases hpairs with
      | closed hnext =>
          rw [readObject, hnext]
          exact complete_gives state rest
  | cons pair pairs ih =>
      obtain ⟨rounds, rfl, hpairs⟩ := readPairs_eq_ok hread
      cases hpairs with
      | @more start named valued after key value _ hnext hkey hcolon hvalue hmore =>
          obtain ⟨-, -, -, -, -, -, hstart⟩ := nextMember_eq_more hnext
          obtain ⟨hnamed, -⟩ := readQuoted_passes hkey
          have hvalued := readColon_length hcolon
          obtain ⟨hafter, -⟩ := readUnmerged_passes fuel levels _ _ _ hvalue
          rw [readObject, hnext]
          dsimp only
          rw [readQuoted_mono hkey (by omega), List.foldlM_cons, Option.bind_eq_bind,
            Option.bind_assoc]
          exact (readMember_gives hfields (by omega) hcolon hvalue state).andThen
            fun state => ih (by omega) (by omega) hmore state

/-- An array of all fields ends nowhere else than at its bracket. -/
theorem readClosing_of_more {first : Bool} {text rest : List Char}
    (h : nextItem first text = .ok (.more rest)) : ∃ fault, readClosing text = .error fault := by
  obtain ⟨c, after, hskip, hclosing, -⟩ := nextItem_eq_more h
  unfold readClosing
  rw [hskip]
  dsimp only
  rw [if_neg hclosing]
  split_ifs with hcomma
  · split
    · exact ⟨_, rfl⟩
    · split_ifs
      · exact ⟨_, rfl⟩
      · exact ⟨_, rfl⟩
  · exact ⟨_, rfl⟩

/-- Where an array ends in front of some fields, all of these may be left out. -/
theorem readArray_closed {fields : List (FieldView σ)} {fuel levels index : Nat}
    {text rest : List Char} (hnext : nextItem (index == 0) text = .ok (.closed rest)) (state : σ) :
    Gives rest (record.readArray fuel levels (fields.map FieldView.field) index state text)
      ((itemsView fields state []).bind fun state => (record.finish state).toOption) := by
  unfold itemsView
  cases fields with
  | nil =>
      have hclosing : readClosing text = .ok rest := by
        unfold readClosing
        rw [nextItem_eq_closed hnext]
        rfl
      rw [List.map_nil, readArray, hclosing]
      exact complete_gives state rest
  | cons v fields =>
      rw [List.map_cons, readArray, hnext, ← List.map_cons, List.findIdx?_map]
      dsimp only
      split_ifs with hall
      · have hnone : (v :: fields).findIdx? ((fun f => !f.defaulted) ∘ FieldView.field) = none := by
          rw [List.findIdx?_eq_none_iff]
          intro w hw
          simpa using List.all_eq_true.mp hall w hw
        rw [hnone]
        exact complete_gives state rest
      · have hsome : ((v :: fields).findIdx? ((fun f => !f.defaulted) ∘ FieldView.field)).isSome := by
          obtain ⟨w, hw, hneeded⟩ := List.all_eq_false.mp (Bool.eq_false_iff.mpr hall)
          rw [List.findIdx?_isSome]
          exact List.any_eq_true.mpr ⟨w, hw, by simpa using hneeded⟩
        obtain ⟨missing, hmissing⟩ := Option.isSome_iff_exists.mp hsome
        rw [hmissing]
        exact .fails _

/-- **The items of an array are seen** field by field. -/
theorem readArray_gives {fields : List (FieldView σ)} {fuel levels rounds index : Nat}
    {items : List Json} {text rest : List Char} (hfuel : text.length < fuel)
    (hread : readItems (readUnmerged fuel levels) rounds (index == 0) [] text = .ok (items, rest))
    (state : σ) :
    Gives rest (record.readArray fuel levels (fields.map FieldView.field) index state text)
      ((itemsView fields state items).bind fun state => (record.finish state).toOption) := by
  induction fields generalizing rounds index items text state with
  | nil =>
      obtain ⟨rounds, rfl, hitems⟩ := readItems_eq_ok hread
      cases hitems with
      | closed hnext => exact readArray_closed hnext state
      | more hnext hitem hmore =>
          obtain ⟨fault, hfault⟩ := readClosing_of_more hnext
          rw [List.map_nil, readArray, hfault]
          exact .fails fault
  | cons v fields ih =>
      obtain ⟨rounds, rfl, hitems⟩ := readItems_eq_ok hread
      cases hitems with
      | closed hnext => exact readArray_closed hnext state
      | @more start after item items hnext hitem hmore =>
          obtain ⟨-, -, -, -, -, -, hstart⟩ := nextItem_eq_more hnext
          obtain ⟨hafter, -⟩ := readUnmerged_passes fuel levels _ _ _ hitem
          rw [List.map_cons, readArray, hnext, itemsView, Option.bind_assoc]
          exact (v.sees state fuel levels _ _ _ (by omega) hitem).andThen
            fun state => ih (by omega) hmore state

/-- **A record is seen** as an object or as an array of its fields. -/
theorem decoder_sees (hfields : views.map FieldView.field = record.fields) :
    record.decoder.Sees (record.view views) := by
  intro fuel levels text json rest hfuel hread
  obtain ⟨c, after, hskip, hvalue⟩ := readUnmerged_eq_ok hread
  have hlength := length_lt_of_skipBlank hskip
  unfold decoder
  rw [hskip]
  dsimp only
  rcases hvalue with ⟨rfl, below, items, rfl, rfl, hitems⟩ | ⟨rfl, below, pairs, rfl, rfl, hpairs⟩ |
    ⟨hbracket, hbrace, hscalar⟩
  · rw [if_pos rfl, ← hfields]
    exact readArray_gives (by omega) hitems record.start
  · rw [if_neg (by decide), if_pos rfl]
    exact readObject_gives hfields (by omega) (Nat.le_refl fuel) hpairs record.start
  · rw [if_neg hbracket, if_neg hbrace]
    have hscalar := isScalar_of_readScalar hscalar
    have hnone : record.view views json = none := by
      cases json with
      | object pairs => exact nomatch hscalar
      | array items => exact nomatch hscalar
      | _ => rfl
    rw [hnone]
    exact .fails _

/-! ## Records of two fields -/

/-- The view of a value that may be absent, but not stand there twice. -/
def atMostOnce (view : Json → Option α) : List Json → Option (Option α)
  | [] => some none
  | [json] => (view json).map some
  | _ => none

/-- **The view of two fields that may be absent**, under their names or in their order. -/
def pairView (name : String) (view : Json → Option α) (name' : String) (view' : Json → Option β) :
    Json → Option (Option α × Option β)
  | .object pairs => do
    let a ← atMostOnce view (valuesOf name pairs)
    let b ← atMostOnce view' (valuesOf name' pairs)
    return (a, b)
  | .array [] => some (none, none)
  | .array [json] => do return (some (← view json), none)
  | .array [json, json'] => do return (some (← view json), some (← view' json'))
  | _ => none

/-- The view of a value that may have been read before. -/
def unlessRead (view : Json → Option α) : Option α → List Json → Option (Option α)
  | none, values => atMostOnce view values
  | some a, [] => some (some a)
  | some _, _ => none

/-- Once a value has been read there may be no other. -/
theorem unlessRead_cons (view : Json → Option α) (o : Option α) (json : Json) (values : List Json) :
    unlessRead view o (json :: values) =
      if o.isSome then none else (view json).bind fun a => unlessRead view (some a) values := by
  cases o with
  | some a => rfl
  | none =>
      cases values with
      | nil =>
          change (view json).map some = (view json).bind fun a => some (some a)
          rw [Option.map_eq_bind]
          rfl
      | cons other values =>
          cases view json with
          | none => rfl
          | some a => rfl

section

variable {decoder : Decoder α} {view : Json → Option α} {decoder' : Decoder β}
  {view' : Json → Option β}

/-- The views of two fields that are kept side by side. -/
def pairViews (h : decoder.Sees view) (h' : decoder'.Sees view') (name name' : String) :
    List (FieldView (Option α × Option β)) := [
  .ofDecoder h name true Prod.fst fun state value => (some value, state.2),
  .ofDecoder h' name' true Prod.snd fun state value => (state.1, some value)]

/-- What a member adds to two fields. -/
theorem memberView_pairViews (h : decoder.Sees view) (h' : decoder'.Sees view')
    (name name' key : String) (json : Json) (state : Option α × Option β) :
    memberView (pairViews h h' name name') state (key, json) =
      if key = name then
        if state.1.isSome then none else (view json).map fun a => (some a, state.2)
      else if key = name' then
        if state.2.isSome then none else (view' json).map fun b => (state.1, some b)
      else some state := by
  unfold memberView pairViews
  rw [List.find?_cons, List.find?_cons, List.find?_nil]
  by_cases hkey : key = name
  · have hname : (name == key) = true := by simp [hkey]
    simp only [FieldView.ofDecoder, Field.ofDecoder, hname, if_pos hkey]
  · have hname : (name == key) = false := by simp [Ne.symm hkey]
    by_cases hkey' : key = name'
    · have hname' : (name' == key) = true := by simp [hkey']
      simp only [FieldView.ofDecoder, Field.ofDecoder, hname, hname', if_neg hkey, if_pos hkey']
    · have hname' : (name' == key) = false := by simp [Ne.symm hkey']
      simp only [FieldView.ofDecoder, Field.ofDecoder, hname, hname', if_neg hkey, if_neg hkey']

/-- Members add to each field what stands under its name. -/
theorem foldlM_pairViews (h : decoder.Sees view) (h' : decoder'.Sees view') {name name' : String}
    (hne : name ≠ name') (pairs : List (String × Json)) (state : Option α × Option β) :
    pairs.foldlM (memberView (pairViews h h' name name')) state =
      (unlessRead view state.1 (valuesOf name pairs)).bind fun a =>
        (unlessRead view' state.2 (valuesOf name' pairs)).map fun b => (a, b) := by
  induction pairs generalizing state with
  | nil =>
      obtain ⟨o, o'⟩ := state
      cases o <;> cases o' <;> rfl
  | cons pair pairs ih =>
      obtain ⟨key, json⟩ := pair
      obtain ⟨o, o'⟩ := state
      rw [List.foldlM_cons, memberView_pairViews, Option.bind_eq_bind]
      split_ifs with hkey hset hkey' hset'
      · rw [hkey, valuesOf_cons_self, unlessRead_cons, if_pos hset]
        rfl
      · rw [hkey, valuesOf_cons_self, valuesOf_cons_of_ne hne, unlessRead_cons, if_neg hset,
          Option.bind_map, Option.bind_assoc]
        exact congrArg _ (funext fun a => ih (some a, o'))
      · rw [hkey', valuesOf_cons_self, unlessRead_cons, if_pos hset']
        cases unlessRead view (o, o').1 (valuesOf name ((name', json) :: pairs)) with
        | none => rfl
        | some a => rfl
      · -- The view has the first field in front, the text the second one: either may fail first.
        rw [hkey', valuesOf_cons_self, valuesOf_cons_of_ne (Ne.symm hne), unlessRead_cons,
          if_neg hset', Option.bind_map]
        have hrest : ∀ b, pairs.foldlM (memberView (pairViews h h' name name')) (o, some b) =
            (unlessRead view o (valuesOf name pairs)).bind fun a =>
              (unlessRead view' (some b) (valuesOf name' pairs)).map fun b => (a, b) :=
          fun b => ih (o, some b)
        simp only [Function.comp_def, hrest]
        cases unlessRead view o (valuesOf name pairs) with
        | none =>
            cases view' json with
            | none => rfl
            | some b => rfl
        | some a =>
            cases view' json with
            | none => rfl
            | some b => rfl
      · rw [valuesOf_cons_of_ne hkey, valuesOf_cons_of_ne hkey']
        exact ih (o, o')

/-- The view of the items of an array as two fields. -/
theorem itemsView_pairViews (h : decoder.Sees view) (h' : decoder'.Sees view') (name name' : String)
    (items : List Json) :
    itemsView (pairViews h h' name name') (none, none) items =
      pairView name view name' view' (.array items) := by
  match items with
  | [] => rfl
  | [json] =>
      change ((view json).map fun a => (some a, none)).bind some =
        (view json).bind fun a => some (some a, none)
      rw [Option.bind_map]
      rfl
  | [json, json'] =>
      change ((view json).map fun a => (some a, none)).bind
          (fun state => ((view' json').map fun b => (state.1, some b)).bind some) =
        (view json).bind fun a => (view' json').bind fun b => some (some a, some b)
      rw [Option.bind_map]
      refine congrArg _ (funext fun a => ?_)
      exact Option.bind_map ..
  | json :: json' :: json'' :: items =>
      change ((view json).map fun a => (some a, none)).bind
          (fun state => ((view' json').map fun b => (state.1, some b)).bind fun _ => none) = none
      simp only [Option.bind_fun_none]

/-- The view of a record of two fields that are kept side by side. -/
theorem view_eq_pairView (h : decoder.Sees view) (h' : decoder'.Sees view') {name name' : String}
    (hne : name ≠ name') {γ : Type} {record : Record (Option α × Option β) γ}
    (hstart : record.start = (none, none)) (json : Json) :
    record.view (pairViews h h' name name') json =
      (pairView name view name' view' json).bind fun state => (record.finish state).toOption := by
  cases json with
  | object pairs =>
      change ((pairs.foldlM (memberView (pairViews h h' name name')) record.start).bind _) = _
      rw [hstart, foldlM_pairViews h h' hne]
      refine congrArg (Option.bind · _) ?_
      change ((atMostOnce view (valuesOf name pairs)).bind fun a =>
          (atMostOnce view' (valuesOf name' pairs)).map fun b => (a, b)) =
        (atMostOnce view (valuesOf name pairs)).bind fun a =>
          (atMostOnce view' (valuesOf name' pairs)).bind fun b => some (a, b)
      simp only [Option.map_eq_bind, Function.comp_def]
  | array items =>
      change ((itemsView (pairViews h h' name name') record.start items).bind _) = _
      rw [hstart, itemsView_pairViews]
  | _ => rfl

/-- **A record of two fields that may be absent is seen** as the pair of them. -/
theorem pair_sees (h : decoder.Sees view) (h' : decoder'.Sees view') {name name' : String}
    (hne : name ≠ name') {γ : Type} {record : Record (Option α × Option β) γ}
    {m : Option α × Option β → γ}
    (hfields : (pairViews h h' name name').map FieldView.field = record.fields)
    (hstart : record.start = (none, none)) (hfinish : record.finish = fun state => .ok (m state)) :
    record.decoder.Sees fun json => (pairView name view name' view' json).map m := by
  have hview : record.view (pairViews h h' name name') =
      fun json => (pairView name view name' view' json).map m := by
    funext json
    rw [view_eq_pairView h h' hne hstart, hfinish]
    exact Option.map_eq_bind.symm
  exact hview ▸ decoder_sees hfields

end

end Record

/-! ## Whole texts -/

/-- **What is decoded from a text** is what is seen in its unmerged value. -/
theorem Decoder.Sees.decode {decoder : Decoder α} {view : Json → Option α} (h : decoder.Sees view)
    {text : String} {json : Json} (hread : parseUnmerged text = .ok json) :
    (Json.decode decoder text).toOption = view json := by
  obtain ⟨rest, hvalue, hend⟩ := readAll_eq_ok.mp hread
  have hgives : Gives rest (decoder (fuelFor text.toList) maxLevels text.toList) (view json) :=
    h _ _ _ _ _ (Nat.lt_succ_self _) hvalue
  generalize hfound : decoder (fuelFor text.toList) maxLevels text.toList = found at hgives
  generalize view json = seen at hgives ⊢
  cases hgives with
  | found a => exact toOption_eq_some.mpr (readAll_eq_ok.mpr ⟨rest, hfound, hend⟩)
  | fails fault =>
      cases hdecode : Json.decode decoder text with
      | error error => rfl
      | ok a =>
          obtain ⟨behind, hread, -⟩ := readAll_eq_ok.mp hdecode
          rw [hfound] at hread
          exact nomatch hread

end GraphImport.Json
