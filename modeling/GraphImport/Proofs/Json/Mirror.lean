import GraphImport.Json.Decoder
import GraphImport.Proofs.Property.Related
import GraphImport.Proofs.Result

/-!
# Readers that read alike

Two readers of the same text may differ in what they make of it. One mirrors the other when it reads
whatever the other reads, leaves the same text, and finds something that is related to what the
other finds. Everything that is built from readers keeps this.

* `Json.Mirrors` — one reader mirrors another, with a lemma for each step that readers consist of.
* `Json.readItems_mirrors`, `Json.readMembers_mirrors` — arrays and objects.
* `Json.RelatedMembers` — objects with the same keys and related values.
* `Json.Record.Mirrors.decoder` — records.
* `Json.Decoder.Mirrors.decode` — whole texts.
-/

namespace GraphImport.Json

variable {α β σ τ : Type} {Q : α → β → Prop} {R : σ → τ → Prop}

/-- **The second reader mirrors the first**: it reads what the first reads, up to the same place, and
finds something related. -/
def Mirrors (Q : α → β → Prop) (f : Reader α) (g : Reader β) : Prop :=
  ∀ text a rest, f text = .ok (a, rest) → ∃ b, g text = .ok (b, rest) ∧ Q a b

/-! ## Steps of readers -/

namespace Mirrors

variable {α' β' : Type} {P : α' → β' → Prop}

/-- A reader that fails is mirrored by every reader. -/
theorem fails {fault : List Char → Fault} {g : Reader β} :
    Mirrors Q (fun text => .error (fault text)) g := fun _ _ _ hread => nomatch hread

/-- A value that has been found. -/
theorem found {a : α} {b : β} (h : Q a b) :
    Mirrors Q (fun text => .ok (a, text)) (fun text => .ok (b, text)) := by
  intro text a' rest hread
  cases hread
  exact ⟨b, rfl, h⟩

/-- Readers that start one character earlier. -/
theorem cons {f : Reader α} {g : Reader β} (h : Mirrors Q f g) (c : Char) :
    Mirrors Q (fun text => f (c :: text)) (fun text => g (c :: text)) := fun text => h (c :: text)

/-- Two readers in each case. -/
theorem ite {p : Prop} [Decidable p] {f f' : Reader α} {g g' : Reader β} (h : p → Mirrors Q f g)
    (h' : ¬p → Mirrors Q f' g') :
    Mirrors Q (fun text => if p then f text else f' text)
      (fun text => if p then g text else g' text) := by
  by_cases hp : p
  · simpa only [if_pos hp] using h hp
  · simpa only [if_neg hp] using h' hp

/-- What is found may be changed afterwards. -/
theorem map {f : Reader α'} {g : Reader β'} (h : Mirrors P f g) {m : α' → α} {m' : β' → β}
    (hm : ∀ a b, P a b → Q (m a) (m' b)) :
    Mirrors Q (fun text => do let (a, rest) ← f text; return (m a, rest))
      (fun text => do let (b, rest) ← g text; return (m' b, rest)) := by
  intro text a rest hread
  obtain ⟨⟨found, after⟩, hfound, hread⟩ := bind_eq_ok.mp hread
  cases hread
  obtain ⟨found', hfound', hrelated⟩ := h _ _ _ hfound
  exact ⟨m' found', bind_eq_ok.mpr ⟨(found', rest), hfound', rfl⟩, hm _ _ hrelated⟩

/-- A word stands for one thing. -/
theorem word (word : List Char) {a : α} {b : β} (h : Q a b) :
    Mirrors Q (fun text => do return (a, ← readWord word text))
      (fun text => do return (b, ← readWord word text)) := by
  intro text found rest hread
  obtain ⟨after, hword, hread⟩ := bind_eq_ok.mp hread
  cases hread
  exact ⟨b, bind_eq_ok.mpr ⟨rest, hword, rfl⟩, h⟩

/-- Blanks in front of a value are skipped. -/
theorem behindBlank {f : Char → Reader α} {g : Char → Reader β} (h : ∀ c, Mirrors Q (f c) (g c)) :
    Mirrors Q
      (fun text =>
        match skipBlank text with
        | [] => .error (.atEnd .endOfValue)
        | c :: rest => f c rest)
      (fun text =>
        match skipBlank text with
        | [] => .error (.atEnd .endOfValue)
        | c :: rest => g c rest) := by
  intro text a rest hread
  dsimp only at hread ⊢
  cases hblank : skipBlank text with
  | nil =>
      rw [hblank] at hread
      exact nomatch hread
  | cons c after =>
      rw [hblank] at hread
      exact h c _ _ _ hread

/-- One reader behind another. -/
theorem andThen {f : Reader α'} {g : Reader β'} (h : Mirrors P f g) {k : α' → Reader α}
    {k' : β' → Reader β} (hk : ∀ a b, P a b → Mirrors Q (k a) (k' b)) :
    Mirrors Q
      (fun text =>
        match f text with
        | .error fault => .error fault
        | .ok (a, rest) => k a rest)
      (fun text =>
        match g text with
        | .error fault => .error fault
        | .ok (b, rest) => k' b rest) := by
  intro text a rest hread
  dsimp only at hread ⊢
  rcases hfound : f text with fault | ⟨found, after⟩
  · rw [hfound] at hread
    exact nomatch hread
  · obtain ⟨found', hfound', hrelated⟩ := h _ _ _ hfound
    rw [hfound] at hread
    rw [hfound']
    exact hk found found' hrelated _ _ _ hread

/-- A reader behind a string. -/
theorem behindQuoted {fuel : Nat} {k : String → Reader α} {k' : String → Reader β}
    (hk : ∀ key, Mirrors Q (k key) (k' key)) :
    Mirrors Q
      (fun text =>
        match readQuoted fuel [] text with
        | .error fault => .error fault
        | .ok (key, rest) => k key rest)
      (fun text =>
        match readQuoted fuel [] text with
        | .error fault => .error fault
        | .ok (key, rest) => k' key rest) := by
  intro text a rest hread
  dsimp only at hread ⊢
  rcases hkey : readQuoted fuel [] text with fault | ⟨key, after⟩
  · rw [hkey] at hread
    exact nomatch hread
  · rw [hkey] at hread
    exact hk key _ _ _ hread

/-- A reader behind something that stands for nothing. -/
theorem behind {skip : List Char → Except Fault (List Char)} {f : Reader α} {g : Reader β}
    (h : Mirrors Q f g) :
    Mirrors Q
      (fun text =>
        match skip text with
        | .error fault => .error fault
        | .ok rest => f rest)
      (fun text =>
        match skip text with
        | .error fault => .error fault
        | .ok rest => g rest) := by
  intro text a rest hread
  dsimp only at hread ⊢
  rcases hskip : skip text with fault | after
  · rw [hskip] at hread
    exact nomatch hread
  · rw [hskip] at hread
    exact h _ _ _ hread

/-- What stands before the next part of an array or object, and the readers for both cases. -/
theorem next {find : List Char → Except Fault Next} {closed : Reader α} {closed' : Reader β}
    {more : Reader α} {more' : Reader β} (hclosed : Mirrors Q closed closed')
    (hmore : Mirrors Q more more') :
    Mirrors Q
      (fun text =>
        match find text with
        | .error fault => .error fault
        | .ok (.closed rest) => closed rest
        | .ok (.more rest) => more rest)
      (fun text =>
        match find text with
        | .error fault => .error fault
        | .ok (.closed rest) => closed' rest
        | .ok (.more rest) => more' rest) := by
  intro text a rest hread
  dsimp only at hread ⊢
  rcases hfind : find text with fault | after | after
  · rw [hfind] at hread
    exact nomatch hread
  · rw [hfind] at hread
    exact hmore _ _ _ hread
  · rw [hfind] at hread
    exact hclosed _ _ _ hread

/-- What stands inside a bracket. -/
theorem inside {levels : Nat} {c : Char} {f : (levels : Nat) → Reader α}
    {g : (levels : Nat) → Reader β} (h : ∀ levels, Mirrors Q (f levels) (g levels)) :
    Mirrors Q (fun rest => Decoder.inside levels c rest fun levels => f levels rest)
      (fun rest => Decoder.inside levels c rest fun levels => g levels rest) := by
  intro text a rest hread
  cases levels with
  | zero => exact nomatch hread
  | succ levels => exact h levels _ _ _ hread

end Mirrors

/-! ## Arrays and objects -/

/-- Items that are read alike make arrays that are read alike. -/
theorem readItems_mirrors {f : Reader α} {g : Reader β} (h : Mirrors Q f g) (fuel : Nat)
    (first : Bool) {done : List α} {done' : List β} (hdone : List.Forall₂ Q done done') :
    Mirrors (List.Forall₂ Q) (readItems f fuel first done) (readItems g fuel first done') := by
  induction fuel generalizing first done done' with
  | zero => exact .fails
  | succ fuel ih =>
      apply Mirrors.next
      · exact .found (List.rel_reverse hdone)
      · apply h.andThen
        intro item item' hitem
        exact ih false (.cons hitem hdone)

/-- **Objects with the same keys and related values**; no key stands twice. -/
structure RelatedMembers (Q : α → β → Prop) (members : Entries α) (members' : Entries β) :
    Prop where
  /-- No key stands twice. -/
  nodup : members.keys.Nodup
  /-- The members are related one by one. -/
  related : Entries.Related Q members members'

theorem RelatedMembers.nil : RelatedMembers Q [] [] := ⟨.nil, .nil⟩

/-- Writing related values under a key keeps objects related. -/
theorem RelatedMembers.insert {members : Entries α} {members' : Entries β}
    (h : RelatedMembers Q members members') (key : String) {value : α} {value' : β}
    (hvalue : Q value value') :
    RelatedMembers Q (members.insert key value) (members'.insert key value') :=
  ⟨Entries.nodup_keys_insert h.nodup, h.related.insert key hvalue⟩

/-- Values that are read alike make objects that are read alike. -/
theorem readMembers_mirrors {f : Reader α} {g : Reader β} (h : Mirrors Q f g) (fuel : Nat)
    (first : Bool) {done : Entries α} {done' : Entries β} (hdone : RelatedMembers Q done done') :
    Mirrors (RelatedMembers Q) (readMembers f fuel first done) (readMembers g fuel first done') := by
  induction fuel generalizing first done done' with
  | zero => exact .fails
  | succ fuel ih =>
      apply Mirrors.next
      · exact .found hdone
      · apply Mirrors.behindQuoted
        intro key
        apply Mirrors.behind
        apply h.andThen
        intro value value' hvalue
        exact ih false (hdone.insert key hvalue)

/-! ## Decoders -/

/-- Decoders that read alike, with any fuel and any levels. -/
def Decoder.Mirrors (Q : α → β → Prop) (f : Decoder α) (g : Decoder β) : Prop :=
  ∀ fuel levels, Json.Mirrors Q (f fuel levels) (g fuel levels)

/-- Arrays of values that are read alike. -/
theorem Decoder.Mirrors.list {f : Decoder α} {g : Decoder β} (h : Decoder.Mirrors Q f g) :
    Decoder.Mirrors (List.Forall₂ Q) (Decoder.list f) (Decoder.list g) := by
  intro fuel levels
  apply Json.Mirrors.behindBlank
  intro c
  apply Json.Mirrors.ite
  · intro _
    exact .inside fun levels => readItems_mirrors (h fuel levels) fuel true .nil
  · intro _
    exact .fails

/-- Objects of values that are read alike. -/
theorem Decoder.Mirrors.members {f : Decoder α} {g : Decoder β} (h : Decoder.Mirrors Q f g) :
    Decoder.Mirrors (RelatedMembers Q) (Decoder.members f) (Decoder.members g) := by
  intro fuel levels
  apply Json.Mirrors.behindBlank
  intro c
  apply Json.Mirrors.ite
  · intro _
    exact .inside fun levels => readMembers_mirrors (h fuel levels) fuel true .nil
  · intro _
    exact .fails

/-! ## Records -/

/-- Fields with one name that are read alike. -/
structure Field.Mirrors (R : σ → τ → Prop) (f : Field σ) (g : Field τ) : Prop where
  /-- They have one name. -/
  name : f.name = g.name
  /-- An array may end in front of both or of none. -/
  defaulted : f.defaulted = g.defaulted
  /-- They are there together. -/
  isSet : ∀ s t, R s t → f.isSet s = g.isSet t
  /-- They are read alike. -/
  read : ∀ s t, R s t → Decoder.Mirrors R (f.read s) (g.read t)

/-- Records of fields that are read alike. -/
structure Record.Mirrors (R : σ → τ → Prop) (Q : α → β → Prop) (f : Record σ α) (g : Record τ β) :
    Prop where
  /-- The fields, in order. -/
  fields : List.Forall₂ (Field.Mirrors R) f.fields g.fields
  /-- What there is before any field. -/
  start : R f.start g.start
  /-- What is made of the fields. -/
  finish : ∀ s t a, R s t → f.finish s = .ok a → ∃ b, g.finish t = .ok b ∧ Q a b

/-- A field that a decoder reads into one place of the state. -/
theorem Decoder.Mirrors.field {d : Decoder α} {e : Decoder β} (h : Decoder.Mirrors Q d e)
    (name : String) (defaulted : Bool) {get : σ → Option α} {get' : τ → Option β}
    {set : σ → α → σ} {set' : τ → β → τ}
    (hget : ∀ s t, R s t → (get s).isSome = (get' t).isSome)
    (hset : ∀ s t a b, R s t → Q a b → R (set s a) (set' t b)) :
    Field.Mirrors R (.ofDecoder name defaulted get set d) (.ofDecoder name defaulted get' set' e) where
  name := rfl
  defaulted := rfl
  isSet := hget
  read s t hst fuel levels := by
    apply (h fuel levels).andThen
    intro a b hrelated
    exact .found (hset s t a b hst hrelated)

namespace Record.Mirrors

variable {f : Record σ α} {g : Record τ β} {s : σ} {t : τ}

/-- What is made of the fields that have been read. -/
theorem complete (h : f.Mirrors R Q g) (hst : R s t) :
    Json.Mirrors Q (f.complete s) (g.complete t) := by
  intro text a rest hread
  unfold Record.complete at hread ⊢
  rcases hfinish : f.finish s with cause | value
  · rw [hfinish] at hread
    exact nomatch hread
  · obtain ⟨value', hvalue', hrelated⟩ := h.finish s t value hst hfinish
    rw [hfinish] at hread
    rw [hvalue']
    cases hread
    exact ⟨_, rfl, hrelated⟩

/-- Fields with one name are found together. -/
theorem find? {fields : List (Field σ)} {fields' : List (Field τ)}
    (h : List.Forall₂ (Field.Mirrors R) fields fields') (key : String) :
    Option.Rel (Field.Mirrors R) (fields.find? fun field => field.name == key)
      (fields'.find? fun field => field.name == key) := by
  induction h with
  | nil => exact .none
  | @cons field field' rest rest' hfield _ ih =>
      rw [List.find?_cons, List.find?_cons, ← hfield.name]
      cases field.name == key with
      | true => exact .some hfield
      | false => exact ih

/-- A field that may not be left out is missing from both or from none. -/
theorem findIdx? {fields : List (Field σ)} {fields' : List (Field τ)}
    (h : List.Forall₂ (Field.Mirrors R) fields fields') :
    (fields.findIdx? fun field => !field.defaulted) =
      fields'.findIdx? fun field => !field.defaulted := by
  induction h with
  | nil => rfl
  | cons hfield _ ih => rw [List.findIdx?_cons, List.findIdx?_cons, hfield.defaulted, ih]

/-- A member is read alike. -/
theorem readMember (h : f.Mirrors R Q g) (fuel levels : Nat) (key : String) (hst : R s t) :
    Json.Mirrors R (f.readMember fuel levels key s) (g.readMember fuel levels key t) := by
  intro text s' rest hread
  unfold Record.readMember at hread ⊢
  have hfind := find? h.fields key
  generalize f.fields.find? (fun field => field.name == key) = found at hread hfind
  generalize g.fields.find? (fun field => field.name == key) = found' at hfind ⊢
  cases hfind with
  | none =>
      obtain ⟨behind, hcolon, hread⟩ := bind_eq_ok.mp hread
      obtain ⟨after, hskip, hread⟩ := bind_eq_ok.mp hread
      cases hread
      exact ⟨t, bind_eq_ok.mpr ⟨behind, hcolon, bind_eq_ok.mpr ⟨rest, hskip, rfl⟩⟩, hst⟩
  | @some field field' hfield =>
      dsimp only at hread ⊢
      rw [← hfield.isSet s t hst]
      by_cases hset : field.isSet s = true
      · rw [if_pos hset] at hread
        exact nomatch hread
      · rw [if_neg hset] at hread ⊢
        rcases hcolon : readColon text with fault | behind
        · rw [hcolon] at hread
          exact nomatch hread
        · rw [hcolon] at hread
          exact hfield.read s t hst fuel levels _ _ _ hread

/-- The fields of an array are read alike. -/
theorem readArray (h : f.Mirrors R Q g) (fuel levels index : Nat) {fields : List (Field σ)}
    {fields' : List (Field τ)} (hfields : List.Forall₂ (Field.Mirrors R) fields fields')
    (hst : R s t) :
    Json.Mirrors Q (f.readArray fuel levels fields index s)
      (g.readArray fuel levels fields' index t) := by
  induction hfields generalizing index s t with
  | nil =>
      apply Json.Mirrors.behind
      exact h.complete hst
  | @cons field field' more more' hfield hmore ih =>
      apply Json.Mirrors.next
      · rw [← findIdx? (.cons hfield hmore)]
        cases (field :: more).findIdx? fun field => !field.defaulted with
        | some missing => exact .fails
        | none => exact h.complete hst
      · apply (hfield.read s t hst fuel levels).andThen
        intro s' t' hst'
        exact ih (index + 1) hst'

/-- The members of an object are read alike. -/
theorem readObject (h : f.Mirrors R Q g) (fuel levels rounds : Nat) (first : Bool) (hst : R s t) :
    Json.Mirrors Q (f.readObject fuel levels rounds first s)
      (g.readObject fuel levels rounds first t) := by
  induction rounds generalizing first s t with
  | zero => exact .fails
  | succ rounds ih =>
      apply Json.Mirrors.next
      · exact h.complete hst
      · apply Json.Mirrors.behindQuoted
        intro key
        apply (h.readMember fuel levels key hst).andThen
        intro s' t' hst'
        exact ih false hst'

/-- **Records of fields that are read alike are read alike.** -/
theorem decoder (h : f.Mirrors R Q g) : Decoder.Mirrors Q f.decoder g.decoder := by
  intro fuel levels
  apply Json.Mirrors.behindBlank
  intro c
  apply Json.Mirrors.ite
  · intro _
    exact .inside fun levels => h.readArray fuel levels 0 h.fields h.start
  · intro _
    apply Json.Mirrors.ite
    · intro _
      exact .inside fun levels => h.readObject fuel levels fuel true h.start
    · intro _
      exact .fails

end Record.Mirrors

/-! ## Whole texts -/

/-- A text is read when its value is read and nothing but blanks follows. -/
theorem readAll_eq_ok {read : (fuel levels : Nat) → Reader α} {text : String} {a : α} :
    readAll read text = .ok a ↔
      ∃ rest, read (fuelFor text.toList) maxLevels text.toList = .ok (a, rest) ∧
        readEnd rest = .ok () := by
  unfold readAll
  dsimp only
  split
  · rename_i value hresult
    obtain ⟨⟨found, behind⟩, hvalue, hresult⟩ := bind_eq_ok.mp hresult
    obtain ⟨_, hend, hresult⟩ := bind_eq_ok.mp hresult
    cases hresult
    rw [Except.ok.injEq]
    constructor
    · rintro rfl
      exact ⟨behind, hvalue, hend⟩
    · rintro ⟨rest, hrest, -⟩
      rw [hvalue] at hrest
      cases hrest
      rfl
  · rename_i fault hresult
    refine ⟨fun h => (nomatch h), ?_⟩
    rintro ⟨rest, hvalue, hend⟩
    rw [hvalue] at hresult
    change (readEnd rest >>= fun _ => pure a) = .error fault at hresult
    rw [hend] at hresult
    exact nomatch hresult

/-- **Whole texts are read alike.** -/
theorem Decoder.Mirrors.decode {f : Decoder α} {g : Decoder β} (h : Decoder.Mirrors Q f g)
    {text : String} {a : α} (hread : Json.decode f text = .ok a) :
    ∃ b, Json.decode g text = .ok b ∧ Q a b := by
  obtain ⟨rest, hvalue, hend⟩ := readAll_eq_ok.mp hread
  obtain ⟨b, hvalue', hrelated⟩ := h _ _ _ _ _ hvalue
  exact ⟨b, readAll_eq_ok.mpr ⟨rest, hvalue', hend⟩, hrelated⟩

end GraphImport.Json
