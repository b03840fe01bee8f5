import GraphImport.Proofs.Document.Acceptance
import GraphImport.Proofs.Json.Written

/-!
# Integers of documents

What becomes of the integers among the properties of a document. An integer of 64 bits with a sign
is read as it is, and one that only fits in 64 bits without a sign makes the document unreadable.
All other integers, however large, and zero with a minus sign are silently read as doubles: the check
of the range sees only what is an integer after the text has been read.

* `WrittenOutline` — the objects that a document lists, with their numbers as they are written.
* `Place` — a place among the properties of a document, with `WrittenOutline.numberAt?` and
  `Document.valueAt?`.
* `integers_of_text` — what each integer of a document is read as.
* `large_integer_altered` — an integer that is altered.
-/

namespace GraphImport

open Json (Written IsWritten RelatedMembers IsInteger minusZero)

/-! ## Written outlines -/

/-- The objects that a document lists, with their numbers as they are written. -/
structure WrittenOutline where
  /-- The objects of the nodes. -/
  nodes : List (Entries Written)
  /-- The objects of the relationships. -/
  relationships : List (Entries Written)

namespace WrittenOutline

/-- A list of objects. -/
def objects : Json.Decoder (List (Entries Written)) := .list (.members Written.decoder)

/-- The outline as it is read from text; an absent list is empty. -/
def record : Json.Record (Option (List (Entries Written)) × Option (List (Entries Written)))
    WrittenOutline where
  name := "RawDocument"
  fields := [
    .ofDecoder "nodes" true Prod.fst (fun state value => (some value, state.2)) objects,
    .ofDecoder "rels" true Prod.snd (fun state value => (state.1, some value)) objects]
  start := (none, none)
  finish := fun state => .ok ⟨state.1.getD [], state.2.getD []⟩

/-- The outline of a text. -/
def ofText (text : String) : Except Json.ReadError WrittenOutline :=
  Json.decode record.decoder text

end WrittenOutline

/-- Objects that stand for each other, one by one. -/
abbrev AreWritten : List (Entries Json) → List (Entries Written) → Prop :=
  List.Forall₂ (RelatedMembers IsWritten)

/-- The outline is what the written outline stands for. -/
structure Outline.IsWrittenAs (outline : Outline) (w : WrittenOutline) : Prop where
  /-- The objects of the nodes. -/
  nodes : AreWritten outline.nodes w.nodes
  /-- The objects of the relationships. -/
  relationships : AreWritten outline.relationships w.relationships

/-- Lists that have been read stand for each other, and so do lists that are absent. -/
theorem areWritten_getD {found : Option (List (Entries Json))}
    {found' : Option (List (Entries Written))} (h : Option.Rel AreWritten found found') :
    AreWritten (found.getD []) (found'.getD []) := by
  cases h with
  | none => exact .nil
  | some h => exact h

theorem isSome_eq_of_rel {α β : Type} {Q : α → β → Prop} {found : Option α} {found' : Option β}
    (h : Option.Rel Q found found') : found.isSome = found'.isSome := by
  cases h with
  | none => rfl
  | some _ => rfl

/-- What has been read of two outlines stands for each other. -/
structure WrittenOutline.StateRead
    (s : Option (List (Entries Json)) × Option (List (Entries Json)))
    (t : Option (List (Entries Written)) × Option (List (Entries Written))) : Prop where
  /-- The nodes, if they have been read. -/
  nodes : Option.Rel AreWritten s.1 t.1
  /-- The relationships, if they have been read. -/
  relationships : Option.Rel AreWritten s.2 t.2

/-- The two records are read alike. -/
theorem WrittenOutline.record_mirrors :
    Json.Record.Mirrors StateRead Outline.IsWrittenAs Outline.record record where
  fields := by
    have hobjects : Json.Decoder.Mirrors AreWritten Outline.objects objects :=
      Written.mirrors.members.list
    refine .cons (hobjects.field "nodes" true ?_ ?_)
      (.cons (hobjects.field "rels" true ?_ ?_) .nil)
    · exact fun s t h => isSome_eq_of_rel h.nodes
    · exact fun s t a b h hvalue => ⟨.some hvalue, h.relationships⟩
    · exact fun s t h => isSome_eq_of_rel h.relationships
    · exact fun s t a b h hvalue => ⟨h.nodes, .some hvalue⟩
  start := ⟨.none, .none⟩
  finish s t a h hfinish := by
    cases hfinish
    exact ⟨_, rfl, areWritten_getD h.nodes, areWritten_getD h.relationships⟩

/-- **Whatever has an outline has a written outline** that stands for it. -/
theorem Outline.exists_isWrittenAs {text : String} {outline : Outline}
    (h : Outline.ofText text = .ok outline) :
    ∃ w, WrittenOutline.ofText text = .ok w ∧ outline.IsWrittenAs w :=
  WrittenOutline.record_mirrors.decoder.decode h

/-! ## Places -/

/-- A field of an entry that may hold properties. -/
inductive MapField where
  /-- The properties. -/
  | props
  /-- By what the entry is found. -/
  | matching
  /-- What is written when it is found. -/
  | updating

/-- The name of a field. -/
def MapField.name : MapField → String
  | props => "props"
  | matching => "match"
  | updating => "update"

/-- **A place among the properties of a document.** -/
structure Place where
  /-- The entry. -/
  entry : EntryRef
  /-- The field that holds the properties. -/
  field : MapField
  /-- The key of the property. -/
  key : String
  /-- The position in the list that is the value, if it is a list. -/
  item : Option Nat

/-- The value itself, or an item of the list that it is. -/
def Json.Written.item? : Option Nat → Written → Option Written
  | none, value => some value
  | some i, .array items => items[i]?
  | some _, _ => none

/-- The value itself, or an item of the list that it is. -/
def Value.item? : Option Nat → Value → Option Value
  | none, value => some value
  | some i, .list items => items[i]?
  | some _, _ => none

/-- The members of an object. -/
def Json.Written.members? : Written → Option (Entries Written)
  | object members => some members
  | _ => none

/-- The characters of a number. -/
def Json.Written.number? : Written → Option (List Char)
  | number text => some text
  | _ => none

/-- The object of an entry. -/
def WrittenOutline.entry? (w : WrittenOutline) : EntryRef → Option (Entries Written)
  | .node i => w.nodes[i]?
  | .relationship j => w.relationships[j]?

/-- The number that is written in a place. -/
def WrittenOutline.numberAt? (w : WrittenOutline) (place : Place) : Option (List Char) := do
  let members ← w.entry? place.entry
  let field ← members.find? place.field.name
  let properties ← field.members?
  let value ← properties.find? place.key
  (← value.item? place.item).number?

/-- The fields that an entry has in common with others. -/
def Document.entry? (d : Document) : EntryRef → Option Entry
  | .node i => d.nodes[i]?.map Node.toEntry
  | .relationship j => d.relationships[j]?.map Relationship.toEntry

/-- The properties that a field holds. -/
def Entry.properties? (e : Entry) : MapField → Option Properties
  | .props => some e.props
  | .matching =>
    match e.matching with
    | .onMap map => some map
    | _ => none
  | .updating =>
    match e.updating with
    | .onMap map => some map
    | _ => none

/-- The value that a document has in a place. -/
def Document.valueAt? (d : Document) (place : Place) : Option Value := do
  let e ← d.entry? place.entry
  let p ← e.properties? place.field
  (← p.get? place.key).item? place.item

/-! ## What is read in a place -/

/-- Only numbers have characters. -/
theorem Json.Written.number?_eq_some {value : Written} {characters : List Char} :
    value.number? = some characters ↔ value = .number characters := by
  cases value with
  | number text => simp [number?]
  | _ => simp [number?]

/-- Only objects have members. -/
theorem Json.Written.members?_eq_some {value : Written} {members : Entries Written} :
    value.members? = some members ↔ value = .object members := by
  cases value with
  | object found => simp [members?]
  | _ => simp [members?]

/-- What is written as an object is an object. -/
theorem exists_members {json : Json} {members' : Entries Written}
    (h : IsWritten json (.object members')) :
    ∃ members, json = .object members ∧ RelatedMembers IsWritten members members' := by
  cases json with
  | object members => exact ⟨members, rfl, Json.isWritten_object.mp h⟩
  | _ => exact nomatch h

/-- A value that is written as a number, or a list that holds one, is read as a scalar or a list that
holds one. -/
theorem item?_of_isWritten {json : Json} {value' : Written} {value : Value} {item : Option Nat}
    {characters : List Char} (hwritten : IsWritten json value') (hvalue : json.IsValue value)
    (hnumber : value'.item? item = some (.number characters)) :
    ∃ number found, IsWritten (.number number) (.number characters) ∧
      Json.IsScalar (.number number) found ∧ value.item? item = some found := by
  cases item with
  | none =>
      cases hnumber
      cases hwritten with
      | @number n _ rest h =>
          cases hvalue with
          | scalar hscalar => exact ⟨n, value, .number rest h, hscalar, rfl⟩
  | some i =>
      cases value' with
      | array items' =>
          cases hwritten with
          | array hitems =>
              cases hvalue with
              | scalar hscalar => exact nomatch hscalar
              | list hvalues =>
                  obtain ⟨json, hjson, hnumber⟩ := exists_left (rel_getElem? hitems i) hnumber
                  obtain ⟨found, hfound, hscalar⟩ := exists_right (rel_getElem? hvalues i) hjson
                  cases hnumber with
                  | @number n _ rest h => exact ⟨n, found, .number rest h, hscalar, hfound⟩
      | _ => exact nomatch hnumber

/-- An object that is found under a name is what a field holds. -/
theorem fieldValue?_object {members fields : Entries Json} {name : String}
    (h : members.find? name = some (.object fields)) :
    fieldValue? name members = some (.object fields) := by
  unfold fieldValue?
  rw [h]
  rfl

/-- The properties that a field of an object stands for. -/
theorem Entry.IsReadFrom.properties? {members fields : Entries Json} {e : Entry} {field : MapField}
    (h : e.IsReadFrom members) (hkeys : members.keys.Nodup)
    (hfield : members.find? field.name = some (.object fields)) (hne : fields ≠ []) :
    ∃ p, e.properties? field = some p ∧ Json.IsProperties fields p := by
  have hvalue := fieldValue?_object hfield
  cases field with
  | props =>
      obtain ⟨held, hheld, haccepts⟩ := h.props
      obtain rfl := hvalue.symm.trans ((hasField_iff hkeys).mp hheld)
      cases haccepts with
      | object hproperties => exact ⟨_, rfl, hproperties⟩
  | matching =>
      obtain ⟨held, hheld, haccepts⟩ := h.matching
      obtain rfl := hvalue.symm.trans ((hasField_iff hkeys).mp hheld)
      unfold Entry.properties?
      generalize e.matching = rule at haccepts ⊢
      cases haccepts with
      | map hproperties => exact ⟨_, rfl, hproperties⟩
  | updating =>
      obtain ⟨held, hheld, haccepts⟩ := h.updating
      obtain rfl := hvalue.symm.trans ((hasField_iff hkeys).mp hheld)
      unfold Entry.properties?
      generalize e.updating = rule at haccepts ⊢
      cases haccepts with
      | noMembers => exact absurd rfl hne
      | map _ hproperties => exact ⟨_, rfl, hproperties⟩

/-- The entry that an object is read as. -/
theorem exists_entry? {outline : Outline} {w : WrittenOutline} {d : Document}
    (hwritten : outline.IsWrittenAs w) (hnodes : List.Forall₂ Node.IsReadFrom outline.nodes d.nodes)
    (hrelationships :
      List.Forall₂ Relationship.IsReadFrom outline.relationships d.relationships)
    {ref : EntryRef} {members' : Entries Written} (h : w.entry? ref = some members') :
    ∃ members e, RelatedMembers IsWritten members members' ∧ e.IsReadFrom members ∧
      d.entry? ref = some e := by
  cases ref with
  | node i =>
      obtain ⟨members, hmembers, hrelated⟩ := exists_left (rel_getElem? hwritten.nodes i) h
      obtain ⟨n, hn, hread⟩ := exists_right (rel_getElem? hnodes i) hmembers
      exact ⟨members, n.toEntry, hrelated, hread.entry, congrArg (Option.map Node.toEntry) hn⟩
  | relationship j =>
      obtain ⟨members, hmembers, hrelated⟩ := exists_left (rel_getElem? hwritten.relationships j) h
      obtain ⟨r, hr, hread⟩ := exists_right (rel_getElem? hrelationships j) hmembers
      exact ⟨members, r.toEntry, hrelated, hread.entry,
        congrArg (Option.map Relationship.toEntry) hr⟩

/-- **What is written as a number is read as a scalar** in the same place. -/
theorem valueAt?_of_numberAt? {outline : Outline} {w : WrittenOutline} {d : Document}
    (hwritten : outline.IsWrittenAs w) (hnodes : List.Forall₂ Node.IsReadFrom outline.nodes d.nodes)
    (hrelationships :
      List.Forall₂ Relationship.IsReadFrom outline.relationships d.relationships)
    {place : Place} {characters : List Char} (hnumber : w.numberAt? place = some characters) :
    ∃ number found, IsWritten (.number number) (.number characters) ∧
      Json.IsScalar (.number number) found ∧ d.valueAt? place = some found := by
  obtain ⟨members', hmembers', hrest⟩ := Option.bind_eq_some_iff.mp hnumber
  obtain ⟨field', hfield', hrest⟩ := Option.bind_eq_some_iff.mp hrest
  obtain ⟨fields', hfields', hrest⟩ := Option.bind_eq_some_iff.mp hrest
  obtain ⟨value', hvalue', hrest⟩ := Option.bind_eq_some_iff.mp hrest
  obtain ⟨item', hitem', hcharacters⟩ := Option.bind_eq_some_iff.mp hrest
  obtain rfl := Written.members?_eq_some.mp hfields'
  obtain rfl := Written.number?_eq_some.mp hcharacters
  obtain ⟨members, e, hmembers, hread, he⟩ := exists_entry? hwritten hnodes hrelationships hmembers'
  obtain ⟨field, hfield, hobject⟩ := exists_left (hmembers.related.find? _) hfield'
  obtain ⟨fields, rfl, hfields⟩ := exists_members hobject
  obtain ⟨json, hjson, hvalue⟩ := exists_left (hfields.related.find? _) hvalue'
  have hne : fields ≠ [] := by
    rintro rfl
    exact nomatch hjson
  obtain ⟨p, hp, hproperties⟩ := hread.properties? hmembers.nodup hfield hne
  have hrelated := Properties.related_of_isProperties hproperties hfields.nodup
  obtain ⟨value, hfind, hisValue⟩ := exists_right (hrelated.find? _) hjson
  obtain ⟨number, found, hnumber, hscalar, hfound⟩ := item?_of_isWritten hvalue hisValue hitem'
  refine ⟨number, found, hnumber, hscalar, ?_⟩
  apply Option.bind_eq_some_iff.mpr
  refine ⟨e, he, Option.bind_eq_some_iff.mpr ⟨p, hp, Option.bind_eq_some_iff.mpr ?_⟩⟩
  exact ⟨value, hfind, hfound⟩

/-! ## Integers -/

/-- No key of an entry stands twice in what is read from a text. -/
theorem Outline.IsWrittenAs.nodup {outline : Outline} {w : WrittenOutline}
    (h : outline.IsWrittenAs w) :
    ∀ members ∈ outline.nodes ++ outline.relationships, members.keys.Nodup := by
  have hlist : ∀ {objects : List (Entries Json)} {objects' : List (Entries Written)},
      AreWritten objects objects' → ∀ members ∈ objects, members.keys.Nodup := by
    intro objects objects' h
    induction h with
    | nil => exact fun members hmem => absurd hmem List.not_mem_nil
    | cons hmembers _ ih => exact List.forall_mem_cons.mpr ⟨hmembers.nodup, ih⟩
  exact List.forall_mem_append.mpr ⟨hlist h.nodes, hlist h.relationships⟩

/-- A text is read as a document exactly if its outline is. -/
theorem Document.ofText_eq {text : String} {outline : Outline} (h : Outline.ofText text = .ok outline) :
    Document.ofText text = Document.ofOutline outline := by
  unfold Document.ofText
  rw [h]

/-- A document that is read has an outline. -/
theorem Document.exists_outline {text : String} {d : Document} (h : Document.ofText text = .ok d) :
    ∃ outline, Outline.ofText text = .ok outline := by
  unfold Document.ofText at h
  cases houtline : Outline.ofText text with
  | error error =>
      rw [houtline] at h
      exact nomatch h
  | ok outline => exact ⟨outline, rfl⟩

/-- What an integer is read as when the document is read. -/
theorem valueAt?_of_integer {outline : Outline} {w : WrittenOutline} {d : Document}
    (hwritten : outline.IsWrittenAs w) (hread : Document.ofOutline outline = .ok d) {place : Place}
    {characters : List Char} {z : Int} (hnumber : w.numberAt? place = some characters)
    (hinteger : IsInteger characters z) :
    (-2 ^ 63 ≤ z ∧ z < 2 ^ 63 ∧ characters ≠ minusZero ∧ d.valueAt? place = some (.int z)) ∨
      ((z < -2 ^ 63 ∨ 2 ^ 64 ≤ z ∨ characters = minusZero) ∧
        ∃ x, d.valueAt? place = some (.double x)) := by
  obtain ⟨hnodes, hrelationships⟩ := (Document.ofOutline_eq_ok hwritten.nodup).mp hread
  obtain ⟨number, found, hcharacters, hscalar, hfound⟩ :=
    valueAt?_of_numberAt? hwritten hnodes hrelationships hnumber
  cases hcharacters with
  | number rest hnumeral =>
      rcases Json.readNumber_integer hinteger hnumeral with
        ⟨hlower, hupper, hminus, rfl⟩ | ⟨hdouble, x, rfl⟩
      · cases hscalar with
        | integer hlower hupper => exact .inl ⟨hlower, hupper, hminus, hfound⟩
      · cases hscalar with
        | double x => exact .inr ⟨hdouble, x, hfound⟩

/-- **What the integers of a document are read as.** An integer of 64 bits with a sign is read as it
is. An integer that is too small for that, or too large even for 64 bits without a sign, and zero with
a minus sign are read as doubles. If an integer lies in between, the document is not read, and the error
names a field. -/
theorem integers_of_text {text : String} {outline : Outline}
    (houtline : Outline.ofText text = .ok outline) :
    ∃ w, WrittenOutline.ofText text = .ok w ∧
      (∀ d, Document.ofText text = .ok d →
        ∀ place characters z, w.numberAt? place = some characters → IsInteger characters z →
          (-2 ^ 63 ≤ z ∧ z < 2 ^ 63 ∧ characters ≠ minusZero ∧
              d.valueAt? place = some (.int z)) ∨
            ((z < -2 ^ 63 ∨ 2 ^ 64 ≤ z ∨ characters = minusZero) ∧
              ∃ x, d.valueAt? place = some (.double x))) ∧
      ((∃ place characters z, w.numberAt? place = some characters ∧ IsInteger characters z ∧
          2 ^ 63 ≤ z ∧ z < 2 ^ 64) →
        ∃ ref name problem, Document.ofText text = .error (.badField ref name problem)) := by
  obtain ⟨w, hw, hwritten⟩ := Outline.exists_isWrittenAs houtline
  rw [Document.ofText_eq houtline]
  refine ⟨w, hw, fun d hread place characters z hnumber hinteger =>
    valueAt?_of_integer hwritten hread hnumber hinteger, ?_⟩
  rintro ⟨place, characters, z, hnumber, hinteger, hlower, hupper⟩
  cases hread : Document.ofOutline outline with
  | ok d =>
      rcases valueAt?_of_integer hwritten hread hnumber hinteger with
        ⟨-, hsmall, -, -⟩ | ⟨hdouble, -⟩
      · omega
      · rcases hdouble with hsmall | hlarge | rfl
        · omega
        · omega
        · have hzero := hinteger.eq_zero
          omega
  | error error =>
      obtain ⟨ref, name, problem, rfl⟩ := Document.exists_badField hwritten.nodup hread
      exact ⟨ref, name, problem, rfl⟩

/-- The integer or the double that a value is. -/
def Value.number? : Value → Option Json.Number
  | int n => some (.integer n)
  | double x => some (.double x)
  | _ => none

/-- Under the key `id` of the first node. -/
def firstId : Place := ⟨.node 0, .props, "id", none⟩

/-- A document whose node has an ordinary number. -/
def numberedText : String := "\x7b\"nodes\":[\x7b\"props\":\x7b\"id\":42\x7d\x7d]\x7d"

/-- The ordinary number is read as it is. -/
theorem integers_of_numberedText :
    ∃ d, Document.ofText numberedText = .ok d ∧ d.valueAt? firstId = some (.int 42) := by
  have hdocument : (((Document.ofText numberedText).toOption.bind fun d =>
      d.valueAt? firstId).bind Value.number?) = some (.integer 42) := by decide +kernel
  have hwritten : ((WrittenOutline.ofText numberedText).toOption.bind fun w =>
      w.numberAt? firstId) = some "42".toList := by decide +kernel
  obtain ⟨value, hvalue, -⟩ := Option.bind_eq_some_iff.mp hdocument
  obtain ⟨d, hd, -⟩ := Option.bind_eq_some_iff.mp hvalue
  rw [toOption_eq_some] at hd
  obtain ⟨outline, houtline⟩ := Document.exists_outline hd
  obtain ⟨w, hw, hplaces, -⟩ := integers_of_text houtline
  rw [hw] at hwritten
  refine ⟨d, hd, ?_⟩
  have hinteger : IsInteger "42".toList 42 :=
    .natural (by decide) (List.all_eq_true.mp (by decide))
  rcases hplaces d hd firstId "42".toList 42 hwritten hinteger with
    ⟨-, -, -, hread⟩ | ⟨hdouble, -⟩
  · exact hread
  · exact absurd hdouble (by decide)

/-- A document whose node has the first number that is too large for 64 bits. -/
def largeNumberText : String :=
  "\x7b\"nodes\":[\x7b\"props\":\x7b\"id\":18446744073709551616\x7d\x7d]\x7d"

/-- **An integer that is altered**: the document is read, and the number has become a double. -/
theorem large_integer_altered :
    ∃ w d, WrittenOutline.ofText largeNumberText = .ok w ∧
      Document.ofText largeNumberText = .ok d ∧
      w.numberAt? firstId = some "18446744073709551616".toList ∧
      IsInteger "18446744073709551616".toList 18446744073709551616 ∧
      d.valueAt? firstId = some (.double ⟨0x43f0000000000000⟩) := by
  have hdocument : (((Document.ofText largeNumberText).toOption.bind fun d =>
      d.valueAt? firstId).bind Value.number?) = some (.double ⟨0x43f0000000000000⟩) := by
    decide +kernel
  have hwritten : ((WrittenOutline.ofText largeNumberText).toOption.bind fun w =>
      w.numberAt? firstId) = some "18446744073709551616".toList := by decide +kernel
  obtain ⟨value, hvalue, hnumber⟩ := Option.bind_eq_some_iff.mp hdocument
  obtain ⟨d, hd, hplace⟩ := Option.bind_eq_some_iff.mp hvalue
  obtain ⟨w, hw, hcharacters⟩ := Option.bind_eq_some_iff.mp hwritten
  refine ⟨w, d, toOption_eq_some.mp hw, toOption_eq_some.mp hd, hcharacters,
    .natural (by decide) (List.all_eq_true.mp (by decide)), ?_⟩
  cases value with
  | double x =>
      cases hnumber
      exact hplace
  | _ => exact nomatch hnumber

end GraphImport
