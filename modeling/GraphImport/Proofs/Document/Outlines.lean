import GraphImport.Proofs.Document.Integers
import GraphImport.Proofs.Json.Viewing

/-!
# Outlines of texts and of values

Which JSON values have an outline, and that a text has the outline of its value. A text is read
straight from its characters, so it is first told what is found there in terms of the unmerged
value; where the root lists nodes and relationships at most once, this is what the JSON value says.

* `Json.rootMembers?`, `Json.ListsEntries` — the values that list entries: objects, and arrays that
  hold the two lists without their names.
* `document_shape` — no other values are documents.
* `array_isDocument` — an array is one.
* `Outline.view`, `Outline.toOption_ofText` — the outline of a text, as a view of its value.
* `document_read_alike` — a text and its value are the same document.
-/

namespace GraphImport

/-! ## Shapes -/

/-- The value is an array of objects. -/
def Json.IsObjectList (json : Json) : Prop :=
  ∃ objects : List (Entries Json), json = .array (objects.map .object)

/-- The members in which a root may list its entries. The items of an array stand for the two lists
in their order, and there may be no more than two. -/
def Json.rootMembers? : Json → Option (Entries Json)
  | .object members => some members
  | .array [] => some []
  | .array [nodes] => some [("nodes", nodes)]
  | .array [nodes, relationships] => some [("nodes", nodes), ("rels", relationships)]
  | _ => none

/-- **The value lists entries**: whatever stands under `nodes` and `rels` is an array of objects. -/
def Json.ListsEntries (json : Json) : Prop :=
  ∃ members, json.rootMembers? = some members ∧
    ∀ member ∈ members, member.1 = "nodes" ∨ member.1 = "rels" → member.2.IsObjectList

namespace Outline

/-- Exactly the arrays of objects are read as objects. -/
theorem objectsOf_eq_ok {json : Json} {objects : List (Entries Json)} :
    objectsOf json = .ok objects ↔ json = .array (objects.map .object) := by
  constructor
  · intro h
    cases json with
    | array items =>
        unfold objectsOf at h
        rw [mapM_eq_ok] at h
        refine congrArg Json.array ?_
        induction h with
        | nil => rfl
        | @cons item object items objects hitem _ ih =>
            rw [List.map_cons, ← ih]
            cases item with
            | object members =>
                cases hitem
                rfl
            | _ => exact nomatch hitem
    | _ => exact nomatch h
  · rintro rfl
    exact objectsOf_objects objects

/-- Members are read exactly if what they list are arrays of objects. -/
theorem exists_ofMembers {members : Entries Json} {outline : Outline} :
    (∃ result, ofMembers outline members = .ok result) ↔
      ∀ member ∈ members, member.1 = "nodes" ∨ member.1 = "rels" → member.2.IsObjectList := by
  induction members generalizing outline with
  | nil => exact ⟨fun _ member h => absurd h List.not_mem_nil, fun _ => ⟨outline, rfl⟩⟩
  | cons member rest ih =>
      obtain ⟨key, json⟩ := member
      have hread : ∀ f : List (Entries Json) → Outline,
          (∃ result, (objectsOf json >>= fun objects => ofMembers (f objects) rest) = .ok result) ↔
            json.IsObjectList ∧
              ∀ member ∈ rest, member.1 = "nodes" ∨ member.1 = "rels" → member.2.IsObjectList := by
        intro f
        simp only [bind_eq_ok, objectsOf_eq_ok]
        constructor
        · rintro ⟨result, objects, hobjects, hrest⟩
          exact ⟨⟨objects, hobjects⟩, ih.mp ⟨result, hrest⟩⟩
        · rintro ⟨⟨objects, hobjects⟩, hrest⟩
          obtain ⟨result, hresult⟩ := ih.mpr hrest
          exact ⟨result, objects, hobjects, hresult⟩
      rw [List.forall_mem_cons]
      unfold ofMembers
      by_cases hnodes : key = "nodes"
      · rw [if_pos hnodes]
        refine (hread fun nodes => ⟨nodes, outline.relationships⟩).trans ?_
        simp only [hnodes, true_or, forall_const]
      · rw [if_neg hnodes]
        by_cases hrelationships : key = "rels"
        · rw [if_pos hrelationships]
          refine (hread fun relationships => ⟨outline.nodes, relationships⟩).trans ?_
          simp only [hrelationships, or_true, forall_const]
        · rw [if_neg hrelationships, ih]
          simp only [hnodes, hrelationships, or_self, IsEmpty.forall_iff, true_and]

/-- An array is read like the object of its two lists. -/
theorem ofJson_of_rootMembers {json : Json} {members : Entries Json}
    (h : json.rootMembers? = some members) : ofJson json = ofJson (.object members) := by
  match json with
  | .object _ =>
      cases h
      rfl
  | .array [] =>
      cases h
      rfl
  | .array [nodes] =>
      cases h
      rfl
  | .array [nodes, relationships] =>
      cases h
      rfl

/-- Other roots have no outline. -/
theorem ofJson_of_no_rootMembers {json : Json} (h : json.rootMembers? = none) (outline : Outline) :
    ofJson json ≠ .ok outline := by
  match json with
  | .array (nodes :: relationships :: item :: items) =>
      intro hread
      obtain ⟨nodes, -, hread⟩ := bind_eq_ok.mp hread
      obtain ⟨relationships, -, hread⟩ := bind_eq_ok.mp hread
      rw [if_pos (by simp)] at hread
      exact nomatch hread
  | .null => exact fun hread => nomatch hread
  | .bool _ => exact fun hread => nomatch hread
  | .number _ => exact fun hread => nomatch hread
  | .string _ => exact fun hread => nomatch hread

/-- **Exactly the values that list entries have an outline.** -/
theorem exists_ofJson {json : Json} :
    (∃ outline, ofJson json = .ok outline) ↔ json.ListsEntries := by
  unfold Json.ListsEntries
  cases hroot : json.rootMembers? with
  | none =>
      refine ⟨fun ⟨outline, h⟩ => absurd h (ofJson_of_no_rootMembers hroot outline), ?_⟩
      rintro ⟨members, h, -⟩
      exact nomatch h
  | some members =>
      rw [ofJson_of_rootMembers hroot]
      refine exists_ofMembers.trans ⟨fun h => ⟨members, rfl, h⟩, ?_⟩
      rintro ⟨found, hfound, h⟩
      cases hfound
      exact h

end Outline

/-! ## Texts -/

/-- The unmerged value is no object in which a name stands twice. -/
def Json.NamesOnce (name : String) : Json → Prop
  | .object pairs => (Json.valuesOf name pairs).length ≤ 1
  | _ => True

instance (name : String) : DecidablePred (Json.NamesOnce name)
  | .object pairs => inferInstanceAs (Decidable ((Json.valuesOf name pairs).length ≤ 1))
  | .null | .bool _ | .number _ | .string _ | .array _ => inferInstanceAs (Decidable True)

namespace Outline

open Json (valuesOf)
open Json.Record (atMostOnce pairView)

/-- The view of a list of objects. -/
def objectsView : Json → Option (List (Entries Json)) :=
  Json.Decoder.listView fun item => item.merged.members?

/-- **The view of an outline.** -/
def view (raw : Json) : Option Outline :=
  (pairView "nodes" objectsView "rels" objectsView raw).map fun found =>
    ⟨found.1.getD [], found.2.getD []⟩

/-- The outline of a text is what is seen in its unmerged value. -/
theorem toOption_ofText {text : String} {raw : Json} (hread : Json.parseUnmerged text = .ok raw) :
    (ofText text).toOption = view raw := by
  have hobjects : objects.Sees objectsView := Json.Decoder.list_sees Json.Decoder.members_sees
  have hrecord : record.decoder.Sees view :=
    Json.Record.pair_sees hobjects hobjects (by decide) rfl rfl rfl
  exact hrecord.decode hread

/-- What is seen of a list of objects is what is read of its value. -/
theorem objectsView_eq (raw : Json) : objectsView raw = (objectsOf raw.merged).toOption := by
  cases raw with
  | array items =>
      rw [Json.merged_array]
      change items.mapM (fun item => item.merged.members?) =
        ((items.map Json.merged).mapM membersOf).toOption
      induction items with
      | nil => rfl
      | cons item items ih =>
          rw [List.mapM_cons, ih, List.map_cons, List.mapM_cons]
          cases item.merged with
          | object members =>
              change (((items.map Json.merged).mapM membersOf).toOption.bind fun rest =>
                some (members :: rest)) = _
              cases (items.map Json.merged).mapM membersOf with
              | error error => rfl
              | ok rest => rfl
          | _ => rfl
  | object pairs =>
      rw [Json.merged_object]
      rfl
  | _ => rfl

/-- The list under a name that stands at most once. -/
theorem atMostOnce_objectsView {values : List Json} (h : values.length ≤ 1) :
    (atMostOnce objectsView values).map (fun found => found.getD []) =
      (((values.map Json.merged).getLast?.map objectsOf).getD (.ok [])).toOption := by
  match values with
  | [] => rfl
  | [raw] =>
      change ((objectsView raw).map some).map (fun found => found.getD []) =
        (objectsOf raw.merged).toOption
      rw [objectsView_eq, Option.map_map]
      exact congrFun Option.map_id _
  | _ :: _ :: _ => simp at h

/-- The outline of members has the lists that are found under their names. -/
theorem toOption_ofMembers {members : Entries Json} (hkeys : members.keys.Nodup) :
    (ofMembers ⟨[], []⟩ members).toOption =
      (((members.find? "nodes").map objectsOf).getD (.ok [])).toOption.bind fun nodes =>
        (((members.find? "rels").map objectsOf).getD (.ok [])).toOption.map fun relationships =>
          ⟨nodes, relationships⟩ := by
  refine Option.ext fun outline => ?_
  simp only [Option.bind_eq_some_iff, Option.map_eq_some_iff, toOption_eq_some,
    ofMembers_eq_ok hkeys]
  constructor
  · rintro ⟨hnodes, hrelationships⟩
    exact ⟨outline.nodes, hnodes, outline.relationships, hrelationships, rfl⟩
  · rintro ⟨nodes, hnodes, relationships, hrelationships, rfl⟩
    exact ⟨hnodes, hrelationships⟩

/-- Of an object the lists are seen that are found in it, if neither is named twice. -/
theorem view_object {pairs : List (String × Json)}
    (hnodes : (valuesOf "nodes" pairs).length ≤ 1)
    (hrelationships : (valuesOf "rels" pairs).length ≤ 1) :
    view (.object pairs) = (ofJson (Json.merged (.object pairs))).toOption := by
  have hkeys : (Entries.insertAll [] (pairs.map (Prod.map id Json.merged))).keys.Nodup :=
    Json.nodup_keys_insertAll (by simp) _
  have hfind : ∀ name, Entries.find? name
      (Entries.insertAll [] (pairs.map (Prod.map id Json.merged))) =
        ((valuesOf name pairs).map Json.merged).getLast? := by
    intro name
    rw [Json.find?_insertAll, Json.valuesOf_map]
    exact Option.or_none
  rw [Json.merged_object]
  refine Eq.trans ?_ (toOption_ofMembers hkeys).symm
  rw [hfind, hfind, ← atMostOnce_objectsView hnodes, ← atMostOnce_objectsView hrelationships]
  change Option.map _ ((atMostOnce objectsView (valuesOf "nodes" pairs)).bind fun nodes =>
    (atMostOnce objectsView (valuesOf "rels" pairs)).bind fun relationships =>
      some (nodes, relationships)) = _
  cases atMostOnce objectsView (valuesOf "nodes" pairs) with
  | none => rfl
  | some nodes =>
      cases atMostOnce objectsView (valuesOf "rels" pairs) with
      | none => rfl
      | some relationships => rfl

/-- Of an array the lists are seen that it holds. -/
theorem view_array (items : List Json) :
    view (.array items) = (ofJson (Json.merged (.array items))).toOption := by
  rw [Json.merged_array]
  match items with
  | [] => rfl
  | [nodes] =>
      change Option.map _ ((objectsView nodes).bind fun nodes => some (some nodes, none)) =
        (objectsOf nodes.merged >>= fun nodes => .ok ⟨nodes, []⟩ : Except _ Outline).toOption
      rw [objectsView_eq]
      cases objectsOf nodes.merged with
      | error error => rfl
      | ok nodes => rfl
  | [nodes, relationships] =>
      change Option.map _ ((objectsView nodes).bind fun nodes =>
          (objectsView relationships).bind fun relationships =>
            some (some nodes, some relationships)) =
        (objectsOf nodes.merged >>= fun nodes =>
          objectsOf relationships.merged >>= fun relationships =>
            .ok ⟨nodes, relationships⟩ : Except _ Outline).toOption
      rw [objectsView_eq, objectsView_eq]
      cases objectsOf nodes.merged with
      | error error => rfl
      | ok nodes =>
          cases objectsOf relationships.merged with
          | error error => rfl
          | ok relationships => rfl
  | nodes :: relationships :: item :: items =>
      refine (Option.eq_none_iff_forall_ne_some.mpr fun outline h => ?_).symm
      exact ofJson_of_no_rootMembers rfl outline (toOption_eq_some.mp h)

/-- **What is seen is what is read of the value**, if neither list is named twice. -/
theorem view_eq {raw : Json} (hnodes : raw.NamesOnce "nodes")
    (hrelationships : raw.NamesOnce "rels") : view raw = (ofJson raw.merged).toOption := by
  cases raw with
  | object pairs => exact view_object hnodes hrelationships
  | array items => exact view_array items
  | _ => rfl

/-- What is seen at most once stands there at most once. -/
theorem length_le_of_atMostOnce {values : List Json} {found : Option (List (Entries Json))}
    (h : atMostOnce objectsView values = some found) : values.length ≤ 1 := by
  match values with
  | [] => exact Nat.zero_le 1
  | [_] => exact Nat.le_refl 1
  | _ :: _ :: _ => exact nomatch h

/-- Where an outline is seen, neither list is named twice. -/
theorem namesOnce_of_view {raw : Json} {outline : Outline} (h : view raw = some outline) :
    raw.NamesOnce "nodes" ∧ raw.NamesOnce "rels" := by
  cases raw with
  | object pairs =>
      obtain ⟨found, hfound, -⟩ := Option.map_eq_some_iff.mp h
      obtain ⟨nodes, hnodes, hfound⟩ := Option.bind_eq_some_iff.mp hfound
      obtain ⟨relationships, hrelationships, -⟩ := Option.bind_eq_some_iff.mp hfound
      exact ⟨length_le_of_atMostOnce hnodes, length_le_of_atMostOnce hrelationships⟩
  | _ => exact ⟨trivial, trivial⟩

end Outline

/-! ## Documents -/

/-- **Two ways of reading come to the same**: to one document, to one problem in one field of one
entry, or to no outline. -/
inductive ReadAlike : Except ImportError Document → Except ImportError Document → Prop where
  /-- The same document. -/
  | document (d : Document) : ReadAlike (.ok d) (.ok d)
  /-- The same problem in the same field of the same entry. -/
  | badField (ref : EntryRef) (name : String) (problem : FieldProblem) :
    ReadAlike (.error (.badField ref name problem)) (.error (.badField ref name problem))
  /-- No outline; where the text says so, its position may be known. -/
  | badJson (error error' : Json.ReadError) :
    ReadAlike (.error (.badJson error)) (.error (.badJson error'))

/-- **A text and its value are read alike** if the root does not name `nodes` or `rels` twice. Inside
entries any member may come again. -/
theorem document_read_alike {text : String} {json : Json} (hjson : Json.parse text = .ok json)
    (honce : ∀ raw, Json.parseUnmerged text = .ok raw →
      raw.NamesOnce "nodes" ∧ raw.NamesOnce "rels") :
    ReadAlike (Document.ofText text) (Document.ofJson json) := by
  rw [Json.parse_eq] at hjson
  obtain ⟨raw, hraw, rfl⟩ := map_eq_ok.mp hjson
  obtain ⟨hnodes, hrelationships⟩ := honce raw hraw
  have houtlines : (Outline.ofText text).toOption = (Outline.ofJson raw.merged).toOption :=
    (Outline.toOption_ofText hraw).trans (Outline.view_eq hnodes hrelationships)
  unfold Document.ofText Document.ofJson
  cases htext : Outline.ofText text with
  | ok outline =>
      rw [htext] at houtlines
      rw [toOption_eq_some.mp houtlines.symm]
      dsimp only
      cases hread : Document.ofOutline outline with
      | ok d => exact .document d
      | error error =>
          obtain ⟨w, -, hwritten⟩ := Outline.exists_isWrittenAs htext
          obtain ⟨ref, name, problem, rfl⟩ := Document.exists_badField hwritten.nodup hread
          exact .badField ref name problem
  | error error =>
      rw [htext] at houtlines
      cases hvalue : Outline.ofJson raw.merged with
      | ok outline =>
          rw [hvalue] at houtlines
          exact nomatch houtlines
      | error error' => exact .badJson error error'

/-- A document in which names come again inside the entries, and others mean nothing. -/
def repeatedText : String :=
  "\x7b\"note\":[1,\x7b\x7d],\"nodes\":[\x7b\"labels\":7,\"props\":\x7b\"id\":1,\"id\":2\x7d," ++
    "\"labels\":[\"A\"]\x7d],\"note\":0\x7d"

/-- The text and its value are one document: the members that come last count in both. -/
theorem document_read_alike_repeated :
    ∃ json d, Json.parse repeatedText = .ok json ∧ Document.ofText repeatedText = .ok d ∧
      Document.ofJson json = .ok d ∧ d.nodes.map Node.labels = [["A"]] := by
  have hvalue : (Json.parse repeatedText).toOption.isSome = true := by decide +kernel
  have honce : (Json.parseUnmerged repeatedText).toOption.all (fun raw =>
      decide (raw.NamesOnce "nodes" ∧ raw.NamesOnce "rels")) = true := by decide +kernel
  have hlabels : (Document.ofText repeatedText).map (fun d => d.nodes.map Node.labels) =
      .ok [["A"]] := by decide +kernel
  obtain ⟨json, hjson⟩ := Option.isSome_iff_exists.mp hvalue
  obtain ⟨d, hd, hlabels⟩ := map_eq_ok.mp hlabels
  rw [toOption_eq_some] at hjson
  have halike := document_read_alike hjson fun raw hraw => by
    rw [hraw] at honce
    exact of_decide_eq_true honce
  rw [hd] at halike
  generalize hread : Document.ofJson json = read at halike
  cases halike
  exact ⟨json, d, hjson, hd, hread, hlabels⟩

/-- **No other values are documents.** A value has an outline exactly if it lists entries; an array is
read like the object of its two lists. Any other value is refused, and so is every text of it. -/
theorem document_shape (json : Json) :
    ((∃ outline, Outline.ofJson json = .ok outline) ↔ json.ListsEntries) ∧
      (∀ members, json.rootMembers? = some members →
        Document.ofJson json = Document.ofJson (.object members)) ∧
      (¬json.ListsEntries →
        (∃ error, Document.ofJson json = .error (.badJson error)) ∧
          ∀ text, Json.parse text = .ok json →
            ∃ error, Document.ofText text = .error (.badJson error)) := by
  refine ⟨Outline.exists_ofJson, fun members hroot => ?_, fun hshape => ⟨?_, fun text htext => ?_⟩⟩
  · unfold Document.ofJson
    rw [Outline.ofJson_of_rootMembers hroot]
  · cases houtline : Outline.ofJson json with
    | ok outline => exact absurd (Outline.exists_ofJson.mp ⟨outline, houtline⟩) hshape
    | error error =>
        unfold Document.ofJson
        rw [houtline]
        exact ⟨error, rfl⟩
  · cases houtline : Outline.ofText text with
    | ok outline =>
        rw [Json.parse_eq] at htext
        obtain ⟨raw, hraw, rfl⟩ := map_eq_ok.mp htext
        have hview : Outline.view raw = some outline := by
          rw [← Outline.toOption_ofText hraw, houtline]
          rfl
        -- A text that names a list twice has no outline, so its value is read like the text.
        obtain ⟨hnodes, hrelationships⟩ := Outline.namesOnce_of_view hview
        rw [Outline.view_eq hnodes hrelationships, toOption_eq_some] at hview
        exact absurd (Outline.exists_ofJson.mp ⟨outline, hview⟩) hshape
    | error error =>
        unfold Document.ofText
        rw [houtline]
        exact ⟨error, rfl⟩

/-- The value `null` is no document, and neither is its text. -/
theorem document_shape_null : ∃ error, Document.ofText "null" = .error (.badJson error) := by
  have hnull : (Json.parse "null").map Json.isNull = .ok true := by decide +kernel
  obtain ⟨json, hjson, hnull⟩ := map_eq_ok.mp hnull
  obtain rfl := Json.isNull_iff.mp hnull
  refine ((document_shape .null).2.2 ?_).2 "null" hjson
  rintro ⟨members, hmembers, -⟩
  exact nomatch hmembers

/-- The numbers of nodes and relationships. -/
def Document.size (d : Document) : Nat × Nat := (d.nodes.length, d.relationships.length)

/-- **Arrays are documents**: an empty one is the empty document, and a list of lists may be one with
a node. -/
theorem array_isDocument :
    (∀ members, Json.array [] ≠ .object members) ∧ Document.ofJson (.array []) = .ok ⟨[], []⟩ ∧
      (Document.ofText "[]").map Document.size = .ok (0, 0) ∧
      (Document.ofText "[[\x7b\"labels\":[\"A\"]\x7d]]").map Document.size = .ok (1, 0) :=
  ⟨fun _ => Json.noConfusion, rfl, by decide +kernel, by decide +kernel⟩

end GraphImport
