import GraphImport.Proofs.Compile.Plan
import GraphImport.Proofs.Document.Integers
import GraphImport.Proofs.Json.Unmerged

/-!
# Documents with all their members

The objects that a document lists, with all their members as they are written: a member that comes
again is kept. Merging the members gives the objects that the document is read from.

* `Json.mergedPairs`, `Json.Decoder.pairs` — objects with all their members.
* `UnmergedOutline`, `UnmergedOutline.entries` — the objects that a document lists.
* `Document.exists_unmerged` — every document that is read has them, one for each entry.
* `Entry.IsReadFrom.related_props` — the properties of an entry are the members of an object, merged.
-/

namespace GraphImport

namespace Json

/-! ## Objects with all their members -/

/-- The members of an object, merged. -/
def mergedPairs (pairs : List (String × Json)) : Entries Json :=
  Entries.insertAll [] (pairs.map (Prod.map id merged))

/-- No key stands twice among merged members. -/
theorem nodup_keys_mergedPairs (pairs : List (String × Json)) : (mergedPairs pairs).keys.Nodup :=
  nodup_keys_insertAll (by simp) _

/-- Under a name stands what was written last, merged. -/
theorem find?_mergedPairs (name : String) (pairs : List (String × Json)) :
    (mergedPairs pairs).find? name = (valuesOf name pairs).getLast?.map merged := by
  unfold mergedPairs
  rw [find?_insertAll, valuesOf_map, List.getLast?_map]
  exact Option.or_none

/-- An object with all its members. -/
def Decoder.pairs : Decoder (List (String × Json)) := fun fuel levels text =>
  match skipBlank text with
  | [] => .error (.atEnd .endOfValue)
  | c :: rest =>
    if c = '\x7b' then
      inside levels c rest fun levels => readPairs (readUnmerged fuel levels) fuel true rest
    else .error (mismatch fuel "a map" c rest)

/-- A reader whose result is changed afterwards finds what the reader finds. -/
theorem mapReader_mirrors {α β : Type} (m : α → β) (read : Reader α) :
    Mirrors (fun b a => b = m a) (mapReader m read) read := by
  intro text b rest hread
  obtain ⟨⟨a, after⟩, ha, h⟩ := map_eq_ok.mp hread
  cases h
  exact ⟨a, ha, rfl⟩

/-- **Objects are read by reading all their members.** -/
theorem Decoder.members_mirrors_pairs :
    Decoder.Mirrors (fun members pairs => members = mergedPairs pairs) (.members .any) .pairs := by
  intro fuel levels
  apply Json.Mirrors.behindBlank
  intro c
  apply Json.Mirrors.ite
  · intro _
    refine .inside fun levels => ?_
    have hread : readMembers (any fuel levels) fuel true [] =
        mapReader mergedPairs (readPairs (readUnmerged fuel levels) fuel true) := by
      funext text
      unfold any
      rw [readValue_eq]
      exact readMembers_map merged _ fuel true [] text
    rw [hread]
    exact mapReader_mirrors _ _
  · intro _
    exact .fails

end Json

/-! ## Outlines -/

/-- The objects that a document lists, with all their members. -/
structure UnmergedOutline where
  /-- The objects of the nodes. -/
  nodes : List (List (String × Json))
  /-- The objects of the relationships. -/
  relationships : List (List (String × Json))

namespace UnmergedOutline

/-- A list of objects. -/
def objects : Json.Decoder (List (List (String × Json))) := .list .pairs

/-- The outline as it is read from text; an absent list is empty. -/
def record : Json.Record (Option (List (List (String × Json))) × Option (List (List (String × Json))))
    UnmergedOutline where
  name := "RawDocument"
  fields := [
    .ofDecoder "nodes" true Prod.fst (fun state value => (some value, state.2)) objects,
    .ofDecoder "rels" true Prod.snd (fun state value => (state.1, some value)) objects]
  start := (none, none)
  finish := fun state => .ok ⟨state.1.getD [], state.2.getD []⟩

/-- The outline of a text. -/
def ofText (text : String) : Except Json.ReadError UnmergedOutline :=
  Json.decode record.decoder text

/-- The objects of all entries, nodes first. -/
def entries (u : UnmergedOutline) : List (List (String × Json)) := u.nodes ++ u.relationships

/-- Objects that are others, merged, one by one. -/
abbrev AreMerged : List (Entries Json) → List (List (String × Json)) → Prop :=
  List.Forall₂ fun members pairs => members = Json.mergedPairs pairs

theorem areMerged_iff {objects : List (Entries Json)} {unmerged : List (List (String × Json))} :
    AreMerged objects unmerged ↔ objects = unmerged.map Json.mergedPairs := by
  rw [← List.forall₂_eq_eq_eq, List.forall₂_map_right_iff]

/-- Lists that have been read are others, merged, and so are lists that are absent. -/
theorem areMerged_getD {found : Option (List (Entries Json))}
    {found' : Option (List (List (String × Json)))} (h : Option.Rel AreMerged found found') :
    AreMerged (found.getD []) (found'.getD []) := by
  cases h with
  | none => exact .nil
  | some h => exact h

/-- **The outline and the one with all members are read alike.** -/
theorem record_mirrors :
    Json.Record.Mirrors (fun s t => Option.Rel AreMerged s.1 t.1 ∧ Option.Rel AreMerged s.2 t.2)
      (fun outline u => AreMerged outline.nodes u.nodes ∧
        AreMerged outline.relationships u.relationships) Outline.record record where
  fields := by
    have hobjects : Json.Decoder.Mirrors AreMerged Outline.objects objects :=
      Json.Decoder.members_mirrors_pairs.list
    refine .cons (hobjects.field "nodes" true ?_ ?_)
      (.cons (hobjects.field "rels" true ?_ ?_) .nil)
    · exact fun s t h => isSome_eq_of_rel h.1
    · exact fun s t a b h hvalue => ⟨.some hvalue, h.2⟩
    · exact fun s t h => isSome_eq_of_rel h.2
    · exact fun s t a b h hvalue => ⟨h.1, .some hvalue⟩
  start := ⟨.none, .none⟩
  finish s t a h hfinish := by
    cases hfinish
    exact ⟨_, rfl, areMerged_getD h.1, areMerged_getD h.2⟩

end UnmergedOutline

/-! ## Documents -/

/-- **Every document that is read has an outline with all members**: one object for each entry. -/
theorem Document.exists_unmerged {text : String} {d : Document} (h : Document.ofText text = .ok d) :
    ∃ u, UnmergedOutline.ofText text = .ok u ∧
      List.Forall₂ (fun pairs e => e.IsReadFrom (Json.mergedPairs pairs)) u.entries d.entries := by
  obtain ⟨outline, houtline⟩ := exists_outline h
  obtain ⟨u, hu, hnodes, hrelationships⟩ := UnmergedOutline.record_mirrors.decoder.decode houtline
  obtain ⟨w, -, hwritten⟩ := Outline.exists_isWrittenAs houtline
  rw [ofText_eq houtline] at h
  obtain ⟨hreadNodes, hreadRelationships⟩ := (ofOutline_eq_ok hwritten.nodup).mp h
  rw [UnmergedOutline.areMerged_iff.mp hnodes, List.forall₂_map_left_iff] at hreadNodes
  rw [UnmergedOutline.areMerged_iff.mp hrelationships, List.forall₂_map_left_iff]
    at hreadRelationships
  refine ⟨u, hu, List.rel_append ?_ ?_⟩
  · exact List.forall₂_map_right_iff.mpr (hreadNodes.imp fun _ _ hread => hread.entry)
  · exact List.forall₂_map_right_iff.mpr (hreadRelationships.imp fun _ _ hread => hread.entry)

/-! ## Properties -/

/-- A value that is merged to a property value is that property value: it holds no members. -/
theorem Json.isValue_of_merged {json : Json} {value : Value} (h : json.merged.IsValue value) :
    json.IsValue value := by
  have hscalar : ∀ {json : Json} {value : Value}, json.merged.IsScalar value → json.IsScalar value := by
    intro json value h
    cases json with
    | array items =>
        rw [merged_array] at h
        exact nomatch h
    | object pairs =>
        rw [merged_object] at h
        exact nomatch h
    | _ => exact h
  cases json with
  | array items =>
      rw [merged_array] at h
      cases h with
      | scalar h => exact nomatch h
      | list h => exact .list ((List.forall₂_map_left_iff.mp h).imp fun _ _ => hscalar)
  | object pairs =>
      rw [merged_object] at h
      cases h with
      | scalar h => exact nomatch h
  | _ => exact h

/-- **The properties of an entry are the members of its object, merged**, if it has one. -/
theorem Entry.IsReadFrom.related_props {pairs written : List (String × Json)} {e : Entry}
    (h : e.IsReadFrom (Json.mergedPairs pairs))
    (hwritten : (Json.valuesOf "props" pairs).getLast? = some (.object written)) :
    Entries.Related Json.IsValue (Json.mergedPairs written) e.props.entries := by
  have hfind : (Json.mergedPairs pairs).find? "props" =
      some (.object (Json.mergedPairs written)) := by
    rw [Json.find?_mergedPairs, hwritten]
    exact congrArg some (Json.merged_object written)
  obtain ⟨held, hheld, haccepts⟩ := h.props
  obtain rfl := (fieldValue?_object hfind).symm.trans
    ((hasField_iff (Json.nodup_keys_mergedPairs pairs)).mp hheld)
  cases haccepts with
  | object hproperties =>
      exact Properties.related_of_isProperties hproperties (Json.nodup_keys_mergedPairs written)

end GraphImport
