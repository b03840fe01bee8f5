import GraphImport.Proofs.Compile.Composition
import GraphImport.Proofs.Document.Outlines
import GraphImport.Proofs.Property.NormalForm

/-!
# The normal form of documents

Every document that is read has a normal form, whether it comes from a text or from a JSON value: its
properties and the maps of its entries are in normal form, and no update says nothing. What is
compiled from it holds flat literals only. A text has no numbers that are not finite; of a JSON value
this has to be known.

* `Entry.IsNormal` — entries in normal form.
* `Outline.IsFinite` — outlines of finite numbers, with `Outline.isFinite_ofText` and
  `Outline.isFinite_ofJson`.
* `Document.IsAccepted` — documents that are read.
* `document_normal` — documents that are read are in normal form, and their scripts are flat.
-/

namespace GraphImport

/-! ## Entries -/

/-- **An entry in normal form.** -/
structure Entry.IsNormal (e : Entry) : Prop where
  /-- Its properties. -/
  props : e.props.IsNormal
  /-- The map by which it is found, if there is one. -/
  matching : ∀ map, e.matching = .onMap map → map.IsNormal
  /-- The map that is written when it is found, if there is one. -/
  updating : ∀ map, e.updating = .onMap map → map.IsNormal
  /-- An update by keys has a key. -/
  keys : e.updating ≠ .onKeys []
  /-- An update by a map has an entry. -/
  map : ∀ map, e.updating = .onMap map → map.entries ≠ []

section

variable {members : Entries Json} (hfinite : ∀ member ∈ members, member.2.IsFinite)

include hfinite

/-- An object that a field holds has finite numbers only. -/
theorem isFinite_of_fieldValue? {name : String} {fields : Entries Json}
    (h : fieldValue? name members = some (.object fields)) :
    ∀ field ∈ fields, field.2.IsFinite := by
  obtain ⟨hfind, -⟩ := Option.filter_eq_some_iff.mp h
  have hobject := hfinite _ (Entries.mem_of_find? hfind)
  cases hobject with
  | object hfields => exact hfields

/-- **Entries that are read are in normal form.** -/
theorem Entry.isNormal_of_ofMembers {ref : EntryRef} {e : Entry}
    (h : Entry.ofMembers ref members = .ok e) : e.IsNormal := by
  obtain ⟨props, hprops, h⟩ := bind_eq_ok.mp h
  obtain ⟨matching, hmatching, h⟩ := bind_eq_ok.mp h
  obtain ⟨updating, hupdating, h⟩ := bind_eq_ok.mp h
  obtain ⟨replace, -, h⟩ := bind_eq_ok.mp h
  cases h
  rw [Field.props_isReadBy.readField_eq_ok_iff] at hprops
  rw [Field.matching_isReadBy.readField_eq_ok_iff] at hmatching
  rw [Field.updating_isReadBy.readField_eq_ok_iff] at hupdating
  have hfields {name : String} {fields : Entries Json} {p : Properties}
      (hvalue : fieldValue? name members = some (.object fields))
      (hp : Json.IsProperties fields p) : p.IsNormal :=
    Properties.isNormal_of_isProperties hp (isFinite_of_fieldValue? hfinite hvalue)
  refine ⟨?_, ?_, ?_, ?_, ?_⟩
  · generalize hvalue : fieldValue? "props" members = field at hprops
    cases hprops with
    | absent => exact ⟨.nil, fun _ hentry => absurd hentry List.not_mem_nil⟩
    | object hp => exact hfields hvalue hp
  · rintro map rfl
    generalize hvalue : fieldValue? "match" members = field at hmatching
    cases hmatching with
    | map hp => exact hfields hvalue hp
  · rintro map rfl
    generalize hvalue : fieldValue? "update" members = field at hupdating
    cases hupdating with
    | map _ hp => exact hfields hvalue hp
  · rintro rfl
    generalize fieldValue? "update" members = field at hupdating
    cases hupdating with
    | keys _ hne => exact hne rfl
  · rintro map rfl
    generalize fieldValue? "update" members = field at hupdating
    cases hupdating with
    | map hne hp => exact Properties.ne_nil_of_isProperties hp hne

end

/-! ## Outlines -/

/-- All numbers in the objects of the outline are finite. -/
def Outline.IsFinite (outline : Outline) : Prop :=
  ∀ members ∈ outline.nodes ++ outline.relationships, ∀ member ∈ members, member.2.IsFinite

namespace Outline

/-- What is read from a text is finite. -/
theorem isFinite_ofText {text : String} {outline : Outline} (h : ofText text = .ok outline) :
    outline.IsFinite := by
  have hlist : ∀ {objects : List (Entries Json)} {objects' : List (Entries Json.Written)},
      AreWritten objects objects' →
        ∀ members ∈ objects, ∀ member ∈ members, member.2.IsFinite := by
    intro objects objects' hwritten members hmembers member hmember
    obtain ⟨i, hi⟩ := List.mem_iff_getElem?.mp hmembers
    obtain ⟨members', -, hrelated⟩ := exists_right (rel_getElem? hwritten i) hi
    obtain ⟨j, hj⟩ := List.mem_iff_getElem?.mp hmember
    obtain ⟨member', -, -, hvalue⟩ := exists_right (rel_getElem? hrelated.related j) hj
    exact Json.isFinite_of_isWritten hvalue
  obtain ⟨w, -, hwritten⟩ := exists_isWrittenAs h
  exact List.forall_mem_append.mpr ⟨hlist hwritten.nodes, hlist hwritten.relationships⟩

/-- The objects of a finite value are finite. -/
theorem isFinite_objectsOf {json : Json} {objects : List (Entries Json)} (hfinite : json.IsFinite)
    (h : objectsOf json = .ok objects) :
    ∀ members ∈ objects, ∀ member ∈ members, member.2.IsFinite := by
  obtain rfl := objectsOf_eq_ok.mp h
  intro members hmembers
  cases hfinite with
  | array hitems =>
      have hobject := hitems (.object members) (List.mem_map_of_mem hmembers)
      cases hobject with
      | object hvalues => exact hvalues

/-- What finite members list is finite. -/
theorem isFinite_ofMembers {members : Entries Json} {outline result : Outline}
    (hfinite : ∀ member ∈ members, member.2.IsFinite) (houtline : outline.IsFinite)
    (h : ofMembers outline members = .ok result) : result.IsFinite := by
  induction members generalizing outline with
  | nil =>
      cases h
      exact houtline
  | cons member rest ih =>
      obtain ⟨key, json⟩ := member
      obtain ⟨hjson, hrest⟩ := List.forall_mem_cons.mp hfinite
      obtain ⟨hnodes, hrelationships⟩ := List.forall_mem_append.mp houtline
      unfold ofMembers at h
      split_ifs at h
      · obtain ⟨objects, hobjects, h⟩ := bind_eq_ok.mp h
        refine ih hrest (List.forall_mem_append.mpr ?_) h
        exact ⟨isFinite_objectsOf hjson hobjects, hrelationships⟩
      · obtain ⟨objects, hobjects, h⟩ := bind_eq_ok.mp h
        refine ih hrest (List.forall_mem_append.mpr ?_) h
        exact ⟨hnodes, isFinite_objectsOf hjson hobjects⟩
      · exact ih hrest houtline h

/-- The members in which a finite value lists its entries are finite. -/
theorem isFinite_rootMembers {json : Json} {members : Entries Json} (hfinite : json.IsFinite)
    (h : json.rootMembers? = some members) : ∀ member ∈ members, member.2.IsFinite := by
  match json, hfinite with
  | .object _, .object hvalues =>
      cases h
      exact hvalues
  | .array [], _ =>
      cases h
      exact fun member hmember => absurd hmember List.not_mem_nil
  | .array [nodes], .array hitems =>
      cases h
      simpa using hitems
  | .array [nodes, relationships], .array hitems =>
      cases h
      simpa using hitems

/-- What is read from a finite JSON value is finite. -/
theorem isFinite_ofJson {json : Json} {outline : Outline} (hfinite : json.IsFinite)
    (h : ofJson json = .ok outline) : outline.IsFinite := by
  cases hroot : json.rootMembers? with
  | none => exact absurd h (ofJson_of_no_rootMembers hroot outline)
  | some members =>
      rw [ofJson_of_rootMembers hroot] at h
      exact isFinite_ofMembers (isFinite_rootMembers hfinite hroot)
        (fun members hmembers => absurd hmembers List.not_mem_nil) h

end Outline

/-! ## Documents -/

/-- **The document is read**, from a text or from a JSON value with finite numbers. -/
inductive Document.IsAccepted : Document → Prop where
  /-- From a text. -/
  | text {text : String} {d : Document} (h : ofText text = .ok d) : IsAccepted d
  /-- From a JSON value. -/
  | json {json : Json} {d : Document} (hfinite : json.IsFinite) (h : ofJson json = .ok d) :
    IsAccepted d

/-- The entries of a document that is read from a finite outline are in normal form. -/
theorem Document.isNormal_of_ofOutline {outline : Outline} {d : Document}
    (hfinite : outline.IsFinite) (h : ofOutline outline = .ok d) :
    ∀ e ∈ d.entries, e.IsNormal := by
  obtain ⟨nodes, hnodes, h⟩ := bind_eq_ok.mp h
  obtain ⟨relationships, hrelationships, h⟩ := bind_eq_ok.mp h
  cases h
  obtain ⟨hfiniteNodes, hfiniteRelationships⟩ := List.forall_mem_append.mp hfinite
  unfold Document.entries
  rw [List.forall_mem_append]
  constructor
  · intro e he
    obtain ⟨n, hn, rfl⟩ := List.mem_map.mp he
    obtain ⟨⟨members, i⟩, hmembers, hread⟩ := exists_of_mem_mapM hnodes hn
    obtain ⟨entry, hentry, hread⟩ := bind_eq_ok.mp hread
    obtain ⟨labels, -, hread⟩ := bind_eq_ok.mp hread
    cases hread
    exact Entry.isNormal_of_ofMembers
      (hfiniteNodes members (List.fst_mem_of_mem_zipIdx hmembers)) hentry
  · intro e he
    obtain ⟨r, hr, rfl⟩ := List.mem_map.mp he
    obtain ⟨⟨members, j⟩, hmembers, hread⟩ := exists_of_mem_mapM hrelationships hr
    obtain ⟨source, -, hread⟩ := bind_eq_ok.mp hread
    obtain ⟨target, -, hread⟩ := bind_eq_ok.mp hread
    obtain ⟨type, -, hread⟩ := bind_eq_ok.mp hread
    obtain ⟨entry, hentry, hread⟩ := bind_eq_ok.mp hread
    cases hread
    exact Entry.isNormal_of_ofMembers
      (hfiniteRelationships members (List.fst_mem_of_mem_zipIdx hmembers)) hentry

/-- Documents that are read have entries in normal form. -/
theorem Document.IsAccepted.isNormal {d : Document} (h : d.IsAccepted) :
    ∀ e ∈ d.entries, e.IsNormal := by
  cases h with
  | @text text _ h =>
      obtain ⟨outline, houtline⟩ := exists_outline h
      rw [ofText_eq houtline] at h
      exact isNormal_of_ofOutline (Outline.isFinite_ofText houtline) h
  | @json json _ hfinite h =>
      unfold ofJson at h
      split at h
      · rename_i outline houtline
        exact isNormal_of_ofOutline (Outline.isFinite_ofJson hfinite houtline) h
      · exact nomatch h

/-! ## Literals of statements -/

/-- The literals in the statement of an entry. -/
def Entry.literals (mode : StringMode) (e : Entry) : List String :=
  (Cypher.pairs mode e.found ++ Cypher.pairs mode e.props.entries ++
    Cypher.pairs mode e.changed).map Prod.snd

/-- **An entry in normal form is written with flat literals.** -/
theorem Entry.IsNormal.literals {e : Entry} (h : e.IsNormal) (mode : StringMode) :
    ∀ text ∈ e.literals mode, Cypher.IsFlatText mode text := by
  have hpairs {entries : Entries Value} (hflat : ∀ entry ∈ entries, entry.2.IsFlat) :
      ∀ pair ∈ Cypher.pairs mode entries, Cypher.IsFlatText mode pair.2 := by
    intro pair hpair
    obtain ⟨entry, hentry, rfl⟩ := List.mem_map.mp hpair
    exact Cypher.isFlatText_literal mode (hflat entry (List.mem_filter.mp hentry).1)
  have hfound : ∀ entry ∈ e.found, entry.2.IsFlat := by
    intro entry hentry
    rcases e.mem_found hentry with hown | ⟨map, hmap, hentry⟩
    · exact h.props.flat entry hown
    · exact (h.matching map hmap).flat entry hentry
  have hchanged : ∀ entry ∈ e.changed, entry.2.IsFlat := by
    intro entry hentry
    rcases e.mem_changed hentry with hown | ⟨map, hmap, hentry⟩
    · exact h.props.flat entry hown
    · exact (h.updating map hmap).flat entry hentry
  intro text htext
  obtain ⟨pair, hpair, rfl⟩ := List.mem_map.mp htext
  rcases List.mem_append.mp hpair with hpair | hpair
  · rcases List.mem_append.mp hpair with hpair | hpair
    · exact hpairs hfound pair hpair
    · exact hpairs h.props.flat pair hpair
  · exact hpairs hchanged pair hpair

/-- **Documents that are read are in normal form, and their scripts are flat.** In every entry, keys
are distinct, values are scalars or flat lists, with integers of 64 bits and finite doubles, and an
update by keys or by a map is not empty. If the document is compiled, the statement of each entry is
composed of flat literals. -/
theorem document_normal {d : Document} (h : d.IsAccepted) :
    (∀ e ∈ d.entries, e.IsNormal) ∧
    ∀ (settings : Compile.Settings) (scope : Scope) (script : Script) (after : Scope),
      Compile.document settings d scope = (.ok script, after) →
        script.size = d.entries.length ∧
        ∀ (place : Nat) (e : Entry), d.entries[place]? = some e → ∃ pattern,
          script.statements[place]? = some (e.composed settings.mode pattern) ∧
            ∀ text ∈ e.literals settings.mode, Cypher.IsFlatText settings.mode text := by
  refine ⟨h.isNormal, fun settings scope script after hcompile => ?_⟩
  obtain ⟨commands, hcommands, rfl⟩ := (Compile.planned hcompile).script
  refine ⟨Plan.size_script settings.mode hcommands, fun place e he => ?_⟩
  obtain ⟨pattern, action, haction, hcommand⟩ := Plan.getElem_entry hcommands he
  have hnormal := h.isNormal e (List.mem_of_getElem? he)
  exact ⟨pattern, Plan.getElem_composed settings.mode haction hcommand,
    hnormal.literals settings.mode⟩

/-- A document with a list, a double, a null and a key that comes again. -/
def taggedText : String :=
  "\x7b\"nodes\":[\x7b\"props\":\x7b\"id\":1,\"tags\":[\"1/0\",1.5,null],\"id\":-3\x7d," ++
    "\"match\":[\"id\"],\"update\":[]\x7d]\x7d"

/-- The document is in normal form, and its only statement is flat. -/
theorem document_normal_tagged :
    ∃ d script after, Document.ofText taggedText = .ok d ∧
      Compile.document .default d .empty = (.ok script, after) ∧
      script.texts = ["MERGE (x0 \x7b id: -3 \x7d)" ++
        " ON CREATE SET x0 = \x7b id: -3, tags: ['1/0', 1.5, null] \x7d" ++
        " ON MATCH SET x0.id = -3, x0.tags = ['1/0', 1.5, null]"] ∧
      (∀ e ∈ d.entries, e.IsNormal) ∧
      ∀ (place : Nat) (e : Entry), d.entries[place]? = some e → ∃ pattern,
        script.statements[place]? = some (e.composed .verbatim pattern) ∧
          ∀ text ∈ e.literals .verbatim, Cypher.IsFlatText .verbatim text := by
  have hscript : ((Document.ofText taggedText).toOption.bind fun d =>
      (Compile.document .default d .empty).1.toOption.map Script.texts) =
        some ["MERGE (x0 \x7b id: -3 \x7d)" ++
          " ON CREATE SET x0 = \x7b id: -3, tags: ['1/0', 1.5, null] \x7d" ++
          " ON MATCH SET x0.id = -3, x0.tags = ['1/0', 1.5, null]"] := by decide +kernel
  obtain ⟨d, hd, hscript⟩ := Option.bind_eq_some_iff.mp hscript
  obtain ⟨script, hcompile, htexts⟩ := Option.map_eq_some_iff.mp hscript
  rw [toOption_eq_some] at hd hcompile
  have hdocument : Compile.document .default d .empty =
      (.ok script, (Compile.document .default d .empty).2) := Prod.ext hcompile rfl
  obtain ⟨hnormal, hscripts⟩ := document_normal (.text hd)
  exact ⟨d, script, _, hd, hdocument, htexts, hnormal, (hscripts .default .empty _ _ hdocument).2⟩

end GraphImport
