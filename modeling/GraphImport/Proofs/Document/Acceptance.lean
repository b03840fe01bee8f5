import GraphImport.Proofs.Document.FieldReading

/-!
# Which documents are read

A JSON object that lists objects is read as a document exactly if every field of every object may
hold what it holds. The document then has one entry for each object, in order, and otherwise the
first bad field of the first bad entry is reported, nodes before relationships.

* `ListsObjects` — what an object lists under a name.
* `Entry.IsReadFrom`, `Node.IsReadFrom`, `Relationship.IsReadFrom` — the entry that an object says.
* `Document.fieldChecks` — all fields of all entries, in the order in which they are checked.
* `document_follows_grammar` — which documents are read, and what is reported otherwise.
-/

namespace GraphImport

/-! ## Entries -/

/-- The fields that nodes and relationships have in common, as an object says them. -/
structure Entry.IsReadFrom (members : Entries Json) (e : Entry) : Prop where
  /-- The properties. -/
  props : Field.props.Holds members "props" e.props
  /-- By what the entry is found. -/
  matching : Field.matching.Holds members "match" e.matching
  /-- What is written when it is found. -/
  updating : Field.updating.Holds members "update" e.updating
  /-- Whether an update takes the place of all properties. -/
  replace : Field.replace.Holds members "replace" e.replace

/-- **The node that an object says.** -/
structure Node.IsReadFrom (members : Entries Json) (n : Node) : Prop where
  /-- The fields of every entry. -/
  entry : n.toEntry.IsReadFrom members
  /-- The labels. -/
  labels : Field.labels.Holds members "labels" n.labels

/-- **The relationship that an object says.** -/
structure Relationship.IsReadFrom (members : Entries Json) (r : Relationship) : Prop where
  /-- The node at which it starts. -/
  source : Field.index.Holds members "start" r.source
  /-- The node at which it ends. -/
  target : Field.index.Holds members "end" r.target
  /-- The type. -/
  type : Field.type.Holds members "type" r.type
  /-- The fields of every entry. -/
  entry : r.toEntry.IsReadFrom members

/-- The checks of the fields that nodes and relationships have in common. -/
def Entry.fieldChecks (ref : EntryRef) (members : Entries Json) : List (Check ImportError) := [
  Field.props.check ref "props" members,
  Field.matching.check ref "match" members,
  Field.updating.check ref "update" members,
  Field.replace.check ref "replace" members]

/-- The checks of the fields of a node. -/
def Node.fieldChecks (index : Nat) (members : Entries Json) : List (Check ImportError) :=
  Entry.fieldChecks (.node index) members ++
    [Field.labels.check (.node index) "labels" members]

/-- The checks of the fields of a relationship. -/
def Relationship.fieldChecks (index : Nat) (members : Entries Json) : List (Check ImportError) :=
  [Field.index.check (.relationship index) "start" members,
    Field.index.check (.relationship index) "end" members,
    Field.type.check (.relationship index) "type" members] ++
    Entry.fieldChecks (.relationship index) members

section

variable {members : Entries Json} {ref : EntryRef} {index : Nat}

theorem Entry.ofMembers_eq_ok (hkeys : members.keys.Nodup) {e : Entry} :
    Entry.ofMembers ref members = .ok e ↔ e.IsReadFrom members := by
  constructor
  · intro h
    obtain ⟨props, hprops, h⟩ := bind_eq_ok.mp h
    obtain ⟨matching, hmatching, h⟩ := bind_eq_ok.mp h
    obtain ⟨updating, hupdating, h⟩ := bind_eq_ok.mp h
    obtain ⟨replace, hreplace, h⟩ := bind_eq_ok.mp h
    cases h
    exact ⟨(Field.props_isReadBy.readField_eq_ok hkeys).mp hprops,
      (Field.matching_isReadBy.readField_eq_ok hkeys).mp hmatching,
      (Field.updating_isReadBy.readField_eq_ok hkeys).mp hupdating,
      (Field.replace_isReadBy.readField_eq_ok hkeys).mp hreplace⟩
  · rintro ⟨hprops, hmatching, hupdating, hreplace⟩
    apply bind_eq_ok.mpr
    refine ⟨_, (Field.props_isReadBy.readField_eq_ok hkeys).mpr hprops, bind_eq_ok.mpr ?_⟩
    refine ⟨_, (Field.matching_isReadBy.readField_eq_ok hkeys).mpr hmatching, bind_eq_ok.mpr ?_⟩
    refine ⟨_, (Field.updating_isReadBy.readField_eq_ok hkeys).mpr hupdating, bind_eq_ok.mpr ?_⟩
    exact ⟨_, (Field.replace_isReadBy.readField_eq_ok hkeys).mpr hreplace, rfl⟩

/-- **Exactly the nodes that objects say are read.** -/
theorem Node.ofMembers_eq_ok (hkeys : members.keys.Nodup) {n : Node} :
    Node.ofMembers index members = .ok n ↔ n.IsReadFrom members := by
  constructor
  · intro h
    obtain ⟨entry, hentry, h⟩ := bind_eq_ok.mp h
    obtain ⟨labels, hlabels, h⟩ := bind_eq_ok.mp h
    cases h
    exact ⟨(Entry.ofMembers_eq_ok hkeys).mp hentry,
      (Field.labels_isReadBy.readField_eq_ok hkeys).mp hlabels⟩
  · rintro ⟨hentry, hlabels⟩
    apply bind_eq_ok.mpr
    refine ⟨_, (Entry.ofMembers_eq_ok hkeys).mpr hentry, bind_eq_ok.mpr ?_⟩
    exact ⟨_, (Field.labels_isReadBy.readField_eq_ok hkeys).mpr hlabels, rfl⟩

/-- **Exactly the relationships that objects say are read.** -/
theorem Relationship.ofMembers_eq_ok (hkeys : members.keys.Nodup) {r : Relationship} :
    Relationship.ofMembers index members = .ok r ↔ r.IsReadFrom members := by
  constructor
  · intro h
    obtain ⟨source, hsource, h⟩ := bind_eq_ok.mp h
    obtain ⟨target, htarget, h⟩ := bind_eq_ok.mp h
    obtain ⟨type, htype, h⟩ := bind_eq_ok.mp h
    obtain ⟨entry, hentry, h⟩ := bind_eq_ok.mp h
    cases h
    exact ⟨(Field.index_isReadBy.readField_eq_ok hkeys).mp hsource,
      (Field.index_isReadBy.readField_eq_ok hkeys).mp htarget,
      (Field.type_isReadBy.readField_eq_ok hkeys).mp htype,
      (Entry.ofMembers_eq_ok hkeys).mp hentry⟩
  · rintro ⟨hsource, htarget, htype, hentry⟩
    apply bind_eq_ok.mpr
    refine ⟨_, (Field.index_isReadBy.readField_eq_ok hkeys).mpr hsource, bind_eq_ok.mpr ?_⟩
    refine ⟨_, (Field.index_isReadBy.readField_eq_ok hkeys).mpr htarget, bind_eq_ok.mpr ?_⟩
    refine ⟨_, (Field.type_isReadBy.readField_eq_ok hkeys).mpr htype, bind_eq_ok.mpr ?_⟩
    exact ⟨_, (Entry.ofMembers_eq_ok hkeys).mpr hentry, rfl⟩

theorem Entry.ofMembers_goesThrough (hkeys : members.keys.Nodup) :
    GoesThrough (Entry.fieldChecks ref members) (Entry.ofMembers ref members) := by
  apply (Field.props_isReadBy.readField_goesThrough hkeys).bind
  intro props _
  apply (Field.matching_isReadBy.readField_goesThrough hkeys).bind
  intro matching _
  apply (Field.updating_isReadBy.readField_goesThrough hkeys).bind
  intro updating _
  rw [bind_pure_eq_map]
  exact (Field.replace_isReadBy.readField_goesThrough hkeys).map _

/-- **The fields of a node are checked in their order.** -/
theorem Node.ofMembers_goesThrough (hkeys : members.keys.Nodup) :
    GoesThrough (Node.fieldChecks index members) (Node.ofMembers index members) := by
  apply (Entry.ofMembers_goesThrough hkeys).bind
  intro entry _
  rw [bind_pure_eq_map]
  exact (Field.labels_isReadBy.readField_goesThrough hkeys).map _

/-- **The fields of a relationship are checked in their order.** -/
theorem Relationship.ofMembers_goesThrough (hkeys : members.keys.Nodup) :
    GoesThrough (Relationship.fieldChecks index members)
      (Relationship.ofMembers index members) := by
  apply (Field.index_isReadBy.readField_goesThrough hkeys).bind
  intro source _
  apply (Field.index_isReadBy.readField_goesThrough hkeys).bind
  intro target _
  apply (Field.type_isReadBy.readField_goesThrough hkeys).bind
  intro type _
  rw [bind_pure_eq_map]
  exact (Entry.ofMembers_goesThrough hkeys).map _

theorem Entry.fieldChecks_hasOneError (hkeys : members.keys.Nodup) :
    ∀ c ∈ Entry.fieldChecks ref members, c.HasOneError := by
  unfold Entry.fieldChecks
  simp only [List.forall_mem_cons]
  exact ⟨Field.props_isReadBy.check_hasOneError hkeys,
    Field.matching_isReadBy.check_hasOneError hkeys,
    Field.updating_isReadBy.check_hasOneError hkeys,
    Field.replace_isReadBy.check_hasOneError hkeys, fun c hc => absurd hc List.not_mem_nil⟩

theorem Node.fieldChecks_hasOneError (hkeys : members.keys.Nodup) :
    ∀ c ∈ Node.fieldChecks index members, c.HasOneError := by
  unfold Node.fieldChecks
  rw [List.forall_mem_append, List.forall_mem_singleton]
  exact ⟨Entry.fieldChecks_hasOneError hkeys, Field.labels_isReadBy.check_hasOneError hkeys⟩

theorem Relationship.fieldChecks_hasOneError (hkeys : members.keys.Nodup) :
    ∀ c ∈ Relationship.fieldChecks index members, c.HasOneError := by
  unfold Relationship.fieldChecks
  simp only [List.forall_mem_append, List.forall_mem_cons]
  exact ⟨⟨Field.index_isReadBy.check_hasOneError hkeys, Field.index_isReadBy.check_hasOneError hkeys,
    Field.type_isReadBy.check_hasOneError hkeys, fun c hc => absurd hc List.not_mem_nil⟩,
    Entry.fieldChecks_hasOneError hkeys⟩

/-- The check of a field names the entry and the field. -/
theorem Field.Rule.badField_of_blames {α : Type} {rule : Field.Rule α} {name : String}
    {e : ImportError} (h : (rule.check ref name members).blames e) :
    ∃ ref name problem, e = .badField ref name problem := by
  obtain ⟨-, problem, -, -, rfl⟩ := h
  exact ⟨ref, name, problem, rfl⟩

theorem Entry.badField_of_blames {c : Check ImportError} (hc : c ∈ Entry.fieldChecks ref members)
    {e : ImportError} (h : c.blames e) : ∃ ref name problem, e = .badField ref name problem := by
  unfold Entry.fieldChecks at hc
  simp only [List.mem_cons, List.not_mem_nil, or_false] at hc
  rcases hc with rfl | rfl | rfl | rfl
  all_goals exact Field.Rule.badField_of_blames h

theorem Node.badField_of_blames {c : Check ImportError} (hc : c ∈ Node.fieldChecks index members)
    {e : ImportError} (h : c.blames e) : ∃ ref name problem, e = .badField ref name problem := by
  unfold Node.fieldChecks at hc
  rcases List.mem_append.mp hc with hc | hc
  · exact Entry.badField_of_blames hc h
  · obtain rfl := List.mem_singleton.mp hc
    exact Field.Rule.badField_of_blames h

theorem Relationship.badField_of_blames {c : Check ImportError}
    (hc : c ∈ Relationship.fieldChecks index members) {e : ImportError} (h : c.blames e) :
    ∃ ref name problem, e = .badField ref name problem := by
  unfold Relationship.fieldChecks at hc
  rcases List.mem_append.mp hc with hc | hc
  · simp only [List.mem_cons, List.not_mem_nil, or_false] at hc
    rcases hc with rfl | rfl | rfl
    all_goals exact Field.Rule.badField_of_blames h
  · exact Entry.badField_of_blames hc h

end

/-! ## Outlines -/

/-- **What an object lists under a name**: nothing, or objects. -/
inductive ListsObjects (members : Entries Json) (name : String) : List (Entries Json) → Prop where
  /-- There is no such member. -/
  | absent (h : ∀ json, (name, json) ∉ members) : ListsObjects members name []
  /-- The member is an array of objects. -/
  | present {objects : List (Entries Json)} (h : (name, .array (objects.map .object)) ∈ members) :
    ListsObjects members name objects

namespace Outline

/-- An array of objects is read as these objects. -/
theorem objectsOf_objects (objects : List (Entries Json)) :
    objectsOf (.array (objects.map .object)) = .ok objects := by
  unfold objectsOf
  rw [mapM_eq_ok]
  induction objects with
  | nil => exact .nil
  | cons object rest ih => exact .cons rfl ih

/-- What an object lists is found under its name. -/
theorem getD_objectsOf {members : Entries Json} {name : String}
    {objects : List (Entries Json)} (hkeys : members.keys.Nodup)
    (h : ListsObjects members name objects) :
    ((members.find? name).map objectsOf).getD (.ok []) = .ok objects := by
  cases h with
  | absent h =>
      cases hfind : members.find? name with
      | none => rfl
      | some json => exact absurd (Entries.mem_of_find? hfind) (h json)
  | present h =>
      rw [Entries.find?_of_mem hkeys h]
      exact objectsOf_objects objects

/-- **The lists among members are read in any order**; what is not listed stays as it is. -/
theorem ofMembers_eq_ok {members : Entries Json} {outline result : Outline}
    (hkeys : members.keys.Nodup) :
    ofMembers outline members = .ok result ↔
      ((members.find? "nodes").map objectsOf).getD (.ok outline.nodes) = .ok result.nodes ∧
        ((members.find? "rels").map objectsOf).getD (.ok outline.relationships) =
          .ok result.relationships := by
  induction members generalizing outline with
  | nil =>
      unfold ofMembers Entries.find?
      simp only [Option.map_none, Option.getD_none, Except.ok.injEq]
      constructor
      · rintro rfl
        exact ⟨rfl, rfl⟩
      · rintro ⟨hnodes, hrelationships⟩
        obtain ⟨nodes, relationships⟩ := outline
        cases hnodes
        cases hrelationships
        rfl
  | cons member rest ih =>
      obtain ⟨key, json⟩ := member
      rw [Entries.keys_cons, List.nodup_cons] at hkeys
      obtain ⟨hnew, hkeys⟩ := hkeys
      have habsent : Entries.find? key rest = none := by
        rw [← Option.not_isSome_iff_eq_none, Entries.isSome_find?]
        exact hnew
      unfold Entries.find? ofMembers
      by_cases hkeyNodes : key = "nodes"
      · subst hkeyNodes
        rw [if_pos rfl, if_pos rfl, if_neg (by decide), bind_eq_ok]
        simp only [ih hkeys, habsent, Option.map_none, Option.getD_none, Except.ok.injEq]
        constructor
        · rintro ⟨nodes, hnodes, rfl, hrelationships⟩
          exact ⟨hnodes, hrelationships⟩
        · rintro ⟨hnodes, hrelationships⟩
          exact ⟨_, hnodes, rfl, hrelationships⟩
      · rw [if_neg hkeyNodes, if_neg hkeyNodes]
        by_cases hkeyRels : key = "rels"
        · subst hkeyRels
          rw [if_pos rfl, if_pos rfl, bind_eq_ok]
          simp only [ih hkeys, habsent, Option.map_none, Option.getD_none, Except.ok.injEq]
          constructor
          · rintro ⟨relationships, hrelationships, hnodes, rfl⟩
            exact ⟨hnodes, hrelationships⟩
          · rintro ⟨hnodes, hrelationships⟩
            exact ⟨_, hrelationships, hnodes, rfl⟩
        · rw [if_neg hkeyRels, if_neg hkeyRels]
          exact ih hkeys

/-- The outline of an object is what it lists. -/
theorem ofJson_object {members : Entries Json} {nodes relationships : List (Entries Json)}
    (hkeys : members.keys.Nodup) (hnodes : ListsObjects members "nodes" nodes)
    (hrelationships : ListsObjects members "rels" relationships) :
    ofJson (.object members) = .ok ⟨nodes, relationships⟩ := by
  refine (ofMembers_eq_ok hkeys).mpr ⟨?_, ?_⟩
  · exact getD_objectsOf hkeys hnodes
  · exact getD_objectsOf hkeys hrelationships

end Outline

/-! ## Documents -/

/-- The checks of all fields of all entries: of the nodes by position, then of the relationships by
position. -/
def Document.fieldChecks (nodes relationships : List (Entries Json)) : List (Check ImportError) :=
  (nodes.zipIdx.flatMap fun (members, i) => Node.fieldChecks i members) ++
    relationships.zipIdx.flatMap fun (members, j) => Relationship.fieldChecks j members

/-- Items are read in their places when each of them is read by a rule that does not depend on its
place. -/
theorem mapM_zipIdx_eq_ok {ε α β : Type} (read : Nat → α → Except ε β) {R : α → β → Prop}
    {items : List α} (h : ∀ item ∈ items, ∀ i value, read i item = .ok value ↔ R item value)
    (start : Nat) {values : List β} :
    ((items.zipIdx start).mapM fun (item, i) => read i item) = .ok values ↔
      List.Forall₂ R items values := by
  induction items generalizing start values with
  | nil => rw [List.zipIdx_nil, mapM_eq_ok, List.forall₂_nil_left_iff, List.forall₂_nil_left_iff]
  | cons item rest ih =>
      have hrest : ∀ others : List β, _ ↔ List.Forall₂ R rest others := fun others =>
        ih (fun other hother => h other (List.mem_cons_of_mem _ hother)) (start + 1)
      rw [List.zipIdx_cons, mapM_eq_ok, List.forall₂_cons_left_iff, List.forall₂_cons_left_iff]
      simp only [← mapM_eq_ok, hrest, h item List.mem_cons_self]

section

variable {nodes relationships : List (Entries Json)}

/-- The document of an outline has one entry for each object, in order. -/
theorem Document.ofOutline_eq_ok (hkeys : ∀ members ∈ nodes ++ relationships, members.keys.Nodup)
    {d : Document} :
    Document.ofOutline ⟨nodes, relationships⟩ = .ok d ↔
      List.Forall₂ Node.IsReadFrom nodes d.nodes ∧
        List.Forall₂ Relationship.IsReadFrom relationships d.relationships := by
  rw [List.forall_mem_append] at hkeys
  have hnodes : ∀ {ns}, (nodes.zipIdx.mapM fun (members, i) => Node.ofMembers i members) = .ok ns ↔
      List.Forall₂ Node.IsReadFrom nodes ns :=
    mapM_zipIdx_eq_ok Node.ofMembers
      (fun members hmem _ _ => Node.ofMembers_eq_ok (hkeys.1 members hmem)) 0
  have hrelationships : ∀ {rs},
      (relationships.zipIdx.mapM fun (members, j) => Relationship.ofMembers j members) = .ok rs ↔
        List.Forall₂ Relationship.IsReadFrom relationships rs :=
    mapM_zipIdx_eq_ok Relationship.ofMembers
      (fun members hmem _ _ => Relationship.ofMembers_eq_ok (hkeys.2 members hmem)) 0
  constructor
  · intro h
    obtain ⟨ns, hns, h⟩ := bind_eq_ok.mp h
    obtain ⟨rs, hrs, h⟩ := bind_eq_ok.mp h
    cases h
    exact ⟨hnodes.mp hns, hrelationships.mp hrs⟩
  · rintro ⟨hns, hrs⟩
    apply bind_eq_ok.mpr
    exact ⟨_, hnodes.mpr hns, bind_eq_ok.mpr ⟨_, hrelationships.mpr hrs, rfl⟩⟩

/-- The fields of all entries are checked in their order. -/
theorem Document.ofOutline_goesThrough
    (hkeys : ∀ members ∈ nodes ++ relationships, members.keys.Nodup) :
    GoesThrough (Document.fieldChecks nodes relationships)
      (Document.ofOutline ⟨nodes, relationships⟩) := by
  rw [List.forall_mem_append] at hkeys
  have hnodes : GoesThrough (nodes.zipIdx.flatMap fun (members, i) => Node.fieldChecks i members)
      (nodes.zipIdx.mapM fun (members, i) => Node.ofMembers i members) :=
    .mapM fun item hitem => Node.ofMembers_goesThrough (hkeys.1 _ (List.fst_mem_of_mem_zipIdx hitem))
  have hrelationships : GoesThrough
      (relationships.zipIdx.flatMap fun (members, j) => Relationship.fieldChecks j members)
      (relationships.zipIdx.mapM fun (members, j) => Relationship.ofMembers j members) :=
    .mapM fun item hitem =>
      Relationship.ofMembers_goesThrough (hkeys.2 _ (List.fst_mem_of_mem_zipIdx hitem))
  apply hnodes.bind
  intro nodes _
  rw [bind_pure_eq_map]
  exact hrelationships.map _

/-- Each check of a field has one error. -/
theorem Document.fieldChecks_hasOneError
    (hkeys : ∀ members ∈ nodes ++ relationships, members.keys.Nodup) :
    ∀ c ∈ Document.fieldChecks nodes relationships, c.HasOneError := by
  rw [List.forall_mem_append] at hkeys
  unfold Document.fieldChecks
  simp only [List.forall_mem_append, List.forall_mem_flatMap]
  refine ⟨?_, ?_⟩
  · intro item hitem
    exact Node.fieldChecks_hasOneError (hkeys.1 _ (List.fst_mem_of_mem_zipIdx hitem))
  · intro item hitem
    exact Relationship.fieldChecks_hasOneError (hkeys.2 _ (List.fst_mem_of_mem_zipIdx hitem))

/-- What makes an outline unreadable is a field. -/
theorem Document.exists_badField (hkeys : ∀ members ∈ nodes ++ relationships, members.keys.Nodup)
    {error : ImportError} (h : Document.ofOutline ⟨nodes, relationships⟩ = .error error) :
    ∃ ref name problem, error = .badField ref name problem := by
  have hfirst := ((Document.ofOutline_goesThrough hkeys).error_iff
    (Document.fieldChecks_hasOneError hkeys)).mp h
  obtain ⟨c, hc, hblames⟩ := hfirst.exists_blames
  unfold Document.fieldChecks at hc
  rcases List.mem_append.mp hc with hc | hc
  · obtain ⟨⟨members, i⟩, -, hc⟩ := List.mem_flatMap.mp hc
    exact Node.badField_of_blames hc hblames
  · obtain ⟨⟨members, j⟩, -, hc⟩ := List.mem_flatMap.mp hc
    exact Relationship.badField_of_blames hc hblames

/-- **A document is read exactly if every field of every entry follows its rule**, and it then has
one entry for each object, in order. Otherwise the first problem of the first bad field of the first
bad entry is reported. Nodes come before relationships. The fields of a node are checked in the
order `props`, `match`, `update`, `replace`, `labels`, and those of a relationship in the order
`start`, `end`, `type`, `props`, `match`, `update`, `replace`. -/
theorem document_follows_grammar {members : Entries Json} (hmembers : members.keys.Nodup)
    (hnodes : ListsObjects members "nodes" nodes)
    (hrelationships : ListsObjects members "rels" relationships)
    (hkeys : ∀ entry ∈ nodes ++ relationships, entry.keys.Nodup) :
    (∀ d, Document.ofJson (.object members) = .ok d ↔
        List.Forall₂ Node.IsReadFrom nodes d.nodes ∧
          List.Forall₂ Relationship.IsReadFrom relationships d.relationships) ∧
      ((∃ d, Document.ofJson (.object members) = .ok d) ↔
        ∀ c ∈ Document.fieldChecks nodes relationships, c.passes) ∧
      ∀ error, Document.ofJson (.object members) = .error error ↔
        FirstFailure (Document.fieldChecks nodes relationships) error := by
  have hread : Document.ofJson (.object members) =
      Document.ofOutline ⟨nodes, relationships⟩ := by
    unfold Document.ofJson
    rw [Outline.ofJson_object hmembers hnodes hrelationships]
  have hchecks := Document.ofOutline_goesThrough hkeys
  rw [hread]
  refine ⟨fun d => Document.ofOutline_eq_ok hkeys, hchecks.ok_iff, fun error => ?_⟩
  exact hchecks.error_iff (Document.fieldChecks_hasOneError hkeys)

end

/-- The members of a node: a person who is found by her number. -/
def personMembers : Entries Json := [
  ("labels", .array [.string "Person"]),
  ("match", .array [.string "id"]),
  ("note", .bool true),
  ("props", .object [("id", .number (.integer 1)), ("tags", .array [.string "a", .null])]),
  ("update", .array [])]

/-- The members of a relationship whose end is written as a double. -/
def knowsMembers : Entries Json := [
  ("end", .number (.double ⟨0⟩)),
  ("props", .null),
  ("start", .number (.integer 0)),
  ("type", .string "KNOWS")]

/-- The members of a document. -/
def personDocument : Entries Json := [
  ("rels", .array [.object knowsMembers]),
  ("nodes", .array [.object personMembers])]

/-- A person who knows herself is a document with one node and one relationship. -/
theorem document_follows_grammar_person :
    Document.ofJson (.object personDocument) = .ok {
      nodes := [{
        props := .ofPairs [("id", .int 1), ("tags", .list [.string "a", .null])]
        matching := .onKeys ["id"]
        updating := .allProps
        replace := false
        labels := ["Person"] }]
      relationships := [{
        props := .empty
        matching := .onProps
        updating := .allProps
        replace := false
        source := 0
        target := 0
        type := "KNOWS" }] } := by
  have hnodes : ListsObjects personDocument "nodes" [personMembers] :=
    .present (by simp [personDocument])
  have hrelationships : ListsObjects personDocument "rels" [knowsMembers] :=
    .present (by simp [personDocument])
  have hprops : ("props", .object [("id", .number (.integer 1)),
      ("tags", .array [.string "a", .null])]) ∈ personMembers := by simp [personMembers]
  have hend : ("end", .number (.double ⟨0⟩)) ∈ knowsMembers := by simp [knowsMembers]
  obtain ⟨hread, -⟩ := document_follows_grammar (by decide) hnodes hrelationships (by decide)
  refine (hread _).mpr ⟨.cons ⟨⟨?_, ?_, ?_, ?_⟩, ?_⟩ .nil, .cons ⟨?_, ?_, ?_, ⟨?_, ?_, ?_, ?_⟩⟩ .nil⟩
  · refine ⟨_, .present hprops Json.noConfusion, .object ⟨_, ?_, rfl⟩⟩
    exact .cons ⟨rfl, .scalar (.integer (by decide) (by decide))⟩
      (.cons ⟨rfl, .list (.cons (.string "a") (.cons .null .nil))⟩ .nil)
  · exact ⟨_, .present (by simp [personMembers]) Json.noConfusion, .keys ["id"]⟩
  · exact ⟨_, .present (by simp [personMembers]) Json.noConfusion, .noKeys⟩
  · exact ⟨none, .absent (by simp [personMembers]), .absent⟩
  · exact ⟨_, .present (by simp [personMembers]) Json.noConfusion, .names ["Person"]⟩
  · exact ⟨_, .present (by simp [knowsMembers]) Json.noConfusion,
      .integer (by decide) (by decide)⟩
  · exact ⟨_, .present hend Json.noConfusion,
      .double (by decide) (by rw [Int.zero_mul]; decide) (by decide) (by decide)⟩
  · exact ⟨_, .present (by simp [knowsMembers]) Json.noConfusion, .string "KNOWS"⟩
  · exact ⟨none, .absent (by simp [knowsMembers]), .absent⟩
  · exact ⟨none, .absent (by simp [knowsMembers]), .absent⟩
  · exact ⟨none, .absent (by simp [knowsMembers]), .absent⟩
  · exact ⟨none, .absent (by simp [knowsMembers]), .absent⟩

end GraphImport
