import GraphImport.Proofs.Compile.Reload

/-!
# What a statement is composed of

The statement of an entry can be read off the entry: three lists of entries decide about it, those by
which it is found, those of a new entity and those that are written on one that is found. The parts
of the statement are said here from these lists alone, without the decisions of the compiler.

* `Cypher.mapTo`, `Cypher.itemsTo`, `Cypher.partOf` — a part of a statement that assigns pairs.
* `Entry.parts`, `Entry.composed` — the parts of a statement, and the statement.
* `Entry.verb`, `Entry.mapText`, `Entry.clausesText` — what a statement takes from the fields of its
  entry.
* `Entry.composed_text` — the text of a statement, with the pattern around the map.
* `Entry.statement_action`, `Plan.getElem_composed` — the statement of an action is composed of the
  parts of its entry.
* `entry_composed` — the statements of nodes and relationships, with their variables.
-/

namespace GraphImport

/-! ## Parts of a statement -/

namespace Cypher

/-- The pairs as a map in the place of all properties of a variable. -/
def mapTo (v : Variable) (pairs : List (String × String)) : String :=
  v.name ++ " = " ++ mapOf pairs

/-- The pairs one by one, each assigned to a field of a variable. -/
def itemsTo (v : Variable) (pairs : List (String × String)) : String :=
  String.intercalate ", " (pairs.map fun (key, text) => v.name ++ "." ++ key ++ " = " ++ text)

/-- A part that assigns pairs; none if there are no pairs. -/
def partOf (words : String) (assign : List (String × String) → String)
    (pairs : List (String × String)) : List String :=
  if pairs.isEmpty then [] else [words ++ assign pairs]

end Cypher

namespace Entry

/-- The part for a new entity. -/
def createdPart (mode : StringMode) (v : Variable) (e : Entry) : List String :=
  Cypher.partOf "ON CREATE SET " (Cypher.mapTo v) (Cypher.pairs mode e.props.entries)

/-- The part for an entity that is found. -/
def changedPart (mode : StringMode) (v : Variable) (e : Entry) : List String :=
  Cypher.partOf "ON MATCH SET " (if e.replacesAll then Cypher.mapTo v else Cypher.itemsTo v)
    (Cypher.pairs mode e.changed)

/-- The parts of the statement of an entry: its pattern, and for an entry that is looked for what is
written then. -/
def parts (mode : StringMode) (pattern : Pattern) (e : Entry) : List String :=
  if e.matching.isCreate then ["CREATE " ++ pattern.textOf (Cypher.pairs mode e.found)]
  else
    ["MERGE " ++ pattern.textOf (Cypher.pairs mode e.found)]
      ++ e.createdPart mode pattern.subject ++ e.changedPart mode pattern.subject

/-- The statement of an entry: its parts with a space between them. -/
def composed (mode : StringMode) (pattern : Pattern) (e : Entry) : Statement where
  text := String.intercalate " " (e.parts mode pattern)
  kind := pattern.kind e.matching.isCreate

end Entry

/-! ## Texts of statements -/

namespace Entry

/-- The word with which the statement of an entry begins. -/
def verb (e : Entry) : String := if e.matching.isCreate then "CREATE " else "MERGE "

/-- The map in the pattern of an entry, with a blank before it; nothing if it has no pairs. -/
def mapText (mode : StringMode) (e : Entry) : String :=
  Pattern.textOf.mapText (Cypher.pairs mode e.found)

/-- The clauses behind the pattern of an entry, each with a blank before it. An entry that is
created without looking has none. -/
def clausesText (mode : StringMode) (v : Variable) (e : Entry) : String :=
  if e.matching.isCreate then ""
  else String.join ((e.createdPart mode v ++ e.changedPart mode v).map fun part => " " ++ part)

/-- **A statement is its word, its pattern and its clauses.** -/
theorem composed_text (mode : StringMode) (pattern : Pattern) (e : Entry) :
    (e.composed mode pattern).text =
      e.verb ++ pattern.textOf (Cypher.pairs mode e.found) ++
        e.clausesText mode pattern.subject := by
  unfold composed parts verb clausesText
  dsimp only
  by_cases hcreate : e.matching.isCreate = true
  · rw [if_pos hcreate, if_pos hcreate, if_pos hcreate, String.intercalate_singleton,
      String.append_empty]
  · rw [if_neg hcreate, if_neg hcreate, if_neg hcreate, List.append_assoc, List.singleton_append,
      intercalate_cons]

/-- The statement of a node has the map behind its labels. -/
theorem composed_node (mode : StringMode) (v : Variable) (labels : List String) (e : Entry) :
    (e.composed mode (.node v labels)).text =
      e.verb ++ ("(" ++ v.name ++ Cypher.labels labels ++ e.mapText mode ++ ")") ++
        e.clausesText mode v :=
  e.composed_text mode (.node v labels)

/-- The statement of a relationship has the map behind its type. -/
theorem composed_relationship (mode : StringMode) (v source target : Variable) (type : String)
    (e : Entry) :
    (e.composed mode (.relationship v source target type)).text =
      e.verb ++ ("(" ++ source.name ++ ")-[" ++ v.name ++ ":" ++ type ++ e.mapText mode ++ "]->(" ++
        target.name ++ ")") ++ e.clausesText mode v :=
  e.composed_text mode (.relationship v source target type)

end Entry

/-! ## Clauses as parts -/

section Clauses

variable {mode : StringMode} {v : Variable}

/-- A clause for properties is the part for their pairs. -/
theorem Cypher.partOf_pairs {words text : String} {assign : List (String × String) → String}
    {p : Properties} (htext : text = assign (pairs mode p.entries)) :
    (if p.anyPresent then [words ++ text] else []) =
      partOf words assign (pairs mode p.entries) := by
  unfold partOf
  rw [isEmpty_pairs, htext]
  cases p.anyPresent with
  | false => rfl
  | true => rfl

/-- A map that is assigned consists of its pairs. -/
theorem Cypher.setMap_eq_mapTo (p : Properties) :
    setMap mode v p = mapTo v (pairs mode p.entries) := by
  unfold setMap mapTo
  rw [mapLiteral_eq_mapOf, String.append_assoc]

/-- Assignments to fields consist of their pairs. -/
theorem Cypher.setItems_eq_itemsTo (p : Properties) :
    setItems mode v p = itemsTo v (pairs mode p.entries) := by
  unfold setItems itemsTo pairs
  rw [List.map_map]
  rfl

/-- The clause for a new entity is the part for it. -/
theorem Entry.createdClause_props (e : Entry) :
    createdClause mode v e.props = e.createdPart mode v := by
  rw [createdClause_eq]
  exact Cypher.partOf_pairs (Cypher.setMap_eq_mapTo e.props)

namespace Change

/-- Fields are changed one by one. -/
theorem clause_fields (p : Properties) :
    (fields p).clause mode v =
      Cypher.partOf "ON MATCH SET " (Cypher.itemsTo v) (Cypher.pairs mode p.entries) := by
  rw [clause_eq]
  exact Cypher.partOf_pairs (Cypher.setItems_eq_itemsTo p)

/-- All properties are changed to a map. -/
theorem clause_whole (p : Properties) :
    (whole p).clause mode v =
      Cypher.partOf "ON MATCH SET " (Cypher.mapTo v) (Cypher.pairs mode p.entries) := by
  rw [clause_eq]
  exact Cypher.partOf_pairs (Cypher.setMap_eq_mapTo p)

end Change

end Clauses

/-! ## Statements of actions -/

namespace Entry

variable {e : Entry}

/-- The clause for an entity that is found is the part for it. -/
theorem clause_change (mode : StringMode) (v : Variable) {change : Change}
    (h : e.change = .ok change) : change.clause mode v = e.changedPart mode v := by
  obtain ⟨p, rfl, hentries⟩ := change_eq_ok h
  unfold changedPart
  rw [← hentries]
  cases e.replacesAll with
  | true => exact Change.clause_whole p
  | false => exact Change.clause_fields p

/-- **The statement of an action is composed of the parts of its entry.** -/
theorem statement_action (mode : StringMode) (pattern : Pattern) {action : Action}
    (h : e.action = .ok action) : action.statement mode pattern = e.composed mode pattern := by
  have hcreates : action.creates = e.matching.isCreate := creates_action h
  unfold Action.statement composed parts
  rw [hcreates]
  rcases e.action_eq_ok h with ⟨hcreate, rfl⟩ | ⟨hcreate, p, change, hp, hchange, rfl⟩
  · rw [if_pos hcreate, ← entries_pattern (pattern_of_isCreate hcreate)]
    unfold Action.parts
    simp only [Pattern.text_eq_textOf]
  · rw [if_neg (Bool.eq_false_iff.mp hcreate), ← entries_pattern hp,
      ← clause_change mode pattern.subject hchange, ← createdClause_props]
    unfold Action.parts
    simp only [Pattern.text_eq_textOf]

/-- An entry that is created without looking is created with its properties. -/
theorem action_of_create (h : e.matching = .create) : e.action = .ok (.create e.props) := by
  unfold action
  rw [h]
  rfl

end Entry

/-- **The statement of an entry in its place** is composed of the parts of the entry. -/
theorem Plan.getElem_composed (mode : StringMode) {commands : List Command} {place : Nat}
    {pattern : Pattern} {action : Action} {e : Entry} (haction : e.action = .ok action)
    (hcommand : commands[place]? = some ⟨pattern, action⟩) :
    (Command.script mode commands).statements[place]? = some (e.composed mode pattern) := by
  rw [getElem_script mode hcommand, ← Entry.statement_action mode pattern haction]
  rfl

/-! ## Statements of nodes and relationships -/

namespace Compile

variable {mode : StringMode} {key : Nat} {scope after : Scope} {s : Statement}

/-- The statement of a node is composed around its variable. -/
theorem node_composed {n : Node} (h : node mode key n scope = (.ok s, after)) :
    after.find? key = some (after.naming key) ∧
      s = n.composed mode (.node (after.naming key) n.labels) := by
  have hbound := (tracks_node mode).binds key n scope s (congrArg Prod.fst h)
  have hresult := (tracks_node mode).result key n scope after.naming
  rw [h] at hbound hresult
  obtain ⟨command, hcommand, rfl⟩ := map_eq_ok.mp (hresult after.namedBy_naming).symm
  obtain ⟨action, haction, rfl⟩ := Plan.finish_eq_ok.mp hcommand
  exact ⟨Scope.find?_of_mem hbound, Entry.statement_action mode _ haction⟩

/-- The statement of a relationship is composed around its variable and those of its ends. -/
theorem relationship_composed {nodeCount : Nat} {r : Relationship}
    (h : relationship mode key nodeCount r scope = (.ok s, after)) :
    ∃ source target : Nat,
      ends (.relationship (key - nodeCount)) nodeCount r = .ok (source, target) ∧
      after.find? key = some (after.naming key) ∧
      after.find? source = some (after.naming source) ∧
      after.find? target = some (after.naming target) ∧
      s = r.composed mode (.relationship (after.naming key) (after.naming source)
        (after.naming target) r.type) := by
  have hbound := (tracks_relationship mode nodeCount).binds key r scope s (congrArg Prod.fst h)
  have hresult := (tracks_relationship mode nodeCount).result key r scope after.naming
  simp only [h] at hbound hresult
  obtain ⟨command, hcommand, rfl⟩ := map_eq_ok.mp (hresult after.namedBy_naming).symm
  rcases hends : ends (.relationship (key - nodeCount)) nodeCount r with error | ⟨source, target⟩
  · rw [relationship_error hends] at h
    exact nomatch h
  · rw [relationship_ok hends] at h
    have hafter := congrArg Prod.snd h
    dsimp only at hafter
    unfold Plan.relationship at hcommand
    simp only [hends] at hcommand
    obtain ⟨action, haction, rfl⟩ := Plan.finish_eq_ok.mp hcommand
    refine ⟨source, target, rfl, Scope.find?_of_mem hbound, Scope.find?_of_mem ?_,
      Scope.find?_of_mem ?_, Entry.statement_action mode _ haction⟩
    · rw [← hafter]
      exact (Scope.extendedBy_extend _ target).mem (Scope.mem_extend _ source)
    · rw [← hafter]
      exact Scope.mem_extend _ target

/-- The statement of an entry that is created without looking. -/
theorem finish_of_create {ref : EntryRef} {pattern : Pattern} {e : Entry}
    (h : e.matching = .create) :
    finish mode ref pattern e = .ok ((Action.create e.props).statement mode pattern) :=
  finish_ok (e.action_of_create h)

/-- A node that is created without looking is compiled alike, whatever is written on one that is
found. -/
theorem node_of_create {n : Node} {updating : UpdateRule} {replace : Bool}
    (h : n.matching = .create) :
    node mode key { n with updating, replace } scope = node mode key n scope := by
  unfold node
  simp only [finish_of_create h]
  exact congrArg (·, (scope.bind key).2)
    (finish_of_create (e := { n.toEntry with updating, replace }) h)

/-- A relationship that is created without looking is compiled alike, whatever is written on one
that is found. -/
theorem relationship_of_create {nodeCount : Nat} {r : Relationship} {updating : UpdateRule}
    {replace : Bool} (h : r.matching = .create) :
    relationship mode key nodeCount { r with updating, replace } scope =
      relationship mode key nodeCount r scope := by
  rcases hends : ends (.relationship (key - nodeCount)) nodeCount r with error | ⟨source, target⟩
  · rw [relationship_error hends]
    exact relationship_error (r := { r with updating, replace }) hends
  · rw [relationship_ok hends, finish_of_create h,
      relationship_ok (r := { r with updating, replace }) hends,
      finish_of_create (e := { r.toEntry with updating, replace }) h]

end Compile

/-- **The statement of a node or relationship is composed of its parts**, around a pattern with the
variables that the scope holds for it and for its ends. What is written on an entity that is found
does not matter to an entry that is created without looking. -/
theorem entry_composed (mode : StringMode) (key : Nat) (scope : Scope) :
    (∀ (n : Node) (s : Statement) (after : Scope),
      Compile.node mode key n scope = (.ok s, after) →
        ∃ v, after.find? key = some v ∧ s = n.composed mode (.node v n.labels)) ∧
    (∀ (nodeCount : Nat) (r : Relationship) (s : Statement) (after : Scope),
      Compile.relationship mode key nodeCount r scope = (.ok s, after) →
        ∃ v a b, ∃ source target : Nat, after.find? key = some v ∧
          (r.source = source ∧ source < nodeCount ∧ after.find? source = some a) ∧
          (r.target = target ∧ target < nodeCount ∧ after.find? target = some b) ∧
          s = r.composed mode (.relationship v a b r.type)) ∧
    (∀ (n : Node) (updating : UpdateRule) (replace : Bool), n.matching = .create →
      Compile.node mode key { n with updating, replace } scope =
        Compile.node mode key n scope) ∧
    (∀ (nodeCount : Nat) (r : Relationship) (updating : UpdateRule) (replace : Bool),
      r.matching = .create →
        Compile.relationship mode key nodeCount { r with updating, replace } scope =
          Compile.relationship mode key nodeCount r scope) := by
  refine ⟨fun n s after h => ?_, fun nodeCount r s after h => ?_, fun n updating replace h => ?_,
    fun nodeCount r updating replace h => ?_⟩
  · obtain ⟨hfind, hs⟩ := Compile.node_composed h
    exact ⟨_, hfind, hs⟩
  · obtain ⟨source, target, hends, hkey, hsource, htarget, hs⟩ := Compile.relationship_composed h
    obtain ⟨⟨hfrom, hfromNode⟩, hto, htoNode⟩ := Compile.ends_eq_ok hends
    exact ⟨_, _, _, source, target, hkey, ⟨hfrom, hfromNode, hsource⟩, ⟨hto, htoNode, htarget⟩, hs⟩
  · exact Compile.node_of_create h
  · exact Compile.relationship_of_create h

/-- A person that is found by two keys, one of them named twice. -/
def Node.foundByKeys : Node where
  props := .ofPairs [("id", .int 1), ("note", .null), ("name", .string "Alice")]
  matching := .onKeys ["name", "id", "name"]
  updating := .onMap (.ofPairs [("seen", .bool true), ("note", .null)])
  replace := true
  labels := ["Person"]

/-- A person that knows itself, which is always created. -/
def Relationship.ofItself : Relationship where
  props := .ofPairs [("since", .int 1999)]
  matching := .create
  updating := .allProps
  replace := false
  source := 0
  target := 0
  type := "KNOWS"

/-- A person is looked for by the keys in their order, and gets a map in the place of its
properties; it is created to know itself, whatever is written on what is found. -/
theorem entry_composed_keys :
    (∃ v, (Scope.empty.extend 0).find? 0 = some v ∧
      ⟨"MERGE (x0:Person \x7b name: 'Alice', id: 1 \x7d)" ++
        " ON CREATE SET x0 = \x7b id: 1, name: 'Alice' \x7d" ++
        " ON MATCH SET x0 = \x7b seen: true \x7d", .mergeNode⟩ =
        Node.foundByKeys.composed .verbatim (.node v ["Person"])) ∧
    (∃ v a b, ∃ source target : Nat, ((Scope.empty.extend 0).extend 1).find? 1 = some v ∧
      ((0 : Int) = source ∧ source < 1 ∧ ((Scope.empty.extend 0).extend 1).find? source = some a) ∧
      ((0 : Int) = target ∧ target < 1 ∧ ((Scope.empty.extend 0).extend 1).find? target = some b) ∧
      ⟨"CREATE (x0)-[x1:KNOWS \x7b since: 1999 \x7d]->(x0)", .createRelationship⟩ =
        Relationship.ofItself.composed .verbatim (.relationship v a b "KNOWS")) ∧
    Compile.relationship .verbatim 1 1
        { Relationship.ofItself with updating := .onKeys ["gone"], replace := true }
        (Scope.empty.extend 0) =
      Compile.relationship .verbatim 1 1 Relationship.ofItself (Scope.empty.extend 0) :=
  ⟨(entry_composed .verbatim 0 .empty).1 Node.foundByKeys _ _ rfl,
    (entry_composed .verbatim 1 (Scope.empty.extend 0)).2.1 1 Relationship.ofItself _ _ rfl,
    (entry_composed .verbatim 1 (Scope.empty.extend 0)).2.2.2 1 Relationship.ofItself _ _ rfl⟩

end GraphImport
