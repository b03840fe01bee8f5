import GraphImport.Proofs.Compile.Contents

/-!
# Finding a new entity again

A statement that looks for its entity and does not find it creates the entity with the properties
of the pattern, and then puts other properties in the place of all of them. The entity is found by
the same pattern later on only if the pairs of the pattern are among those properties.

An entry that is found by properties of its own keeps them. An entry that is found by a map does
not: the map goes into the pattern as it is, and nothing of it into the new entity.

* `Cypher.pairs` — entries as pairs of a key and a literal, with `Cypher.mapLiteral_eq_mapOf`.
* `Compile.Gives` — the statements of an entry.
* `created_keeps_pattern` — which pairs of a pattern a new entity keeps.
-/

namespace GraphImport

/-! ## Pairs of map literals -/

namespace Cypher

/-- The pairs of a key and a literal for the entries that are not null, in order. -/
def pairs (mode : StringMode) (entries : Entries Value) : List (String × String) :=
  (entries.filter fun entry => !entry.2.isNull).map fun (key, value) => (key, literal mode value)

/-- A map literal with the given pairs. -/
def mapOf (pairs : List (String × String)) : String :=
  if pairs.isEmpty then "\x7b\x7d"
  else
    "\x7b " ++ String.intercalate ", " (pairs.map fun (key, text) => key ++ ": " ++ text) ++ " \x7d"

/-- A map literal consists of the pairs of its properties. -/
theorem mapLiteral_eq_mapOf (mode : StringMode) (p : Properties) :
    mapLiteral mode p = mapOf (pairs mode p.entries) := by
  unfold mapLiteral mapOf pairs
  dsimp only
  rw [List.isEmpty_map, List.isEmpty_map, List.map_map]
  rfl

/-- There is a pair when a value is not null. -/
theorem isEmpty_pairs (mode : StringMode) (p : Properties) :
    (pairs mode p.entries).isEmpty = !p.anyPresent := by
  unfold pairs
  rw [List.isEmpty_map]
  exact (Bool.not_not _).symm

/-- A pair stands in a map literal when its key has a value that is written so. -/
theorem mem_pairs {mode : StringMode} {p : Properties} {key text : String} :
    (key, text) ∈ pairs mode p.entries ↔
      ∃ value, p.get? key = some value ∧ value.isNull = false ∧ literal mode value = text := by
  unfold pairs Properties.get?
  simp only [List.mem_map, List.mem_filter, Bool.not_eq_true', Prod.exists, Prod.mk.injEq]
  constructor
  · rintro ⟨k, value, ⟨hmem, hvalue⟩, rfl, htext⟩
    exact ⟨value, Entries.find?_of_mem p.nodup hmem, hvalue, htext⟩
  · rintro ⟨value, hfind, hvalue, htext⟩
    exact ⟨key, value, ⟨Entries.mem_of_find? hfind, hvalue⟩, rfl, htext⟩

/-- Properties that are entries of others are written as pairs of theirs. -/
theorem pairs_subset {mode : StringMode} {p q : Properties} (h : p.All (· ∈ q.entries)) :
    pairs mode p.entries ⊆ pairs mode q.entries := by
  apply List.map_subset
  intro entry hentry
  obtain ⟨hmem, hvalue⟩ := List.mem_filter.mp hentry
  exact List.mem_filter.mpr ⟨h entry hmem, hvalue⟩

/-- The pairs of properties are pairs of others when each of their values that is not null has a
value with the same literal there. -/
theorem pairs_subset_iff {mode : StringMode} {p q : Properties} :
    pairs mode p.entries ⊆ pairs mode q.entries ↔
      ∀ key value, p.get? key = some value → value.isNull = false →
        ∃ own, q.get? key = some own ∧ own.isNull = false ∧
          literal mode own = literal mode value := by
  constructor
  · intro h key value hfind hvalue
    have hpair : (key, literal mode value) ∈ pairs mode p.entries :=
      mem_pairs.mpr ⟨value, hfind, hvalue, rfl⟩
    exact mem_pairs.mp (h hpair)
  · rintro h ⟨key, text⟩ hpair
    obtain ⟨value, hfind, hvalue, rfl⟩ := mem_pairs.mp hpair
    exact mem_pairs.mpr (h key value hfind hvalue)

end Cypher

/-- A pattern with the given pairs in its map; without a map if there are none. -/
def Pattern.textOf (pairs : List (String × String)) : Pattern → String
  | node v labels => "(" ++ v.name ++ Cypher.labels labels ++ mapText ++ ")"
  | relationship v source target type =>
    "(" ++ source.name ++ ")-[" ++ v.name ++ ":" ++ type ++ mapText ++ "]->(" ++ target.name ++ ")"
where
  /-- The map with a blank before it. -/
  mapText : String := if pairs.isEmpty then "" else " " ++ Cypher.mapOf pairs

/-- The map of a pattern consists of the pairs of its properties. -/
theorem Pattern.text_eq_textOf (mode : StringMode) (p : Properties) (pattern : Pattern) :
    pattern.text mode p = pattern.textOf (Cypher.pairs mode p.entries) := by
  have hmap : propertyText mode p = textOf.mapText (Cypher.pairs mode p.entries) := by
    unfold propertyText textOf.mapText
    rw [Cypher.isEmpty_pairs, Cypher.mapLiteral_eq_mapOf]
    cases p.anyPresent with
    | false => rfl
    | true => rfl
  cases pattern with
  | node v labels =>
      unfold text textOf
      rw [hmap]
  | relationship v source target type =>
      unfold text textOf
      rw [hmap]

/-! ## Statements of entries -/

/-- The statement of an entry, compiled as a node or a relationship in any place and scope. -/
inductive Compile.Gives (mode : StringMode) : Entry → Statement → Prop where
  /-- A node. -/
  | node (key : Nat) (n : Node) (scope : Scope) (s : Statement) :
    (Compile.node mode key n scope).1 = .ok s → Gives mode n.toEntry s
  /-- A relationship of a document with so many nodes. -/
  | relationship (key nodeCount : Nat) (r : Relationship) (scope : Scope) (s : Statement) :
    (Compile.relationship mode key nodeCount r scope).1 = .ok s → Gives mode r.toEntry s

/-- The statement of an entry is that of its action, around some pattern. -/
theorem Compile.Gives.action {mode : StringMode} {e : Entry} {s : Statement} (h : Gives mode e s) :
    ∃ pattern action, e.action = .ok action ∧ s = action.statement mode pattern := by
  cases h with
  | node key n scope _ hs =>
      rw [(tracks_node mode).result key n scope _ (Scope.namedBy_naming _)] at hs
      obtain ⟨command, hcommand, hstatement⟩ := map_eq_ok.mp hs
      obtain ⟨action, haction, rfl⟩ := Plan.finish_eq_ok.mp hcommand
      exact ⟨_, action, haction, hstatement.symm⟩
  | relationship key nodeCount r scope _ hs =>
      rw [(tracks_relationship mode nodeCount).result key r scope _ (Scope.namedBy_naming _)] at hs
      obtain ⟨command, hcommand, hstatement⟩ := map_eq_ok.mp hs
      obtain ⟨action, source, target, haction, -, -, rfl⟩ := Plan.relationship_eq_ok hcommand
      exact ⟨_, action, haction, hstatement.symm⟩

/-- An entry that is not found by a map is found by entries of its own. -/
theorem Entry.pattern_own {e : Entry} {found : Properties} (h : e.pattern = .ok found)
    (hmap : ∀ map, e.matching ≠ .onMap map) : found.All (· ∈ e.props.entries) := by
  intro entry hentry
  rw [Entry.entries_pattern h] at hentry
  rcases e.mem_found hentry with hown | ⟨map, hmatching, -⟩
  · exact hown
  · exact absurd hmatching (hmap map)

/-! ## What a new entity keeps -/

/-- **A new entity keeps the pairs that it was looked for by**, unless it was looked for by a map.
The pairs of a map stand in the pattern as they are, and the new entity keeps all of them exactly if
each value of the map that is not null has the same literal among the properties of the entry. -/
theorem created_keeps_pattern {mode : StringMode} {e : Entry} {s : Statement}
    (hs : Compile.Gives mode e s) (hmatching : e.matching.isCreate = false)
    (hprops : e.props.anyPresent = true) :
    ∃ (pattern : Pattern) (found : Properties) (change : Change),
      e.pattern = .ok found ∧ e.change = .ok change ∧
      s.text = "MERGE " ++ pattern.textOf (Cypher.pairs mode found.entries) ++
        " ON CREATE SET " ++ pattern.subject.name ++ " = " ++
          Cypher.mapOf (Cypher.pairs mode e.props.entries) ++
        String.join ((change.clause mode pattern.subject).map fun clause => " " ++ clause) ∧
      ((∀ map, e.matching ≠ .onMap map) →
        Cypher.pairs mode found.entries ⊆ Cypher.pairs mode e.props.entries) ∧
      ∀ map, e.matching = .onMap map → found = map ∧
        (Cypher.pairs mode found.entries ⊆ Cypher.pairs mode e.props.entries ↔
          ∀ key value, map.get? key = some value → value.isNull = false →
            ∃ own, e.props.get? key = some own ∧ own.isNull = false ∧
              Cypher.literal mode own = Cypher.literal mode value) := by
  obtain ⟨pattern, action, haction, rfl⟩ := hs.action
  rcases Entry.action_eq_ok haction with ⟨hcreate, -⟩ | ⟨-, found, change, hfound, hchange, rfl⟩
  · rw [hmatching] at hcreate
    exact absurd hcreate Bool.false_ne_true
  · refine ⟨pattern, found, change, hfound, hchange, ?_, ?_, ?_⟩
    · rw [Action.merge_text, createdClause_eq, if_pos hprops, join_clause,
        Pattern.text_eq_textOf]
      unfold Cypher.setMap
      rw [Cypher.mapLiteral_eq_mapOf]
      simp only [String.append_assoc]
      rfl
    · intro hmap
      exact Cypher.pairs_subset (Entry.pattern_own hfound hmap)
    · intro map hmap
      have hpattern : e.pattern = .ok map := by
        unfold Entry.pattern
        rw [hmap]
      rw [hpattern] at hfound
      cases hfound
      exact ⟨rfl, Cypher.pairs_subset_iff⟩

/-- A person that is found by its number. -/
def Node.foundByNumber : Node where
  props := .ofPairs [("id", .int 1), ("name", .string "Alice")]
  matching := .onKeys ["id"]
  updating := .allProps
  replace := false
  labels := ["Person"]

/-- A new person keeps the number that it was looked for by. -/
theorem created_keeps_number :
    ∃ found, Node.foundByNumber.pattern = .ok found ∧
      Cypher.pairs .verbatim found.entries ⊆
        Cypher.pairs .verbatim Node.foundByNumber.props.entries := by
  obtain ⟨-, found, -, hfound, -, -, hkeeps, -⟩ :=
    created_keeps_pattern (Compile.Gives.node 0 Node.foundByNumber .empty
      ⟨"MERGE (x0:Person \x7b id: 1 \x7d) ON CREATE SET x0 = \x7b id: 1, name: 'Alice' \x7d" ++
        " ON MATCH SET x0.id = 1, x0.name = 'Alice'", .mergeNode⟩ rfl : Compile.Gives .verbatim _ _)
      rfl rfl
  exact ⟨found, hfound, hkeeps fun map hmap => nomatch hmap⟩

/-- A person with a number that is found by an address. -/
def Node.foundByAddress : Node where
  props := .ofPairs [("id", .int 1)]
  matching := .onMap (.ofPairs [("email", .string "a@example.com")])
  updating := .allProps
  replace := false
  labels := ["Person"]

/-- A new person does not keep an address that it was looked for by and does not have. -/
theorem created_loses_address :
    Compile.Gives .verbatim Node.foundByAddress.toEntry
        ⟨"MERGE (x0:Person \x7b email: 'a@example.com' \x7d) ON CREATE SET x0 = \x7b id: 1 \x7d" ++
          " ON MATCH SET x0.id = 1", .mergeNode⟩ ∧
      Node.foundByAddress.matching.isCreate = false ∧
      Node.foundByAddress.pattern = .ok (.ofPairs [("email", .string "a@example.com")]) ∧
      ("email", "'a@example.com'") ∈
        Cypher.pairs .verbatim
          (Properties.ofPairs [("email", .string "a@example.com")]).entries ∧
      ("email", "'a@example.com'") ∉
        Cypher.pairs .verbatim Node.foundByAddress.props.entries :=
  ⟨.node 0 Node.foundByAddress .empty _ rfl, rfl, rfl, by decide, by decide⟩

end GraphImport
