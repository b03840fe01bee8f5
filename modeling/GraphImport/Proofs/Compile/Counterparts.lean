import GraphImport.Proofs.Compile.Composition

/-!
# Nodes and relationships alike

Nodes and relationships are compiled by steps of their own: a relationship has its ends and its type
checked first, it binds more keys, and its pattern is another one. What happens to an entry does not
depend on that. A node and a relationship with the same fields lack the same key, or both are looked
for or both created without looking; and their statements begin with the same word, have the same
map in their patterns and go on with the same clauses, up to the variable that these assign to.

* `Pattern.isMerge_kind` — which statements look for their entity.
* `Compile.ends_of_inside` — when the ends of a relationship are found.
* `counterparts_decided_alike` — a node and a relationship with the same fields.
-/

namespace GraphImport

/-! ## Sorts of statements -/

/-- A statement looks for its entity unless it creates it without looking. -/
theorem Pattern.isMerge_kind (creates : Bool) (pattern : Pattern) :
    (pattern.kind creates).isMerge = !creates := by
  cases pattern with
  | node v labels => cases creates <;> rfl
  | relationship v source target type => cases creates <;> rfl

/-! ## Steps of the compiler -/

namespace Compile

/-- A place inside the document is an end. -/
theorem endpoint_of_inside {ref : EntryRef} {which : Endpoint} {index : Int} {nodeCount : Nat}
    (h : 0 ≤ index ∧ index < nodeCount) : endpoint ref which index nodeCount = .ok index.toNat :=
  if_pos h

/-- The ends of a relationship are found when they are inside the document and it has a type. -/
theorem ends_of_inside {ref : EntryRef} {nodeCount : Nat} {r : Relationship}
    (hsource : 0 ≤ r.source ∧ r.source < nodeCount) (htarget : 0 ≤ r.target ∧ r.target < nodeCount)
    (htype : r.type ≠ "") : ends ref nodeCount r = .ok (r.source.toNat, r.target.toNat) := by
  have hnot : ¬r.type.isEmpty = true := by simpa using htype
  unfold ends
  rw [endpoint_of_inside hsource, endpoint_of_inside htarget]
  dsimp only [bind, Except.bind]
  rw [if_neg hnot]
  rfl

/-- The statement of an entry that lacks no key is composed of its parts. -/
theorem finish_of_decided {mode : StringMode} {ref : EntryRef} {pattern : Pattern} {e : Entry}
    {action : Action} (h : e.action = .ok action) :
    finish mode ref pattern e = .ok (e.composed mode pattern) := by
  rw [finish_ok h, Entry.statement_action mode pattern h]

end Compile

/-! ## The same fields -/

/-- **Nodes and relationships are decided alike.** A node and a relationship between nodes of the
document that have the same fields both lack the same key, or both have a statement. The statements
are of the same sort, and their texts differ in nothing but the pattern around the map and the
variable: with the same variable, the clauses behind the patterns are the same. -/
theorem counterparts_decided_alike (mode : StringMode) {n : Node} {r : Relationship}
    (hfields : n.toEntry = r.toEntry) {nodeCount : Nat}
    (hsource : 0 ≤ r.source ∧ r.source < nodeCount) (htarget : 0 ≤ r.target ∧ r.target < nodeCount)
    (htype : r.type ≠ "") (key other : Nat) (scope scope' : Scope) :
    (∃ missing,
        (Compile.node mode key n scope).1 = .error (.unknownKey (.node key) missing) ∧
        (Compile.relationship mode other nodeCount r scope').1 =
          .error (.unknownKey (.relationship (other - nodeCount)) missing)) ∨
      ∃ s t after after',
        Compile.node mode key n scope = (.ok s, after) ∧
        Compile.relationship mode other nodeCount r scope' = (.ok t, after') ∧
        s.kind.isMerge = t.kind.isMerge ∧
        ∃ v w a b, after.find? key = some v ∧ after'.find? other = some w ∧
          after'.find? r.source.toNat = some a ∧ after'.find? r.target.toNat = some b ∧
          s.text = r.verb ++ ("(" ++ v.name ++ Cypher.labels n.labels ++ r.mapText mode ++ ")") ++
            r.clausesText mode v ∧
          t.text = r.verb ++ ("(" ++ a.name ++ ")-[" ++ w.name ++ ":" ++ r.type ++
            r.mapText mode ++ "]->(" ++ b.name ++ ")") ++ r.clausesText mode w := by
  have hends : Compile.ends (.relationship (other - nodeCount)) nodeCount r =
      .ok (r.source.toNat, r.target.toNat) := Compile.ends_of_inside hsource htarget htype
  rcases haction : r.action with missing | action
  · refine .inl ⟨missing, ?_, ?_⟩
    · exact Compile.finish_error (hfields ▸ haction)
    · rw [Compile.relationship_ok hends]
      exact Compile.finish_error haction
  · have hnode : Compile.node mode key n scope =
        (.ok (n.composed mode (.node (scope.bind key).1 n.labels)), scope.extend key) :=
      congrArg (·, scope.extend key) (Compile.finish_of_decided (hfields ▸ haction))
    have hrelationship : Compile.relationship mode other nodeCount r scope' = _ :=
      Compile.relationship_ok hends
    rw [Compile.finish_of_decided haction] at hrelationship
    obtain ⟨hv, hs⟩ := Compile.node_composed hnode
    obtain ⟨source, target, hends', hw, ha, hb, ht⟩ := Compile.relationship_composed hrelationship
    cases hends.symm.trans hends'
    refine .inr ⟨_, _, _, _, hnode, hrelationship, ?_, _, _, _, _, hv, hw, ha, hb, ?_, ?_⟩
    · rw [hs, ht, hfields]
      unfold Entry.composed
      rw [Pattern.isMerge_kind, Pattern.isMerge_kind]
    · rw [hs, hfields, Entry.composed_node]
    · rw [ht, Entry.composed_relationship]

/-- A relationship with the fields of the person that is found by two keys. -/
def Relationship.foundByKeys : Relationship where
  toEntry := Node.foundByKeys.toEntry
  source := 1
  target := 0
  type := "KNOWS"

/-- Under one variable, a person and a relationship with its fields have the same map and the same
clauses. -/
theorem counterparts_decided_alike_keys :
    ∃ s t clauses,
      (Compile.node .escaped 2 .foundByKeys ⟨[0, 1], by decide⟩).1 = .ok s ∧
      (Compile.relationship .escaped 2 2 .foundByKeys ⟨[0, 1], by decide⟩).1 = .ok t ∧
      s.kind.isMerge = t.kind.isMerge ∧
      s.text = "MERGE (x2:Person \x7b name: 'Alice', id: 1 \x7d)" ++ clauses ∧
      t.text = "MERGE (x1)-[x2:KNOWS \x7b name: 'Alice', id: 1 \x7d]->(x0)" ++ clauses ∧
      clauses = " ON CREATE SET x2 = \x7b id: 1, name: 'Alice' \x7d" ++
        " ON MATCH SET x2 = \x7b seen: true \x7d" := by
  have hsource : (0 : Int) ≤ 1 ∧ (1 : Int) < (2 : Nat) := by decide
  have htarget : (0 : Int) ≤ 0 ∧ (0 : Int) < (2 : Nat) := by decide
  rcases counterparts_decided_alike .escaped (n := .foundByKeys) (r := .foundByKeys) rfl hsource
      htarget (by decide) 2 2 ⟨[0, 1], by decide⟩ ⟨[0, 1], by decide⟩ with
    ⟨missing, hnode, -⟩ | ⟨s, t, after, after', hs, ht, hkind, v, w, a, b, hv, hw, ha, hb, htexts⟩
  · exact nomatch hnode
  · cases hs
    cases ht
    cases hv
    cases hw
    cases ha
    cases hb
    exact ⟨_, _, _, rfl, rfl, hkind, htexts.1, htexts.2, rfl⟩

end GraphImport
