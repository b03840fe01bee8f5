import GraphImport.Proofs.Compile.Composition

/-!
# Statements in their places

The script of a document has the statement of each entry in the place of the entry, around a pattern
with the variables that the scope holds.

* `Document.PatternAt` — the pattern of the entry in a place.
* `Compile.statement_placed` — the statement in a place.
-/

namespace GraphImport

/-- **The pattern of the entry in a place**: a node with its labels or a relationship with its type,
with the variables that the scope holds for the entry and for its ends. -/
inductive Document.PatternAt (d : Document) (scope : Scope) : Nat → Pattern → Prop where
  /-- A node. -/
  | node {i : Nat} {n : Node} {v : Variable} (hn : d.nodes[i]? = some n)
    (hv : scope.find? i = some v) : d.PatternAt scope i (.node v n.labels)
  /-- A relationship. -/
  | relationship {j source target : Nat} {r : Relationship} {v a b : Variable}
    (hr : d.relationships[j]? = some r) (hsource : r.source = source) (htarget : r.target = target)
    (hv : scope.find? (d.nodes.length + j) = some v) (ha : scope.find? source = some a)
    (hb : scope.find? target = some b) :
    d.PatternAt scope (d.nodes.length + j) (.relationship v a b r.type)

/-- **The statement in a place is that of the entry in this place.** -/
theorem Compile.statement_placed {settings : Settings} {d : Document} {scope after : Scope}
    {script : Script} (h : Compile.document settings d scope = (.ok script, after)) {place : Nat}
    {e : Entry} (he : d.entries[place]? = some e) :
    ∃ pattern, d.PatternAt after place pattern ∧
      script.statements[place]? = some (e.composed settings.mode pattern) := by
  obtain ⟨⟨commands, hcommands, rfl⟩, hbound⟩ := Compile.planned h
  rcases Document.cases_of_entry he with ⟨n, hn, rfl⟩ | ⟨j, r, rfl, hr, rfl⟩
  · obtain ⟨action, haction, hcommand⟩ := Plan.getElem_node hcommands hn
    have hplace : place < d.nodes.length := (List.getElem?_eq_some_iff.mp hn).1
    exact ⟨_, .node hn (hbound place (by omega)),
      Plan.getElem_composed settings.mode haction hcommand⟩
  · have hj : j < d.relationships.length := (List.getElem?_eq_some_iff.mp hr).1
    obtain ⟨action, source, target, haction, ⟨hsource, hsourceLt⟩, ⟨htarget, htargetLt⟩, hcommand⟩ :=
      Plan.getElem_relationship hcommands hr
    refine ⟨_, .relationship hr hsource htarget (hbound _ ?_) (hbound _ ?_) (hbound _ ?_),
      Plan.getElem_composed settings.mode haction hcommand⟩
    · omega
    · omega
    · omega

end GraphImport
