import GraphImport.Proofs.Compile.Composition

/-!
# Scoping of scripts

The statements of a script use the variables of the scope as they should, whatever the scope went
through before: every statement declares and changes the variable of its own entry, and the ends of
a relationship are variables that statements about nodes declare before.

The text of each statement is told here completely, with nothing open but the names of variables: the
pattern is written out, and the map in it and the clauses behind it hold the pairs of the entry.

* `Script.Declares`, `Script.Connects` — what a statement says about a node or a relationship under
  its variable.
* `WellScoped` — a script, its document and the scope after it belong together.
* `Scope.Request`, `Scope.after` — everything that can happen to a scope.
* `Scope.extendedBy_history` — only a reset takes a variable away.
* `document_wellScoped` — scripts are well scoped.
-/

namespace GraphImport

/-! ## Statements about a variable -/

/-- **The statement at this place declares the node under the variable.** The variable stands in
front of the labels and the map by which the node is found, and the clauses assign the pairs of the
node to it, and to no other. -/
def Script.Declares (mode : StringMode) (script : Script) (place : Nat) (n : Node) (v : Variable) :
    Prop :=
  ∃ statement : Statement, script.statements[place]? = some statement ∧
    statement.kind = (if n.matching.isCreate then .createNode else .mergeNode) ∧
    statement.text =
      n.verb ++ ("(" ++ v.name ++ String.join (n.labels.map fun label => ":" ++ label) ++
        n.mapText mode ++ ")") ++ n.clausesText mode v

/-- **The statement at this place connects two variables by the relationship**, which is called by
its own. The relationship starts at the first and ends at the second, and the clauses assign the
pairs of the relationship to its own variable, and to no other. -/
def Script.Connects (mode : StringMode) (script : Script) (place : Nat) (r : Relationship)
    (v source target : Variable) : Prop :=
  ∃ statement : Statement, script.statements[place]? = some statement ∧
    statement.kind =
      (if r.matching.isCreate then .createRelationship else .mergeRelationship) ∧
    statement.text =
      r.verb ++ ("(" ++ source.name ++ ")-[" ++ v.name ++ ":" ++ r.type ++ r.mapText mode ++
        "]->(" ++ target.name ++ ")") ++ r.clausesText mode v

/-- **Scoping**: the scope names the entries of the document apart, and the script has one statement
for each of them that uses these names. -/
structure WellScoped (mode : StringMode) (d : Document) (script : Script) (scope : Scope)
    (ρ : Nat → Variable) : Prop where
  /-- There is one statement for each entry. -/
  size : script.size = d.nodes.length + d.relationships.length
  /-- The scope holds the names of all entries. -/
  bound : ∀ key, key < d.nodes.length + d.relationships.length → scope.find? key = some (ρ key)
  /-- The names of two entries differ. -/
  distinct : ∀ key other, key < d.nodes.length + d.relationships.length →
    other < d.nodes.length + d.relationships.length → ρ key = ρ other → key = other
  /-- Every node is declared under its name. -/
  node : ∀ (i : Nat) (n : Node), d.nodes[i]? = some n → script.Declares mode i n (ρ i)
  /-- Every relationship connects, under its name, two nodes that were declared under theirs. -/
  relationship : ∀ (j : Nat) (r : Relationship), d.relationships[j]? = some r →
    ∃ (source target : Nat) (start stop : Node),
    r.source = source ∧ d.nodes[source]? = some start ∧
      script.Declares mode source start (ρ source) ∧
    r.target = target ∧ d.nodes[target]? = some stop ∧
      script.Declares mode target stop (ρ target) ∧
    script.Connects mode (d.nodes.length + j) r (ρ (d.nodes.length + j)) (ρ source) (ρ target)

/-! ## Plans -/

namespace Plan

variable {d : Document} {commands : List Command} {ρ : Nat → Variable}

/-- The statements about nodes declare the names of the nodes. -/
theorem declares (mode : StringMode) (h : entries ρ d = .ok commands) {i : Nat} {n : Node}
    (hn : d.nodes[i]? = some n) : (Command.script mode commands).Declares mode i n (ρ i) := by
  obtain ⟨action, haction, hcommand⟩ := getElem_node h hn
  exact ⟨_, getElem_composed mode haction hcommand, rfl,
    Entry.composed_node mode (ρ i) n.labels n.toEntry⟩

/-- **Plans are well scoped** in a scope that holds the names of all entries. -/
theorem wellScoped {mode : StringMode} {scope : Scope} (h : entries ρ d = .ok commands)
    (hbound : ∀ key, key < d.nodes.length + d.relationships.length →
      scope.find? key = some (ρ key)) :
    WellScoped mode d (Command.script mode commands) scope ρ where
  size := by
    unfold Command.script Script.size
    rw [List.length_map, length_commands h]
  bound := hbound
  distinct key other hkey hother heq := by
    have hfound := hbound key hkey
    rw [heq] at hfound
    exact Scope.find?_injective hfound (hbound other hother)
  node _ _ hn := declares mode h hn
  relationship j r hr := by
    obtain ⟨action, source, target, haction, ⟨hsource, hsourceLt⟩, ⟨htarget, htargetLt⟩,
      hcommand⟩ := getElem_relationship h hr
    have hstart := List.getElem?_eq_getElem hsourceLt
    have hstop := List.getElem?_eq_getElem htargetLt
    refine ⟨source, target, _, _, hsource, hstart, declares mode h hstart, htarget, hstop,
      declares mode h hstop, _, getElem_composed mode haction hcommand, rfl, ?_⟩
    exact Entry.composed_relationship mode _ _ _ r.type r.toEntry

end Plan

/-! ## Histories -/

namespace Scope

/-- What can happen to a scope. -/
inductive Request where
  /-- The variable of a key is requested. -/
  | bind (key : Nat)
  /-- All keys are forgotten. -/
  | reset
  /-- A node is compiled by itself. -/
  | node (mode : StringMode) (key : Nat) (n : Node)
  /-- A relationship is compiled by itself. -/
  | relationship (mode : StringMode) (key nodeCount : Nat) (r : Relationship)
  /-- A document is compiled. -/
  | document (settings : Compile.Settings) (d : Document)

/-- The scope after a request, whether it fails or not. -/
def Request.run : Request → Scope → Scope
  | bind key, scope => (scope.bind key).2
  | reset, _ => .empty
  | node mode key n, scope => (Compile.node mode key n scope).2
  | relationship mode key nodeCount r, scope => (Compile.relationship mode key nodeCount r scope).2
  | document settings d, scope => (Compile.document settings d scope).2

/-- The scope after requests one after the other, in the beginning without keys. -/
def after (history : List Request) : Scope :=
  history.foldl (fun scope request => request.run scope) .empty

/-- What is bound keeps its variable through every request but a reset. -/
theorem Request.extendedBy (request : Request) (h : request ≠ reset) (scope : Scope) :
    scope.ExtendedBy (request.run scope) := by
  cases request with
  | bind key => exact scope.extendedBy_extend key
  | reset => exact absurd rfl h
  | node mode key n => exact (Compile.tracks_node mode).grows key n scope
  | relationship mode key nodeCount r =>
      exact (Compile.tracks_relationship mode nodeCount).grows key r scope
  | document settings d => exact Compile.document_extendedBy settings d scope

/-- **What is bound keeps its variable** through every history without a reset. -/
theorem extendedBy_history {history : List Request} (h : ∀ request ∈ history, request ≠ .reset)
    (scope : Scope) :
    scope.ExtendedBy (history.foldl (fun scope request => request.run scope) scope) := by
  induction history generalizing scope with
  | nil => exact .refl scope
  | cons request rest ih =>
      have hstep := request.extendedBy (h request List.mem_cons_self) scope
      have hrest := ih (fun other hother => h other (List.mem_cons_of_mem _ hother))
        (request.run scope)
      exact hstep.trans hrest

end Scope

/-- **Scripts are well scoped whatever happened before**: when a document is compiled in a scope
that went through any history, the scope after it names the entries of the document apart, and every
statement of the script uses these names. -/
theorem document_wellScoped (history : List Scope.Request) (settings : Compile.Settings)
    (d : Document) {script : Script} {scope : Scope}
    (h : Compile.document settings d (Scope.after history) = (.ok script, scope)) :
    ∃ ρ, WellScoped settings.mode d script scope ρ := by
  have hresult := Compile.document_result settings d (Scope.after history) scope.naming
  have hbinds := Compile.document_binds (congrArg Prod.fst h)
  rw [h] at hresult hbinds
  obtain ⟨commands, hcommands, hscript⟩ :=
    map_eq_ok.mp (hresult (Scope.namedBy_naming scope)).symm
  refine ⟨scope.naming, ?_⟩
  rw [← hscript]
  exact Plan.wellScoped (Plan.entries_of_document hcommands) fun key hkey =>
    Scope.find?_of_mem (hbinds key hkey)

/-- A node that is created with a number. -/
def Node.numbered (n : Int) : Node where
  props := .ofPairs [("id", .int n)]
  matching := .create
  updating := .allProps
  replace := false
  labels := ["Person"]

/-- A relationship that is looked for by its year. -/
def Relationship.dated (source target year : Int) : Relationship where
  props := .ofPairs [("since", .int year)]
  matching := .onProps
  updating := .allProps
  replace := false
  source := source
  target := target
  type := "KNOWS"

/-- A scope in which a key was bound and a document failed at its relationship names the entries of
the next document by what is left. -/
theorem document_wellScoped_after_failure :
    ∃ ρ, WellScoped .escaped
      ⟨[.numbered 1, .numbered 2], [.dated 1 0 2020]⟩
      ⟨[⟨"CREATE (x1:Person \x7b id: 1 \x7d)", .createNode⟩,
        ⟨"CREATE (x2:Person \x7b id: 2 \x7d)", .createNode⟩,
        ⟨"MERGE (x2)-[x3:KNOWS \x7b since: 2020 \x7d]->(x1)" ++
          " ON CREATE SET x3 = \x7b since: 2020 \x7d ON MATCH SET x3.since = 2020",
          .mergeRelationship⟩]⟩
      ⟨[7, 0, 1, 2], by decide⟩ ρ :=
  document_wellScoped
    [.bind 7, .document .default ⟨[.numbered 0], [.dated 0 5 1999]⟩] ⟨.escaped, none, none⟩ _ rfl

end GraphImport
