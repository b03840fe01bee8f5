import GraphImport.Proofs.Compile.Reuse
import GraphImport.Proofs.Compile.Validity

/-!
# Independence of entries

The statement of an entry depends on the entry and on the variables of its keys, and on nothing
else: not on its place, on the entries around it or on what the scope went through before. The
variables are those of the scope in the end, since a variable that was read does not change any
more. So two compilations write the same for the same entry under the same variables, and what is
appended to a document does not change what is written in front of it.

* `Agree` — two scripts write the same for the same entries.
* `planned_agree` — any two planned scripts do.
* `document_independent` — compilation in general, and documents that others are appended to.
-/

namespace GraphImport

/-! ## Two scripts -/

/-- **The scripts write the same for the same entries**: for the same node under the same variable,
and for relationships that only differ in their ends under the same three variables. -/
structure Agree (d d' : Document) (script script' : Script) (scope scope' : Scope) : Prop where
  /-- The same node under the same variable has the same statement. -/
  node : ∀ (i i' : Nat) (n : Node), d.nodes[i]? = some n → d'.nodes[i']? = some n →
    scope.find? i = scope'.find? i' →
    ∃ s, script.statements[i]? = some s ∧ script'.statements[i']? = some s
  /-- Relationships that only differ in their ends have the same statement, if their own variables
  and those of their ends are the same. -/
  relationship : ∀ (j j' : Nat) (r r' : Relationship),
    d.relationships[j]? = some r → d'.relationships[j']? = some r' →
    r.toEntry = r'.toEntry → r.type = r'.type →
    scope.find? (d.nodes.length + j) = scope'.find? (d'.nodes.length + j') →
    scope.find? r.source.toNat = scope'.find? r'.source.toNat →
    scope.find? r.target.toNat = scope'.find? r'.target.toNat →
    ∃ s, script.statements[d.nodes.length + j]? = some s ∧
      script'.statements[d'.nodes.length + j']? = some s

section Pairs

variable {mode : StringMode} {d d' : Document} {script script' : Script} {scope scope' : Scope}

/-- Keys of two documents that have the same variable have the same name. -/
theorem Planned.naming_eq (h : Planned mode d script scope) (h' : Planned mode d' script' scope')
    {key key' : Nat} (hkey : key < d.nodes.length + d.relationships.length)
    (hkey' : key' < d'.nodes.length + d'.relationships.length)
    (heq : scope.find? key = scope'.find? key') : scope.naming key = scope'.naming key' := by
  rw [h.bound key hkey, h'.bound key' hkey'] at heq
  exact Option.some.inj heq

/-- **Planned scripts agree**, whatever else their documents hold. -/
theorem planned_agree (h : Planned mode d script scope) (h' : Planned mode d' script' scope') :
    Agree d d' script script' scope scope' := by
  obtain ⟨commands, hcommands, rfl⟩ := h.script
  obtain ⟨commands', hcommands', rfl⟩ := h'.script
  constructor
  case node =>
    intro i i' n hn hn' heq
    have hi := (List.getElem?_eq_some_iff.mp hn).1
    have hi' := (List.getElem?_eq_some_iff.mp hn').1
    have hname := h.naming_eq h' (Nat.lt_add_right _ hi) (Nat.lt_add_right _ hi') heq
    obtain ⟨action, haction, hcommand⟩ := Plan.getElem_node hcommands hn
    obtain ⟨action', haction', hcommand'⟩ := Plan.getElem_node hcommands' hn'
    have hsame : action' = action := Except.ok.inj (haction'.symm.trans haction)
    rw [← hname, hsame] at hcommand'
    exact ⟨_, Plan.getElem_script mode hcommand, Plan.getElem_script mode hcommand'⟩
  case relationship =>
    intro j j' r r' hr hr' hentry htype hkey hsource htarget
    have hj := (List.getElem?_eq_some_iff.mp hr).1
    have hj' := (List.getElem?_eq_some_iff.mp hr').1
    obtain ⟨action, source, target, haction, ⟨hs, hsLt⟩, ⟨ht, htLt⟩, hcommand⟩ :=
      Plan.getElem_relationship hcommands hr
    obtain ⟨action', source', target', haction', ⟨hs', hsLt'⟩, ⟨ht', htLt'⟩, hcommand'⟩ :=
      Plan.getElem_relationship hcommands' hr'
    rw [hs, hs', Int.toNat_natCast, Int.toNat_natCast] at hsource
    rw [ht, ht', Int.toNat_natCast, Int.toNat_natCast] at htarget
    have hname := h.naming_eq h' (Nat.add_lt_add_left hj _) (Nat.add_lt_add_left hj' _) hkey
    have hnames := h.naming_eq h' (Nat.lt_add_right _ hsLt) (Nat.lt_add_right _ hsLt') hsource
    have hnamet := h.naming_eq h' (Nat.lt_add_right _ htLt) (Nat.lt_add_right _ htLt') htarget
    rw [hentry] at haction
    have hsame : action' = action := Except.ok.inj (haction'.symm.trans haction)
    rw [← hname, ← hnames, ← hnamet, ← htype, hsame] at hcommand'
    exact ⟨_, Plan.getElem_script mode hcommand, Plan.getElem_script mode hcommand'⟩

end Pairs

/-! ## Appending -/

section Fresh

variable {settings : Compile.Settings} {d d' : Document} {script script' : Script}

/-- In a scope of its own, every key of a document is its own number in the end. -/
theorem compile_planned (h : compile settings d = .ok script) :
    ∃ after, Planned settings.mode d script after ∧
      ∀ key, key < d.nodes.length + d.relationships.length → after.find? key = some ⟨key⟩ := by
  unfold compile at h
  have hsegment := Compile.document_isSegment settings d Scope.isSegment_empty
  rcases heq : Compile.document settings d .empty with ⟨result, after⟩
  rw [heq] at h hsegment
  obtain ⟨larger, hlarger⟩ := hsegment
  subst h
  have hplanned := Compile.planned heq
  refine ⟨after, hplanned, fun key hkey => ?_⟩
  rw [hplanned.bound key hkey, hlarger.namedBy key _ (hplanned.bound key hkey)]

/-- A document is compiled in a scope of its own exactly if it is valid. -/
theorem compile_ok_iff (settings : Compile.Settings) (d : Document) :
    (∃ script, compile settings d = .ok script) ↔
      d.IsValid settings.maxNodes settings.maxRelationships :=
  (Compile.document_goesThrough settings d .empty).ok_iff.trans Document.checks_pass

/-- **Two scripts that were compiled in scopes of their own agree**, and their scopes have the same
variables for the same keys. -/
theorem compile_agree {settings' : Compile.Settings} (hmode : settings.mode = settings'.mode)
    (h : compile settings d = .ok script) (h' : compile settings' d' = .ok script') :
    ∃ after after', Agree d d' script script' after after' ∧
      ∀ key, key < d.nodes.length + d.relationships.length →
        key < d'.nodes.length + d'.relationships.length → after.find? key = after'.find? key := by
  obtain ⟨after, hplanned, hnames⟩ := compile_planned h
  obtain ⟨after', hplanned', hnames'⟩ := compile_planned h'
  rw [← hmode] at hplanned'
  refine ⟨after, after', planned_agree hplanned hplanned', fun key hkey hkey' => ?_⟩
  rw [hnames key hkey, hnames' key hkey']

/-- There is one statement for each entry. -/
theorem compile_length (h : compile settings d = .ok script) :
    script.statements.length = d.nodes.length + d.relationships.length := by
  obtain ⟨after, hplanned, -⟩ := compile_planned h
  obtain ⟨commands, hcommands, rfl⟩ := hplanned.script
  unfold Command.script
  rw [List.length_map, Plan.length_commands hcommands]

end Fresh

namespace Document

/-- The document with further nodes. -/
def appendNodes (d : Document) (nodes : List Node) : Document :=
  ⟨d.nodes ++ nodes, d.relationships⟩

/-- The document with further relationships. -/
def appendRelationships (d : Document) (relationships : List Relationship) : Document :=
  ⟨d.nodes, d.relationships ++ relationships⟩

variable {d : Document}

/-- Relationships stay valid among more nodes, so a document may get further nodes. -/
theorem IsValid.appendNodes (h : d.IsValid none none) {nodes : List Node}
    (hnodes : ∀ n ∈ nodes, n.toEntry.HasKeys) : (d.appendNodes nodes).IsValid none none where
  nodeCount := nofun
  relationshipCount := nofun
  nodes := by
    unfold Document.appendNodes
    rw [List.forall_mem_append]
    exact ⟨h.nodes, hnodes⟩
  relationships r hr := by
    have hvalid := h.relationships r hr
    have hsource := hvalid.source
    have htarget := hvalid.target
    unfold Document.appendNodes
    rw [List.length_append]
    exact ⟨by omega, by omega, hvalid.type, hvalid.keys⟩

/-- A document may get further relationships between its nodes. -/
theorem IsValid.appendRelationships (h : d.IsValid none none) {relationships : List Relationship}
    (hrelationships : ∀ r ∈ relationships, r.IsValid d.nodes.length) :
    (d.appendRelationships relationships).IsValid none none where
  nodeCount := nofun
  relationshipCount := nofun
  nodes := h.nodes
  relationships := by
    unfold Document.appendRelationships
    rw [List.forall_mem_append]
    exact ⟨h.relationships, hrelationships⟩

end Document

section Appended

variable {mode : StringMode} {d : Document} {script : Script}

/-- **Further nodes leave the statements of the nodes as they are.** -/
theorem compile_appendNodes (h : compile ⟨mode, none, none⟩ d = .ok script) {nodes : List Node}
    (hnodes : ∀ n ∈ nodes, n.toEntry.HasKeys) :
    ∃ longer, compile ⟨mode, none, none⟩ (d.appendNodes nodes) = .ok longer ∧
      ∀ i, i < d.nodes.length → longer.statements[i]? = script.statements[i]? := by
  have hvalid : d.IsValid none none := (compile_ok_iff _ _).mp ⟨script, h⟩
  obtain ⟨longer, hlonger⟩ := (compile_ok_iff ⟨mode, none, none⟩ _).mpr (hvalid.appendNodes hnodes)
  refine ⟨longer, hlonger, fun i hi => ?_⟩
  obtain ⟨after, after', hagree, hsame⟩ := compile_agree rfl h hlonger
  have hn : d.nodes[i]? = some d.nodes[i] := List.getElem?_eq_getElem hi
  have hi' : i < (d.appendNodes nodes).nodes.length := by
    unfold Document.appendNodes
    rw [List.length_append]
    exact Nat.lt_add_right _ hi
  have hn' : (d.appendNodes nodes).nodes[i]? = some d.nodes[i] := by
    unfold Document.appendNodes
    rw [List.getElem?_append_left hi, hn]
  obtain ⟨s, hs, hs'⟩ := hagree.node i i _ hn hn'
    (hsame i (Nat.lt_add_right _ hi) (Nat.lt_add_right _ hi'))
  rw [hs, hs']

/-- **Further relationships leave all statements as they are** and stand behind them. -/
theorem compile_appendRelationships (h : compile ⟨mode, none, none⟩ d = .ok script)
    {relationships : List Relationship}
    (hrelationships : ∀ r ∈ relationships, r.IsValid d.nodes.length) :
    ∃ longer, compile ⟨mode, none, none⟩ (d.appendRelationships relationships) = .ok longer ∧
      script.statements <+: longer.statements := by
  have hvalid : d.IsValid none none := (compile_ok_iff _ _).mp ⟨script, h⟩
  obtain ⟨longer, hlonger⟩ :=
    (compile_ok_iff ⟨mode, none, none⟩ _).mpr (hvalid.appendRelationships hrelationships)
  obtain ⟨after, after', hagree, hsame⟩ := compile_agree rfl h hlonger
  refine ⟨longer, hlonger, List.prefix_iff_getElem?.mpr fun place hplace => ?_⟩
  have hkeys : ∀ key, key < d.nodes.length + d.relationships.length →
      after.find? key = after'.find? key := by
    intro key hkey
    refine hsame key hkey ?_
    dsimp only [Document.appendRelationships]
    rw [List.length_append]
    omega
  have hfound := List.getElem?_eq_getElem hplace
  rw [compile_length h] at hplace
  rcases Nat.lt_or_ge place d.nodes.length with hlt | hge
  · have hn : d.nodes[place]? = some d.nodes[place] := List.getElem?_eq_getElem hlt
    obtain ⟨s, hs, hs'⟩ := hagree.node place place _ hn hn (hkeys place hplace)
    rw [← hfound, hs, hs']
  · obtain ⟨j, rfl⟩ := Nat.exists_eq_add_of_le hge
    have hj : j < d.relationships.length := Nat.lt_of_add_lt_add_left hplace
    have hr : d.relationships[j]? = some d.relationships[j] := List.getElem?_eq_getElem hj
    have hr' : (d.appendRelationships relationships).relationships[j]? =
        some d.relationships[j] := by
      unfold Document.appendRelationships
      rw [List.getElem?_append_left hj, hr]
    have hends := hvalid.relationships _ (List.getElem_mem hj)
    have hsource := hends.source
    have htarget := hends.target
    obtain ⟨s, hs, hs'⟩ := hagree.relationship j j _ _ hr hr' rfl rfl (hkeys _ hplace)
      (hkeys _ (by omega)) (hkeys _ (by omega))
    rw [← hfound, hs]
    exact hs'

end Appended

/-- **Entries are compiled independently.** Two documents that are compiled in the same mode,
whatever else they hold and whatever the scopes went through, have the same statement for the same
entry under the same variables. In scopes of their own, therefore, a document without limits that
gets further nodes keeps the statements of its nodes, and one that gets further relationships keeps
all its statements, if only what is appended is valid. -/
theorem document_independent (mode : StringMode) :
    (∀ (settings settings' : Compile.Settings) (d d' : Document) (scope scope' after after' : Scope)
        (script script' : Script), settings.mode = mode → settings'.mode = mode →
        Compile.document settings d scope = (.ok script, after) →
        Compile.document settings' d' scope' = (.ok script', after') →
        Agree d d' script script' after after') ∧
      ∀ (d : Document) (script : Script), compile ⟨mode, none, none⟩ d = .ok script →
        (∀ nodes : List Node, (∀ n ∈ nodes, n.toEntry.HasKeys) →
          ∃ longer, compile ⟨mode, none, none⟩ (d.appendNodes nodes) = .ok longer ∧
            ∀ i, i < d.nodes.length → longer.statements[i]? = script.statements[i]?) ∧
        ∀ relationships : List Relationship, (∀ r ∈ relationships, r.IsValid d.nodes.length) →
          ∃ longer,
            compile ⟨mode, none, none⟩ (d.appendRelationships relationships) = .ok longer ∧
              script.statements <+: longer.statements := by
  constructor
  · intro settings settings' d d' scope scope' after after' script script' hmode hmode' h h'
    have hplanned := Compile.planned h
    have hplanned' := Compile.planned h'
    rw [hmode] at hplanned
    rw [hmode'] at hplanned'
    exact planned_agree hplanned hplanned'
  · intro d script h
    exact ⟨fun nodes hnodes => compile_appendNodes h hnodes,
      fun relationships hrelationships => compile_appendRelationships h hrelationships⟩

/-- The second of two nodes has the statement that it has as the only node in a scope where another
key was bound before, and it keeps it when a node or a relationship is appended. -/
theorem document_independent_numbered :
    let first : Statement := ⟨"CREATE (x0:Person \x7b id: 1 \x7d)", .createNode⟩
    let second : Statement := ⟨"CREATE (x1:Person \x7b id: 2 \x7d)", .createNode⟩
    (∃ s, [first, second][1]? = some s ∧ [second][0]? = some s) ∧
      (∃ longer, compile ⟨.escaped, none, none⟩ ⟨[.numbered 1, .numbered 2, .numbered 3], []⟩ =
          .ok longer ∧ ∀ i, i < 2 → longer.statements[i]? = [first, second][i]?) ∧
      ∃ longer, compile ⟨.escaped, none, none⟩ ⟨[.numbered 1, .numbered 2], [.dated 1 0 2020]⟩ =
          .ok longer ∧ [first, second] <+: longer.statements := by
  intro first second
  have hnode : ∀ n, (Node.numbered n).toEntry.HasKeys := fun _ hlooks => nomatch hlooks
  have hrelationship : (Relationship.dated 1 0 2020).IsValid 2 :=
    ⟨by decide, by decide, by decide, fun _ key hkey => absurd hkey List.not_mem_nil⟩
  have hagree := (document_independent .escaped).1 ⟨.escaped, none, none⟩ ⟨.escaped, some 1, none⟩
    ⟨[.numbered 1, .numbered 2], []⟩ ⟨[.numbered 2], []⟩ .empty (Scope.after [.bind 7])
    ⟨[0, 1], by decide⟩ ⟨[7, 0], by decide⟩ ⟨[first, second]⟩ ⟨[second]⟩ rfl rfl rfl rfl
  have happend := (document_independent .escaped).2 ⟨[.numbered 1, .numbered 2], []⟩
    ⟨[first, second]⟩ rfl
  refine ⟨hagree.node 1 0 (.numbered 2) rfl rfl rfl, happend.1 [.numbered 3] ?_,
    happend.2 [.dated 1 0 2020] ?_⟩
  · simp [hnode]
  · simp [hrelationship]

end GraphImport
