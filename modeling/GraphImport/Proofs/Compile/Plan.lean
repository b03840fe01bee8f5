import GraphImport.Compile.Basic
import GraphImport.Proofs.Result
import GraphImport.Proofs.Scope.Growth

/-!
# Plans

What a document is compiled to does not depend on a scope, apart from the names: the commands of a
document are found without one, under any naming of the keys. Compilation in a scope finds the same
commands under the naming that the scope stands for in the end.

* `Command` — a pattern and an action, with `Command.statement`.
* `Document.entries`, `Document.cases_of_entry` — the entries of a document, nodes first.
* `Plan.document` — the commands of a document under a naming.
* `Plan.getElem_node`, `Plan.getElem_relationship`, `Plan.getElem_entry` — the command of an entry in
  its place.
* `Compile.Tracks` — a step of the compiler carries out a step of a plan.
* `Compile.document_extendedBy`, `Compile.document_result`, `Compile.document_binds` — what
  compilation does in a scope.
* `Planned` — a script in terms of the scope after it, with `Compile.planned`.
-/

namespace GraphImport

/-- What is done about an entry. -/
structure Command where
  /-- The entry, with its variables. -/
  pattern : Pattern
  /-- What happens to it. -/
  action : Action

/-- A command as a statement. -/
def Command.statement (mode : StringMode) (c : Command) : Statement :=
  c.action.statement mode c.pattern

/-- Commands as a script. -/
def Command.script (mode : StringMode) (commands : List Command) : Script :=
  ⟨commands.map (Command.statement mode)⟩

/-- The entries of a document: those of its nodes, and then those of its relationships. -/
def Document.entries (d : Document) : List Entry :=
  d.nodes.map Node.toEntry ++ d.relationships.map Relationship.toEntry

/-- An entry is that of a node, or that of a relationship behind all nodes. -/
theorem Document.cases_of_entry {d : Document} {place : Nat} {e : Entry}
    (h : d.entries[place]? = some e) :
    (∃ n, d.nodes[place]? = some n ∧ n.toEntry = e) ∨
      ∃ j r, place = d.nodes.length + j ∧ d.relationships[j]? = some r ∧ r.toEntry = e := by
  unfold entries at h
  rcases Nat.lt_or_ge place d.nodes.length with hlt | hge
  · rw [List.getElem?_append_left (by rwa [List.length_map]), List.getElem?_map,
      Option.map_eq_some_iff] at h
    exact .inl h
  · obtain ⟨j, rfl⟩ := Nat.exists_eq_add_of_le hge
    rw [List.getElem?_append_right (by rwa [List.length_map]), List.getElem?_map,
      Option.map_eq_some_iff, List.length_map, Nat.add_sub_cancel_left] at h
    obtain ⟨r, hr, hentry⟩ := h
    exact .inr ⟨j, r, rfl, hr, hentry⟩

/-! ## Plans under a naming -/

namespace Plan

variable {α : Type}

/-- The command for an entry, unless it names a key that its properties lack. -/
def finish (ref : EntryRef) (pattern : Pattern) (entry : Entry) : Except ImportError Command :=
  match entry.action with
  | .ok action => .ok ⟨pattern, action⟩
  | .error key => .error (.unknownKey ref key)

/-- The command for a node. -/
def node (ρ : Nat → Variable) (key : Nat) (n : Node) : Except ImportError Command :=
  finish (.node key) (.node (ρ key) n.labels) n.toEntry

/-- The command for a relationship in a document with so many nodes. -/
def relationship (nodeCount : Nat) (ρ : Nat → Variable) (key : Nat) (r : Relationship) :
    Except ImportError Command :=
  let ref := EntryRef.relationship (key - nodeCount)
  match Compile.ends ref nodeCount r with
  | .error error => .error error
  | .ok (source, target) =>
    finish ref (.relationship (ρ key) (ρ source) (ρ target) r.type) r.toEntry

/-- The commands for entries, up to the first that fails; `key` is the key of the first. -/
def each (step : (key : Nat) → α → Except ImportError Command) :
    (key : Nat) → List α → Except ImportError (List Command)
  | _, [] => .ok []
  | key, entry :: rest =>
    match step key entry with
    | .error error => .error error
    | .ok command =>
      match each step (key + 1) rest with
      | .error error => .error error
      | .ok commands => .ok (command :: commands)

/-- The commands for all entries. -/
def entries (ρ : Nat → Variable) (d : Document) : Except ImportError (List Command) :=
  match each (node ρ) 0 d.nodes with
  | .error error => .error error
  | .ok nodes =>
    match each (relationship d.nodes.length ρ) d.nodes.length d.relationships with
    | .error error => .error error
    | .ok relationships => .ok (nodes ++ relationships)

/-- The commands for a document. -/
def document (settings : Compile.Settings) (ρ : Nat → Variable) (d : Document) :
    Except ImportError (List Command) :=
  match Compile.checkLimits settings d with
  | .error error => .error error
  | .ok () => entries ρ d

/-- The commands for entries in turn. -/
theorem each_cons {step : (key : Nat) → α → Except ImportError Command} {key : Nat} {entry : α}
    {rest : List α} {commands : List Command} :
    each step key (entry :: rest) = .ok commands ↔
      ∃ command others, step key entry = .ok command ∧ each step (key + 1) rest = .ok others ∧
        commands = command :: others := by
  rw [each]
  cases step key entry with
  | error error => simp
  | ok command =>
      cases each step (key + 1) rest with
      | error error => simp
      | ok others => simp [eq_comm]

/-- **One command for each entry**, made under the key of the entry. -/
theorem each_getElem {step : (key : Nat) → α → Except ImportError Command} {key : Nat}
    {entries : List α} {commands : List Command} (h : each step key entries = .ok commands) :
    commands.length = entries.length ∧
      ∀ i entry, entries[i]? = some entry →
        ∃ command, commands[i]? = some command ∧ step (key + i) entry = .ok command := by
  induction entries generalizing key commands with
  | nil =>
      cases h
      exact ⟨rfl, fun i entry hentry => absurd hentry (by simp)⟩
  | cons first rest ih =>
      obtain ⟨command, others, hstep, hothers, rfl⟩ := each_cons.mp h
      obtain ⟨hlength, hget⟩ := ih hothers
      refine ⟨by rw [List.length_cons, List.length_cons, hlength], fun i entry hentry => ?_⟩
      cases i with
      | zero =>
          rw [List.getElem?_cons_zero, Option.some.injEq] at hentry
          subst hentry
          exact ⟨command, rfl, hstep⟩
      | succ i =>
          rw [List.getElem?_cons_succ] at hentry
          obtain ⟨found, hfound, hmade⟩ := hget i entry hentry
          refine ⟨found, by rw [List.getElem?_cons_succ, hfound], ?_⟩
          rwa [Nat.add_right_comm, Nat.add_assoc] at hmade

/-- A document whose commands are found is within the limits. -/
theorem entries_of_document {settings : Compile.Settings} {ρ : Nat → Variable} {d : Document}
    {commands : List Command} (h : document settings ρ d = .ok commands) :
    entries ρ d = .ok commands := by
  unfold document at h
  split at h
  · exact nomatch h
  · exact h

/-- The commands for a document are those for its nodes and those for its relationships. -/
theorem entries_eq_ok {ρ : Nat → Variable} {d : Document} {commands : List Command} :
    entries ρ d = .ok commands ↔
      ∃ nodes relationships, each (node ρ) 0 d.nodes = .ok nodes ∧
        each (relationship d.nodes.length ρ) d.nodes.length d.relationships = .ok relationships ∧
        commands = nodes ++ relationships := by
  unfold entries
  cases each (node ρ) 0 d.nodes with
  | error error => simp
  | ok nodes =>
      cases each (relationship d.nodes.length ρ) d.nodes.length d.relationships with
      | error error => simp
      | ok relationships => simp [eq_comm]

/-- The command for an entry has its pattern and its action. -/
theorem finish_eq_ok {ref : EntryRef} {pattern : Pattern} {entry : Entry} {command : Command} :
    finish ref pattern entry = .ok command ↔
      ∃ action, entry.action = .ok action ∧ command = ⟨pattern, action⟩ := by
  unfold finish
  cases entry.action with
  | error key => simp
  | ok action => simp [eq_comm]

end Plan

namespace Compile

/-- An end of a relationship is the position of a node. -/
theorem endpoint_eq_ok {ref : EntryRef} {which : Endpoint} {index : Int} {nodeCount place : Nat} :
    endpoint ref which index nodeCount = .ok place ↔ index = place ∧ place < nodeCount := by
  unfold endpoint
  split_ifs with h
  · rw [Except.ok.injEq]
    omega
  · refine ⟨fun heq => (nomatch heq), fun heq => absurd ?_ h⟩
    omega

/-- A relationship that has ends runs between two nodes. -/
theorem ends_eq_ok {ref : EntryRef} {nodeCount source target : Nat} {r : Relationship}
    (h : ends ref nodeCount r = .ok (source, target)) :
    (r.source = source ∧ source < nodeCount) ∧ r.target = target ∧ target < nodeCount := by
  unfold ends at h
  obtain ⟨a, hsource, h⟩ := bind_eq_ok.mp h
  obtain ⟨b, htarget, h⟩ := bind_eq_ok.mp h
  by_cases htype : r.type.isEmpty = true
  · rw [if_pos htype] at h
    exact nomatch h
  · rw [if_neg htype] at h
    cases h
    exact ⟨endpoint_eq_ok.mp hsource, endpoint_eq_ok.mp htarget⟩

/-- The statement of an entry that has an action. -/
theorem finish_ok {mode : StringMode} {ref : EntryRef} {pattern : Pattern} {e : Entry}
    {action : Action} (h : e.action = .ok action) :
    finish mode ref pattern e = .ok (action.statement mode pattern) := by
  unfold finish
  rw [h]

/-- An entry that lacks a key has no statement. -/
theorem finish_error {mode : StringMode} {ref : EntryRef} {pattern : Pattern} {e : Entry}
    {missing : String} (h : e.action = .error missing) :
    finish mode ref pattern e = .error (.unknownKey ref missing) := by
  unfold finish
  rw [h]

end Compile

namespace Plan

variable {d : Document} {commands : List Command} {ρ : Nat → Variable}

/-- The command for a relationship connects two nodes of the document. -/
theorem relationship_eq_ok {nodeCount key : Nat} {r : Relationship} {command : Command}
    (h : relationship nodeCount ρ key r = .ok command) :
    ∃ (action : Action) (source target : Nat), r.action = .ok action ∧
      (r.source = source ∧ source < nodeCount) ∧ (r.target = target ∧ target < nodeCount) ∧
      command = ⟨.relationship (ρ key) (ρ source) (ρ target) r.type, action⟩ := by
  unfold relationship at h
  rcases hends : Compile.ends (.relationship (key - nodeCount)) nodeCount r with
    error | ⟨source, target⟩
  · simp only [hends] at h
    exact nomatch h
  · simp only [hends] at h
    obtain ⟨action, haction, rfl⟩ := finish_eq_ok.mp h
    obtain ⟨hsource, htarget⟩ := Compile.ends_eq_ok hends
    exact ⟨action, source, target, haction, hsource, htarget, rfl⟩

/-- There is one command for each entry. -/
theorem length_commands (h : entries ρ d = .ok commands) :
    commands.length = d.nodes.length + d.relationships.length := by
  obtain ⟨nodes, relationships, hnodes, hrelationships, rfl⟩ := entries_eq_ok.mp h
  rw [List.length_append, (each_getElem hnodes).1, (each_getElem hrelationships).1]

/-- The command for a node in its place. -/
theorem getElem_node (h : entries ρ d = .ok commands) {i : Nat} {n : Node}
    (hn : d.nodes[i]? = some n) :
    ∃ action, n.action = .ok action ∧ commands[i]? = some ⟨.node (ρ i) n.labels, action⟩ := by
  obtain ⟨nodes, relationships, hnodes, -, rfl⟩ := entries_eq_ok.mp h
  obtain ⟨command, hcommand, hmade⟩ := (each_getElem hnodes).2 i n hn
  obtain ⟨action, haction, rfl⟩ := finish_eq_ok.mp hmade
  refine ⟨action, haction, ?_⟩
  rw [List.getElem?_append_left (List.getElem?_eq_some_iff.mp hcommand).1, hcommand,
    Nat.zero_add]

/-- The command for a relationship in its place. -/
theorem getElem_relationship (h : entries ρ d = .ok commands) {j : Nat} {r : Relationship}
    (hr : d.relationships[j]? = some r) :
    ∃ (action : Action) (source target : Nat), r.action = .ok action ∧
      (r.source = source ∧ source < d.nodes.length) ∧
      (r.target = target ∧ target < d.nodes.length) ∧
      commands[d.nodes.length + j]? =
        some ⟨.relationship (ρ (d.nodes.length + j)) (ρ source) (ρ target) r.type, action⟩ := by
  obtain ⟨nodes, relationships, hnodes, hrelationships, rfl⟩ := entries_eq_ok.mp h
  obtain ⟨command, hcommand, hmade⟩ := (each_getElem hrelationships).2 j r hr
  obtain ⟨action, source, target, haction, hsource, htarget, rfl⟩ := relationship_eq_ok hmade
  refine ⟨action, source, target, haction, hsource, htarget, ?_⟩
  rw [← (each_getElem hnodes).1, List.getElem?_append_right (Nat.le_add_right _ _),
    Nat.add_sub_cancel_left, hcommand, (each_getElem hnodes).1]

/-- The command for an entry in its place. -/
theorem getElem_entry (h : entries ρ d = .ok commands) {place : Nat} {e : Entry}
    (he : d.entries[place]? = some e) :
    ∃ pattern action, e.action = .ok action ∧ commands[place]? = some ⟨pattern, action⟩ := by
  rcases Document.cases_of_entry he with ⟨n, hn, rfl⟩ | ⟨j, r, rfl, hr, rfl⟩
  · obtain ⟨action, haction, hcommand⟩ := getElem_node h hn
    exact ⟨_, action, haction, hcommand⟩
  · obtain ⟨action, source, target, haction, -, -, hcommand⟩ := getElem_relationship h hr
    exact ⟨_, action, haction, hcommand⟩

/-- The statement of a command in its place. -/
theorem getElem_script (mode : StringMode) {place : Nat} {command : Command}
    (h : commands[place]? = some command) :
    (Command.script mode commands).statements[place]? = some (command.statement mode) := by
  unfold Command.script
  rw [List.getElem?_map, h, Option.map_some]

/-- There is one statement for each entry. -/
theorem size_script (mode : StringMode) (h : entries ρ d = .ok commands) :
    (Command.script mode commands).size = d.entries.length := by
  unfold Command.script Script.size Document.entries
  simp [length_commands h]

end Plan

/-! ## Steps of the compiler -/

namespace Compile

variable {α : Type}

/-- **A step of the compiler carries out a step of a plan**: it only binds keys, its own among them
unless it fails, and it gives the statement of the command that is planned under any naming that
agrees with the scope it leaves. -/
structure Tracks (mode : StringMode) (step : (key : Nat) → α → Scope → Scoped Statement)
    (plan : (Nat → Variable) → (key : Nat) → α → Except ImportError Command) : Prop where
  /-- What is bound stays as it is. -/
  grows : ∀ (key : Nat) (entry : α) (scope : Scope), scope.ExtendedBy (step key entry scope).2
  /-- The key of an entry is bound when its statement is found. -/
  binds : ∀ (key : Nat) (entry : α) (scope : Scope) (statement : Statement),
    (step key entry scope).1 = .ok statement → key ∈ (step key entry scope).2.keys
  /-- The statement is the planned one. -/
  result : ∀ (key : Nat) (entry : α) (scope : Scope) (ρ : Nat → Variable),
    (step key entry scope).2.NamedBy ρ →
      (step key entry scope).1 = (plan ρ key entry).map (Command.statement mode)

/-- The statement of an action is that of the planned command. -/
theorem finish_eq (mode : StringMode) (ref : EntryRef) (pattern : Pattern) (entry : Entry) :
    finish mode ref pattern entry =
      (Plan.finish ref pattern entry).map (Command.statement mode) := by
  unfold finish Plan.finish
  cases entry.action with
  | error key => rfl
  | ok action => rfl

/-- Nodes are compiled as planned. -/
theorem tracks_node (mode : StringMode) : Tracks mode (node mode) Plan.node where
  grows key _ scope := scope.extendedBy_extend key
  binds key _ scope _ _ := scope.mem_extend key
  result key n scope ρ h := by
    have hbind : scope.bind key = (ρ key, scope.extend key) := Scope.bind_of_namedBy h
    unfold node
    rw [hbind]
    exact finish_eq _ _ _ _

/-- Nothing is bound for a relationship whose ends or type are at fault. -/
theorem relationship_error {mode : StringMode} {key nodeCount : Nat} {r : Relationship}
    {scope : Scope} {error : ImportError}
    (h : ends (.relationship (key - nodeCount)) nodeCount r = .error error) :
    relationship mode key nodeCount r scope = (.error error, scope) := by
  unfold relationship
  simp only [h]

/-- The key of a relationship is bound, and then its ends. -/
theorem relationship_ok {mode : StringMode} {key nodeCount source target : Nat} {r : Relationship}
    {scope : Scope} (h : ends (.relationship (key - nodeCount)) nodeCount r = .ok (source, target)) :
    relationship mode key nodeCount r scope =
      (finish mode (.relationship (key - nodeCount))
        (.relationship (scope.bind key).1 ((scope.extend key).bind source).1
          (((scope.extend key).extend source).bind target).1 r.type) r.toEntry,
        ((scope.extend key).extend source).extend target) := by
  unfold relationship
  simp only [h]
  rfl

/-- Relationships are compiled as planned. -/
theorem tracks_relationship (mode : StringMode) (nodeCount : Nat) :
    Tracks mode (fun key => relationship mode key nodeCount) (Plan.relationship nodeCount) where
  grows key r scope := by
    rcases h : ends (.relationship (key - nodeCount)) nodeCount r with error | ⟨source, target⟩
    · rw [relationship_error h]
      exact .refl scope
    · rw [relationship_ok h]
      exact ((scope.extendedBy_extend key).trans (Scope.extendedBy_extend _ source)).trans
        (Scope.extendedBy_extend _ target)
  binds key r scope statement hok := by
    rcases h : ends (.relationship (key - nodeCount)) nodeCount r with error | ⟨source, target⟩
    · rw [relationship_error h] at hok
      exact absurd hok (by simp)
    · rw [relationship_ok h]
      exact ((Scope.extendedBy_extend _ source).trans (Scope.extendedBy_extend _ target)).mem
        (scope.mem_extend key)
  result key r scope ρ hρ := by
    unfold Plan.relationship
    rcases h : ends (.relationship (key - nodeCount)) nodeCount r with error | ⟨source, target⟩
    · rw [relationship_error h]
      simp only [h]
      rfl
    · rw [relationship_ok h] at hρ ⊢
      have hsource := hρ.of_extendedBy (Scope.extendedBy_extend _ target)
      have hkey := hsource.of_extendedBy (Scope.extendedBy_extend _ source)
      rw [Scope.bind_of_namedBy hkey, Scope.bind_of_namedBy hsource, Scope.bind_of_namedBy hρ]
      simp only [h]
      exact finish_eq _ _ _ _

/-! ## All entries -/

section Each

variable {mode : StringMode} {step : (key : Nat) → α → Scope → Scoped Statement}
  {plan : (Nat → Variable) → (key : Nat) → α → Except ImportError Command}
  {key : Nat} {entry : α} {rest : List α} {scope after : Scope}

/-- Compilation ends at the first entry that fails. -/
theorem each_cons_error {error : ImportError} (h : step key entry scope = (.error error, after)) :
    each step key (entry :: rest) scope = (.error error, after) := by
  rw [each, h]

/-- Compilation goes on behind an entry in the scope that the entry leaves. -/
theorem each_cons_ok {statement : Statement} (h : step key entry scope = (.ok statement, after)) :
    each step key (entry :: rest) scope =
      ((each step (key + 1) rest after).1.map (statement :: ·),
        (each step (key + 1) rest after).2) := by
  rw [each, h]
  rcases hrest : each step (key + 1) rest after with ⟨error | statements, last⟩
  · simp only [hrest]
    rfl
  · simp only [hrest]
    rfl

/-- Compiling entries only binds keys. -/
theorem Tracks.each_grows (h : Tracks mode step plan) (key : Nat) (entries : List α)
    (scope : Scope) : scope.ExtendedBy (each step key entries scope).2 := by
  induction entries generalizing key scope with
  | nil => exact .refl scope
  | cons entry rest ih =>
      have hstep := h.grows key entry scope
      rcases heq : step key entry scope with ⟨error | statement, after⟩
      · rw [heq] at hstep
        rwa [each_cons_error heq]
      · rw [heq] at hstep
        rw [each_cons_ok heq]
        exact hstep.trans (ih (key + 1) after)

/-- The keys of all entries are bound when their statements are found. -/
theorem Tracks.each_binds (h : Tracks mode step plan) {key : Nat} {entries : List α}
    {scope : Scope} {statements : List Statement}
    (hok : (each step key entries scope).1 = .ok statements) :
    ∀ i, i < entries.length → key + i ∈ (each step key entries scope).2.keys := by
  induction entries generalizing key scope statements with
  | nil => exact fun i hi => absurd hi (Nat.not_lt_zero i)
  | cons entry rest ih =>
      have hstep := h.binds key entry scope
      rcases heq : step key entry scope with ⟨error | statement, after⟩
      · rw [each_cons_error heq] at hok
        exact absurd hok (by simp)
      · rw [heq] at hstep
        rw [each_cons_ok heq] at hok ⊢
        have hgrows := h.each_grows (key + 1) rest after
        obtain ⟨others, hothers, -⟩ := map_eq_ok.mp hok
        intro i hi
        cases i with
        | zero => exact hgrows.mem (hstep statement rfl)
        | succ i =>
            have hmem := ih hothers i (Nat.lt_of_succ_lt_succ hi)
            rwa [Nat.add_assoc, Nat.add_comm 1 i] at hmem

/-- **Entries are compiled as planned** under any naming that agrees with the scope in the end. -/
theorem Tracks.each_result (h : Tracks mode step plan) (key : Nat) (entries : List α)
    (scope : Scope) (ρ : Nat → Variable) (hρ : (each step key entries scope).2.NamedBy ρ) :
    (each step key entries scope).1 =
      (Plan.each (plan ρ) key entries).map (List.map (Command.statement mode)) := by
  induction entries generalizing key scope with
  | nil => rfl
  | cons entry rest ih =>
      have hresult := h.result key entry scope ρ
      rw [Plan.each]
      rcases heq : step key entry scope with ⟨error | statement, after⟩
      · rw [each_cons_error heq] at hρ ⊢
        rw [heq] at hresult
        have hplan := map_eq_error.mp (hresult hρ).symm
        rw [hplan]
        rfl
      · rw [each_cons_ok heq] at hρ ⊢
        rw [heq] at hresult
        -- The naming agrees with the last scope, so it agrees with the one behind this entry.
        have hafter := hρ.of_extendedBy (h.each_grows (key + 1) rest after)
        obtain ⟨command, hcommand, rfl⟩ := map_eq_ok.mp (hresult hafter).symm
        rw [hcommand, ih (key + 1) after hρ]
        cases Plan.each (plan ρ) (key + 1) rest with
        | error error => rfl
        | ok commands => rfl

end Each

/-! ## Documents -/

section Document

variable {mode : StringMode} {d : Document} {scope after : Scope}

/-- Compilation ends with the nodes if one of them fails. -/
theorem entries_error {error : ImportError}
    (h : each (node mode) 0 d.nodes scope = (.error error, after)) :
    entries mode d scope = (.error error, after) := by
  unfold entries
  rw [h]

/-- Relationships are compiled in the scope that the nodes leave. -/
theorem entries_ok {nodes : List Statement}
    (h : each (node mode) 0 d.nodes scope = (.ok nodes, after)) :
    entries mode d scope =
      ((each (fun key => relationship mode key d.nodes.length) d.nodes.length d.relationships
          after).1.map (nodes ++ ·),
        (each (fun key => relationship mode key d.nodes.length) d.nodes.length d.relationships
          after).2) := by
  unfold entries
  rw [h]
  rcases hrest : each (fun key => relationship mode key d.nodes.length) d.nodes.length
    d.relationships after with ⟨error | statements, last⟩
  · simp only [hrest]
    rfl
  · simp only [hrest]
    rfl

/-- Compiling the entries of a document only binds keys. -/
theorem entries_extendedBy (mode : StringMode) (d : Document) (scope : Scope) :
    scope.ExtendedBy (entries mode d scope).2 := by
  have hnodes := (tracks_node mode).each_grows 0 d.nodes scope
  rcases h : each (node mode) 0 d.nodes scope with ⟨error | nodes, after⟩
  · rw [h] at hnodes
    rwa [entries_error h]
  · rw [h] at hnodes
    rw [entries_ok h]
    exact hnodes.trans ((tracks_relationship mode d.nodes.length).each_grows _ _ _)

/-- The entries of a document are compiled as planned. -/
theorem entries_result (mode : StringMode) (d : Document) (scope : Scope) (ρ : Nat → Variable)
    (hρ : (entries mode d scope).2.NamedBy ρ) :
    (entries mode d scope).1 = (Plan.entries ρ d).map (List.map (Command.statement mode)) := by
  have hnodes := (tracks_node mode).each_result 0 d.nodes scope ρ
  unfold Plan.entries
  rcases h : each (node mode) 0 d.nodes scope with ⟨error | nodes, after⟩
  · rw [entries_error h] at hρ ⊢
    rw [h] at hnodes
    have hplan := map_eq_error.mp (hnodes hρ).symm
    rw [hplan]
    rfl
  · rw [entries_ok h] at hρ ⊢
    rw [h] at hnodes
    have htracks := tracks_relationship mode d.nodes.length
    have hafter := hρ.of_extendedBy (htracks.each_grows _ _ _)
    have hrelationships := htracks.each_result d.nodes.length d.relationships after ρ hρ
    obtain ⟨commands, hcommands, rfl⟩ := map_eq_ok.mp (hnodes hafter).symm
    rw [hcommands]
    dsimp only
    rw [hrelationships]
    cases Plan.each (Plan.relationship d.nodes.length ρ) d.nodes.length d.relationships with
    | error error => rfl
    | ok others => exact congrArg Except.ok List.map_append.symm

/-- The keys of all entries of a document are bound when its statements are found. -/
theorem entries_binds {statements : List Statement}
    (hok : (entries mode d scope).1 = .ok statements) :
    ∀ key, key < d.nodes.length + d.relationships.length →
      key ∈ (entries mode d scope).2.keys := by
  have htracks := tracks_relationship mode d.nodes.length
  rcases h : each (node mode) 0 d.nodes scope with ⟨error | nodes, after⟩
  · rw [entries_error h] at hok
    exact absurd hok (by simp)
  · rw [entries_ok h] at hok ⊢
    have hgrows := htracks.each_grows d.nodes.length d.relationships after
    have hnodes := (tracks_node mode).each_binds (congrArg Prod.fst h)
    rw [h] at hnodes
    obtain ⟨others, hothers, -⟩ := map_eq_ok.mp hok
    intro key hkey
    rcases Nat.lt_or_ge key d.nodes.length with hlt | hge
    · have hmem := hnodes key hlt
      rw [Nat.zero_add] at hmem
      exact hgrows.mem hmem
    · have hmem := htracks.each_binds hothers (key - d.nodes.length) (by omega)
      rwa [Nat.add_sub_cancel' hge] at hmem

/-- A document beyond the limits leaves the scope as it is; any other one is compiled entry by
entry. -/
theorem document_cases (settings : Settings) (d : Document) (scope : Scope) :
    (∃ error, checkLimits settings d = .error error ∧
        document settings d scope = (.error error, scope)) ∨
      (checkLimits settings d = .ok () ∧
        document settings d scope = ((entries settings.mode d scope).1.map Script.mk,
          (entries settings.mode d scope).2)) := by
  unfold document
  rcases hlimits : checkLimits settings d with error | ⟨⟩
  · exact .inl ⟨error, rfl, rfl⟩
  · rcases h : entries settings.mode d scope with ⟨error | statements, after⟩
    · exact .inr ⟨rfl, rfl⟩
    · exact .inr ⟨rfl, rfl⟩

/-- **Compilation only binds keys**, whether it fails or not. -/
theorem document_extendedBy (settings : Settings) (d : Document) (scope : Scope) :
    scope.ExtendedBy (document settings d scope).2 := by
  rcases document_cases settings d scope with ⟨error, -, h⟩ | ⟨-, h⟩
  · rw [h]
    exact .refl scope
  · rw [h]
    exact entries_extendedBy settings.mode d scope

/-- **Documents are compiled as planned** under any naming that agrees with the scope in the end. -/
theorem document_result (settings : Settings) (d : Document) (scope : Scope) (ρ : Nat → Variable)
    (hρ : (document settings d scope).2.NamedBy ρ) :
    (document settings d scope).1 =
      (Plan.document settings ρ d).map (Command.script settings.mode) := by
  unfold Plan.document
  rcases document_cases settings d scope with ⟨error, hlimits, h⟩ | ⟨hlimits, h⟩
  · rw [h, hlimits]
    rfl
  · rw [h] at hρ ⊢
    rw [hlimits]
    dsimp only
    rw [entries_result settings.mode d scope ρ hρ]
    cases Plan.entries ρ d with
    | error error => rfl
    | ok commands => rfl

/-- **The keys of all entries are bound** when a document is compiled. -/
theorem document_binds {settings : Settings} {script : Script}
    (hok : (document settings d scope).1 = .ok script) :
    ∀ key, key < d.nodes.length + d.relationships.length →
      key ∈ (document settings d scope).2.keys := by
  rcases document_cases settings d scope with ⟨error, -, h⟩ | ⟨-, h⟩
  · rw [h] at hok
    exact absurd hok (by simp)
  · rw [h] at hok ⊢
    obtain ⟨statements, hstatements, -⟩ := map_eq_ok.mp hok
    exact entries_binds hstatements

end Document

end Compile

/-! ## Scripts in terms of their scopes -/

/-- **The script is planned under the variables of the scope**, which has one for each entry. -/
structure Planned (mode : StringMode) (d : Document) (script : Script) (scope : Scope) : Prop where
  /-- The script has the planned statements. -/
  script : ∃ commands, Plan.entries scope.naming d = .ok commands ∧
    script = Command.script mode commands
  /-- All keys have variables. -/
  bound : ∀ key, key < d.nodes.length + d.relationships.length →
    scope.find? key = some (scope.naming key)

/-- A script that is compiled is planned under the variables of the scope after it. -/
theorem Compile.planned {settings : Settings} {d : Document} {scope after : Scope} {script : Script}
    (h : document settings d scope = (.ok script, after)) :
    Planned settings.mode d script after where
  script := by
    have hresult := document_result settings d scope after.naming
    rw [h] at hresult
    obtain ⟨commands, hcommands, hscript⟩ :=
      map_eq_ok.mp (hresult (Scope.namedBy_naming after)).symm
    exact ⟨commands, Plan.entries_of_document hcommands, hscript.symm⟩
  bound key hkey := by
    have hbinds := document_binds (congrArg Prod.fst h)
    rw [h] at hbinds
    exact Scope.find?_of_mem (hbinds key hkey)

end GraphImport
