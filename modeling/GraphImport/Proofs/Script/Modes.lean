import GraphImport.Proofs.Compile.Decision
import GraphImport.Proofs.Compile.Plan
import GraphImport.Proofs.Cypher.LiteralReading
import GraphImport.Proofs.Text.Lengthened

/-!
# Modes of strings

How strings are written decides about nothing but the inside of string literals. A document that is
compiled in both modes fails in both or in none, with the same error, and leaves the same scope;
the two scripts have the same kinds of statements in the same places. The text of a statement is
longer when its strings are escaped, unless none of them holds a character that needs it; then it is
the same text.

* `Cypher.IsSpecial`, `Value.HasString` — characters that are escaped, and strings in a value.
* `Entry.Writes` — the values that stand in the statement of an entry.
* `Action.lengthened` — the texts of a statement in both modes.
* `Compile.Scoped.outcome` — what a compilation comes to, apart from what is written.
* `document_modes` — a document in both modes.
-/

namespace GraphImport

/-! ## Strings -/

namespace Cypher

/-- The character is not written as it is in an escaped string. -/
def IsSpecial (c : Char) : Prop := c ∈ ['\\', '\x27', '"', '\n', '\r', '\t', '\x00']

/-- A character is longer when it is escaped, if it is special. -/
theorem lengthened_escapedChar (c : Char) :
    Lengthened (IsSpecial c) (String.singleton c) (escapedChar c) := by
  by_cases hc : IsSpecial c
  · refine ⟨fun hnot => absurd hc hnot, fun _ => ?_⟩
    rw [String.length_singleton]
    simp only [IsSpecial, List.mem_cons, List.not_mem_nil, or_false] at hc
    rcases hc with rfl | rfl | rfl | rfl | rfl | rfl | rfl <;> decide
  · exact ⟨fun _ => (escapedChar_of_not_mem hc).symm, fun h => absurd h hc⟩

/-- **A string is longer when it is escaped**, if it holds a special character. -/
theorem lengthened_quote (s : String) :
    Lengthened (∃ c ∈ s.toList, IsSpecial c) (quote .verbatim s) (quote .escaped s) := by
  have hescape : Lengthened (∃ c ∈ s.toList, IsSpecial c) s (escape s) := by
    have hjoin := Lengthened.join fun c (_ : c ∈ s.toList) => lengthened_escapedChar c
    rwa [join_singletons, ← escape_eq_join] at hjoin
  exact (hescape.behind "'").before "'"

end Cypher

/-! ## Values -/

/-- The string is in the value, however deep. -/
inductive Value.HasString : Value → String → Prop where
  /-- A string is in itself. -/
  | string (s : String) : HasString (.string s) s
  /-- A list has the strings of its items. -/
  | item {items : List Value} {item : Value} {s : String} (hitem : item ∈ items)
    (hs : HasString item s) : HasString (.list items) s

/-- A string in the value holds a character that is escaped. -/
def Value.IsSpecial (value : Value) : Prop :=
  ∃ s, value.HasString s ∧ ∃ c ∈ s.toList, Cypher.IsSpecial c

namespace Value

variable {P : String → Prop} {s : String} {items : List Value}

/-- The only string in a string is itself. -/
theorem exists_string_iff : (∃ t, (Value.string s).HasString t ∧ P t) ↔ P s := by
  constructor
  · rintro ⟨_, ⟨⟩, h⟩
    exact h
  · exact fun h => ⟨s, .string s, h⟩

/-- The strings in a list are those in its items. -/
theorem exists_list_iff :
    (∃ t, (Value.list items).HasString t ∧ P t) ↔
      ∃ item ∈ items, ∃ t, item.HasString t ∧ P t := by
  constructor
  · rintro ⟨t, ht, h⟩
    cases ht with
    | item hitem ht => exact ⟨_, hitem, t, ht, h⟩
  · rintro ⟨item, hitem, t, ht, h⟩
    exact ⟨t, .item hitem ht, h⟩

theorem isSpecial_string : (Value.string s).IsSpecial ↔ ∃ c ∈ s.toList, Cypher.IsSpecial c :=
  exists_string_iff

theorem isSpecial_list : (Value.list items).IsSpecial ↔ ∃ item ∈ items, item.IsSpecial :=
  exists_list_iff

end Value

/-- **A literal is longer when strings are escaped**, if one of its strings is special. -/
theorem Cypher.lengthened_literal (value : Value) :
    Lengthened value.IsSpecial (literal .verbatim value) (literal .escaped value) := by
  induction value using Value.induct with
  | leaf v hv =>
      cases v with
      | string s => exact (lengthened_quote s).congr Value.isSpecial_string.symm
      | list items => exact absurd hv Bool.noConfusion
      | _ =>
          -- No other leaf has strings, and it is written alike in both modes.
          refine (Lengthened.refl _).congr (iff_of_false id ?_)
          rintro ⟨_, ⟨⟩, -⟩
  | list items ih =>
      rw [literal_list, literal_list]
      have hitems := Lengthened.intercalate ", " ih
      exact ((hitems.behind "[").before "]").congr Value.isSpecial_list.symm

/-! ## Properties -/

/-- A property that is written holds a string that is special. -/
def Properties.IsSpecial (p : Properties) : Prop := ∃ entry ∈ p.present, entry.2.IsSpecial

section Texts

variable (v : Variable) (p : Properties)

/-- What is special is present. -/
theorem Properties.anyPresent_of_isSpecial {p : Properties} (h : p.IsSpecial) :
    p.anyPresent = true := by
  obtain ⟨entry, hentry, -⟩ := h
  unfold anyPresent
  cases hp : p.present with
  | nil =>
      rw [hp] at hentry
      exact absurd hentry List.not_mem_nil
  | cons first rest => rfl

/-- Where there is nothing to write, nothing gets longer. -/
theorem Properties.lengthened_of_not_anyPresent {p : Properties} (h : ¬p.anyPresent = true)
    (s : String) : Lengthened p.IsSpecial s s :=
  (Lengthened.refl s).congr (iff_of_false id (mt anyPresent_of_isSpecial h))

theorem Cypher.lengthened_mapLiteral :
    Lengthened p.IsSpecial (mapLiteral .verbatim p) (mapLiteral .escaped p) := by
  have hfields := Lengthened.intercalate ", " fun entry (_ : entry ∈ p.present) =>
    (lengthened_literal entry.2).behind (entry.1 ++ ": ")
  unfold mapLiteral
  simp only [List.isEmpty_map]
  by_cases hp : p.present.isEmpty = true
  · rw [if_pos hp, if_pos hp]
    exact Properties.lengthened_of_not_anyPresent (by simp [Properties.anyPresent, hp]) _
  · rw [if_neg hp, if_neg hp]
    exact (hfields.behind _).before _

theorem Cypher.lengthened_setItems :
    Lengthened p.IsSpecial (setItems .verbatim v p) (setItems .escaped v p) :=
  Lengthened.intercalate ", " fun entry _ => (lengthened_literal entry.2).behind _

theorem Pattern.lengthened_propertyText :
    Lengthened p.IsSpecial (propertyText .verbatim p) (propertyText .escaped p) := by
  unfold propertyText
  by_cases hp : p.anyPresent = true
  · rw [if_pos hp, if_pos hp]
    exact (Cypher.lengthened_mapLiteral p).behind " "
  · rw [if_neg hp, if_neg hp]
    exact Properties.lengthened_of_not_anyPresent hp _

/-- **A pattern is longer when strings are escaped**, if a property in it is special. -/
theorem Pattern.lengthened_text (pattern : Pattern) :
    Lengthened p.IsSpecial (pattern.text .verbatim p) (pattern.text .escaped p) := by
  have hproperties := lengthened_propertyText p
  cases pattern with
  | node v labels => exact (hproperties.behind _).before _
  | relationship v source target type =>
      exact (((hproperties.behind _).before _).before _).before _

/-- A clause that stands there if there is something to write. -/
theorem lengthened_clause {s t : String} (word : String) (h : Lengthened p.IsSpecial s t) :
    Lengthened p.IsSpecial
      (String.join ((if p.anyPresent then [word ++ s] else []).map fun clause => " " ++ clause))
      (String.join ((if p.anyPresent then [word ++ t] else []).map fun clause => " " ++ clause)) := by
  by_cases hp : p.anyPresent = true
  · rw [if_pos hp, if_pos hp, join_clause, join_clause]
    exact h.behind _
  · rw [if_neg hp, if_neg hp]
    exact Properties.lengthened_of_not_anyPresent hp _

end Texts

/-! ## Statements -/

/-- The assignments of a change are longer when strings are escaped. -/
theorem Change.lengthened_assignments (v : Variable) (change : Change) :
    Lengthened change.props.IsSpecial (change.assignments .verbatim v)
      (change.assignments .escaped v) := by
  cases change with
  | fields p => exact Cypher.lengthened_setItems v p
  | whole p => exact ((Cypher.lengthened_mapLiteral p).behind _).behind _

/-- The properties that stand in the statement of an action. -/
def Action.written : Action → Entries Value
  | create p => p.present
  | merge pattern created change => pattern.present ++ created.present ++ change.props.present

/-- **A statement is longer when strings are escaped**, if something that it writes is special. -/
theorem Action.lengthened (pattern : Pattern) (action : Action) :
    Lengthened (∃ entry ∈ action.written, entry.2.IsSpecial)
      (action.statement .verbatim pattern).text (action.statement .escaped pattern).text := by
  cases action with
  | create p =>
      rw [create_text, create_text]
      exact (pattern.lengthened_text p).behind _
  | merge p created change =>
      have hcreated := lengthened_clause created "ON CREATE SET "
        (((Cypher.lengthened_mapLiteral created).behind " = ").behind pattern.subject.name)
      have hchange := lengthened_clause change.props "ON MATCH SET "
        (change.lengthened_assignments pattern.subject)
      rw [merge_text, merge_text]
      simp only [createdClause_eq, Change.clause_eq]
      have hall := ((pattern.lengthened_text p).append (hcreated.append hchange)).behind "MERGE "
      refine hall.congr ?_
      simp only [written, Properties.IsSpecial, List.mem_append, or_and_right, exists_or, or_assoc]

/-! ## Entries -/

/-- **The value stands in the statement of the entry**: in the pattern or, unless the entry is
created without looking, among what a new entity gets or what is written on one that is found. Nulls
stand nowhere. -/
inductive Entry.Writes (e : Entry) : Value → Prop where
  /-- In the pattern. -/
  | pattern {p : Properties} {key : String} {value : Value} (hp : e.pattern = .ok p)
    (h : (key, value) ∈ p.present) : Writes e value
  /-- Among what a new entity gets. -/
  | created {key : String} {value : Value} (hlooks : e.matching.isCreate = false)
    (h : (key, value) ∈ e.props.present) : Writes e value
  /-- Among what is written on an entity that is found. -/
  | changed {change : Change} {key : String} {value : Value} (hlooks : e.matching.isCreate = false)
    (hchange : e.change = .ok change) (h : (key, value) ∈ change.props.present) : Writes e value

/-- What stands in the statement of an entry is what its action writes. -/
theorem Entry.writes_iff {e : Entry} {action : Action} (h : e.action = .ok action) (value : Value) :
    e.Writes value ↔ ∃ key, (key, value) ∈ action.written := by
  rcases Entry.action_eq_ok h with ⟨hcreate, rfl⟩ | ⟨hlooks, p, change, hp, hchange, rfl⟩
  · constructor
    · rintro (⟨hp, hmem⟩ | ⟨hlooks, hmem⟩ | ⟨hlooks, hchange, hmem⟩)
      · rw [pattern_of_isCreate hcreate] at hp
        cases hp
        exact ⟨_, hmem⟩
      · rw [hcreate] at hlooks
        exact nomatch hlooks
      · rw [hcreate] at hlooks
        exact nomatch hlooks
    · rintro ⟨key, hmem⟩
      exact .pattern (pattern_of_isCreate hcreate) hmem
  · constructor
    · rintro (⟨hp', hmem⟩ | ⟨hlooks, hmem⟩ | ⟨hlooks, hchange', hmem⟩)
      · rw [hp] at hp'
        cases hp'
        exact ⟨_, List.mem_append_left _ (List.mem_append_left _ hmem)⟩
      · exact ⟨_, List.mem_append_left _ (List.mem_append_right _ hmem)⟩
      · rw [hchange] at hchange'
        cases hchange'
        exact ⟨_, List.mem_append_right _ hmem⟩
    · rintro ⟨key, hmem⟩
      rcases List.mem_append.mp hmem with hmem | hmem
      · rcases List.mem_append.mp hmem with hmem | hmem
        · exact .pattern hp hmem
        · exact .created hlooks hmem
      · exact .changed hlooks hchange hmem

/-- **The texts of an entry in both modes are the same** exactly when nothing that is written for it
is special. -/
theorem Entry.text_eq_iff {e : Entry} {action : Action} (h : e.action = .ok action)
    (pattern : Pattern) :
    (action.statement .verbatim pattern).text = (action.statement .escaped pattern).text ↔
      ∀ value, e.Writes value → ¬value.IsSpecial := by
  rw [(action.lengthened pattern).eq_iff]
  simp only [Entry.writes_iff h, not_exists, not_and, Prod.forall]
  exact ⟨fun hall value ⟨key, hmem⟩ => hall key value hmem,
    fun hall key value hmem => hall value ⟨key, hmem⟩⟩

/-! ## Outcomes -/

namespace Compile

variable {α β : Type}

/-- What a step comes to, apart from what it writes: its error if it fails, and the scope. -/
def Scoped.outcome (result : Scoped α) : Scoped Unit := (result.1.map fun _ => (), result.2)

/-- Only a failure comes to an error. -/
theorem Scoped.outcome_eq_error {result : Scoped α} {error : ImportError} {after : Scope} :
    result.outcome = (.error error, after) ↔ result = (.error error, after) := by
  obtain ⟨value, scope⟩ := result
  simp only [outcome, Prod.mk.injEq, map_eq_error]

/-- Only a success comes to none. -/
theorem Scoped.outcome_eq_ok {result : Scoped α} {after : Scope} :
    result.outcome = (.ok (), after) ↔ ∃ value, result = (.ok value, after) := by
  obtain ⟨value, scope⟩ := result
  simp [outcome, map_eq_ok]

/-- What is made of a result does not change the outcome. -/
theorem Scoped.outcome_map (result : Scoped α) (f : α → β) :
    Scoped.outcome (result.1.map f, result.2) = result.outcome := by
  obtain ⟨error | value, scope⟩ := result
  · rfl
  · rfl

/-- The mode does not decide about the outcome for an action. -/
theorem outcome_finish (mode mode' : StringMode) (ref : EntryRef) (pattern : Pattern)
    (entry : Entry) (scope : Scope) :
    Scoped.outcome (finish mode ref pattern entry, scope) =
      Scoped.outcome (finish mode' ref pattern entry, scope) := by
  unfold finish
  cases entry.action with
  | error key => rfl
  | ok action => simp only [Scoped.outcome, Except.map]

/-- The mode does not decide about the outcome for a node. -/
theorem outcome_node (mode mode' : StringMode) (key : Nat) (n : Node) (scope : Scope) :
    (node mode key n scope).outcome = (node mode' key n scope).outcome :=
  outcome_finish mode mode' _ _ _ _

/-- The mode does not decide about the outcome for a relationship. -/
theorem outcome_relationship (mode mode' : StringMode) (key nodeCount : Nat) (r : Relationship)
    (scope : Scope) :
    (relationship mode key nodeCount r scope).outcome =
      (relationship mode' key nodeCount r scope).outcome := by
  rcases h : ends (.relationship (key - nodeCount)) nodeCount r with error | ⟨source, target⟩
  · rw [relationship_error h, relationship_error h]
  · rw [relationship_ok h, relationship_ok h]
    exact outcome_finish mode mode' _ _ _ _

/-- **Steps of equal outcomes come to the same** when they are taken one after the other. -/
theorem outcome_each {step step' : (key : Nat) → α → Scope → Scoped Statement}
    (h : ∀ key entry scope, (step key entry scope).outcome = (step' key entry scope).outcome)
    (key : Nat) (entries : List α) (scope : Scope) :
    (each step key entries scope).outcome = (each step' key entries scope).outcome := by
  induction entries generalizing key scope with
  | nil => rfl
  | cons entry rest ih =>
      have hstep := h key entry scope
      rcases heq : step key entry scope with ⟨error | statement, after⟩
      · rw [heq] at hstep
        rw [each_cons_error heq, each_cons_error (Scoped.outcome_eq_error.mp hstep.symm)]
      · rw [heq] at hstep
        obtain ⟨statement', heq'⟩ := Scoped.outcome_eq_ok.mp hstep.symm
        rw [each_cons_ok heq, each_cons_ok heq', Scoped.outcome_map, Scoped.outcome_map]
        exact ih (key + 1) after

/-- The mode does not decide about the outcome for all entries. -/
theorem outcome_entries (mode mode' : StringMode) (d : Document) (scope : Scope) :
    (entries mode d scope).outcome = (entries mode' d scope).outcome := by
  have hnodes := outcome_each (outcome_node mode mode') 0 d.nodes scope
  rcases heq : each (node mode) 0 d.nodes scope with ⟨error | nodes, after⟩
  · rw [heq] at hnodes
    rw [entries_error heq, entries_error (Scoped.outcome_eq_error.mp hnodes.symm)]
  · rw [heq] at hnodes
    obtain ⟨nodes', heq'⟩ := Scoped.outcome_eq_ok.mp hnodes.symm
    rw [entries_ok heq, entries_ok heq', Scoped.outcome_map, Scoped.outcome_map]
    exact outcome_each (fun key r scope => outcome_relationship mode mode' key _ r scope) _ _ _

/-- A document comes to what its limits and then its entries come to. -/
theorem outcome_document (settings : Settings) (d : Document) (scope : Scope) :
    (document settings d scope).outcome =
      match checkLimits settings d with
      | .error error => (.error error, scope)
      | .ok () => (entries settings.mode d scope).outcome := by
  rcases document_cases settings d scope with ⟨error, hlimits, h⟩ | ⟨hlimits, h⟩
  · rw [h, hlimits]
    rfl
  · rw [h, hlimits]
    exact Scoped.outcome_map _ _

/-- **The mode does not decide about the outcome for a document.** -/
theorem outcome_modes (mode mode' : StringMode) (maxNodes maxRelationships : Option Nat)
    (d : Document) (scope : Scope) :
    (document ⟨mode, maxNodes, maxRelationships⟩ d scope).outcome =
      (document ⟨mode', maxNodes, maxRelationships⟩ d scope).outcome := by
  rw [outcome_document, outcome_document, outcome_entries mode mode']
  rfl

end Compile

/-! ## Scripts -/

/-- **Two scripts of a document that differ inside strings only**: they have the same kinds of
statements, and an entry has the same text in both exactly when no string that is written for it
holds a special character. -/
structure DifferInStrings (d : Document) (plain escaped : Script) : Prop where
  /-- There is one statement for each entry. -/
  size : plain.size = d.entries.length
  /-- The statements are of the same kinds. -/
  kinds : plain.statements.map Statement.kind = escaped.statements.map Statement.kind
  /-- Equal texts have nothing special in them. -/
  texts : ∀ (place : Nat) (e : Entry), d.entries[place]? = some e → ∃ s t : Statement,
    plain.statements[place]? = some s ∧ escaped.statements[place]? = some t ∧
      (s.text = t.text ↔ ∀ value, e.Writes value → ∀ string, value.HasString string →
        ∀ c ∈ string.toList, ¬Cypher.IsSpecial c)

/-- The scripts of a plan in both modes differ inside strings only. -/
theorem Plan.differInStrings {ρ : Nat → Variable} {d : Document} {commands : List Command}
    (h : entries ρ d = .ok commands) :
    DifferInStrings d (Command.script .verbatim commands) (Command.script .escaped commands) where
  size := size_script .verbatim h
  kinds := by
    have hkind : ∀ mode, Statement.kind ∘ Command.statement mode =
        fun command => command.pattern.kind command.action.creates := fun _ => rfl
    unfold Command.script
    rw [List.map_map, List.map_map, hkind, hkind]
  texts place e he := by
    obtain ⟨pattern, action, haction, hcommand⟩ := getElem_entry h he
    refine ⟨_, _, getElem_script .verbatim hcommand, getElem_script .escaped hcommand, ?_⟩
    refine (Entry.text_eq_iff haction pattern).trans ?_
    simp only [Value.IsSpecial, not_exists, not_and]

/-- **The mode of strings decides about the inside of strings only**: in both modes, a document
fails with the same error or has scripts that differ inside strings only, and it leaves the same
scope, whatever the limits and the scope before. -/
theorem document_modes (maxNodes maxRelationships : Option Nat) (d : Document) (scope : Scope) :
    ∃ after,
      (∃ error,
        Compile.document ⟨.verbatim, maxNodes, maxRelationships⟩ d scope = (.error error, after) ∧
        Compile.document ⟨.escaped, maxNodes, maxRelationships⟩ d scope = (.error error, after)) ∨
      ∃ plain escaped,
        Compile.document ⟨.verbatim, maxNodes, maxRelationships⟩ d scope = (.ok plain, after) ∧
        Compile.document ⟨.escaped, maxNodes, maxRelationships⟩ d scope = (.ok escaped, after) ∧
        DifferInStrings d plain escaped := by
  have houtcome := Compile.outcome_modes .verbatim .escaped maxNodes maxRelationships d scope
  rcases heq : Compile.document ⟨.verbatim, maxNodes, maxRelationships⟩ d scope with
    ⟨error | plain, after⟩
  · rw [heq] at houtcome
    exact ⟨after, .inl ⟨error, rfl, Compile.Scoped.outcome_eq_error.mp houtcome.symm⟩⟩
  · rw [heq] at houtcome
    obtain ⟨escaped, heq'⟩ := Compile.Scoped.outcome_eq_ok.mp houtcome.symm
    refine ⟨after, .inr ⟨plain, escaped, rfl, heq', ?_⟩⟩
    -- Both runs leave one scope, so both carry out the plan under its naming.
    obtain ⟨commands, hcommands, rfl⟩ := (Compile.planned heq).script
    obtain ⟨commands', hcommands', rfl⟩ := (Compile.planned heq').script
    have hsame : commands = commands' := Except.ok.inj (hcommands.symm.trans hcommands')
    subst hsame
    exact Plan.differInStrings hcommands

end GraphImport
