import GraphImport.Proofs.Compile.Validity

/-!
# Properties without values

A property that is null means the same as a property that is not there: a document is compiled like
the document without its nulls. Only a rule that names keys can tell the two apart, since a null is
found under its key; so no key of a rule may be the key of a null. Nulls inside lists are values.

* `Properties.dropNulls`, `Document.dropNulls` — what is left when the nulls are taken out.
* `Entry.NamesNoNull` — no rule of the entry names the key of a null.
* `Entry.action_dropNulls` — the same is decided about an entry without its nulls.
* `document_dropNulls` — documents are compiled like documents without nulls.
-/

namespace GraphImport

/-! ## Properties -/

/-- What is found among entries is found among those of them that are kept, if it is kept. -/
theorem Entries.find?_filter {α : Type} {key : String} {keep : String × α → Bool}
    {entries : Entries α} (h : ∀ value, entries.find? key = some value → keep (key, value) = true) :
    Entries.find? key (entries.filter keep) = entries.find? key := by
  induction entries with
  | nil => rfl
  | cons entry rest ih =>
      obtain ⟨k, v⟩ := entry
      rw [List.filter_cons]
      by_cases hk : k = key
      · subst hk
        have hfirst : Entries.find? k ((k, v) :: rest) = some v := if_pos rfl
        rw [if_pos (h v hfirst), hfirst]
        exact if_pos rfl
      · have hrest : Entries.find? key ((k, v) :: rest) = Entries.find? key rest := if_neg hk
        rw [hrest] at h ⊢
        split
        · rw [← ih h]
          exact if_neg hk
        · exact ih h

namespace Properties

/-- The properties without their nulls. -/
def dropNulls (p : Properties) : Properties where
  entries := p.present
  nodup := p.nodup.sublist (List.filter_sublist.map Prod.fst)

/-- The same is written without nulls. -/
@[simp] theorem present_dropNulls (p : Properties) : p.dropNulls.present = p.present := by
  simp [dropNulls, present]

@[simp] theorem anyPresent_dropNulls (p : Properties) : p.dropNulls.anyPresent = p.anyPresent := by
  unfold anyPresent
  rw [present_dropNulls]

/-- Without nulls there is nothing to take out. -/
@[simp] theorem dropNulls_dropNulls (p : Properties) : p.dropNulls.dropNulls = p.dropNulls :=
  eq_of_entries (present_dropNulls p)

/-- What is not null is found without the nulls. -/
theorem get?_dropNulls {p : Properties} {key : String} (h : p.get? key ≠ some .null) :
    p.dropNulls.get? key = p.get? key := by
  apply Entries.find?_filter
  intro value hvalue
  cases value with
  | null => exact absurd hvalue h
  | _ => rfl

/-- Selecting into properties takes the same without the nulls. -/
theorem selectInto_dropNulls {p : Properties} (picked : Properties) {keys : List String}
    (h : ∀ key ∈ keys, p.get? key ≠ some .null) :
    p.dropNulls.selectInto picked keys = p.selectInto picked keys := by
  induction keys generalizing picked with
  | nil => rfl
  | cons key keys ih =>
      unfold selectInto
      rw [get?_dropNulls (h key List.mem_cons_self)]
      cases p.get? key with
      | none => rfl
      | some value => exact ih _ fun other hother => h other (List.mem_cons_of_mem _ hother)

/-- **The same is selected without the nulls**, by keys of which none is the key of a null. -/
theorem select_dropNulls {p : Properties} {keys : List String}
    (h : ∀ key ∈ keys, p.get? key ≠ some .null) : p.dropNulls.select keys = p.select keys :=
  selectInto_dropNulls empty h

end Properties

/-! ## Documents without nulls -/

/-- The rule without nulls. -/
def MatchRule.dropNulls : MatchRule → MatchRule
  | onProps => .onProps
  | create => .create
  | onKeys keys => .onKeys keys
  | onMap map => .onMap map.dropNulls

/-- The rule without nulls. -/
def UpdateRule.dropNulls : UpdateRule → UpdateRule
  | allProps => .allProps
  | onKeys keys => .onKeys keys
  | onMap map => .onMap map.dropNulls

/-- The entry without nulls. -/
def Entry.dropNulls (e : Entry) : Entry where
  props := e.props.dropNulls
  matching := e.matching.dropNulls
  updating := e.updating.dropNulls
  replace := e.replace

/-- The node without nulls. -/
def Node.dropNulls (n : Node) : Node := { n with toEntry := n.toEntry.dropNulls }

/-- The relationship without nulls. -/
def Relationship.dropNulls (r : Relationship) : Relationship :=
  { r with toEntry := r.toEntry.dropNulls }

/-- **The document without nulls**: all entries whose value is null are taken out of the properties
and of the maps of both rules. -/
def Document.dropNulls (d : Document) : Document :=
  ⟨d.nodes.map Node.dropNulls, d.relationships.map Relationship.dropNulls⟩

/-- No rule of the entry names the key of a null. An entry that is created without looking has no
use for its rules, and they may name what they like. -/
def Entry.NamesNoNull (e : Entry) : Prop := ∀ key ∈ e.keys, e.props.get? key ≠ some .null

/-- No rule in the document names the key of a null. -/
structure Document.NamesNoNull (d : Document) : Prop where
  /-- The rules of nodes. -/
  nodes : ∀ n ∈ d.nodes, n.toEntry.NamesNoNull
  /-- The rules of relationships. -/
  relationships : ∀ r ∈ d.relationships, r.toEntry.NamesNoNull

/-! ## Actions -/

/-- The change without nulls. -/
def Change.dropNulls : Change → Change
  | fields p => .fields p.dropNulls
  | whole p => .whole p.dropNulls

/-- The action without nulls. -/
def Action.dropNulls : Action → Action
  | create p => .create p.dropNulls
  | merge pattern created change =>
    .merge pattern.dropNulls created.dropNulls change.dropNulls

section Texts

variable (mode : StringMode) (v : Variable) (p : Properties)

@[simp] theorem Cypher.mapLiteral_dropNulls : mapLiteral mode p.dropNulls = mapLiteral mode p := by
  unfold mapLiteral
  rw [Properties.present_dropNulls]

@[simp] theorem Cypher.setItems_dropNulls : setItems mode v p.dropNulls = setItems mode v p := by
  unfold setItems
  rw [Properties.present_dropNulls]

@[simp] theorem Pattern.text_dropNulls (pattern : Pattern) :
    pattern.text mode p.dropNulls = pattern.text mode p := by
  cases pattern with
  | node v labels => simp [text, propertyText]
  | relationship v source target type => simp [text, propertyText]

@[simp] theorem createdClause_dropNulls :
    createdClause mode v p.dropNulls = createdClause mode v p := by
  simp [createdClause]

@[simp] theorem Change.clause_dropNulls (change : Change) :
    change.dropNulls.clause mode v = change.clause mode v := by
  cases change with
  | fields p => simp [dropNulls, clause]
  | whole p => simp [dropNulls, clause]

/-- **A statement does not tell of nulls.** -/
theorem Action.statement_dropNulls (pattern : Pattern) (action : Action) :
    action.dropNulls.statement mode pattern = action.statement mode pattern := by
  cases action with
  | create p => simp [dropNulls, statement, parts, creates]
  | merge p created change => simp [dropNulls, statement, parts, creates]

end Texts

/-! ## Entries -/

namespace Entry

variable {e : Entry}

/-- An entry without nulls is found by the same properties, apart from nulls. -/
theorem pattern_dropNulls (h : ∀ key ∈ e.matching.keys, e.props.get? key ≠ some .null) :
    e.dropNulls.pattern.map Properties.dropNulls = e.pattern.map Properties.dropNulls := by
  unfold pattern
  cases hmatching : e.matching with
  | onProps => simp [dropNulls, hmatching, MatchRule.dropNulls, Except.map]
  | create => simp [dropNulls, hmatching, MatchRule.dropNulls, Except.map]
  | onKeys keys =>
      rw [hmatching] at h
      have hselect : e.props.dropNulls.select keys = e.props.select keys :=
        Properties.select_dropNulls h
      simp only [dropNulls, hmatching, MatchRule.dropNulls, hselect]
  | onMap map => simp [dropNulls, hmatching, MatchRule.dropNulls, Except.map]

/-- On an entry without nulls the same properties are written, apart from nulls. -/
theorem change_dropNulls (h : ∀ key ∈ e.updating.keys, e.props.get? key ≠ some .null) :
    e.dropNulls.change.map Change.dropNulls = e.change.map Change.dropNulls := by
  unfold change
  cases hupdating : e.updating with
  | allProps => simp [dropNulls, hupdating, UpdateRule.dropNulls, Except.map, Change.dropNulls]
  | onKeys keys =>
      rw [hupdating] at h
      have hselect : e.props.dropNulls.select keys = e.props.select keys :=
        Properties.select_dropNulls h
      simp only [dropNulls, hupdating, UpdateRule.dropNulls, hselect]
  | onMap map =>
      simp only [dropNulls, hupdating, UpdateRule.dropNulls]
      cases e.replace with
      | true => simp [Except.map, Change.dropNulls]
      | false => simp [Except.map, Change.dropNulls]

/-- A merge without nulls is made of its parts without nulls. -/
theorem merge_dropNulls (pattern : Except String Properties) (created : Properties)
    (change : Except String Change) :
    (pattern >>= fun found => change >>= fun written =>
        pure (Action.merge found created written)).map Action.dropNulls =
      (pattern.map Properties.dropNulls) >>= fun found => (change.map Change.dropNulls) >>=
        fun written => pure (Action.merge found created.dropNulls written) := by
  cases pattern with
  | error key => rfl
  | ok found =>
      cases change with
      | error key => rfl
      | ok written => rfl

/-- **The same is decided about an entry without its nulls**, apart from nulls. -/
theorem action_dropNulls (h : e.NamesNoNull) :
    e.dropNulls.action.map Action.dropNulls = e.action.map Action.dropNulls := by
  have hcreate : e.dropNulls.matching.isCreate = e.matching.isCreate := by
    unfold dropNulls
    cases e.matching with
    | _ => rfl
  have hprops : e.dropNulls.props.dropNulls = e.props.dropNulls :=
    Properties.dropNulls_dropNulls e.props
  unfold action
  rw [hcreate]
  unfold NamesNoNull keys at h
  by_cases hc : e.matching.isCreate = true
  · rw [if_pos hc, if_pos hc]
    exact congrArg (fun p => Except.ok (Action.create p)) hprops
  · rw [if_neg hc, List.forall_mem_append] at h
    rw [if_neg hc, if_neg hc, merge_dropNulls, merge_dropNulls, pattern_dropNulls h.1,
      change_dropNulls h.2, hprops]

end Entry

/-! ## Compilation -/

namespace Compile

variable {α : Type}

/-- **The same statement is written for an entry without its nulls**, or the same error is
reported. -/
theorem finish_dropNulls (mode : StringMode) (ref : EntryRef) (pattern : Pattern) {e : Entry}
    (h : e.NamesNoNull) : finish mode ref pattern e.dropNulls = finish mode ref pattern e := by
  -- A statement is made of an action, and what it is made of is the same but for nulls.
  have hfinish : ∀ entry : Entry, finish mode ref pattern entry =
      ((entry.action.map Action.dropNulls).map (Action.statement mode pattern)).mapError
        (ImportError.unknownKey ref) := by
    intro entry
    unfold finish
    cases entry.action with
    | error key => rfl
    | ok action => exact congrArg Except.ok (Action.statement_dropNulls mode pattern action).symm
  rw [hfinish, hfinish, Entry.action_dropNulls h]

/-- Entries that are compiled alike one by one are compiled alike together. -/
theorem each_map {step : (key : Nat) → α → Scope → Scoped Statement} {f : α → α}
    {entries : List α}
    (h : ∀ entry ∈ entries, ∀ key scope, step key (f entry) scope = step key entry scope)
    (key : Nat) (scope : Scope) :
    each step key (entries.map f) scope = each step key entries scope := by
  induction entries generalizing key scope with
  | nil => rfl
  | cons entry rest ih =>
      have hrest := ih fun other hother => h other (List.mem_cons_of_mem _ hother)
      rw [List.map_cons, each, each, h entry List.mem_cons_self]
      simp only [hrest]

/-- The entries of a document are compiled like those of the document without its nulls. -/
theorem entries_dropNulls (mode : StringMode) {d : Document} (h : d.NamesNoNull) (scope : Scope) :
    entries mode d.dropNulls scope = entries mode d scope := by
  have hlength : d.dropNulls.nodes.length = d.nodes.length := List.length_map _
  have hnodes : ∀ n ∈ d.nodes, ∀ key scope,
      node mode key n.dropNulls scope = node mode key n scope := by
    intro n hn key scope
    unfold node
    exact congrArg (·, _) (finish_dropNulls mode _ _ (h.nodes n hn))
  have hrelationships : ∀ r ∈ d.relationships, ∀ key scope,
      relationship mode key d.nodes.length r.dropNulls scope =
        relationship mode key d.nodes.length r scope := by
    intro r hr key scope
    have hends : ∀ ref, ends ref d.nodes.length r.dropNulls = ends ref d.nodes.length r :=
      fun _ => rfl
    rcases hfound : ends (.relationship (key - d.nodes.length)) d.nodes.length r with
      error | ⟨source, target⟩
    · rw [relationship_error hfound, relationship_error ((hends _).trans hfound)]
    · rw [relationship_ok hfound, relationship_ok ((hends _).trans hfound)]
      exact congrArg (·, _) (finish_dropNulls mode _ _ (h.relationships r hr))
  unfold entries
  rw [hlength]
  unfold Document.dropNulls
  simp only [each_map hnodes, each_map hrelationships]

end Compile

/-- **Nulls are transparent**: when no rule names the key of a null, a document and the document
without its nulls have the same script or the same error, and leave the same scope, whatever the
settings and the scope before. -/
theorem document_dropNulls (settings : Compile.Settings) {d : Document} (h : d.NamesNoNull)
    (scope : Scope) :
    Compile.document settings d.dropNulls scope = Compile.document settings d scope := by
  have hlimits : Compile.checkLimits settings d.dropNulls = Compile.checkLimits settings d := by
    unfold Compile.checkLimits Document.dropNulls
    rw [List.length_map, List.length_map]
  unfold Compile.document
  rw [hlimits, Compile.entries_dropNulls settings.mode h]

/-- A person with a note that is null and a list that holds a null, found by its number. -/
def Node.unnoted : Node where
  props := .ofPairs [("note", .null), ("id", .int 1), ("tags", .list [.null])]
  matching := .onKeys ["id"]
  updating := .onMap (.ofPairs [("note", .null)])
  replace := true
  labels := ["Person"]

/-- The person without a note has the statement of the person whose note is null. -/
theorem document_dropNulls_unnoted :
    (Document.mk [.unnoted] []).NamesNoNull ∧
      Compile.document .default (Document.mk [.unnoted] []).dropNulls .empty =
        (.ok ⟨[⟨"MERGE (x0:Person \x7b id: 1 \x7d) ON CREATE SET x0 = \x7b id: 1, tags: [null] \x7d",
          .mergeNode⟩]⟩, ⟨[0], by decide⟩) := by
  have hnames : (Document.mk [.unnoted] []).NamesNoNull := by
    refine ⟨fun n hn key hkey => ?_, fun r hr => absurd hr List.not_mem_nil⟩
    rw [List.mem_singleton.mp hn] at hkey ⊢
    rw [List.mem_singleton.mp hkey]
    have hfound : Node.unnoted.props.get? "id" = some (.int 1) := rfl
    rw [hfound]
    exact nofun
  refine ⟨hnames, ?_⟩
  rw [document_dropNulls .default hnames .empty]
  rfl

end GraphImport
