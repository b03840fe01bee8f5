import GraphImport.Compile.Action
import GraphImport.Proofs.Property.KeySelection
import GraphImport.Proofs.Property.Leaves
import GraphImport.Proofs.Property.Selection
import GraphImport.Proofs.Result
import GraphImport.Proofs.Text.Joined

/-!
# What a statement tells

A statement does not tell everything about the entry that it was written for: it leaves out nulls,
it does not tell by which rule properties were chosen, and it writes all doubles that are no number
alike. What remains is the decision about the entry. It can be read off the entry: from the keys that
it needs, from the entries by which it is found and from those that are written when it is found.

* `Entry.keys`, `Entry.lacked?` — the keys that an entry needs, and the first that it lacks.
* `Entry.found`, `Entry.changed`, `Entry.replacesAll` — what decides besides the properties.
* `Entry.pattern_of_keys`, `Entry.change_of_keys` — what is done with an entry, from these lists, with
  `Entry.entries_pattern` and `Entry.change_eq_ok`.
* `Entry.action_eq_ok` — what can happen to an entry.
* `Action.create_text`, `Action.merge_text` — the text of a statement: a pattern and clauses.
* `Change.props`, `Change.assignments` — a clause for an entity that is found, taken apart.
* `Entries.written` — the entries that are told, in order.
* `Effect` — what is told about an entity that is found.
* `Decision` — what is told about an entry, with `Action.decision` and `Entry.decision`.
* `Entry.decision_eq` — the decision about an entry is that of its action.
-/

namespace GraphImport

/-! ## What decides about an entry -/

/-- The keys that a rule names. -/
def MatchRule.keys : MatchRule → List String
  | onKeys keys => keys
  | onProps | create | onMap _ => []

/-- The keys that a rule names. -/
def UpdateRule.keys : UpdateRule → List String
  | onKeys keys => keys
  | allProps | onMap _ => []

namespace Entry

/-- The keys that an entry needs, in the order in which they are looked up; an entry that is created
needs none. -/
def keys (e : Entry) : List String :=
  if e.matching.isCreate then [] else e.matching.keys ++ e.updating.keys

/-- The first of the keys that the properties of an entry lack. -/
def firstLacked? (e : Entry) (keys : List String) : Option String :=
  keys.find? fun key => decide (key ∉ e.props.entries.keys)

/-- The first key that an entry needs and lacks. -/
def lacked? (e : Entry) : Option String := e.firstLacked? e.keys

/-- The entries by which an entry is found: its properties, those of some keys in the order of the
keys, or a map. -/
def found (e : Entry) : Entries Value :=
  match e.matching with
  | .onProps | .create => e.props.entries
  | .onKeys keys => e.props.restricted keys
  | .onMap map => map.entries

/-- The entries that are written on an entity that is found. -/
def changed (e : Entry) : Entries Value :=
  match e.updating with
  | .allProps => e.props.entries
  | .onKeys keys => e.props.restricted keys
  | .onMap map => map.entries

/-- They take the place of all properties: a map does, if it is to replace them. -/
def replacesAll (e : Entry) : Bool :=
  match e.updating with
  | .onMap _ => e.replace
  | _ => false

/-- An entry is found by properties of its own or by a map. -/
theorem mem_found (e : Entry) {entry : String × Value} (h : entry ∈ e.found) :
    entry ∈ e.props.entries ∨ ∃ map, e.matching = .onMap map ∧ entry ∈ map.entries := by
  unfold found at h
  cases hmatching : e.matching with
  | onProps | create =>
      rw [hmatching] at h
      exact .inl h
  | onKeys keys =>
      rw [hmatching] at h
      exact .inl (Properties.mem_of_mem_restricted h)
  | onMap map =>
      rw [hmatching] at h
      exact .inr ⟨map, rfl, h⟩

/-- Properties of its own or a map are written on an entity that is found. -/
theorem mem_changed (e : Entry) {entry : String × Value} (h : entry ∈ e.changed) :
    entry ∈ e.props.entries ∨ ∃ map, e.updating = .onMap map ∧ entry ∈ map.entries := by
  unfold changed at h
  cases hupdating : e.updating with
  | allProps =>
      rw [hupdating] at h
      exact .inl h
  | onKeys keys =>
      rw [hupdating] at h
      exact .inl (Properties.mem_of_mem_restricted h)
  | onMap map =>
      rw [hupdating] at h
      exact .inr ⟨map, rfl, h⟩

end Entry

/-! ## Actions -/

namespace Entry

variable {e : Entry}

/-- **What happens to an entry**: it is created with its properties, or looked for by a pattern and
then created with its properties or changed. -/
theorem action_eq_ok {action : Action} (h : e.action = .ok action) :
    (e.matching.isCreate = true ∧ action = .create e.props) ∨
      (e.matching.isCreate = false ∧ ∃ pattern change, e.pattern = .ok pattern ∧
        e.change = .ok change ∧ action = .merge pattern e.props change) := by
  unfold Entry.action at h
  by_cases hcreate : e.matching.isCreate = true
  · rw [if_pos hcreate] at h
    exact .inl ⟨hcreate, (Except.ok.inj h).symm⟩
  · rw [if_neg hcreate] at h
    obtain ⟨pattern, hpattern, h⟩ := bind_eq_ok.mp h
    obtain ⟨change, hchange, h⟩ := bind_eq_ok.mp h
    exact .inr ⟨Bool.eq_false_iff.mpr hcreate, pattern, change, hpattern, hchange,
      (Except.ok.inj h).symm⟩

/-- An entry that is created without looking has its properties in the pattern. -/
theorem pattern_of_isCreate (h : e.matching.isCreate = true) : e.pattern = .ok e.props := by
  unfold pattern
  cases hmatching : e.matching with
  | onProps => rfl
  | create => rfl
  | onKeys keys => simp [hmatching, MatchRule.isCreate] at h
  | onMap map => simp [hmatching, MatchRule.isCreate] at h

/-- An action creates without looking exactly when the entry says so. -/
theorem creates_action {action : Action} (h : e.action = .ok action) :
    action.creates = e.matching.isCreate := by
  rcases action_eq_ok h with ⟨hcreate, rfl⟩ | ⟨hcreate, pattern, change, -, -, rfl⟩
  · exact hcreate.symm
  · exact hcreate.symm

end Entry

/-! ## Clauses -/

/-- The assignment of a map to a variable. -/
def Cypher.setMap (mode : StringMode) (v : Variable) (p : Properties) : String :=
  v.name ++ (" = " ++ mapLiteral mode p)

/-- A clause for a new entity assigns a map. -/
theorem createdClause_eq (mode : StringMode) (v : Variable) (p : Properties) :
    createdClause mode v p =
      if p.anyPresent then ["ON CREATE SET " ++ Cypher.setMap mode v p] else [] := by
  unfold createdClause Cypher.setMap
  simp only [String.append_assoc]

namespace Change

/-- The properties that a change writes. -/
def props : Change → Properties
  | fields p => p
  | whole p => p

/-- The assignments of a change. -/
def assignments (mode : StringMode) (v : Variable) : Change → String
  | fields p => Cypher.setItems mode v p
  | whole p => Cypher.setMap mode v p

/-- A clause for an entity that is found makes the assignments of the change. -/
theorem clause_eq (mode : StringMode) (v : Variable) (change : Change) :
    change.clause mode v =
      if change.props.anyPresent then ["ON MATCH SET " ++ change.assignments mode v] else [] := by
  cases change with
  | fields p => rfl
  | whole p =>
      unfold clause assignments Cypher.setMap
      simp only [String.append_assoc]
      rfl

end Change

/-- A clause stands behind a blank. -/
theorem join_clause (word text : String) :
    String.join ([word ++ text].map fun clause => " " ++ clause) = " " ++ word ++ text := by
  rw [List.map_singleton, String.join_cons, String.join_nil, String.append_empty,
    String.append_assoc]

/-- A statement that only creates is its pattern. -/
theorem Action.create_text (mode : StringMode) (pattern : Pattern) (p : Properties) :
    ((create p).statement mode pattern).text = "CREATE " ++ pattern.text mode p := by
  have hparts : (create p).parts mode pattern = ["CREATE " ++ pattern.text mode p] := rfl
  unfold statement
  rw [hparts, String.intercalate_singleton]

/-- A statement that looks for its entity is its pattern and the clauses behind it. -/
theorem Action.merge_text (mode : StringMode) (pattern : Pattern) (p created : Properties)
    (change : Change) :
    ((merge p created change).statement mode pattern).text =
      "MERGE " ++ (pattern.text mode p ++
        (String.join ((createdClause mode pattern.subject created).map fun clause => " " ++ clause)
          ++ String.join ((change.clause mode pattern.subject).map
            fun clause => " " ++ clause))) := by
  unfold statement parts
  simp only [List.cons_append, List.nil_append, intercalate_cons, List.map_append,
    String.join_append, String.append_assoc]

/-- No statement is empty. -/
theorem Action.text_ne_empty (mode : StringMode) (pattern : Pattern) (action : Action) :
    (action.statement mode pattern).text ≠ "" := by
  cases action with
  | create p => simp [create_text]
  | merge p created change => simp [merge_text]

/-! ## Decisions -/

/-- The entries that are told: those that are not null, in order, with one double for all that are no
number. -/
def Entries.written (entries : Entries Value) : Entries Value :=
  (entries.filter fun entry => !entry.2.isNull).map fun entry => (entry.1, entry.2.identifyNaN)

/-- The entries that are written for properties. -/
def Properties.written (p : Properties) : Entries Value := p.entries.written

/-- What is written on an entity that is found. -/
inductive Effect where
  /-- Nothing. -/
  | nothing
  /-- Each of the entries; other properties stay. -/
  | fields (entries : Entries Value)
  /-- The entries, in place of all properties. -/
  | whole (entries : Entries Value)

/-- What is decided about an entry. -/
inductive Decision where
  /-- It is created with the entries. -/
  | create (entries : Entries Value)
  /-- It is looked for by a pattern. If it is not there, it is created and gets its entries;
  otherwise the effect takes place. -/
  | merge (pattern created : Entries Value) (effect : Effect)

/-- The effect of a change; a change that writes no entry has none. -/
def Change.effect : Change → Effect
  | fields p => if p.anyPresent then .fields p.written else .nothing
  | whole p => if p.anyPresent then .whole p.written else .nothing

/-- The decision of an action. -/
def Action.decision : Action → Decision
  | create p => .create p.written
  | merge pattern created change => .merge pattern.written created.written change.effect

/-- The effect on an entity that is found; if no entry is written there is none. -/
def Entry.effect (e : Entry) : Effect :=
  if e.changed.written.isEmpty then .nothing
  else if e.replacesAll then .whole e.changed.written
  else .fields e.changed.written

/-- **What is decided about an entry**, or the first key that it needs and lacks. -/
def Entry.decision (e : Entry) : Except String Decision :=
  match e.lacked? with
  | some key => .error key
  | none =>
    .ok (if e.matching.isCreate then .create e.found.written
      else .merge e.found.written e.props.entries.written e.effect)

namespace Properties

theorem written_eq (p : Properties) :
    p.written = p.present.map fun entry => (entry.1, entry.2.identifyNaN) := rfl

/-- Nothing is told of properties that are all null. -/
theorem isEmpty_written (p : Properties) : p.written.isEmpty = !p.anyPresent := by
  rw [written_eq, List.isEmpty_map]
  exact (Bool.not_not _).symm

/-- Properties are told when one of them is not null. -/
theorem anyPresent_eq_true {p : Properties} :
    p.anyPresent = true ↔ ∃ entry rest, p.present = entry :: rest := by
  unfold anyPresent
  cases p.present with
  | nil => simp
  | cons entry rest => simp

/-- Nothing is written for properties that are all null. -/
theorem written_of_not_anyPresent {p : Properties} (h : ¬p.anyPresent = true) : p.written = [] := by
  apply List.isEmpty_iff.mp
  rw [p.isEmpty_written, Bool.eq_false_iff.mpr h]
  rfl

end Properties

/-- A change that writes no entry has no effect. -/
theorem Change.effect_of_not_anyPresent {change : Change}
    (h : ¬change.props.anyPresent = true) : change.effect = .nothing := by
  cases change with
  | fields p => exact if_neg h
  | whole p => exact if_neg h

/-! ## The decision about an entry -/

/-- There is an effect when an entry is told. -/
theorem Properties.if_anyPresent (p : Properties) (effect : Effect) :
    (if p.anyPresent then effect else .nothing) =
      if p.written.isEmpty then .nothing else effect := by
  rw [p.isEmpty_written]
  cases p.anyPresent with
  | false => rfl
  | true => rfl

namespace Entry

/-- **Selecting fails with the first key that is lacked**, and otherwise selects the entries of the
keys. -/
theorem select_of_keys (e : Entry) (keys : List String) :
    match e.firstLacked? keys with
    | some key => e.props.select keys = .error key
    | none => ∃ p, e.props.select keys = .ok p ∧ p.entries = e.props.restricted keys := by
  cases hlacked : e.firstLacked? keys with
  | some key =>
      unfold firstLacked? at hlacked
      obtain ⟨hkey, before, after, hkeys, hbefore⟩ := List.find?_eq_some_iff_append.mp hlacked
      refine Properties.selectInto_eq_error.mpr
        ⟨before, after, hkeys, fun other hother => ?_, of_decide_eq_true hkey⟩
      simpa using hbefore other hother
  | none =>
      have hthere : ∀ key ∈ keys, key ∈ e.props.entries.keys := by
        intro key hkey
        simpa using List.find?_eq_none.mp hlacked key hkey
      obtain ⟨p, hp⟩ := Properties.exists_select_iff.mpr hthere
      exact ⟨p, hp, Properties.entries_select hp⟩

/-- **What an entry is found by**, or the first key of its rule that it lacks. -/
theorem pattern_of_keys (e : Entry) :
    match e.firstLacked? e.matching.keys with
    | some key => e.pattern = .error key
    | none => ∃ p, e.pattern = .ok p ∧ p.entries = e.found := by
  unfold pattern found
  cases e.matching with
  | onProps => exact ⟨e.props, rfl, rfl⟩
  | create => exact ⟨e.props, rfl, rfl⟩
  | onKeys keys => exact e.select_of_keys keys
  | onMap map => exact ⟨map, rfl, rfl⟩

/-- An entry is found by the properties of its pattern. -/
theorem entries_pattern {e : Entry} {p : Properties} (h : e.pattern = .ok p) :
    p.entries = e.found := by
  have hkeys := e.pattern_of_keys
  cases hlacked : e.firstLacked? e.matching.keys with
  | some key =>
      rw [hlacked, h] at hkeys
      exact nomatch hkeys
  | none =>
      rw [hlacked] at hkeys
      obtain ⟨q, hq, hentries⟩ := hkeys
      cases h.symm.trans hq
      exact hentries

/-- **What is written on an entry that is found**, or the first key of its rule that it lacks. -/
theorem change_of_keys (e : Entry) :
    match e.firstLacked? e.updating.keys with
    | some key => e.change = .error key
    | none => ∃ p, e.change = .ok (if e.replacesAll then .whole p else .fields p) ∧
        p.entries = e.changed := by
  unfold change changed replacesAll
  cases e.updating with
  | allProps => exact ⟨e.props, rfl, rfl⟩
  | onKeys keys =>
      have hselect := e.select_of_keys keys
      dsimp only [UpdateRule.keys]
      cases hlacked : e.firstLacked? keys with
      | some key =>
          rw [hlacked] at hselect
          dsimp only at hselect ⊢
          rw [hselect]
          rfl
      | none =>
          rw [hlacked] at hselect
          obtain ⟨p, hp, hentries⟩ := hselect
          refine ⟨p, ?_, hentries⟩
          rw [hp]
          rfl
  | onMap map => exact ⟨map, rfl, rfl⟩

/-- A change writes the entries for an entity that is found, one by one or in place of all
properties. -/
theorem change_eq_ok {e : Entry} {change : Change} (h : e.change = .ok change) :
    ∃ p, change = (if e.replacesAll then .whole p else .fields p) ∧ p.entries = e.changed := by
  have hkeys := e.change_of_keys
  cases hlacked : e.firstLacked? e.updating.keys with
  | some key =>
      rw [hlacked, h] at hkeys
      exact nomatch hkeys
  | none =>
      rw [hlacked] at hkeys
      obtain ⟨p, hp, hentries⟩ := hkeys
      exact ⟨p, Except.ok.inj (h.symm.trans hp), hentries⟩

/-- A change writes these entries. -/
theorem entries_change {e : Entry} {change : Change} (h : e.change = .ok change) :
    change.props.entries = e.changed := by
  obtain ⟨p, rfl, hentries⟩ := change_eq_ok h
  cases e.replacesAll with
  | true => exact hentries
  | false => exact hentries

/-- The effect of a change is told by these entries. -/
theorem effect_change {e : Entry} {change : Change} (h : e.change = .ok change) :
    change.effect = e.effect := by
  obtain ⟨p, rfl, hentries⟩ := change_eq_ok h
  unfold effect
  rw [← hentries]
  cases e.replacesAll with
  | true => exact p.if_anyPresent (.whole p.written)
  | false => exact p.if_anyPresent (.fields p.written)

/-- **The decision about an entry is that of its action.** -/
theorem decision_eq (e : Entry) : e.decision = e.action.map Action.decision := by
  unfold decision lacked? keys action
  by_cases hcreate : e.matching.isCreate = true
  · rw [if_pos hcreate, if_pos hcreate, if_pos hcreate,
      ← entries_pattern (pattern_of_isCreate hcreate)]
    rfl
  · rw [if_neg hcreate, if_neg hcreate, if_neg hcreate]
    -- The keys of the first rule are looked up first, so its error is the first one.
    have hpattern := e.pattern_of_keys
    have hchange := e.change_of_keys
    have hboth : e.firstLacked? (e.matching.keys ++ e.updating.keys) =
        (e.firstLacked? e.matching.keys).or (e.firstLacked? e.updating.keys) := List.find?_append
    rw [hboth]
    cases hfound : e.firstLacked? e.matching.keys with
    | some key =>
        rw [hfound] at hpattern
        rw [hpattern]
        rfl
    | none =>
        rw [hfound] at hpattern
        obtain ⟨p, hp, hentries⟩ := hpattern
        rw [hp, ← hentries]
        cases hchanged : e.firstLacked? e.updating.keys with
        | some key =>
            rw [hchanged] at hchange
            rw [hchange]
            rfl
        | none =>
            rw [hchanged] at hchange
            obtain ⟨change, hok, -⟩ := hchange
            rw [hok, ← effect_change hok]
            rfl

end Entry

end GraphImport
