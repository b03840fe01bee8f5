import GraphImport.Proofs.Check
import GraphImport.Proofs.Compile.Decision
import GraphImport.Proofs.Compile.Plan
import GraphImport.Proofs.Property.Selection

/-!
# Valid documents

What compilation checks, in its order: the limits, then the nodes by their positions, then the
relationships by theirs. Nothing else can make it fail, so a document is compiled exactly if it is
valid, and otherwise the first defect is reported, whatever happened to the scope before.

* `Entry.checks`, `Relationship.checks`, `Document.checks` — the checks, each with its error.
* `Entry.HasKeys`, `Relationship.IsValid`, `Document.IsValid` — the same without an order.
* `Compile.document_goesThrough` — compilation makes these checks in this order.
* `document_valid_or_first_defect` — when it succeeds, and what it reports otherwise.
-/

namespace GraphImport

/-! ## The checks -/

/-- The keys are there. -/
def Properties.checks (p : Properties) (keys : List String) : List (Check String) :=
  keys.map fun key => .of (key ∈ p.entries.keys) key

/-- Every key that an entry needs is a key of its properties. -/
def Entry.checks (ref : EntryRef) (e : Entry) : List (Check ImportError) :=
  e.keys.map fun key => .of (key ∈ e.props.entries.keys) (.unknownKey ref key)

/-- An end of a relationship is one of so many nodes. -/
def Compile.endCheck (ref : EntryRef) (nodeCount : Nat) (which : Endpoint) (index : Int) :
    Check ImportError :=
  .of (0 ≤ index ∧ index < nodeCount) (.noSuchNode ref which index nodeCount)

/-- The ends of a relationship are nodes, its type is not empty, and every key that it needs is
there. -/
def Relationship.checks (nodeCount j : Nat) (r : Relationship) : List (Check ImportError) :=
  [Compile.endCheck (.relationship j) nodeCount .source r.source,
    Compile.endCheck (.relationship j) nodeCount .target r.target,
    .of (r.type ≠ "") (.noType (.relationship j))] ++ r.toEntry.checks (.relationship j)

/-- There are not more than the limit. -/
def Compile.limitChecks (error : (count limit : Nat) → ImportError) (count : Nat) :
    Option Nat → List (Check ImportError)
  | none => []
  | some limit => [.of (count ≤ limit) (error count limit)]

/-- **What compilation checks**, in this order. -/
def Document.checks (maxNodes maxRelationships : Option Nat) (d : Document) :
    List (Check ImportError) :=
  Compile.limitChecks .tooManyNodes d.nodes.length maxNodes ++
    Compile.limitChecks .tooManyRelationships d.relationships.length maxRelationships ++
    (d.nodes.zipIdx.flatMap fun (n, i) => n.toEntry.checks (.node i)) ++
    d.relationships.zipIdx.flatMap fun (r, j) => r.checks d.nodes.length j

/-! ## Valid documents -/

/-- Every key that an entry needs is a key of its properties. -/
def Entry.HasKeys (e : Entry) : Prop :=
  e.matching.isCreate = false → ∀ key ∈ e.matching.keys ++ e.updating.keys, key ∈ e.props.entries.keys

/-- A relationship runs between nodes of the document, has a type and the keys that it needs. -/
structure Relationship.IsValid (nodeCount : Nat) (r : Relationship) : Prop where
  /-- It starts at a node. -/
  source : 0 ≤ r.source ∧ r.source < nodeCount
  /-- It ends at a node. -/
  target : 0 ≤ r.target ∧ r.target < nodeCount
  /-- It has a type. -/
  type : r.type ≠ ""
  /-- It has the keys that it needs. -/
  keys : r.toEntry.HasKeys

/-- **A valid document** is within the limits, and so are the ends of its relationships; types are
not empty, and no entry lacks a key that it needs. -/
structure Document.IsValid (maxNodes maxRelationships : Option Nat) (d : Document) : Prop where
  /-- There are not too many nodes. -/
  nodeCount : ∀ limit, maxNodes = some limit → d.nodes.length ≤ limit
  /-- There are not too many relationships. -/
  relationshipCount : ∀ limit, maxRelationships = some limit → d.relationships.length ≤ limit
  /-- The nodes have the keys that they need. -/
  nodes : ∀ n ∈ d.nodes, n.toEntry.HasKeys
  /-- The relationships are valid. -/
  relationships : ∀ r ∈ d.relationships, r.IsValid d.nodes.length

/-- The checks of an entry pass when it has the keys that it needs. -/
theorem Entry.checks_pass {ref : EntryRef} {e : Entry} :
    (∀ c ∈ e.checks ref, c.passes) ↔ e.HasKeys := by
  unfold Entry.checks Entry.keys HasKeys
  cases e.matching.isCreate with
  | true => simp
  | false => simp only [Bool.false_eq_true, if_false, List.forall_mem_map, Check.passes_of, true_imp_iff]

/-- The checks of a relationship pass when it is valid. -/
theorem Relationship.checks_pass {nodeCount j : Nat} {r : Relationship} :
    (∀ c ∈ r.checks nodeCount j, c.passes) ↔ r.IsValid nodeCount := by
  unfold Relationship.checks Compile.endCheck
  simp only [List.forall_mem_append, Entry.checks_pass, List.forall_mem_cons, Check.passes_of]
  constructor
  · rintro ⟨⟨hsource, htarget, htype, -⟩, hkeys⟩
    exact ⟨hsource, htarget, htype, hkeys⟩
  · rintro ⟨hsource, htarget, htype, hkeys⟩
    exact ⟨⟨hsource, htarget, htype, fun c hc => absurd hc List.not_mem_nil⟩, hkeys⟩

/-- The checks of a limit pass when it is kept. -/
theorem Compile.limitChecks_pass {error : (count limit : Nat) → ImportError} {count : Nat}
    {limit : Option Nat} : (∀ c ∈ limitChecks error count limit, c.passes) ↔
      ∀ bound, limit = some bound → count ≤ bound := by
  unfold limitChecks
  cases limit with
  | none => simp
  | some bound => simp

/-- What holds of all entries in their places holds of all entries. -/
theorem forall_mem_zipIdx {α : Type} (entries : List α) {P : α → Prop} :
    (∀ entry ∈ entries.zipIdx, P entry.1) ↔ ∀ entry ∈ entries, P entry := by
  constructor
  · intro h entry hentry
    obtain ⟨i, hi⟩ := List.mem_iff_getElem?.mp hentry
    exact h (entry, i) (List.mem_zipIdx_iff_getElem?.mpr hi)
  · intro h entry hentry
    exact h entry.1 (List.mem_of_getElem? (List.mem_zipIdx_iff_getElem?.mp hentry))

/-- **The checks of a document pass exactly if it is valid.** -/
theorem Document.checks_pass {maxNodes maxRelationships : Option Nat} {d : Document} :
    (∀ c ∈ d.checks maxNodes maxRelationships, c.passes) ↔ d.IsValid maxNodes maxRelationships := by
  have hnodes : (∀ c ∈ d.nodes.zipIdx.flatMap fun (n, i) => n.toEntry.checks (.node i), c.passes) ↔
      ∀ n ∈ d.nodes, n.toEntry.HasKeys := by
    rw [List.forall_mem_flatMap, ← forall_mem_zipIdx d.nodes]
    exact forall₂_congr fun _ _ => Entry.checks_pass
  have hrelationships : (∀ c ∈ d.relationships.zipIdx.flatMap fun (r, j) =>
      r.checks d.nodes.length j, c.passes) ↔
      ∀ r ∈ d.relationships, r.IsValid d.nodes.length := by
    rw [List.forall_mem_flatMap, ← forall_mem_zipIdx d.relationships]
    exact forall₂_congr fun _ _ => Relationship.checks_pass
  unfold Document.checks
  simp only [List.forall_mem_append, Compile.limitChecks_pass, hnodes, hrelationships]
  constructor
  · rintro ⟨⟨⟨hnodeCount, hrelationshipCount⟩, hn⟩, hr⟩
    exact ⟨hnodeCount, hrelationshipCount, hn, hr⟩
  · rintro ⟨hnodeCount, hrelationshipCount, hn, hr⟩
    exact ⟨⟨⟨hnodeCount, hrelationshipCount⟩, hn⟩, hr⟩

/-! ## Compilation makes the checks -/

/-- Selecting looks up the keys in their order. -/
theorem Properties.select_goesThrough (p : Properties) (keys : List String) :
    GoesThrough (p.checks keys) (p.select keys) := by
  cases hselect : p.select keys with
  | ok q =>
      intro c hc
      obtain ⟨key, hkey, rfl⟩ := List.mem_map.mp hc
      exact exists_select_iff.mp ⟨q, hselect⟩ key hkey
  | error key =>
      obtain ⟨before, after, rfl, hbefore, hlacked⟩ := selectInto_eq_error.mp hselect
      unfold checks
      rw [List.map_append]
      refine FirstFailure.append_left (fun c hc => ?_) (.here hlacked rfl)
      obtain ⟨other, hother, rfl⟩ := List.mem_map.mp hc
      exact hbefore other hother

namespace Entry

/-- What an entry is found by needs the keys of its rule. -/
theorem pattern_goesThrough (e : Entry) :
    GoesThrough (e.props.checks e.matching.keys) e.pattern := by
  unfold pattern
  cases e.matching with
  | onProps => exact .ok _
  | create => exact .ok _
  | onKeys keys => exact e.props.select_goesThrough keys
  | onMap map => exact .ok _

/-- What is written on an entry needs the keys of its rule. -/
theorem change_goesThrough (e : Entry) :
    GoesThrough (e.props.checks e.updating.keys) e.change := by
  unfold change
  cases e.updating with
  | allProps => exact .ok _
  | onKeys keys => exact (e.props.select_goesThrough keys).map Change.fields
  | onMap map => exact .ok _

/-- **What happens to an entry** is decided when the keys that it needs are there. -/
theorem action_goesThrough (e : Entry) : GoesThrough (e.props.checks e.keys) e.action := by
  unfold action keys
  by_cases hcreate : e.matching.isCreate = true
  · rw [if_pos hcreate, if_pos hcreate]
    exact .ok _
  · rw [if_neg hcreate, if_neg hcreate]
    have hchecks : e.props.checks (e.matching.keys ++ e.updating.keys) =
        e.props.checks e.matching.keys ++ e.props.checks e.updating.keys := List.map_append
    rw [hchecks]
    apply e.pattern_goesThrough.bind
    intro pattern _
    exact e.change_goesThrough.map (Action.merge pattern e.props)

end Entry

namespace Plan

/-- The command for an entry is found when the keys that the entry needs are there. -/
theorem finish_goesThrough (ref : EntryRef) (pattern : Pattern) (e : Entry) :
    GoesThrough (e.checks ref) (finish ref pattern e) := by
  have hfinish : finish ref pattern e =
      (e.action.map (Command.mk pattern)).mapError (ImportError.unknownKey ref) := by
    unfold finish
    cases e.action with
    | ok action => rfl
    | error key => rfl
  have hchecks : e.checks ref = (e.props.checks e.keys).map (Check.relabel (.unknownKey ref)) := by
    unfold Entry.checks Properties.checks
    simp [Function.comp_def]
  rw [hfinish, hchecks]
  exact (e.action_goesThrough.map _).relabel _

end Plan

namespace Compile

/-- An end of a relationship is looked up among the nodes. -/
theorem endpoint_goesThrough (ref : EntryRef) (which : Endpoint) (index : Int) (nodeCount : Nat) :
    GoesThrough [endCheck ref nodeCount which index] (endpoint ref which index nodeCount) := by
  unfold endpoint
  by_cases h : 0 ≤ index ∧ index < nodeCount
  · rw [if_pos h]
    exact .passed h index.toNat
  · rw [if_neg h]
    exact FirstFailure.here h rfl

/-- The start of a relationship is checked first, then its end and then its type. -/
theorem ends_goesThrough (ref : EntryRef) (nodeCount : Nat) (r : Relationship) :
    GoesThrough ([endCheck ref nodeCount .source r.source, endCheck ref nodeCount .target r.target,
      .of (r.type ≠ "") (.noType ref)]) (ends ref nodeCount r) := by
  unfold ends
  apply (endpoint_goesThrough ref .source r.source nodeCount).bind
  intro source _
  apply (endpoint_goesThrough ref .target r.target nodeCount).bind
  intro target _
  by_cases htype : r.type.isEmpty = true
  · rw [if_pos htype]
    have hempty : ¬r.type ≠ "" := by simpa using htype
    exact FirstFailure.here hempty rfl
  · rw [if_neg htype]
    have htype : r.type ≠ "" := by simpa using htype
    exact .passed htype _

/-- A limit is checked. -/
theorem checkLimit_goesThrough (error : (count limit : Nat) → ImportError) (count : Nat)
    (limit : Option Nat) :
    GoesThrough (limitChecks error count limit) (checkLimit error count limit) := by
  cases limit with
  | none => exact .ok ()
  | some bound =>
      dsimp only [checkLimit, limitChecks]
      by_cases h : bound < count
      · rw [if_pos h]
        exact FirstFailure.here (Nat.not_le.mpr h) rfl
      · rw [if_neg h]
        exact .passed (Nat.not_lt.mp h) ()

end Compile

namespace Plan

variable {ρ : Nat → Variable}

/-- A relationship is checked by its position among the relationships. -/
theorem relationship_goesThrough (nodeCount : Nat) (ρ : Nat → Variable) (j : Nat)
    (r : Relationship) :
    GoesThrough (r.checks nodeCount j) (relationship nodeCount ρ (nodeCount + j) r) := by
  unfold relationship Relationship.checks
  rw [Nat.add_sub_cancel_left]
  have hends := Compile.ends_goesThrough (.relationship j) nodeCount r
  have hbind := hends.bind fun found _ =>
    finish_goesThrough (.relationship j)
      (.relationship (ρ (nodeCount + j)) (ρ found.1) (ρ found.2) r.type) r.toEntry
  dsimp only
  rcases hfound : Compile.ends (.relationship j) nodeCount r with error | ⟨source, target⟩
  · rw [hfound] at hbind
    exact hbind
  · rw [hfound] at hbind
    exact hbind

/-- **Entries one after the other** are checked in their order; `base` is the key of the entry in
place 0. -/
theorem each_goesThrough {α : Type} (base : Nat)
    {step : (key : Nat) → α → Except ImportError Command}
    {entryChecks : (place : Nat) → α → List (Check ImportError)}
    (hstep : ∀ place entry, GoesThrough (entryChecks place entry) (step (base + place) entry))
    (place : Nat) (entries : List α) :
    GoesThrough ((entries.zipIdx place).flatMap fun (entry, place) => entryChecks place entry)
      (each step (base + place) entries) := by
  induction entries generalizing place with
  | nil => exact .ok []
  | cons entry rest ih =>
      have hbind : each step (base + place) (entry :: rest) =
          step (base + place) entry >>= fun command =>
            (each step (base + (place + 1)) rest).map (command :: ·) := by
        rw [each, Nat.add_assoc]
        cases step (base + place) entry with
        | error error => rfl
        | ok command =>
            dsimp only
            cases each step (base + (place + 1)) rest with
            | error error => rfl
            | ok commands => rfl
      rw [hbind, List.zipIdx_cons, List.flatMap_cons]
      exact (hstep place entry).bind fun command _ => (ih (place + 1)).map _

/-- The nodes are checked before the relationships. -/
theorem entries_goesThrough (ρ : Nat → Variable) (d : Document) :
    GoesThrough ((d.nodes.zipIdx.flatMap fun (n, i) => n.toEntry.checks (.node i)) ++
      d.relationships.zipIdx.flatMap fun (r, j) => r.checks d.nodes.length j) (entries ρ d) := by
  have hnode : ∀ i n, GoesThrough (n.toEntry.checks (.node i)) (node ρ (0 + i) n) := by
    intro i n
    rw [Nat.zero_add]
    exact finish_goesThrough _ _ _
  have hnodes := each_goesThrough 0 hnode 0 d.nodes
  have hrelationships := each_goesThrough d.nodes.length
    (relationship_goesThrough d.nodes.length ρ) 0 d.relationships
  have hbind := hnodes.bind fun nodes _ => hrelationships.map (nodes ++ ·)
  have hentries : entries ρ d = each (node ρ) 0 d.nodes >>= fun nodes =>
      (each (relationship d.nodes.length ρ) d.nodes.length d.relationships).map (nodes ++ ·) := by
    unfold entries
    cases each (node ρ) 0 d.nodes with
    | error error => rfl
    | ok nodes =>
        dsimp only
        cases each (relationship d.nodes.length ρ) d.nodes.length d.relationships with
        | error error => rfl
        | ok relationships => rfl
  rw [hentries]
  exact hbind

/-- The limits are checked before the entries. -/
theorem document_goesThrough (settings : Compile.Settings) (ρ : Nat → Variable) (d : Document) :
    GoesThrough (d.checks settings.maxNodes settings.maxRelationships) (document settings ρ d) := by
  have hlimits := (Compile.checkLimit_goesThrough .tooManyNodes d.nodes.length
    settings.maxNodes).bind fun _ _ => Compile.checkLimit_goesThrough .tooManyRelationships
      d.relationships.length settings.maxRelationships
  have hbind := hlimits.bind fun _ _ => entries_goesThrough ρ d
  have hdocument : document settings ρ d =
      Compile.checkLimits settings d >>= fun _ => entries ρ d := by
    unfold document
    cases Compile.checkLimits settings d with
    | error error => rfl
    | ok _ => rfl
  unfold Document.checks
  rw [hdocument, List.append_assoc (_ ++ _)]
  exact hbind

end Plan

/-- **Compilation makes these checks in this order**, in every scope. -/
theorem Compile.document_goesThrough (settings : Settings) (d : Document) (scope : Scope) :
    GoesThrough (d.checks settings.maxNodes settings.maxRelationships)
      (document settings d scope).1 := by
  have hresult := document_result settings d scope _ (Scope.namedBy_naming _)
  rw [hresult]
  exact (Plan.document_goesThrough settings _ d).map _

/-! ## One error for each check -/

/-- Each check of an entry has one error. -/
theorem Entry.checks_hasOneError {ref : EntryRef} {e : Entry} :
    ∀ c ∈ e.checks ref, c.HasOneError := by
  intro c hc
  obtain ⟨key, -, rfl⟩ := List.mem_map.mp hc
  exact Check.hasOneError_of _ _

/-- Each check of a relationship has one error. -/
theorem Relationship.checks_hasOneError {nodeCount j : Nat} {r : Relationship} :
    ∀ c ∈ r.checks nodeCount j, c.HasOneError := by
  unfold Relationship.checks Compile.endCheck
  rw [List.forall_mem_append]
  refine ⟨?_, Entry.checks_hasOneError⟩
  simp [Check.hasOneError_of]

/-- The check of a limit has one error. -/
theorem Compile.limitChecks_hasOneError {error : (count limit : Nat) → ImportError} {count : Nat}
    {limit : Option Nat} : ∀ c ∈ limitChecks error count limit, c.HasOneError := by
  unfold limitChecks
  cases limit with
  | none => simp
  | some bound => simp [Check.hasOneError_of]

/-- Each check of a document has one error. -/
theorem Document.checks_hasOneError {maxNodes maxRelationships : Option Nat} {d : Document} :
    ∀ c ∈ d.checks maxNodes maxRelationships, c.HasOneError := by
  unfold Document.checks
  simp only [List.forall_mem_append, List.forall_mem_flatMap]
  exact ⟨⟨⟨Compile.limitChecks_hasOneError, Compile.limitChecks_hasOneError⟩,
    fun _ _ => Entry.checks_hasOneError⟩, fun _ _ => Relationship.checks_hasOneError⟩

/-! ## Success and failure -/

/-- **A document is compiled exactly if it is valid, and otherwise its first defect is reported.**
The checks come in this order: the number of nodes, the number of relationships, the nodes by their
positions and then the relationships by theirs; of a relationship first its start, then its end and
its type; of an entry that is not created without looking, first the keys that it is found by and
then the keys that are written. Neither the scope nor the way in which strings are written plays a
part. -/
theorem document_valid_or_first_defect (settings : Compile.Settings) (d : Document)
    (scope : Scope) :
    ((∃ script, (Compile.document settings d scope).1 = .ok script) ↔
        d.IsValid settings.maxNodes settings.maxRelationships) ∧
      ∀ error, (Compile.document settings d scope).1 = .error error ↔
        FirstFailure (d.checks settings.maxNodes settings.maxRelationships) error := by
  have hchecks := Compile.document_goesThrough settings d scope
  refine ⟨?_, fun error => hchecks.error_iff Document.checks_hasOneError⟩
  rw [hchecks.ok_iff]
  exact Document.checks_pass

end GraphImport
