import GraphImport.Proofs.Compile.Plan

/-!
# What a compilation binds

A compilation requests the keys of its entries in ascending order, so it fills the scope from below:
behind the keys that were bound before come the new ones among the first natural numbers, up to the
place where it ends. A relationship requests its ends as well, but these are nodes of the document,
which are bound by then.

* `Scope.FilledTo` — a scope after another one was filled up to a number.
* `Node.Stops`, `Relationship.Stops` — how an entry fails, and up to where the scope is filled then.
* `Document.Extent` — up to where a compilation fills the scope, for every result that it can have.
* `Compile.Fills` — a step of the compiler fills the scope, with `Compile.Fills.each` for entries
  one after the other.
* `document_binds_exactly` — the scope after a compilation, whether it fails or not.
-/

namespace GraphImport

/-! ## Filling a scope -/

namespace Scope

variable {s t : Scope} {key count : Nat}

/-- The keys below the number that are not bound, in ascending order. -/
def unboundBelow (s : Scope) (count : Nat) : List Nat :=
  (List.range count).filter fun key => !s.contains key

/-- **The second scope is the first one, filled up to the number**: behind the keys of the first one
it has those below the number that were not bound there. -/
def FilledTo (s : Scope) (count : Nat) (t : Scope) : Prop := t.keys = s.keys ++ s.unboundBelow count

theorem contains_eq_false_iff : s.contains key = false ↔ key ∉ s.keys := by
  rw [← contains_iff, Bool.not_eq_true]

theorem mem_unboundBelow : key ∈ s.unboundBelow count ↔ key < count ∧ key ∉ s.keys := by
  unfold unboundBelow
  rw [List.mem_filter, List.mem_range, Bool.not_eq_true', contains_eq_false_iff]

/-- One number more is one key more, unless it is bound. -/
theorem unboundBelow_succ (s : Scope) (key : Nat) :
    s.unboundBelow (key + 1) =
      if key ∈ s.keys then s.unboundBelow key else s.unboundBelow key ++ [key] := by
  unfold unboundBelow
  rw [List.range_succ, List.filter_append]
  by_cases h : key ∈ s.keys
  · have hbound : s.contains key = true := contains_iff.mpr h
    rw [if_pos h, List.filter_cons_of_neg (by simp [hbound]), List.filter_nil, List.append_nil]
  · have hfree : s.contains key = false := contains_eq_false_iff.mpr h
    rw [if_neg h, List.filter_cons_of_pos (by simp [hfree]), List.filter_nil]

/-- A larger number leaves the keys below a smaller one in front. -/
theorem unboundBelow_prefix {larger : Nat} (h : count ≤ larger) :
    s.unboundBelow count <+: s.unboundBelow larger := by
  have hrange : List.range count <+: List.range larger := by
    have htake := List.take_prefix count (List.range larger)
    rwa [List.take_range, Nat.min_eq_left h] at htake
  exact hrange.filter _

theorem filledTo_zero (s : Scope) : s.FilledTo 0 s := (List.append_nil s.keys).symm

namespace FilledTo

/-- The bound keys are those of the first scope and those below the number. -/
theorem mem_iff (h : s.FilledTo count t) : key ∈ t.keys ↔ key ∈ s.keys ∨ key < count := by
  rw [h, List.mem_append, mem_unboundBelow]
  tauto

/-- What is bound stays as it is. -/
theorem extendedBy (h : s.FilledTo count t) : s.ExtendedBy t := ⟨_, h.symm⟩

/-- **Requesting the next number** fills the scope one further. -/
theorem extend (h : s.FilledTo key t) : s.FilledTo (key + 1) (t.extend key) := by
  have hkey : key ∈ t.keys ↔ key ∈ s.keys := by
    rw [h.mem_iff]
    simp
  unfold FilledTo at *
  rw [keys_extend, unboundBelow_succ]
  by_cases hmem : key ∈ s.keys
  · rw [if_pos (hkey.mpr hmem), if_pos hmem, h]
  · rw [if_neg (mt hkey.mp hmem), if_neg hmem, h, List.append_assoc]

/-- Requesting a smaller number changes nothing. -/
theorem extend_of_lt (h : s.FilledTo count t) (hkey : key < count) : t.extend key = t :=
  extend_of_mem (h.mem_iff.mpr (.inr hkey))

/-- **New keys are numbered in ascending order**, behind the keys that were bound before. -/
theorem find?_of_lt (h : s.FilledTo count t) (hkey : key < count) (hnew : key ∉ s.keys) :
    t.find? key = some ⟨s.size + (s.unboundBelow key).length⟩ := by
  have hmem : key ∈ t.keys := h.mem_iff.mpr (.inr hkey)
  have hnot : key ∉ s.keys ++ s.unboundBelow key := by
    rw [List.mem_append, mem_unboundBelow]
    rintro (hold | ⟨hlt, -⟩)
    · exact hnew hold
    · exact Nat.lt_irrefl key hlt
  -- The key stands behind the old keys and the new ones below it, whatever comes after it.
  obtain ⟨others, hothers⟩ := unboundBelow_prefix (s := s) (Nat.succ_le_of_lt hkey)
  have hkeys : t.keys = s.keys ++ s.unboundBelow key ++ key :: others := by
    rw [h, ← hothers, unboundBelow_succ, if_neg hnew, List.append_assoc, List.append_assoc,
      List.singleton_append]
  rw [find?_of_mem hmem, hkeys, List.idxOf_append_of_notMem hnot, List.idxOf_cons_self,
    List.length_append, Nat.add_zero]
  rfl

end FilledTo

end Scope

/-! ## Where a compilation ends -/

/-- **How a node fails**: it lacks a key. Its own key is bound by then. -/
inductive Node.Stops (i : Nat) (n : Node) : ImportError → (count : Nat) → Prop where
  /-- Its properties lack a key. -/
  | lacks {missing : String} (h : n.action = .error missing) :
    Stops i n (.unknownKey (.node i) missing) (i + 1)

/-- The place that a relationship names for an end. -/
def Relationship.place (r : Relationship) : Endpoint → Int
  | .source => r.source
  | .target => r.target

/-- **How a relationship fails.** Its own key is bound when its ends and its type were accepted. -/
inductive Relationship.Stops (nodeCount j : Nat) (r : Relationship) :
    ImportError → (count : Nat) → Prop where
  /-- An end is no node of the document. -/
  | outside (which : Endpoint) (h : ¬(0 ≤ r.place which ∧ r.place which < nodeCount)) :
    Stops nodeCount j r (.noSuchNode (.relationship j) which (r.place which) nodeCount)
      (nodeCount + j)
  /-- It has no type. -/
  | untyped (h : r.type = "") : Stops nodeCount j r (.noType (.relationship j)) (nodeCount + j)
  /-- Its properties lack a key. -/
  | lacks {missing : String} (h : r.action = .error missing) :
    Stops nodeCount j r (.unknownKey (.relationship j) missing) (nodeCount + j + 1)

/-- **Up to where a compilation fills the scope**, for every result that it can have. -/
inductive Document.Extent (settings : Compile.Settings) (d : Document) {β : Type} :
    Except ImportError β → (count : Nat) → Prop where
  /-- All entries are compiled. -/
  | whole (b : β) : Extent settings d (.ok b) (d.nodes.length + d.relationships.length)
  /-- There are too many nodes. -/
  | tooManyNodes {limit : Nat} (hlimit : settings.maxNodes = some limit)
    (h : limit < d.nodes.length) : Extent settings d (.error (.tooManyNodes d.nodes.length limit)) 0
  /-- There are too many relationships. -/
  | tooManyRelationships {limit : Nat} (hlimit : settings.maxRelationships = some limit)
    (h : limit < d.relationships.length) :
    Extent settings d (.error (.tooManyRelationships d.relationships.length limit)) 0
  /-- A node fails. -/
  | node {i : Nat} {n : Node} {error : ImportError} {count : Nat} (hn : d.nodes[i]? = some n)
    (h : n.Stops i error count) : Extent settings d (.error error) count
  /-- A relationship fails. -/
  | relationship {j : Nat} {r : Relationship} {error : ImportError} {count : Nat}
    (hr : d.relationships[j]? = some r) (h : r.Stops d.nodes.length j error count) :
    Extent settings d (.error error) count

/-- What is made of a result does not change how far the scope is filled. -/
theorem Document.Extent.map {settings : Compile.Settings} {d : Document} {β γ : Type}
    {result : Except ImportError β} {count : Nat} (h : d.Extent settings result count) (f : β → γ) :
    d.Extent settings (result.map f) count := by
  cases h with
  | whole b => exact .whole (f b)
  | tooManyNodes hlimit h => exact .tooManyNodes hlimit h
  | tooManyRelationships hlimit h => exact .tooManyRelationships hlimit h
  | node hn h => exact .node hn h
  | relationship hr h => exact .relationship hr h

namespace Compile

/-- A limit is exceeded when its check fails. -/
theorem checkLimit_eq_error {error : (count limit : Nat) → ImportError} {count : Nat}
    {limit : Option Nat} {e : ImportError} (h : checkLimit error count limit = .error e) :
    ∃ bound, limit = some bound ∧ bound < count ∧ e = error count bound := by
  cases limit with
  | none => exact nomatch h
  | some bound =>
      dsimp only [checkLimit] at h
      split_ifs at h with hlt
      exact ⟨bound, rfl, hlt, (Except.error.inj h).symm⟩

/-- A document is beyond the limits when it has too many nodes or too many relationships. -/
theorem extent_of_checkLimits {settings : Settings} {d : Document} {error : ImportError} (β : Type)
    (h : checkLimits settings d = .error error) :
    d.Extent settings (.error error : Except ImportError β) 0 := by
  unfold checkLimits at h
  rcases hnodes : checkLimit .tooManyNodes d.nodes.length settings.maxNodes with e | ⟨⟩
  · rw [hnodes] at h
    cases h
    obtain ⟨limit, hlimit, hlt, rfl⟩ := checkLimit_eq_error hnodes
    exact .tooManyNodes hlimit hlt
  · rw [hnodes] at h
    obtain ⟨limit, hlimit, hlt, rfl⟩ := checkLimit_eq_error h
    exact .tooManyRelationships hlimit hlt

/-- An end that is not found is no node of the document. -/
theorem endpoint_eq_error {ref : EntryRef} {which : Endpoint} {index : Int} {nodeCount : Nat}
    {error : ImportError} (h : endpoint ref which index nodeCount = .error error) :
    ¬(0 ≤ index ∧ index < nodeCount) ∧ error = .noSuchNode ref which index nodeCount := by
  unfold endpoint at h
  split_ifs at h with hinside
  exact ⟨hinside, (Except.error.inj h).symm⟩

/-- A relationship without ends has one that is no node of the document, or it has no type. -/
theorem stops_of_ends {nodeCount j : Nat} {r : Relationship} {error : ImportError}
    (h : ends (.relationship j) nodeCount r = .error error) :
    r.Stops nodeCount j error (nodeCount + j) := by
  unfold ends at h
  rcases hsource : endpoint (.relationship j) .source r.source nodeCount with e | source
  · rw [hsource] at h
    cases h
    obtain ⟨houtside, rfl⟩ := endpoint_eq_error hsource
    exact .outside .source houtside
  · rw [hsource] at h
    rcases htarget : endpoint (.relationship j) .target r.target nodeCount with e | target
    · rw [htarget] at h
      cases h
      obtain ⟨houtside, rfl⟩ := endpoint_eq_error htarget
      exact .outside .target houtside
    · rw [htarget] at h
      dsimp only [bind, Except.bind] at h
      split_ifs at h with htype
      · cases h
        exact .untyped (by simpa using htype)
      · exact nomatch h

/-- The statement of an entry is not found when it lacks a key. -/
theorem finish_eq_error {mode : StringMode} {ref : EntryRef} {pattern : Pattern} {e : Entry}
    {error : ImportError} (h : finish mode ref pattern e = .error error) :
    ∃ missing, e.action = .error missing ∧ error = .unknownKey ref missing := by
  rcases haction : e.action with missing | action
  · rw [finish_error haction] at h
    exact ⟨missing, rfl, (Except.error.inj h).symm⟩
  · rw [finish_ok haction] at h
    exact nomatch h

/-! ## Steps of the compiler -/

variable {α β : Type}

/-- **A step fills the scope**: it binds its own key, the next one, or it stops where it is said to.
Entries are told by their places; `base` is the key of the entry in place 0. -/
structure Fills (step : (key : Nat) → α → Scope → Scoped Statement) (base : Nat)
    (stops : (place : Nat) → α → ImportError → (count : Nat) → Prop) : Prop where
  /-- An entry that is compiled fills the scope one further. -/
  ok : ∀ {s scope after : Scope} {place : Nat} {entry : α} {statement : Statement},
    s.FilledTo (base + place) scope → step (base + place) entry scope = (.ok statement, after) →
      s.FilledTo (base + (place + 1)) after
  /-- An entry that fails stops. -/
  error : ∀ {s scope after : Scope} {place : Nat} {entry : α} {error : ImportError},
    s.FilledTo (base + place) scope → step (base + place) entry scope = (.error error, after) →
      ∃ count, stops place entry error count ∧ s.FilledTo count after

/-- Nodes fill the scope. -/
theorem fills_node (mode : StringMode) : Fills (node mode) 0 fun i n => n.Stops i where
  ok hfilled h := by
    have hafter := congrArg Prod.snd h
    cases hafter
    exact hfilled.extend
  error {s scope after place n error} hfilled h := by
    have hafter := congrArg Prod.snd h
    cases hafter
    obtain ⟨missing, haction, rfl⟩ := finish_eq_error (congrArg Prod.fst h)
    rw [Nat.zero_add] at *
    exact ⟨place + 1, .lacks haction, hfilled.extend⟩

/-- The scope after a relationship has its key; its ends are bound before. -/
theorem scope_relationship (nodeCount j : Nat) {source target : Nat} {r : Relationship}
    {s scope : Scope}
    (hfilled : s.FilledTo (nodeCount + j) scope)
    (hends : ends (.relationship j) nodeCount r = .ok (source, target)) :
    s.FilledTo (nodeCount + (j + 1))
      (((scope.extend (nodeCount + j)).extend source).extend target) := by
  obtain ⟨⟨-, hsource⟩, -, htarget⟩ := ends_eq_ok hends
  have hextend := hfilled.extend
  rw [hextend.extend_of_lt (by omega), hextend.extend_of_lt (by omega)]
  exact hextend

/-- Relationships fill the scope behind the nodes. -/
theorem fills_relationship (mode : StringMode) (nodeCount : Nat) :
    Fills (fun key => relationship mode key nodeCount) nodeCount
      fun j r => r.Stops nodeCount j where
  ok {s scope after j r statement} hfilled h := by
    rcases hends : ends (.relationship (nodeCount + j - nodeCount)) nodeCount r with
      error | ⟨source, target⟩
    · rw [relationship_error hends] at h
      exact nomatch h
    · rw [relationship_ok hends] at h
      cases congrArg Prod.snd h
      rw [Nat.add_sub_cancel_left] at hends
      exact scope_relationship nodeCount j hfilled hends
  error {s scope after j r error} hfilled h := by
    rcases hends : ends (.relationship (nodeCount + j - nodeCount)) nodeCount r with
      error | ⟨source, target⟩
    · rw [relationship_error hends] at h
      cases h
      rw [Nat.add_sub_cancel_left] at hends
      exact ⟨nodeCount + j, stops_of_ends hends, hfilled⟩
    · rw [relationship_ok hends] at h
      obtain ⟨missing, haction, rfl⟩ := finish_eq_error (congrArg Prod.fst h)
      cases congrArg Prod.snd h
      rw [Nat.add_sub_cancel_left] at *
      exact ⟨nodeCount + j + 1, .lacks haction,
        scope_relationship nodeCount j hfilled hends⟩

/-! ## All entries -/

/-- Up to where entries fill the scope: all of them are compiled, or one of them stops. -/
inductive Reach (stops : (place : Nat) → α → ImportError → (count : Nat) → Prop) (base place : Nat)
    (entries : List α) : Except ImportError β → (count : Nat) → Prop where
  /-- All of them are compiled. -/
  | whole (b : β) : Reach stops base place entries (.ok b) (base + (place + entries.length))
  /-- One of them stops. -/
  | stopped {i : Nat} {entry : α} {error : ImportError} {count : Nat}
    (hentry : entries[i]? = some entry) (h : stops (place + i) entry error count) :
    Reach stops base place entries (.error error) count

/-- Entries behind one that is compiled reach as far as with it. -/
theorem Reach.cons {stops : (place : Nat) → α → ImportError → (count : Nat) → Prop}
    {base place count : Nat} {rest : List α} {result : Except ImportError β}
    (h : Reach stops base (place + 1) rest result count) (entry : α) (f : β → β) :
    Reach stops base place (entry :: rest) (result.map f) count := by
  cases h with
  | whole b =>
      rw [Nat.add_right_comm, Nat.add_assoc place]
      exact .whole (f b)
  | stopped hentry hstops =>
      rw [Nat.add_right_comm, Nat.add_assoc place] at hstops
      exact .stopped (by rwa [List.getElem?_cons_succ]) hstops

/-- **Entries one after the other fill the scope** up to where they reach. -/
theorem Fills.each {step : (key : Nat) → α → Scope → Scoped Statement} {base : Nat}
    {stops : (place : Nat) → α → ImportError → (count : Nat) → Prop} (h : Fills step base stops)
    (entries : List α) (place : Nat) {s scope : Scope} (hscope : s.FilledTo (base + place) scope) :
    ∃ count, Reach stops base place entries (each step (base + place) entries scope).1 count ∧
      s.FilledTo count (each step (base + place) entries scope).2 := by
  induction entries generalizing scope place with
  | nil => exact ⟨base + place, .whole [], hscope⟩
  | cons entry rest ih =>
      rcases heq : step (base + place) entry scope with ⟨error | statement, after⟩
      · obtain ⟨count, hstops, hfilled⟩ := h.error hscope heq
        rw [each_cons_error heq]
        exact ⟨count, .stopped (i := 0) rfl hstops, hfilled⟩
      · obtain ⟨count, hreach, hfilled⟩ := ih (place + 1) (h.ok hscope heq)
        rw [each_cons_ok heq, Nat.add_assoc]
        exact ⟨count, hreach.cons entry _, hfilled⟩

/-- Relationships behind the nodes reach as far as a document whose nodes are compiled. -/
theorem Reach.extent {settings : Settings} {d : Document} {result : Except ImportError β}
    {count : Nat} (h : Reach (fun j r => r.Stops d.nodes.length j) d.nodes.length 0 d.relationships
      result count) : d.Extent settings result count := by
  cases h with
  | whole b =>
      rw [Nat.zero_add]
      exact .whole b
  | stopped hr hstops =>
      rw [Nat.zero_add] at hstops
      exact .relationship hr hstops

/-- The entries of a document fill the scope. -/
theorem entries_filledTo (settings : Settings) (d : Document) (s : Scope) :
    ∃ count, d.Extent settings (entries settings.mode d s).1 count ∧
      s.FilledTo count (entries settings.mode d s).2 := by
  obtain ⟨count, hreach, hfilled⟩ := (fills_node settings.mode).each d.nodes 0
    s.filledTo_zero
  rw [Nat.add_zero] at hreach hfilled
  rcases heq : each (node settings.mode) 0 d.nodes s with ⟨error | nodes, after⟩
  · rw [heq] at hreach hfilled
    rw [entries_error heq]
    cases hreach with
    | stopped hn hstops =>
        rw [Nat.zero_add] at hstops
        exact ⟨count, .node hn hstops, hfilled⟩
  · rw [heq] at hreach hfilled
    rw [entries_ok heq]
    cases hreach
    rw [Nat.zero_add, Nat.zero_add] at hfilled
    obtain ⟨count, hreach, hlast⟩ := (fills_relationship settings.mode d.nodes.length).each
      d.relationships 0 hfilled
    rw [Nat.add_zero] at hreach hlast
    exact ⟨count, hreach.extent.map _, hlast⟩

/-- **A document fills the scope**, whether it is compiled or not. -/
theorem document_filledTo (settings : Settings) (d : Document) (s : Scope) :
    ∃ count, d.Extent settings (document settings d s).1 count ∧
      s.FilledTo count (document settings d s).2 := by
  rcases document_cases settings d s with ⟨error, hlimits, heq⟩ | ⟨-, heq⟩
  · rw [heq]
    exact ⟨0, extent_of_checkLimits Script hlimits, s.filledTo_zero⟩
  · obtain ⟨count, hextent, hfilled⟩ := entries_filledTo settings d s
    rw [heq]
    exact ⟨count, hextent.map Script.mk, hfilled⟩

end Compile

/-- **What is bound after a compilation**: the keys that were bound before and the first natural
numbers, up to where the compilation ended. What was bound keeps its variable, and the other numbers
get the next variables in ascending order. -/
theorem document_binds_exactly (settings : Compile.Settings) (d : Document) (s : Scope) :
    ∃ count, d.Extent settings (Compile.document settings d s).1 count ∧
      (∀ key, (Compile.document settings d s).2.contains key = true ↔
        s.contains key = true ∨ key < count) ∧
      (∀ key v, s.find? key = some v → (Compile.document settings d s).2.find? key = some v) ∧
      ∀ key, key < count → s.contains key = false →
        (Compile.document settings d s).2.find? key =
          some ⟨s.size + (s.unboundBelow key).length⟩ := by
  obtain ⟨count, hextent, hfilled⟩ := Compile.document_filledTo settings d s
  refine ⟨count, hextent, fun key => ?_, fun key v hv => ?_, fun key hkey hnew => ?_⟩
  · rw [Scope.contains_iff, Scope.contains_iff]
    exact hfilled.mem_iff
  · exact hfilled.extendedBy.find? hv
  · exact hfilled.find?_of_lt hkey (Scope.contains_eq_false_iff.mp hnew)

/-- Nodes are bound when the first relationship has no type, and it is not. -/
example :
    (Compile.document .default ⟨[default, default, default], [default]⟩
      ⟨[7, 1], by decide⟩).2.keys = [7, 1, 0, 2] := rfl

end GraphImport
