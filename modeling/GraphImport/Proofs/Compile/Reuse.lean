import GraphImport.Proofs.Compile.Scoping

/-!
# Reuse of scopes

A scope in which only whole documents were compiled holds the first natural numbers in their order,
and so every key has its own number. That does not depend on which documents these were and where
they failed, and therefore a further document is compiled as if the scope were new.

* `Compile.KeepsSegments` — a step of the compiler leaves no gap between the keys.
* `Scope.Turn` — what can happen to a scope of whole documents.
* `document_reuse` — a scope of whole documents does not change what comes next.
-/

namespace GraphImport

namespace Scope

variable {s t : Scope} {key size : Nat}

theorem isSegment_empty : empty.IsSegment 0 := rfl

/-- A bound key is below the size of its segment. -/
theorem IsSegment.lt_of_mem (h : s.IsSegment size) (hkey : key ∈ s.keys) : key < size := by
  rw [h] at hkey
  exact List.mem_range.mp hkey

/-- A segment that grows to another one does not get smaller. -/
theorem IsSegment.le_of_extendedBy {larger : Nat} (h : s.IsSegment size) (ht : t.IsSegment larger)
    (hst : s.ExtendedBy t) : size ≤ larger := by
  have hle := hst.length_le
  rwa [h, ht, List.length_range, List.length_range] at hle

/-- Requesting a key of a segment changes nothing. -/
theorem IsSegment.extend_of_lt (h : s.IsSegment size) (hkey : key < size) : s.extend key = s := by
  refine extend_of_mem ?_
  rw [h]
  exact List.mem_range.mpr hkey

end Scope

namespace Compile

variable {α : Type} {mode : StringMode} {step : (key : Nat) → α → Scope → Scoped Statement}
  {plan : (Nat → Variable) → (key : Nat) → α → Except ImportError Command} {first : Nat}

/-! ## Steps -/

/-- **A step leaves no gap**: it turns segments that hold the keys below `first` into segments,
when its key is in the segment or the next one. -/
def KeepsSegments (step : (key : Nat) → α → Scope → Scoped Statement) (first : Nat) : Prop :=
  ∀ (key : Nat) (entry : α) (scope : Scope) (size : Nat), scope.IsSegment size → first ≤ size →
    key ≤ size → ∃ larger, (step key entry scope).2.IsSegment larger

/-- Compiling a node leaves no gap. -/
theorem keepsSegments_node (mode : StringMode) : KeepsSegments (node mode) 0 :=
  fun _ _ _ _ h _ hkey => ⟨_, h.extend hkey⟩

/-- Compiling a relationship leaves no gap when all nodes are bound. -/
theorem keepsSegments_relationship (mode : StringMode) (nodeCount : Nat) :
    KeepsSegments (fun key => relationship mode key nodeCount) nodeCount := by
  intro key r scope size h hfirst hkey
  dsimp only
  rcases hends : ends (.relationship (key - nodeCount)) nodeCount r with error | ⟨source, target⟩
  · rw [relationship_error hends]
    exact ⟨size, h⟩
  · obtain ⟨⟨-, hsource⟩, -, htarget⟩ := ends_eq_ok hends
    have hextend := h.extend hkey
    have hle : nodeCount ≤ max size (key + 1) := Nat.le_trans hfirst (Nat.le_max_left _ _)
    rw [relationship_ok hends, hextend.extend_of_lt (Nat.lt_of_lt_of_le hsource hle),
      hextend.extend_of_lt (Nat.lt_of_lt_of_le htarget hle)]
    exact ⟨_, hextend⟩

/-- **Entries one after the other leave no gap**, wherever compilation ends. -/
theorem Tracks.each_isSegment (h : Tracks mode step plan) (hkeeps : KeepsSegments step first)
    (entries : List α) {key size : Nat} {scope : Scope} (hscope : scope.IsSegment size)
    (hfirst : first ≤ size) (hkey : key ≤ size) :
    ∃ larger, (each step key entries scope).2.IsSegment larger := by
  induction entries generalizing key size scope with
  | nil => exact ⟨size, hscope⟩
  | cons entry rest ih =>
      obtain ⟨larger, hafter⟩ := hkeeps key entry scope size hscope hfirst hkey
      have hgrows := hscope.le_of_extendedBy hafter (h.grows key entry scope)
      have hbinds := h.binds key entry scope
      rcases heq : step key entry scope with ⟨error | statement, after⟩
      · rw [heq] at hafter
        rw [each_cons_error heq]
        exact ⟨larger, hafter⟩
      · -- The key of this entry is bound now, so the next key is in the segment or behind it.
        rw [heq] at hafter hbinds
        rw [each_cons_ok heq]
        exact ih hafter (Nat.le_trans hfirst hgrows) (hafter.lt_of_mem (hbinds statement rfl))

/-! ## Documents -/

/-- The entries of a document leave no gap. -/
theorem entries_isSegment (mode : StringMode) (d : Document) {scope : Scope} {size : Nat}
    (h : scope.IsSegment size) : ∃ larger, (entries mode d scope).2.IsSegment larger := by
  have hnodes := tracks_node mode
  obtain ⟨larger, hafter⟩ := hnodes.each_isSegment (keepsSegments_node mode) d.nodes h
    (Nat.zero_le size) (Nat.zero_le size)
  rcases heq : each (node mode) 0 d.nodes scope with ⟨error | nodes, after⟩
  · rw [heq] at hafter
    rw [entries_error heq]
    exact ⟨larger, hafter⟩
  · have hbinds := hnodes.each_binds (congrArg Prod.fst heq)
    rw [heq] at hafter hbinds
    -- The last node is bound, so the segment covers all nodes, and ends of relationships are in it.
    have hle : d.nodes.length ≤ larger := by
      rcases Nat.eq_zero_or_pos d.nodes.length with hzero | hpos
      · exact hzero ▸ Nat.zero_le larger
      · have hlast := hafter.lt_of_mem (hbinds (d.nodes.length - 1) (by omega))
        omega
    rw [entries_ok heq]
    exact (tracks_relationship mode d.nodes.length).each_isSegment
      (keepsSegments_relationship mode d.nodes.length) d.relationships hafter hle hle

/-- **A document leaves no gap**, whether it is compiled or not. -/
theorem document_isSegment (settings : Settings) (d : Document) {scope : Scope} {size : Nat}
    (h : scope.IsSegment size) : ∃ larger, (document settings d scope).2.IsSegment larger := by
  rcases document_cases settings d scope with ⟨error, -, heq⟩ | ⟨-, heq⟩
  · rw [heq]
    exact ⟨size, h⟩
  · rw [heq]
    exact entries_isSegment settings.mode d h

/-- **Every scope without gaps gives the planned script**, with the keys as numbers. -/
theorem document_of_isSegment (settings : Settings) (d : Document) {scope : Scope} {size : Nat}
    (h : scope.IsSegment size) :
    (document settings d scope).1 =
      (Plan.document settings Variable.mk d).map (Command.script settings.mode) := by
  obtain ⟨larger, hafter⟩ := document_isSegment settings d h
  exact document_result settings d scope Variable.mk hafter.namedBy

end Compile

/-- A scope of its own gives the planned script, with the keys as numbers. -/
theorem compile_eq_plan (settings : Compile.Settings) (d : Document) :
    compile settings d =
      (Plan.document settings Variable.mk d).map (Command.script settings.mode) :=
  Compile.document_of_isSegment settings d Scope.isSegment_empty

/-! ## Turns -/

namespace Scope

/-- What can happen to a scope of whole documents. -/
inductive Turn where
  /-- All keys are forgotten. -/
  | reset
  /-- A document is compiled. -/
  | document (settings : Compile.Settings) (d : Document)

/-- A turn as a request. -/
def Turn.request : Turn → Request
  | reset => .reset
  | document settings d => .document settings d

/-- Every turn leaves a segment of a segment. -/
theorem Turn.isSegment (turn : Turn) {scope : Scope} {size : Nat} (h : scope.IsSegment size) :
    ∃ larger, (turn.request.run scope).IsSegment larger := by
  cases turn with
  | reset => exact ⟨0, rfl⟩
  | document settings d => exact Compile.document_isSegment settings d h

/-- The scope after turns one after the other, in the beginning without keys. -/
def ofTurns (turns : List Turn) : Scope := after (turns.map Turn.request)

/-- **After any turns the keys have no gap.** -/
theorem ofTurns_isSegment (turns : List Turn) : ∃ size, (ofTurns turns).IsSegment size := by
  have hfold : ∀ (turns : List Turn) (scope : Scope) (size : Nat), scope.IsSegment size →
      ∃ larger, ((turns.map Turn.request).foldl (fun scope request => request.run scope)
        scope).IsSegment larger := by
    intro turns
    induction turns with
    | nil => exact fun scope size h => ⟨size, h⟩
    | cons turn rest ih =>
        intro scope size h
        obtain ⟨larger, hlarger⟩ := turn.isSegment h
        exact ih _ larger hlarger
  exact hfold turns .empty 0 isSegment_empty

end Scope

/-- **Reuse changes nothing**: in a scope of whole documents, however many there were and wherever
they failed, a document has the result that it has in a scope of its own. Every key that is bound in
the end has its own number, and so the statements of a script call node `i` by `x` and `i`, and
relationship `j` by `x` and the sum of `j` and the number of nodes. -/
theorem document_reuse (turns : List Scope.Turn) (settings : Compile.Settings) (d : Document) :
    (Compile.document settings d (.ofTurns turns)).1 = compile settings d ∧
      (∀ key v, (Compile.document settings d (.ofTurns turns)).2.find? key = some v →
        v.name = "x" ++ toString key) ∧
      ∀ script, (Compile.document settings d (.ofTurns turns)).1 = .ok script →
        WellScoped settings.mode d script (Compile.document settings d (.ofTurns turns)).2
          Variable.mk := by
  obtain ⟨size, hsize⟩ := Scope.ofTurns_isSegment turns
  obtain ⟨larger, hlarger⟩ := Compile.document_isSegment settings d hsize
  have hresult := Compile.document_of_isSegment settings d hsize
  refine ⟨?_, fun key v hv => ?_, fun script hscript => ?_⟩
  · rw [hresult, compile_eq_plan]
  · rw [← hlarger.namedBy key v hv]
    rfl
  · have hbinds := Compile.document_binds hscript
    rw [hscript] at hresult
    obtain ⟨commands, hcommands, rfl⟩ := map_eq_ok.mp hresult.symm
    refine Plan.wellScoped (Plan.entries_of_document hcommands) fun key hkey => ?_
    have hfound := Scope.find?_of_mem (hbinds key hkey)
    rw [hfound, hlarger.namedBy key _ hfound]

end GraphImport
