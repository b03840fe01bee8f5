import GraphImport.Proofs.Compile.Decision
import GraphImport.Proofs.Compile.Plan
import GraphImport.Proofs.Property.Selection

/-!
# Erasing strings

A document with all its strings emptied is planned like the document itself: whether a plan is found
does not depend on what strings hold, and neither does anything in it but the strings.

* `Document.eraseStrings` — the document with all strings in its properties emptied.
* `Command.eraseStrings` — the command with all strings emptied.
* `Plan.document_eraseStrings` — the commands of an emptied document are the emptied commands.
-/

namespace GraphImport

/-! ## Emptied documents -/

/-- The properties with all strings emptied. -/
def Properties.eraseStrings (p : Properties) : Properties := p.mapValues Value.eraseStrings

/-- The rule with all strings in its properties emptied. -/
def MatchRule.eraseStrings : MatchRule → MatchRule
  | onProps => .onProps
  | create => .create
  | onKeys keys => .onKeys keys
  | onMap map => .onMap map.eraseStrings

/-- The rule with all strings in its properties emptied. -/
def UpdateRule.eraseStrings : UpdateRule → UpdateRule
  | allProps => .allProps
  | onKeys keys => .onKeys keys
  | onMap map => .onMap map.eraseStrings

/-- The entry with all strings in its properties emptied. -/
def Entry.eraseStrings (e : Entry) : Entry where
  props := e.props.eraseStrings
  matching := e.matching.eraseStrings
  updating := e.updating.eraseStrings
  replace := e.replace

/-- The node with all strings in its properties emptied. -/
def Node.eraseStrings (n : Node) : Node := { n with toEntry := n.toEntry.eraseStrings }

/-- The relationship with all strings in its properties emptied. -/
def Relationship.eraseStrings (r : Relationship) : Relationship :=
  { r with toEntry := r.toEntry.eraseStrings }

/-- The document with all strings in its properties emptied. Labels and types stay. -/
def Document.eraseStrings (d : Document) : Document :=
  ⟨d.nodes.map Node.eraseStrings, d.relationships.map Relationship.eraseStrings⟩

/-! ## Emptied commands -/

/-- The change with all strings emptied. -/
def Change.eraseStrings : Change → Change
  | fields p => .fields p.eraseStrings
  | whole p => .whole p.eraseStrings

/-- The action with all strings emptied. -/
def Action.eraseStrings : Action → Action
  | create p => .create p.eraseStrings
  | merge pattern created change =>
    .merge pattern.eraseStrings created.eraseStrings change.eraseStrings

/-- The command with all strings emptied. -/
def Command.eraseStrings (c : Command) : Command := { c with action := c.action.eraseStrings }

/-! ## Entries -/

namespace Entry

/-- An emptied entry is found by the emptied properties. -/
theorem pattern_eraseStrings (e : Entry) :
    e.eraseStrings.pattern = e.pattern.map Properties.eraseStrings := by
  unfold pattern
  cases h : e.matching with
  | onProps => simp only [eraseStrings, h, MatchRule.eraseStrings]; rfl
  | create => simp only [eraseStrings, h, MatchRule.eraseStrings]; rfl
  | onKeys keys =>
      simp only [eraseStrings, h, MatchRule.eraseStrings]
      exact Properties.select_mapValues Value.eraseStrings e.props keys
  | onMap map => simp only [eraseStrings, h, MatchRule.eraseStrings]; rfl

/-- On an emptied entry the emptied properties are written. -/
theorem change_eraseStrings (e : Entry) :
    e.eraseStrings.change = e.change.map Change.eraseStrings := by
  unfold change
  cases h : e.updating with
  | allProps => simp only [eraseStrings, h, UpdateRule.eraseStrings]; rfl
  | onKeys keys =>
      have hselect := Properties.select_mapValues Value.eraseStrings e.props keys
      simp only [eraseStrings, h, UpdateRule.eraseStrings]
      unfold Properties.eraseStrings
      rw [hselect]
      cases e.props.select keys with
      | error key => rfl
      | ok p => rfl
  | onMap map =>
      simp only [eraseStrings, h, UpdateRule.eraseStrings]
      cases e.replace with
      | true => rfl
      | false => rfl

/-- **The action of an emptied entry is the emptied action.** -/
theorem action_eraseStrings (e : Entry) :
    e.eraseStrings.action = e.action.map Action.eraseStrings := by
  have hcreate : e.eraseStrings.matching.isCreate = e.matching.isCreate := by
    unfold eraseStrings MatchRule.eraseStrings
    cases e.matching with
    | _ => rfl
  unfold action
  rw [hcreate, pattern_eraseStrings, change_eraseStrings]
  by_cases h : e.matching.isCreate = true
  · rw [if_pos h, if_pos h]
    rfl
  · rw [if_neg h, if_neg h]
    cases e.pattern with
    | error key => rfl
    | ok p =>
        cases e.change with
        | error key => rfl
        | ok change => rfl

end Entry

/-! ## Plans -/

namespace Plan

/-- The command for an emptied entry is the emptied command. -/
theorem finish_eraseStrings (ref : EntryRef) (pattern : Pattern) (entry : Entry) :
    finish ref pattern entry.eraseStrings =
      (finish ref pattern entry).map Command.eraseStrings := by
  unfold finish
  rw [Entry.action_eraseStrings]
  cases entry.action with
  | error key => rfl
  | ok action => rfl

/-- The commands for changed entries are the changed commands, when that is so for each entry. -/
theorem each_map {α : Type} {step : (key : Nat) → α → Except ImportError Command} {f : α → α}
    {g : Command → Command} (h : ∀ key entry, step key (f entry) = (step key entry).map g)
    (key : Nat) (entries : List α) :
    each step key (entries.map f) = (each step key entries).map (List.map g) := by
  induction entries generalizing key with
  | nil => rfl
  | cons entry rest ih =>
      rw [List.map_cons, each, each, h, ih]
      cases step key entry with
      | error error => rfl
      | ok command =>
          cases each step (key + 1) rest with
          | error error => rfl
          | ok commands => rfl

/-- The commands for the entries of an emptied document are the emptied commands. -/
theorem entries_eraseStrings (ρ : Nat → Variable) (d : Document) :
    entries ρ d.eraseStrings = (entries ρ d).map (List.map Command.eraseStrings) := by
  have hnodes : each (node ρ) 0 (d.nodes.map Node.eraseStrings) =
      (each (node ρ) 0 d.nodes).map (List.map Command.eraseStrings) :=
    each_map (fun key n => finish_eraseStrings (.node key) (.node (ρ key) n.labels) n.toEntry) 0
      d.nodes
  have hrelationship : ∀ key r, relationship d.nodes.length ρ key (Relationship.eraseStrings r) =
      (relationship d.nodes.length ρ key r).map Command.eraseStrings := by
    intro key r
    have hends : ∀ ref nodeCount, Compile.ends ref nodeCount r.eraseStrings =
        Compile.ends ref nodeCount r := fun _ _ => rfl
    unfold relationship
    dsimp only
    rw [hends]
    rcases Compile.ends (.relationship (key - d.nodes.length)) d.nodes.length r with
      error | ⟨source, target⟩
    · rfl
    · exact finish_eraseStrings _ _ r.toEntry
  have hrelationships := each_map hrelationship d.nodes.length d.relationships
  have hlength : d.eraseStrings.nodes.length = d.nodes.length := List.length_map _
  unfold entries
  rw [hlength]
  unfold Document.eraseStrings
  dsimp only
  rw [hnodes, hrelationships]
  cases each (node ρ) 0 d.nodes with
  | error error => rfl
  | ok nodes =>
      cases each (relationship d.nodes.length ρ) d.nodes.length d.relationships with
      | error error => rfl
      | ok relationships => exact congrArg Except.ok List.map_append.symm

/-- **The commands of an emptied document are the emptied commands**, and it fails where the
document does. -/
theorem document_eraseStrings (settings : Compile.Settings) (ρ : Nat → Variable) (d : Document) :
    document settings ρ d.eraseStrings =
      (document settings ρ d).map (List.map Command.eraseStrings) := by
  have hlimits : Compile.checkLimits settings d.eraseStrings = Compile.checkLimits settings d := by
    unfold Compile.checkLimits Document.eraseStrings
    rw [List.length_map, List.length_map]
  unfold document
  rw [hlimits, entries_eraseStrings]
  cases Compile.checkLimits settings d with
  | error error => rfl
  | ok _ => rfl

end Plan

end GraphImport
