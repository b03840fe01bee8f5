import GraphImport.Proofs.Compile.Decision
import GraphImport.Proofs.Compile.Plan
import GraphImport.Proofs.Property.Selection

/-!
# Where commands come from

A command holds nothing that its document does not hold: its names are labels and types of the
document, and its properties consist of entries of the document.

* `Pattern.All`, `Action.All`, `Command.All` — conditions on the names and entries of a command.
* `Entry.All`, `Document.All` — the same conditions on documents.
* `Document.All.commands` — what holds of a document holds of its commands.
-/

namespace GraphImport

variable {N : String → Prop} {P : String × Value → Prop}

/-! ## Conditions -/

/-- All labels or the type meet the condition. -/
def Pattern.All (N : String → Prop) : Pattern → Prop
  | node _ labels => ∀ name ∈ labels, N name
  | relationship _ _ _ type => N type

/-- All entries that an action writes meet the condition. -/
def Action.All (P : String × Value → Prop) : Action → Prop
  | create p => p.All P
  | merge pattern created change => pattern.All P ∧ created.All P ∧ change.props.All P

/-- All names and entries of a command meet the conditions. -/
structure Command.All (N : String → Prop) (P : String × Value → Prop) (c : Command) : Prop where
  /-- The labels or the type. -/
  names : c.pattern.All N
  /-- The entries that are written. -/
  entries : c.action.All P

/-- All entries that are given for an entry meet the condition. -/
structure Entry.All (P : String × Value → Prop) (e : Entry) : Prop where
  /-- Its own properties. -/
  props : e.props.All P
  /-- The properties by which it is found, if they are given. -/
  matching : ∀ map, e.matching = .onMap map → map.All P
  /-- The properties that are written when it is found, if they are given. -/
  updating : ∀ map, e.updating = .onMap map → map.All P

/-- All names and entries of a document meet the conditions. -/
structure Document.All (N : String → Prop) (P : String × Value → Prop) (d : Document) : Prop where
  /-- The labels of nodes. -/
  labels : ∀ n ∈ d.nodes, ∀ name ∈ n.labels, N name
  /-- The entries of nodes. -/
  nodes : ∀ n ∈ d.nodes, n.toEntry.All P
  /-- The types of relationships. -/
  types : ∀ r ∈ d.relationships, N r.type
  /-- The entries of relationships. -/
  relationships : ∀ r ∈ d.relationships, r.toEntry.All P

/-! ## Entries -/

namespace Entry.All

variable {e : Entry}

/-- The properties by which an entry is found are given for it. -/
theorem pattern (h : e.All P) {p : Properties} (hp : e.pattern = .ok p) : p.All P := by
  intro entry hentry
  rw [entries_pattern hp] at hentry
  rcases e.mem_found hentry with hown | ⟨map, hmap, hentry⟩
  · exact h.props entry hown
  · exact h.matching map hmap entry hentry

/-- The properties that are written on an entry are given for it. -/
theorem change (h : e.All P) {change : Change} (hchange : e.change = .ok change) :
    change.props.All P := by
  intro entry hentry
  rw [entries_change hchange] at hentry
  rcases e.mem_changed hentry with hown | ⟨map, hmap, hentry⟩
  · exact h.props entry hown
  · exact h.updating map hmap entry hentry

/-- What an action writes is given for its entry. -/
theorem action (h : e.All P) {action : Action} (haction : e.action = .ok action) :
    action.All P := by
  rcases e.action_eq_ok haction with ⟨-, rfl⟩ | ⟨-, p, change, hp, hchange, rfl⟩
  · exact h.props
  · exact ⟨h.pattern hp, h.props, h.change hchange⟩

end Entry.All

/-! ## Documents -/

namespace Plan

variable {α : Type}

/-- What holds of the commands of all entries holds of all commands. -/
theorem forall_each {step : (key : Nat) → α → Except ImportError Command} {Q : Command → Prop}
    {entries : List α} (hstep : ∀ key, ∀ entry ∈ entries, ∀ command,
      step key entry = .ok command → Q command)
    {key : Nat} {commands : List Command} (h : each step key entries = .ok commands) :
    ∀ c ∈ commands, Q c := by
  induction entries generalizing key commands with
  | nil =>
      cases h
      exact fun c hc => absurd hc List.not_mem_nil
  | cons entry rest ih =>
      obtain ⟨command, others, hcommand, hothers, rfl⟩ := each_cons.mp h
      intro c hc
      rcases List.mem_cons.mp hc with rfl | hc
      · exact hstep key entry List.mem_cons_self c hcommand
      · exact ih (fun key entry hentry => hstep key entry (List.mem_cons_of_mem _ hentry)) hothers
          c hc

end Plan

/-- **What holds of a document holds of its commands.** -/
theorem Document.All.commands {d : Document} (h : d.All N P) {ρ : Nat → Variable}
    {commands : List Command} (hcommands : Plan.entries ρ d = .ok commands) :
    ∀ c ∈ commands, c.All N P := by
  obtain ⟨nodes, relationships, hnodes, hrelationships, rfl⟩ := Plan.entries_eq_ok.mp hcommands
  have hnode := Plan.forall_each (Q := Command.All N P) (fun key n hn command hcommand => by
    obtain ⟨action, haction, rfl⟩ := Plan.finish_eq_ok.mp hcommand
    exact ⟨h.labels n hn, (h.nodes n hn).action haction⟩) hnodes
  have hrelationship := Plan.forall_each (Q := Command.All N P) (fun key r hr command hcommand => by
    obtain ⟨action, source, target, haction, -, -, rfl⟩ := Plan.relationship_eq_ok hcommand
    exact ⟨h.types r hr, (h.relationships r hr).action haction⟩) hrelationships
  intro c hc
  rcases List.mem_append.mp hc with hc | hc
  · exact hnode c hc
  · exact hrelationship c hc

end GraphImport
