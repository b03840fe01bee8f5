import GraphImport.Proofs.Compile.Contents
import GraphImport.Proofs.Compile.Reuse
import GraphImport.Proofs.Cypher.Characters
import GraphImport.Proofs.Cypher.LiteralReading
import GraphImport.Proofs.Document.Erasure
import GraphImport.Proofs.Text.Blank

/-!
# Strings and the structure of scripts

When strings are escaped, what they hold cannot change the structure of a script: everything that
is written is alike to what is written with all strings emptied, from single literals up to whole
scripts.

* `Alike.literal` — literals are alike to emptied ones.
* `Alike.mapLiteral`, `Alike.patternText`, `Alike.statement` — and so is all that is made of them.
* `compile_alike` — documents that differ in their strings only have alike scripts.
-/

namespace GraphImport

/-! ## Texts without quotes -/

/-- No character of a number is a quote. -/
theorem IsNumberChar.ne_quote {c : Char} (h : IsNumberChar c) : c ≠ '\x27' := by
  rintro rfl
  exact absurd h (by decide)

/-- A written integer has no quotes. -/
theorem quoteFree_int (n : Int) : QuoteFree (toString n) :=
  (consists_int n).imp fun _ => IsNumberChar.ne_quote

/-- A written double has no quotes. -/
theorem quoteFree_doubleText (x : Binary64) : QuoteFree (Cypher.doubleText x) := by
  refine (consists_doubleText x).imp fun c hc => ?_
  rcases hc with hc | rfl
  · exact hc.ne_quote
  · decide

/-- The name of a variable has no quotes. -/
theorem quoteFree_variable (v : Variable) : QuoteFree v.name :=
  consists_variable (by decide) (fun _ hc => IsNumberChar.ne_quote (.inl hc)) v

/-- Labels without quotes are written without quotes. -/
theorem quoteFree_labels {names : List String} (h : ∀ name ∈ names, QuoteFree name) :
    QuoteFree (Cypher.labels names) := consists_labels (by decide) h

/-! ## Literals -/

open Scanner in
/-- An escaped character does not end the literal in which it stands, and is not kept. -/
theorem scan_escapedChar (c : Char) :
    inside.run (Cypher.escapedChar c).toList = .inside ∧
      inside.blank (Cypher.escapedChar c).toList = [] := by
  rcases Cypher.escapedChar_cases c with ⟨htext, hplain⟩ | ⟨d, ds, htext, hplain⟩
  · rw [htext]
    exact scan_inside fun e he => List.mem_singleton.mp he ▸ hplain
  · have hrun : inside.run ('\\' :: d :: ds) = inside.run ds := rfl
    have hblank : inside.blank ('\\' :: d :: ds) = inside.blank ds := rfl
    rw [htext, hrun, hblank]
    exact scan_inside hplain

open Scanner in
/-- **An escaped string stays in its literal**: the scanner enters at the first quote, leaves at the
last one, and keeps nothing but these two. -/
theorem scan_quoteEscaped (s : String) :
    outside.run (Cypher.quoteEscaped s).toList = .outside ∧
      outside.blank (Cypher.quoteEscaped s).toList = ['\x27', '\x27'] := by
  have hchars : ∀ text ∈ s.toList.map Cypher.escapedChar,
      inside.run text.toList = .inside ∧ inside.blank text.toList = [] := by
    intro text htext
    obtain ⟨c, -, rfl⟩ := List.mem_map.mp htext
    exact scan_escapedChar c
  have hrun : inside.run (Cypher.escape s).toList = .inside := by
    rw [Cypher.escape_eq_join]
    exact run_join fun text htext => (hchars text htext).1
  have hblank : inside.blank (Cypher.escape s).toList = [] := by
    rw [Cypher.escape_eq_join]
    exact blank_join (fun text htext => (hchars text htext).1)
      fun text htext => (hchars text htext).2
  have hquote : outside.run "'".toList = .inside := rfl
  unfold Cypher.quoteEscaped Cypher.quotePlain
  rw [String.toList_append, String.toList_append, run_append, run_append, blank_append,
    blank_append, run_append, hquote, hrun, hblank]
  exact ⟨rfl, rfl⟩

namespace Alike

/-- All escaped strings are alike. -/
theorem quoteEscaped (s t : String) : Alike (Cypher.quoteEscaped s) (Cypher.quoteEscaped t) :=
  ⟨(scan_quoteEscaped s).1, (scan_quoteEscaped t).1,
    (scan_quoteEscaped s).2.trans (scan_quoteEscaped t).2.symm⟩

/-- **Literals are alike to emptied ones.** -/
theorem literal (v : Value) :
    Alike (Cypher.literal .escaped v) (Cypher.literal .escaped v.eraseStrings) := by
  induction v using Value.induct with
  | leaf v hv =>
      cases v with
      | null => exact of_quoteFree (by decide)
      | bool b =>
          cases b with
          | false => exact of_quoteFree (by decide)
          | true => exact of_quoteFree (by decide)
      | int n => exact of_quoteFree (quoteFree_int n)
      | double x => exact of_quoteFree (quoteFree_doubleText x)
      | string s => exact quoteEscaped s ""
      | list items => exact nomatch hv
  | list items ih =>
      rw [Value.eraseStrings_list, Cypher.literal_list, Cypher.literal_list, List.map_map]
      have hitems := intercalate (by decide : QuoteFree ", ") ih
      exact (behind (by decide) hitems).before (by decide)

end Alike

/-! ## Properties -/

/-- The key of an entry has no quotes. -/
def QuoteFreeKey (entry : String × Value) : Prop := QuoteFree entry.1

namespace Properties

/-- The entries that are written of emptied properties are the emptied entries. -/
theorem present_eraseStrings (p : Properties) :
    p.eraseStrings.present = p.present.map fun entry => (entry.1, entry.2.eraseStrings) := by
  have hnull : (fun entry : String × Value => !entry.2.isNull) ∘
      (fun entry : String × Value => (entry.1, entry.2.eraseStrings)) =
        fun entry => !entry.2.isNull := by
    funext entry
    exact congrArg not (Value.isNull_eraseStrings entry.2)
  unfold present eraseStrings mapValues Entries.mapValues
  dsimp only
  rw [List.filter_map, hnull]

/-- Emptied properties are written when the properties are. -/
theorem anyPresent_eraseStrings (p : Properties) : p.eraseStrings.anyPresent = p.anyPresent := by
  unfold anyPresent
  rw [present_eraseStrings, List.isEmpty_map]

/-- The keys that are written have no quotes. -/
theorem All.quoteFree {p : Properties} (h : p.All QuoteFreeKey) :
    ∀ entry ∈ p.present, QuoteFree entry.1 := fun entry hentry =>
  h entry (List.mem_filter.mp hentry).1

end Properties

namespace Alike

variable {p : Properties}

/-- Maps are alike to emptied ones. -/
theorem mapLiteral (h : p.All QuoteFreeKey) :
    Alike (Cypher.mapLiteral .escaped p) (Cypher.mapLiteral .escaped p.eraseStrings) := by
  have hfields : Alike
      (String.intercalate ", " (p.present.map fun entry =>
        entry.1 ++ ": " ++ Cypher.literal .escaped entry.2))
      (String.intercalate ", " (p.present.map fun entry =>
        entry.1 ++ ": " ++ Cypher.literal .escaped entry.2.eraseStrings)) :=
    intercalate (by decide) fun entry hentry =>
      behind ((h.quoteFree entry hentry).append (by decide)) (literal entry.2)
  unfold Cypher.mapLiteral
  rw [Properties.present_eraseStrings, List.map_map]
  cases hpresent : p.present with
  | nil => exact of_quoteFree (by decide)
  | cons first others =>
      rw [hpresent] at hfields
      exact (behind (by decide) hfields).before (by decide)

/-- Assignments of fields are alike to emptied ones. -/
theorem setItems (v : Variable) (h : p.All QuoteFreeKey) :
    Alike (Cypher.setItems .escaped v p) (Cypher.setItems .escaped v p.eraseStrings) := by
  unfold Cypher.setItems
  rw [Properties.present_eraseStrings, List.map_map]
  refine intercalate (by decide) fun entry hentry => ?_
  have hkey := (((quoteFree_variable v).append (by decide : QuoteFree ".")).append
    (h.quoteFree entry hentry)).append (by decide : QuoteFree " = ")
  exact behind hkey (literal entry.2)

/-- Assignments of maps are alike to emptied ones. -/
theorem setMap (v : Variable) (h : p.All QuoteFreeKey) :
    Alike (Cypher.setMap .escaped v p) (Cypher.setMap .escaped v p.eraseStrings) :=
  behind (quoteFree_variable v) (behind (by decide) (mapLiteral h))

/-- The assignments of a change are alike to emptied ones. -/
theorem assignments (v : Variable) {change : Change} (h : change.props.All QuoteFreeKey) :
    Alike (change.assignments .escaped v) (change.eraseStrings.assignments .escaped v) := by
  cases change with
  | fields p => exact setItems v h
  | whole p => exact setMap v h

/-! ## Statements -/

/-- Patterns are alike to those with emptied properties. -/
theorem patternText {pattern : Pattern} (hnames : pattern.All QuoteFree) (h : p.All QuoteFreeKey) :
    Alike (pattern.text .escaped p) (pattern.text .escaped p.eraseStrings) := by
  have hproperties : Alike (Pattern.propertyText .escaped p)
      (Pattern.propertyText .escaped p.eraseStrings) := by
    unfold Pattern.propertyText
    rw [Properties.anyPresent_eraseStrings]
    split
    · exact behind (by decide) (mapLiteral h)
    · exact of_quoteFree (by decide)
  cases pattern with
  | node v names =>
      have hfront := ((by decide : QuoteFree "(").append (quoteFree_variable v)).append
        (quoteFree_labels hnames)
      exact (behind hfront hproperties).before (by decide)
  | relationship v source target type =>
      have hfront := (((((by decide : QuoteFree "(").append (quoteFree_variable source)).append
        (by decide : QuoteFree ")-[")).append (quoteFree_variable v)).append
          (by decide : QuoteFree ":")).append (hnames : QuoteFree type)
      have hback := (by decide : QuoteFree "]->(").append
        ((quoteFree_variable target).append (by decide : QuoteFree ")"))
      have hall := (behind hfront hproperties).before hback
      simpa only [Pattern.text, String.append_assoc] using hall

/-- A clause that is written or not is alike to an emptied one. -/
theorem optionalClause {b : Bool} {word s t : String} (hword : QuoteFree word) (h : Alike s t) :
    Alike (String.join ((if b then [word ++ s] else []).map fun clause => " " ++ clause))
      (String.join ((if b then [word ++ t] else []).map fun clause => " " ++ clause)) := by
  cases b with
  | false => exact ⟨rfl, rfl, rfl⟩
  | true =>
      rw [if_pos rfl, if_pos rfl, join_clause, join_clause]
      exact behind ((by decide : QuoteFree " ").append hword) h

/-- **Statements are alike to those of emptied commands.** -/
theorem statement {c : Command} (h : c.All QuoteFree QuoteFreeKey) :
    Alike (c.statement .escaped).text (c.eraseStrings.statement .escaped).text := by
  obtain ⟨pattern, action⟩ := c
  obtain ⟨hnames, hentries⟩ := h
  cases action with
  | create p =>
      have htext := Action.create_text .escaped pattern
      change Alike ((Action.create p).statement .escaped pattern).text
        ((Action.create p.eraseStrings).statement .escaped pattern).text
      rw [htext, htext]
      exact behind (by decide) (patternText hnames hentries)
  | merge p created change =>
      obtain ⟨hp, hcreated, hchange⟩ := hentries
      have hprops : change.eraseStrings.props = change.props.eraseStrings := by
        cases change with
        | fields p => rfl
        | whole p => rfl
      have htext := Action.merge_text .escaped pattern
      change Alike ((Action.merge p created change).statement .escaped pattern).text
        ((Action.merge p.eraseStrings created.eraseStrings
          change.eraseStrings).statement .escaped pattern).text
      rw [htext, htext, createdClause_eq, createdClause_eq, Change.clause_eq, Change.clause_eq,
        hprops, Properties.anyPresent_eraseStrings, Properties.anyPresent_eraseStrings]
      refine behind (by decide) ((patternText hnames hp).append (append ?_ ?_))
      · exact optionalClause (by decide) (setMap _ hcreated)
      · exact optionalClause (by decide) (assignments _ hchange)

/-- **Scripts are alike to those of emptied commands.** -/
theorem combined {commands : List Command} (h : ∀ c ∈ commands, c.All QuoteFree QuoteFreeKey) :
    Alike (Command.script .escaped commands).combined
      (Command.script .escaped (commands.map Command.eraseStrings)).combined := by
  unfold Script.combined Script.texts Command.script
  simp only [List.map_map]
  exact intercalate (by decide) fun c hc => statement (h c hc)

end Alike

/-! ## Documents -/

/-- **The same result up to strings**: the same error, or two scripts whose texts are alike. -/
def SameUpToStrings : Except ImportError Script → Except ImportError Script → Prop
  | .ok s, .ok t => Alike s.combined t.combined
  | .error a, .error b => a = b
  | _, _ => False

/-- **Strings do not change the structure of a script**: when two documents without quotes in their
names are the same once their strings are emptied, then both fail with the same error, or both have
scripts, and these are the same once the contents of literals are blanked. -/
theorem compile_alike (settings : Compile.Settings) {d e : Document}
    (hd : d.All QuoteFree QuoteFreeKey) (he : e.All QuoteFree QuoteFreeKey)
    (h : d.eraseStrings = e.eraseStrings) :
    SameUpToStrings (compile settings.escaping d) (compile settings.escaping e) := by
  have hplan := congrArg (Plan.document settings.escaping Variable.mk) h
  rw [Plan.document_eraseStrings, Plan.document_eraseStrings] at hplan
  rw [compile_eq_plan, compile_eq_plan]
  cases hbs : Plan.document settings.escaping Variable.mk d with
  | error error =>
      rw [hbs] at hplan
      have herror := map_eq_error.mp hplan.symm
      rw [herror]
      exact rfl
  | ok bs =>
      rw [hbs] at hplan
      obtain ⟨cs, hcs, heq⟩ := map_eq_ok.mp hplan.symm
      rw [hcs]
      have hleft := Alike.combined (hd.commands (Plan.entries_of_document hbs))
      have hright := Alike.combined (he.commands (Plan.entries_of_document hcs))
      rw [heq] at hright
      exact hleft.trans hright.symm

/-- A node that is created with a note. -/
def Node.note (text : String) : Node where
  props := .ofPairs [("text", .list [.string text])]
  matching := .create
  updating := .allProps
  replace := false
  labels := ["Note"]

/-- A string that looks like the end of its literal and a statement behind it is alike to any
other. -/
theorem compile_alike_note :
    SameUpToStrings (compile Compile.Settings.default.escaping ⟨[.note "\\' \x7d) MATCH (n) //"], []⟩)
      (compile Compile.Settings.default.escaping ⟨[.note "a"], []⟩) := by
  have hnote : ∀ text, (Document.mk [.note text] []).All QuoteFree QuoteFreeKey := by
    intro text
    refine ⟨?_, ?_, fun r hr => absurd hr List.not_mem_nil, fun r hr => absurd hr List.not_mem_nil⟩
    · intro n hn name hname
      rw [List.mem_singleton.mp hn] at hname
      rw [List.mem_singleton.mp hname]
      decide
    · intro n hn
      rw [List.mem_singleton.mp hn]
      refine ⟨fun entry hentry => ?_, fun map hmap => (nomatch hmap), fun map hmap => (nomatch hmap)⟩
      rw [List.mem_singleton.mp hentry]
      exact (by decide : QuoteFree "text")
  exact compile_alike .default (hnote _) (hnote _) rfl

end GraphImport
