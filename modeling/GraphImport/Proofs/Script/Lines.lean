import GraphImport.Proofs.Compile.Contents
import GraphImport.Proofs.Cypher.Characters
import GraphImport.Proofs.Cypher.LiteralReading

/-!
# One statement per line

An escaped string has no line breaks, so a statement has none but those of the names in its document.
A script without them that is written line by line can be taken apart at its line breaks again, and
it is the same script on one line when each line break is a space.

* `LineFree`, `LineFreeKey` — texts, and keys of entries, without line breaks.
* `lineFree_literal` — literals have no line breaks.
* `Command.lineFree` — statements have none if the names and keys of their commands have none.
* `script_lines` — the lines of a script are its statements.
-/

namespace GraphImport

/-! ## Literals -/

/-- No character is a line break. -/
abbrev LineFree : String → Prop := Consists (· ≠ '\n')

/-- The key of an entry has no line breaks. -/
def LineFreeKey (entry : String × Value) : Prop := LineFree entry.1

/-- No character of a number is a line break. -/
theorem IsNumberChar.ne_lineBreak {c : Char} (h : IsNumberChar c) : c ≠ '\n' := by
  rintro rfl
  exact absurd h (by decide)

/-- An escaped character is no line break. -/
theorem lineFree_escapedChar (c : Char) : LineFree (Cypher.escapedChar c) := by
  unfold Cypher.escapedChar
  split_ifs with _ _ _ hbreak
  · decide
  · decide
  · decide
  · decide
  · decide
  · decide
  · decide
  · intro d hd
    rw [String.toList_singleton, List.mem_singleton] at hd
    exact hd ▸ hbreak

/-- An escaped string has no line breaks. -/
theorem lineFree_quoteEscaped (s : String) : LineFree (Cypher.quoteEscaped s) := by
  have hescape : LineFree (Cypher.escape s) := by
    rw [Cypher.escape_eq_join]
    refine Consists.join fun text htext => ?_
    obtain ⟨c, -, rfl⟩ := List.mem_map.mp htext
    exact lineFree_escapedChar c
  exact ((by decide : LineFree "'").append hescape).append (by decide)

/-- **Literals have no line breaks** when strings are escaped. -/
theorem lineFree_literal (value : Value) : LineFree (Cypher.literal .escaped value) := by
  induction value using Value.induct with
  | leaf v hv =>
      cases v with
      | null => decide
      | bool b => cases b <;> decide
      | int n => exact (consists_int n).imp fun _ => IsNumberChar.ne_lineBreak
      | double x =>
          refine (consists_doubleText x).imp fun c hc => ?_
          rcases hc with hc | rfl
          · exact hc.ne_lineBreak
          · decide
      | string s => exact lineFree_quoteEscaped s
      | list items => exact absurd hv Bool.noConfusion
  | list items ih =>
      rw [Cypher.literal_list]
      have hitems := Consists.intercalate (by decide : LineFree ", ") fun text htext => by
        obtain ⟨item, hitem, rfl⟩ := List.mem_map.mp htext
        exact ih item hitem
      exact ((by decide : LineFree "[").append hitems).append (by decide)

/-! ## Statements -/

section Texts

variable {p : Properties} (v : Variable)

/-- The name of a variable has no line breaks. -/
theorem lineFree_variable : LineFree v.name :=
  consists_variable (by decide) (fun _ hc => IsNumberChar.ne_lineBreak (.inl hc)) v

/-- A map has no line breaks if its keys have none. -/
theorem lineFree_mapLiteral (h : p.All LineFreeKey) :
    LineFree (Cypher.mapLiteral .escaped p) := by
  have hfields : ∀ text ∈ p.present.map fun entry =>
      entry.1 ++ ": " ++ Cypher.literal .escaped entry.2, LineFree text := by
    intro text htext
    obtain ⟨entry, hentry, rfl⟩ := List.mem_map.mp htext
    have hkey : LineFree entry.1 := h entry (List.mem_filter.mp hentry).1
    exact (hkey.append (by decide)).append (lineFree_literal entry.2)
  unfold Cypher.mapLiteral
  dsimp only
  split
  · decide
  · exact ((by decide : LineFree "\x7b ").append (.intercalate (by decide) hfields)).append
      (by decide)

/-- Assignments to fields have no line breaks if the keys have none. -/
theorem lineFree_setItems (h : p.All LineFreeKey) : LineFree (Cypher.setItems .escaped v p) := by
  refine Consists.intercalate (by decide) fun text htext => ?_
  obtain ⟨entry, hentry, rfl⟩ := List.mem_map.mp htext
  have hkey : LineFree entry.1 := h entry (List.mem_filter.mp hentry).1
  exact ((((lineFree_variable v).append (by decide)).append hkey).append (by decide)).append
    (lineFree_literal entry.2)

/-- The assignment of a map has no line breaks if its keys have none. -/
theorem lineFree_setMap (h : p.All LineFreeKey) : LineFree (Cypher.setMap .escaped v p) :=
  (lineFree_variable v).append ((by decide : LineFree " = ").append (lineFree_mapLiteral h))

/-- The assignments of a change have no line breaks if its keys have none. -/
theorem lineFree_assignments {change : Change} (h : change.props.All LineFreeKey) :
    LineFree (change.assignments .escaped v) := by
  cases change with
  | fields p => exact lineFree_setItems v h
  | whole p => exact lineFree_setMap v h

/-- A pattern has no line breaks if its names and keys have none. -/
theorem lineFree_patternText {pattern : Pattern} (hnames : pattern.All LineFree)
    (h : p.All LineFreeKey) : LineFree (pattern.text .escaped p) := by
  have hproperties : LineFree (Pattern.propertyText .escaped p) := by
    unfold Pattern.propertyText
    split
    · exact (by decide : LineFree " ").append (lineFree_mapLiteral h)
    · exact .empty
  cases pattern with
  | node v names =>
      exact ((((by decide : LineFree "(").append (lineFree_variable v)).append
        (consists_labels (by decide) hnames)).append hproperties).append (by decide)
  | relationship v source target type =>
      have htype : LineFree type := hnames
      exact (((((((((by decide : LineFree "(").append (lineFree_variable source)).append
        (by decide)).append (lineFree_variable v)).append (by decide)).append htype).append
          hproperties).append (by decide)).append (lineFree_variable target)).append (by decide)

/-- A clause that is written or not has no line breaks if its text has none. -/
theorem lineFree_optionalClause {b : Bool} {text : String} (h : LineFree text) :
    LineFree (String.join ((if b then [text] else []).map fun clause => " " ++ clause)) := by
  refine Consists.join fun part hpart => ?_
  obtain ⟨clause, hclause, rfl⟩ := List.mem_map.mp hpart
  cases b with
  | false => exact absurd hclause List.not_mem_nil
  | true => exact (by decide : LineFree " ").append (List.mem_singleton.mp hclause ▸ h)

end Texts

/-- **Statements have no line breaks** if the names and keys of their commands have none. -/
theorem Command.lineFree {c : Command} (h : c.All LineFree LineFreeKey) :
    LineFree (c.statement .escaped).text := by
  obtain ⟨pattern, action⟩ := c
  obtain ⟨hnames, hentries⟩ := h
  unfold Command.statement
  cases action with
  | create p =>
      rw [Action.create_text]
      exact (by decide : LineFree "CREATE ").append (lineFree_patternText hnames hentries)
  | merge p created change =>
      obtain ⟨hp, hcreated, hchange⟩ := hentries
      rw [Action.merge_text, createdClause_eq, Change.clause_eq]
      refine (by decide : LineFree "MERGE ").append ((lineFree_patternText hnames hp).append
        (.append (lineFree_optionalClause ?_) (lineFree_optionalClause ?_)))
      · exact (by decide : LineFree "ON CREATE SET ").append (lineFree_setMap _ hcreated)
      · exact (by decide : LineFree "ON MATCH SET ").append (lineFree_assignments _ hchange)

/-! ## Scripts -/

/-- There is a node or a relationship. -/
def Document.IsNonempty (d : Document) : Prop := d.nodes ≠ [] ∨ d.relationships ≠ []

/-- A line break as a space; other characters as they are. -/
def spaceForBreak (c : Char) : Char := if c = '\n' then ' ' else c

/-- Texts without line breaks that stand line by line stand on one line once each line break is a
space. -/
theorem map_spaceForBreak {texts : List String} (h : ∀ text ∈ texts, LineFree text) :
    (String.intercalate "\n" texts).map spaceForBreak = String.intercalate " " texts := by
  have hbreak : "\n".map spaceForBreak = " " := by
    apply String.toList_inj.mp
    rw [String.toList_map]
    rfl
  have hsame : texts.map (·.map spaceForBreak) = texts := by
    refine (List.map_congr_left fun text htext => ?_).trans (List.map_id' texts)
    exact map_eq_self ((h text htext).imp fun c hc => if_neg hc)
  rw [map_intercalate, hbreak, hsame]

/-- **The lines of a script are its statements.** When strings are escaped and no name or key of a
document holds a line break, its script is split at the line breaks into the texts of its
statements, and it is the script on one line once each line break is a space. -/
theorem script_lines {settings : Compile.Settings} {d : Document} {scope after : Scope}
    {script : Script} (hne : d.IsNonempty) (hd : d.All LineFree LineFreeKey)
    (h : Compile.document settings.escaping d scope = (.ok script, after)) :
    (script.lines.split '\n').toList.map String.Slice.copy = script.texts ∧
      script.lines.map spaceForBreak = script.combined := by
  obtain ⟨commands, hcommands, rfl⟩ := (Compile.planned h).script
  have htexts : (Command.script .escaped commands).texts =
      commands.map fun c => (c.statement .escaped).text := List.map_map
  have hfree : ∀ text ∈ (Command.script .escaped commands).texts, LineFree text := by
    rw [htexts]
    intro text htext
    obtain ⟨c, hc, rfl⟩ := List.mem_map.mp htext
    exact Command.lineFree (hd.commands hcommands c hc)
  have htextsNe : (Command.script .escaped commands).texts ≠ [] := by
    rw [htexts, Ne, List.map_eq_nil_iff]
    rintro rfl
    have hlength := Plan.length_commands hcommands
    rcases hne with hnodes | hrelationships
    · have := List.length_pos_iff.mpr hnodes
      rw [List.length_nil] at hlength
      omega
    · have := List.length_pos_iff.mpr hrelationships
      rw [List.length_nil] at hlength
      omega
  exact ⟨split_intercalate htextsNe hfree, map_spaceForBreak hfree⟩

/-- A poem of two lines in a list in a list. -/
def Node.poem : Node where
  props := .ofPairs [("text", .list [.list [.string "one\ntwo"], .string "\r\n"])]
  matching := .create
  updating := .allProps
  replace := false
  labels := ["Poem"]

/-- Two poems with line breaks stand on two lines. -/
theorem script_lines_poems :
    ∃ script after, Compile.document Compile.Settings.default.escaping ⟨[.poem, .poem], []⟩ .empty =
        (.ok script, after) ∧
      script.texts = [
        "CREATE (x0:Poem \x7b text: [['one\\ntwo'], '\\r\\n'] \x7d)",
        "CREATE (x1:Poem \x7b text: [['one\\ntwo'], '\\r\\n'] \x7d)"] ∧
      (script.lines.split '\n').toList.map String.Slice.copy = script.texts ∧
      script.lines.map spaceForBreak = script.combined := by
  have hpoems : (Document.mk [.poem, .poem] []).All LineFree LineFreeKey := by
    refine ⟨fun n hn name hname => ?_, fun n hn => ?_, fun r hr => absurd hr List.not_mem_nil,
      fun r hr => absurd hr List.not_mem_nil⟩
    · have hpoem : n = .poem := by simpa using hn
      subst hpoem
      rw [List.mem_singleton.mp hname]
      decide
    · have hpoem : n = .poem := by simpa using hn
      subst hpoem
      refine ⟨fun entry hentry => ?_, fun map hmap => (nomatch hmap), fun map hmap => (nomatch hmap)⟩
      rw [List.mem_singleton.mp hentry]
      exact (by decide : LineFree "text")
  exact ⟨_, _, rfl, rfl,
    @script_lines .default _ _ _ _ (.inl (List.cons_ne_nil _ _)) hpoems rfl⟩

end GraphImport
