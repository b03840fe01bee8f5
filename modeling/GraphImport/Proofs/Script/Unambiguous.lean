import GraphImport.Proofs.Compile.Reuse
import GraphImport.Proofs.Compile.StatementReading

/-!
# Scripts are unambiguous

When strings are escaped and names are identifiers, the one text of a script tells where its
statements begin and end, and everything about the document that its statements tell.

* `Command.told` — what a statement tells: its pattern and the decision about its entry.
* `Command.told_of_join_eq` — equal texts consist of equal statements that tell the same.
* `Plan.filterMap_told_node`, `Plan.filterMap_told_relationship` — what the statements of a
  document tell about its entries.
* `compile_unambiguous` — documents with equal texts agree in all that is told.
-/

namespace GraphImport

/-- The entity is created without looking for it. -/
def Decision.creates : Decision → Bool
  | create _ => true
  | merge .. => false

namespace Command

/-! ## What statements tell -/

/-- What a statement tells. -/
def told (c : Command) : Pattern × Decision := (c.pattern, c.action.decision)

/-- The text of a command, with its strings escaped. -/
def text (c : Command) : String := (c.statement .escaped).text

/-- What a statement tells includes what kind it is of. -/
theorem statement_eq {b c : Command} (htext : b.text = c.text) (htold : b.told = c.told) :
    b.statement .escaped = c.statement .escaped := by
  have hcreates : ∀ action : Action, action.creates = action.decision.creates := by
    intro action
    cases action with
    | create p => rfl
    | merge pattern created change => rfl
  obtain ⟨hpattern, hdecision⟩ := Prod.mk.inj htold
  have hkind : b.pattern.kind b.action.creates = c.pattern.kind c.action.creates := by
    rw [hpattern, hcreates, hcreates, hdecision]
  have hstatement : ∀ c : Command,
      c.statement .escaped = ⟨c.text, c.pattern.kind c.action.creates⟩ := fun _ => rfl
  rw [hstatement, hstatement, htext, hkind]

/-- A text begins with one of two words. -/
theorem exists_text_eq (c : Command) :
    (∃ after, c.text = "CREATE " ++ after) ∨ ∃ after, c.text = "MERGE " ++ after := by
  obtain ⟨pattern, action⟩ := c
  cases action with
  | create p => exact .inl ⟨_, Action.create_text .escaped pattern p⟩
  | merge p created change => exact .inr ⟨_, Action.merge_text .escaped pattern p created change⟩

/-- No text is empty. -/
theorem text_ne_empty (c : Command) : c.text ≠ "" := c.action.text_ne_empty .escaped c.pattern

/-- The texts of commands, each behind a blank. -/
def join (commands : List Command) : String :=
  String.join (commands.map fun c => " " ++ c.text)

theorem join_cons (c : Command) (rest : List Command) :
    join (c :: rest) = " " ++ (c.text ++ join rest) := by
  unfold join
  rw [List.map_cons, String.join_cons, String.append_assoc]

/-- Further statements may stand behind a statement. -/
theorem separated_join (commands : List Command) : Separated (join commands).toList := by
  cases commands with
  | nil => exact .inl rfl
  | cons c rest =>
      refine .inr ?_
      rw [join_cons]
      rcases c.exists_text_eq with ⟨after, htext⟩ | ⟨after, htext⟩
      · refine ⟨(after ++ join rest).toList, .inl ?_⟩
        rw [htext, String.append_assoc, ← String.append_assoc, String.toList_append]
        rfl
      · refine ⟨(after ++ join rest).toList, .inr ?_⟩
        rw [htext, String.append_assoc, ← String.append_assoc, String.toList_append]
        rfl

/-- **Joined texts are unambiguous**: equal texts consist of equal statements that tell the same. -/
theorem told_of_join_eq {bs cs : List Command} (hbs : ∀ b ∈ bs, b.All Identifier IdentifierKey)
    (hcs : ∀ c ∈ cs, c.All Identifier IdentifierKey) (h : join bs = join cs) :
    bs.map (fun b => (b.statement .escaped, b.told)) =
      cs.map (fun c => (c.statement .escaped, c.told)) := by
  have hblank : ∀ (c : Command) (rest : List Command), join (c :: rest) ≠ "" := by
    intro c rest heq
    rw [join_cons] at heq
    exact absurd (String.append_eq_empty_iff.mp heq).1 (by decide)
  induction bs generalizing cs with
  | nil =>
      cases cs with
      | nil => rfl
      | cons c cs => exact absurd h.symm (hblank c cs)
  | cons b bs ih =>
      cases cs with
      | nil => exact absurd h (hblank b bs)
      | cons c cs =>
          have hb := hbs b List.mem_cons_self
          have hc := hcs c List.mem_cons_self
          have hreadB : Reads Reader.statement b.text b.told (join bs).toList :=
            Reads.statement hb.names hb.entries (separated_join bs)
          have hreadC : Reads Reader.statement c.text c.told (join cs).toList :=
            Reads.statement hc.names hc.entries (separated_join cs)
          -- One reader takes the first statement off both texts, so the texts are cut alike.
          rw [join_cons, join_cons] at h
          have htexts := String.toList_inj.mpr (String.append_right_inj " " |>.mp h)
          rw [String.toList_append, String.toList_append] at htexts
          obtain ⟨htold, htext, hrest⟩ := hreadB.unique hreadC htexts
          have hothers := ih (fun b hb => hbs b (List.mem_cons_of_mem _ hb))
            (fun c hc => hcs c (List.mem_cons_of_mem _ hc)) (String.toList_inj.mp hrest)
          rw [List.map_cons, List.map_cons, hothers, statement_eq htext htold, htold]

/-- The one text of a script has a blank in front of every statement but the first. -/
theorem combined_cons (c : Command) (rest : List Command) :
    " " ++ (script .escaped (c :: rest)).combined = join (c :: rest) := by
  unfold Script.combined Script.texts script
  rw [List.map_map, List.map_cons, intercalate_cons, List.map_map, join_cons]
  rfl

/-- **The text of a script is unambiguous.** -/
theorem told_of_combined_eq {bs cs : List Command}
    (hbs : ∀ b ∈ bs, b.All Identifier IdentifierKey)
    (hcs : ∀ c ∈ cs, c.All Identifier IdentifierKey)
    (h : (script .escaped bs).combined = (script .escaped cs).combined) :
    bs.map (fun b => (b.statement .escaped, b.told)) =
      cs.map (fun c => (c.statement .escaped, c.told)) := by
  have hempty : ∀ (c : Command) (rest : List Command),
      (script .escaped (c :: rest)).combined ≠ "" := by
    intro c rest heq
    have hjoin := combined_cons c rest
    rw [heq, String.append_empty, join_cons] at hjoin
    have hlist := String.append_right_inj " " |>.mp ((String.append_empty).trans hjoin)
    exact c.text_ne_empty (String.append_eq_empty_iff.mp hlist.symm).1
  cases bs with
  | nil =>
      cases cs with
      | nil => rfl
      | cons c cs => exact absurd h.symm (hempty c cs)
  | cons b bs =>
      cases cs with
      | nil => exact absurd h (hempty b bs)
      | cons c cs =>
          refine told_of_join_eq hbs hcs ?_
          rw [← combined_cons, ← combined_cons, h]

end Command

/-! ## What documents tell -/

/-- What is told about a node. -/
def Node.told (n : Node) : List String × Except String Decision := (n.labels, n.decision)

/-- What is told about a relationship. -/
def Relationship.told (r : Relationship) : (Int × Int × String) × Except String Decision :=
  ((r.source, r.target, r.type), r.decision)

/-- What a statement tells about a node. -/
def Pattern.nodeTold : Pattern × Decision → Option (List String × Except String Decision)
  | (node _ labels, decision) => some (labels, .ok decision)
  | (relationship .., _) => none

/-- What a statement tells about a relationship when keys have their own numbers. -/
def Pattern.relationshipTold :
    Pattern × Decision → Option ((Int × Int × String) × Except String Decision)
  | (node .., _) => none
  | (relationship _ source target type, decision) =>
    some ((source.ordinal, target.ordinal, type), .ok decision)

namespace Plan

/-- What commands tell, when each of them tells this about its entry. -/
theorem filterMap_each {α β : Type} {step : (key : Nat) → α → Except ImportError Command}
    {f : Command → Option β} {g : α → Option β}
    (hstep : ∀ key entry command, step key entry = .ok command → f command = g entry)
    {key : Nat} {entries : List α} {commands : List Command}
    (h : each step key entries = .ok commands) : commands.filterMap f = entries.filterMap g := by
  induction entries generalizing key commands with
  | nil =>
      cases h
      rfl
  | cons entry rest ih =>
      obtain ⟨command, others, hcommand, hothers, rfl⟩ := each_cons.mp h
      rw [List.filterMap_cons, List.filterMap_cons, hstep key entry command hcommand, ih hothers]

/-- The decision about an entry is the decision of its action. -/
theorem decision_of_action {e : Entry} {action : Action} (h : e.action = .ok action) :
    e.decision = .ok action.decision := by
  rw [e.decision_eq, h]
  rfl

variable {d : Document} {commands : List Command}

/-- **The statements of a document tell its nodes.** -/
theorem filterMap_told_node (h : entries Variable.mk d = .ok commands) :
    (commands.map Command.told).filterMap Pattern.nodeTold = d.nodes.map Node.told := by
  obtain ⟨nodes, relationships, hnodes, hrelationships, rfl⟩ := entries_eq_ok.mp h
  have hn := filterMap_each (f := Pattern.nodeTold ∘ Command.told)
    (g := fun n => some (Node.told n)) (fun key n command hcommand => by
      obtain ⟨action, haction, rfl⟩ := finish_eq_ok.mp hcommand
      change some (n.labels, Except.ok action.decision) = some (n.labels, n.decision)
      rw [decision_of_action haction]) hnodes
  have hr := filterMap_each (f := Pattern.nodeTold ∘ Command.told) (g := fun _ => none)
    (fun key r command hcommand => by
      obtain ⟨action, source, target, -, -, -, rfl⟩ := relationship_eq_ok hcommand
      rfl) hrelationships
  rw [List.filterMap_map, List.filterMap_append, hn, hr]
  simp

/-- **The statements of a document tell its relationships.** -/
theorem filterMap_told_relationship (h : entries Variable.mk d = .ok commands) :
    (commands.map Command.told).filterMap Pattern.relationshipTold =
      d.relationships.map Relationship.told := by
  obtain ⟨nodes, relationships, hnodes, hrelationships, rfl⟩ := entries_eq_ok.mp h
  have hn := filterMap_each (f := Pattern.relationshipTold ∘ Command.told) (g := fun _ => none)
    (fun key n command hcommand => by
      obtain ⟨action, -, rfl⟩ := finish_eq_ok.mp hcommand
      rfl) hnodes
  have hr := filterMap_each (f := Pattern.relationshipTold ∘ Command.told)
    (g := fun r => some (Relationship.told r)) (fun key r command hcommand => by
      obtain ⟨action, source, target, haction, ⟨hsource, -⟩, ⟨htarget, -⟩, rfl⟩ :=
        relationship_eq_ok hcommand
      change some (((source : Int), (target : Int), r.type), Except.ok action.decision) =
        some ((r.source, r.target, r.type), r.decision)
      rw [decision_of_action haction, hsource, htarget]) hrelationships
  rw [List.filterMap_map, List.filterMap_append, hn, hr]
  simp

end Plan

/-- **Scripts are unambiguous**: when two documents with identifiers for names are compiled with
their strings escaped, and the one texts of their scripts are equal, then the scripts are equal
statement by statement, and the documents agree entry by entry in the labels of nodes, in the ends
and types of relationships, and in all that is decided about an entry. -/
theorem compile_unambiguous (settings settings' : Compile.Settings) {d e : Document} {s t : Script}
    (hd : d.All Identifier IdentifierKey) (he : e.All Identifier IdentifierKey)
    (hs : compile settings.escaping d = .ok s) (ht : compile settings'.escaping e = .ok t)
    (h : s.combined = t.combined) :
    s = t ∧ d.nodes.map Node.told = e.nodes.map Node.told ∧
      d.relationships.map Relationship.told = e.relationships.map Relationship.told := by
  rw [compile_eq_plan] at hs ht
  obtain ⟨bs, hbs, rfl⟩ := map_eq_ok.mp hs
  obtain ⟨cs, hcs, rfl⟩ := map_eq_ok.mp ht
  have hd' := Plan.entries_of_document hbs
  have he' := Plan.entries_of_document hcs
  have hall := Command.told_of_combined_eq (hd.commands hd') (he.commands he') h
  have hstatements := congrArg (List.map Prod.fst) hall
  have htold := congrArg (List.map Prod.snd) hall
  rw [List.map_map, List.map_map] at hstatements htold
  refine ⟨congrArg Script.mk hstatements, ?_, ?_⟩
  · rw [← Plan.filterMap_told_node hd', ← Plan.filterMap_told_node he']
    exact congrArg (List.filterMap Pattern.nodeTold) htold
  · rw [← Plan.filterMap_told_relationship hd', ← Plan.filterMap_told_relationship he']
    exact congrArg (List.filterMap Pattern.relationshipTold) htold

/-- A node that is looked for by its key `id`. -/
def Node.person (fields : List (String × Value)) : Node where
  props := .ofPairs fields
  matching := .onKeys ["id"]
  updating := .allProps
  replace := false
  labels := ["Person"]

/-- A property that is null leaves no trace in the text, and nothing is told about it. -/
theorem compile_unambiguous_null :
    [Node.person [("id", .int 1), ("nick name", .null)]].map Node.told =
      [Node.person [("id", .int 1)]].map Node.told := by
  have hperson : ∀ fields, (Properties.ofPairs fields).All IdentifierKey →
      (Document.mk [.person fields] []).All Identifier IdentifierKey := by
    intro fields h
    refine ⟨?_, ?_, fun r hr => absurd hr List.not_mem_nil, fun r hr => absurd hr List.not_mem_nil⟩
    · intro n hn name hname
      rw [List.mem_singleton.mp hn] at hname
      rw [List.mem_singleton.mp hname]
      decide
    · intro n hn
      rw [List.mem_singleton.mp hn]
      exact ⟨h, fun map hmap => (nomatch hmap), fun map hmap => (nomatch hmap)⟩
  have hnull : (Properties.ofPairs [("id", .int 1), ("nick name", .null)]).All IdentifierKey := by
    unfold Properties.All
    decide
  have hplain : (Properties.ofPairs [("id", .int 1)]).All IdentifierKey := by
    unfold Properties.All
    decide
  exact (compile_unambiguous .default .default (hperson _ hnull) (hperson _ hplain) rfl rfl
    rfl).2.1

end GraphImport
