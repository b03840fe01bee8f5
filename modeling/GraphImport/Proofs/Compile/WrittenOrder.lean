import GraphImport.Proofs.Compile.Placed
import GraphImport.Proofs.Document.Unmerged
import GraphImport.Proofs.Property.Insertion

/-!
# Properties in the order of the text

Properties stand in a statement in the order in which their keys first occur in the text of the
document. A key that occurs again counts with its last value, and it is left out if that is null,
whatever values it had before.

* `Cypher.LastWritten` — the pairs that are written for the members of an object.
* `Cypher.lastWritten_pairs` — the pairs of the properties of an entry.
* `document_written_order` — the pairs in statements.
-/

namespace GraphImport

/-- The last value that is written under a key. -/
def Json.lastValue? (key : String) (written : List (String × Json)) : Option Json :=
  (valuesOf key written).getLast?

/-- **The pairs of the members of an object**: one for each key whose last value is not null, in the
order in which the keys first occur, with the literal of that value. -/
structure Cypher.LastWritten (mode : StringMode) (written : List (String × Json))
    (pairs : List (String × String)) : Prop where
  /-- The keys are those whose last value is not null. -/
  keys : ∀ key, key ∈ pairs.map Prod.fst ↔
    ∃ json, Json.lastValue? key written = some json ∧ json ≠ .null
  /-- They stand in the order in which they first occur, each once. -/
  order : (pairs.map Prod.fst).Pairwise fun key other =>
    (written.map Prod.fst).idxOf key < (written.map Prod.fst).idxOf other
  /-- They are written with their last values. -/
  values : ∀ pair ∈ pairs, ∃ json value, Json.lastValue? pair.1 written = some json ∧
    json.IsValue value ∧ pair.2 = literal mode value

/-- Only null is read as null. -/
theorem Json.IsValue.isNull_iff {json : Json} {value : Value} (h : json.IsValue value) :
    value.isNull = true ↔ json = .null := by
  cases h with
  | list _ => exact ⟨fun h => (nomatch h), fun h => (nomatch h)⟩
  | scalar h =>
      cases h with
      | null => exact ⟨fun _ => rfl, fun _ => rfl⟩
      | _ => exact ⟨fun h => (nomatch h), fun h => (nomatch h)⟩

variable {written : List (String × Json)} {p : Properties}

/-- Under a key stands what stands for the last value that is written. -/
theorem Properties.rel_lastValue?
    (h : Entries.Related Json.IsValue (Json.mergedPairs written) p.entries) (key : String) :
    Option.Rel Json.IsValue (Json.lastValue? key written) (p.get? key) := by
  have hfind := h.find? key
  rw [Json.find?_mergedPairs] at hfind
  unfold Json.lastValue? Properties.get?
  generalize (Json.valuesOf key written).getLast? = last at hfind ⊢
  generalize p.entries.find? key = found at hfind ⊢
  cases last with
  | none =>
      cases hfind
      exact .none
  | some json =>
      cases hfind with
      | some hvalue => exact .some (Json.isValue_of_merged hvalue)

/-- The keys of properties stand in the order in which they first occur. -/
theorem Properties.firstNamed_keys
    (h : Entries.Related Json.IsValue (Json.mergedPairs written) p.entries) :
    FirstNamed (written.map Prod.fst) p.entries.keys := by
  have hnamed := FirstNamed.ofPairs (written.map (Prod.map id Json.merged))
  rw [List.map_map] at hnamed
  rwa [← (Entries.Related.iff_keys_values.mp h).1]

/-- **Properties are written in the order of their text**, with their last values. -/
theorem Cypher.lastWritten_pairs (mode : StringMode)
    (h : Entries.Related Json.IsValue (Json.mergedPairs written) p.entries) :
    LastWritten mode written (pairs mode p.entries) where
  keys key := by
    have hlast := Properties.rel_lastValue? h key
    constructor
    · intro hkey
      obtain ⟨⟨_, text⟩, hpair, rfl⟩ := List.mem_map.mp hkey
      obtain ⟨value, hvalue, hnull, -⟩ := mem_pairs.mp hpair
      obtain ⟨json, hjson, hisValue⟩ := exists_left hlast hvalue
      exact ⟨json, hjson, mt hisValue.isNull_iff.mpr (Bool.eq_false_iff.mp hnull)⟩
    · rintro ⟨json, hjson, hnull⟩
      obtain ⟨value, hvalue, hisValue⟩ := exists_right hlast hjson
      have hpresent : value.isNull = false := Bool.eq_false_iff.mpr (mt hisValue.isNull_iff.mp hnull)
      exact List.mem_map.mpr ⟨_, mem_pairs.mpr ⟨value, hvalue, hpresent, rfl⟩, rfl⟩
  order := by
    have hsublist : ((pairs mode p.entries).map Prod.fst).Sublist p.entries.keys := by
      unfold pairs Entries.keys
      rw [List.map_map]
      exact List.filter_sublist.map Prod.fst
    exact (Properties.firstNamed_keys h).order.sublist hsublist
  values := by
    rintro ⟨key, text⟩ hpair
    obtain ⟨value, hvalue, -, rfl⟩ := mem_pairs.mp hpair
    obtain ⟨json, hjson, hisValue⟩ := exists_left (Properties.rel_lastValue? h key) hvalue
    exact ⟨json, value, hjson, hisValue, rfl⟩

/-! ## Statements -/

namespace Entry

variable {e : Entry} {mode : StringMode} {pattern : Pattern}

/-- An entry that is created without looking is created with its pairs. -/
theorem text_of_create (h : e.matching = .create) :
    (e.composed mode pattern).text =
      "CREATE " ++ pattern.textOf (Cypher.pairs mode e.props.entries) := by
  unfold composed parts found
  simp only [h]
  rfl

/-- An entry that is found by its properties, all of which are written then. -/
theorem text_of_default (hmatching : e.matching = .onProps) (hupdating : e.updating = .allProps) :
    (e.composed mode pattern).text = String.intercalate " "
      (["MERGE " ++ pattern.textOf (Cypher.pairs mode e.props.entries)] ++
        Cypher.partOf "ON CREATE SET " (Cypher.mapTo pattern.subject)
          (Cypher.pairs mode e.props.entries) ++
        Cypher.partOf "ON MATCH SET " (Cypher.itemsTo pattern.subject)
          (Cypher.pairs mode e.props.entries)) := by
  unfold composed parts found createdPart changedPart changed replacesAll
  simp only [hmatching, hupdating]
  rfl

end Entry

/-- **Properties are written in the order of the text.** In every document that is read, each entry
has the object that the text has for it, with all its members; if this object has properties, the
last ones count. When the document is compiled, the same pairs stand in the declaration of an entry
that is created without looking, and in the map for a new entity and the assignments for one that is
found, of an entry that neither says how it is found nor what is written then: one pair for each key
whose last value in the text is not null, in the order in which the keys first occur there. -/
theorem document_written_order {text : String} {d : Document} (h : Document.ofText text = .ok d) :
    ∃ u, UnmergedOutline.ofText text = .ok u ∧ u.entries.length = d.entries.length ∧
      ∀ (settings : Compile.Settings) (scope : Scope) (script : Script) (after : Scope),
        Compile.document settings d scope = (.ok script, after) →
        ∀ (place : Nat) (members written : List (String × Json)), u.entries[place]? = some members →
          Json.lastValue? "props" members = some (.object written) →
          ∃ e pattern pairs statement, d.entries[place]? = some e ∧
            d.PatternAt after place pattern ∧ script.statements[place]? = some statement ∧
            Cypher.LastWritten settings.mode written pairs ∧
            (e.matching = .create → statement.text = "CREATE " ++ pattern.textOf pairs) ∧
            (e.matching = .onProps → e.updating = .allProps →
              statement.text = String.intercalate " " (["MERGE " ++ pattern.textOf pairs] ++
                Cypher.partOf "ON CREATE SET " (Cypher.mapTo pattern.subject) pairs ++
                Cypher.partOf "ON MATCH SET " (Cypher.itemsTo pattern.subject) pairs)) := by
  obtain ⟨u, hu, hread⟩ := Document.exists_unmerged h
  refine ⟨u, hu, hread.length_eq, fun settings scope script after hcompile place members written
    hmembers hwritten => ?_⟩
  obtain ⟨e, he, hentry⟩ := exists_right (rel_getElem? hread place) hmembers
  obtain ⟨pattern, hpattern, hstatement⟩ := Compile.statement_placed hcompile he
  exact ⟨e, pattern, _, _, he, hpattern, hstatement,
    Cypher.lastWritten_pairs settings.mode (hentry.related_props hwritten), Entry.text_of_create,
    Entry.text_of_default⟩

/-- A document in which keys come again: one has a value and then null, and another one null and then
a value. One node is created without looking, and the other one says nothing. -/
def rewrittenText : String :=
  "\x7b\"nodes\":[\x7b\"match\":false,\"props\":\x7b\"b\":null,\"a\":1,\"b\":3,\"a\":null\x7d\x7d," ++
    "\x7b\"props\":\x7b\"c\":[1,2],\"a\":1,\"b\":3,\"c\":\"\",\"b\":true\x7d\x7d]\x7d"

/-- One node is created without looking, and the other one says nothing. -/
theorem rewrittenText_read :
    ∃ d script e f, Document.ofText rewrittenText = .ok d ∧
      Compile.document .default d .empty =
        (.ok script, (Compile.document .default d .empty).2) ∧
      script.texts = ["CREATE (x0 \x7b b: 3 \x7d)", "MERGE (x1 \x7b c: '', a: 1, b: true \x7d)" ++
        " ON CREATE SET x1 = \x7b c: '', a: 1, b: true \x7d" ++
        " ON MATCH SET x1.c = '', x1.a = 1, x1.b = true"] ∧
      d.entries = [e, f] ∧ e.matching = .create ∧ f.matching = .onProps ∧
      f.updating = .allProps := by
  have hscript : ((Document.ofText rewrittenText).toOption.bind fun d =>
      (Compile.document .default d .empty).1.toOption.map fun script => (script.texts,
        d.entries.map fun e => (e.matching.isCreate,
          (e.matching matches .onProps) && (e.updating matches .allProps)))) =
        some (["CREATE (x0 \x7b b: 3 \x7d)", "MERGE (x1 \x7b c: '', a: 1, b: true \x7d)" ++
          " ON CREATE SET x1 = \x7b c: '', a: 1, b: true \x7d" ++
          " ON MATCH SET x1.c = '', x1.a = 1, x1.b = true"], [(true, false), (false, true)]) := by
    decide +kernel
  obtain ⟨d, hd, hscript⟩ := Option.bind_eq_some_iff.mp hscript
  obtain ⟨script, hcompile, hscript⟩ := Option.map_eq_some_iff.mp hscript
  obtain ⟨htexts, hrules⟩ := Prod.mk.inj hscript
  rw [toOption_eq_some] at hd hcompile
  simp only [List.map_eq_cons_iff, List.map_eq_nil_iff, Prod.mk.injEq, Bool.and_eq_true] at hrules
  obtain ⟨e, _, hentries, ⟨hcreate, -⟩, f, _, rfl, ⟨-, hfound, hall⟩, rfl⟩ := hrules
  refine ⟨d, script, e, f, hd, Prod.ext hcompile rfl, htexts, hentries, ?_, ?_, ?_⟩
  · cases hmatching : e.matching with
    | create => rfl
    | _ => simp [hmatching, MatchRule.isCreate] at hcreate
  · cases hmatching : f.matching with
    | onProps => rfl
    | _ => simp [hmatching] at hfound
  · cases hupdating : f.updating with
    | allProps => rfl
    | _ => simp [hupdating] at hall

/-- Both nodes have properties, with these keys. -/
theorem rewrittenText_members {u : UnmergedOutline}
    (hu : UnmergedOutline.ofText rewrittenText = .ok u) (place : Nat) {keys : List String}
    (h : [["b", "a", "b", "a"], ["c", "a", "b", "c", "b"]][place]? = some keys) :
    ∃ members written, u.entries[place]? = some members ∧
      Json.lastValue? "props" members = some (.object written) ∧ written.map Prod.fst = keys := by
  have hkeys : (UnmergedOutline.ofText rewrittenText).toOption.map (fun u =>
      u.entries.map fun members => ((Json.lastValue? "props" members).bind Json.members?).map
        Entries.keys) = some ([["b", "a", "b", "a"], ["c", "a", "b", "c", "b"]].map some) := by
    decide +kernel
  rw [hu] at hkeys
  have hplace := congrArg (Option.map some) h
  rw [← List.getElem?_map, ← Option.some.inj hkeys, List.getElem?_map, Option.map_some,
    Option.map_eq_some_iff] at hplace
  obtain ⟨members, hmembers, hlast⟩ := hplace
  obtain ⟨written, hwritten, hnames⟩ := Option.map_eq_some_iff.mp hlast
  obtain ⟨json, hjson, hobject⟩ := Option.bind_eq_some_iff.mp hwritten
  cases json with
  | object _ =>
      cases hobject
      exact ⟨members, written, hmembers, hjson, hnames⟩
  | _ => exact nomatch hobject

/-- The last values are written where their keys come first. -/
theorem document_written_order_rewritten :
    ∃ d script after, Document.ofText rewrittenText = .ok d ∧
      Compile.document .default d .empty = (.ok script, after) ∧
      script.texts = ["CREATE (x0 \x7b b: 3 \x7d)", "MERGE (x1 \x7b c: '', a: 1, b: true \x7d)" ++
        " ON CREATE SET x1 = \x7b c: '', a: 1, b: true \x7d" ++
        " ON MATCH SET x1.c = '', x1.a = 1, x1.b = true"] ∧
      (∃ (written : List (String × Json)) (pattern : Pattern) (pairs : List (String × String))
          (statement : Statement),
        written.map Prod.fst = ["b", "a", "b", "a"] ∧ script.statements[0]? = some statement ∧
        Cypher.LastWritten .verbatim written pairs ∧
        statement.text = "CREATE " ++ pattern.textOf pairs) ∧
      ∃ (written : List (String × Json)) (pattern : Pattern) (pairs : List (String × String))
          (statement : Statement),
        written.map Prod.fst = ["c", "a", "b", "c", "b"] ∧ script.statements[1]? = some statement ∧
        Cypher.LastWritten .verbatim written pairs ∧
        statement.text = String.intercalate " " (["MERGE " ++ pattern.textOf pairs] ++
          Cypher.partOf "ON CREATE SET " (Cypher.mapTo pattern.subject) pairs ++
          Cypher.partOf "ON MATCH SET " (Cypher.itemsTo pattern.subject) pairs) := by
  obtain ⟨d, script, e, f, hd, hcompile, htexts, hentries, hcreate, hfound, hall⟩ :=
    rewrittenText_read
  obtain ⟨u, hu, -, hplaces⟩ := document_written_order hd
  refine ⟨d, script, _, hd, hcompile, htexts, ?_, ?_⟩
  · obtain ⟨members, written, hmembers, hwritten, hnames⟩ := rewrittenText_members hu 0 rfl
    obtain ⟨e', pattern, pairs, statement, he, -, hstatement, hpairs, htext, -⟩ :=
      hplaces .default .empty script _ hcompile 0 members written hmembers hwritten
    rw [hentries] at he
    cases he
    exact ⟨written, pattern, pairs, statement, hnames, hstatement, hpairs, htext hcreate⟩
  · obtain ⟨members, written, hmembers, hwritten, hnames⟩ := rewrittenText_members hu 1 rfl
    obtain ⟨e', pattern, pairs, statement, he, -, hstatement, hpairs, -, htext⟩ :=
      hplaces .default .empty script _ hcompile 1 members written hmembers hwritten
    rw [hentries] at he
    cases he
    exact ⟨written, pattern, pairs, statement, hnames, hstatement, hpairs, htext hfound hall⟩

end GraphImport
