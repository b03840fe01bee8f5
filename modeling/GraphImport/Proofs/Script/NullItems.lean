import GraphImport.Proofs.Compile.Placed
import GraphImport.Proofs.Document.NormalForm
import GraphImport.Proofs.Script.Modes

/-!
# Nulls in statements

A property that is null is left out of every statement, and so no literal is null. But lists are
written with all their items, and a document may list nulls: exactly these are written.

* `Value.HasNull` — a null stands in a value.
* `Cypher.literal_eq_null` — a literal is null for null only.
* `Entry.Given`, `Entry.writes_iff_given` — what is given for an entry, and that it is written.
* `document_nulls_written` — which nulls are written.
* `null_is_written` — a null that is written.
-/

namespace GraphImport

/-- **A null stands in the value**: it is null, or a list with an item in which one stands. -/
inductive Value.HasNull : Value → Prop where
  /-- Null. -/
  | null : HasNull .null
  /-- A list with such an item. -/
  | item {items : List Value} {item : Value} (hitem : item ∈ items) (h : HasNull item) :
    HasNull (.list items)

/-- The only scalar in which a null stands is null. -/
theorem Value.IsScalar.hasNull_iff {value : Value} (h : value.IsScalar) :
    value.HasNull ↔ value = .null := by
  constructor
  · intro hnull
    cases hnull with
    | null => rfl
    | item => exact nomatch h
  · rintro rfl
    exact .null

/-- In a flat value that is not null, nulls are items of a list. -/
theorem Value.IsFlat.hasNull_iff {value : Value} (h : value.IsFlat) (hne : value ≠ .null) :
    value.HasNull ↔ ∃ items, value = .list items ∧ .null ∈ items := by
  cases h with
  | scalar h =>
      rw [h.hasNull_iff]
      refine iff_of_false hne ?_
      rintro ⟨items, rfl, -⟩
      exact nomatch h
  | list hitems =>
      constructor
      · intro hnull
        cases hnull with
        | item hitem hnull =>
            obtain rfl := (hitems _ hitem).hasNull_iff.mp hnull
            exact ⟨_, rfl, hitem⟩
      · rintro ⟨items, hsame, hitem⟩
        cases hsame
        exact .item hitem .null

/-- A literal that is not that of null starts with another letter. -/
theorem Cypher.literal_head (mode : StringMode) {value : Value} (h : value ≠ .null) :
    ∃ c cs, (literal mode value).toList = c :: cs ∧ c ≠ 'n' := by
  have hnumber : ∀ {s : String}, Reads.BeginsNumber s → ∃ c cs, s.toList = c :: cs ∧ c ≠ 'n' := by
    rintro s ⟨c, cs, hlist, hc⟩
    refine ⟨c, cs, hlist, ?_⟩
    rintro rfl
    revert hc
    decide
  cases value with
  | null => exact absurd rfl h
  | bool b =>
      rw [literal]
      cases b with
      | false => exact ⟨_, _, rfl, by decide⟩
      | true => exact ⟨_, _, rfl, by decide⟩
  | int n => exact hnumber (Reads.beginsNumber_int n)
  | double x => exact hnumber (Reads.beginsNumber_double x)
  | string s =>
      have hquote : ∃ text, literal mode (.string s) = "'" ++ text := by
        cases mode with
        | verbatim => exact ⟨s ++ "'", String.append_assoc ..⟩
        | escaped => exact ⟨escape s ++ "'", String.append_assoc ..⟩
      obtain ⟨text, htext⟩ := hquote
      rw [htext, String.toList_append]
      exact ⟨'\x27', _, rfl, by decide⟩
  | list items =>
      rw [literal_list, String.append_assoc, String.toList_append]
      exact ⟨'[', _, rfl, by decide⟩

/-- **A literal is that of null for null only.** -/
theorem Cypher.literal_eq_null (mode : StringMode) {value : Value} :
    literal mode value = literal mode .null ↔ value = .null := by
  constructor
  · intro hsame
    by_contra hne
    obtain ⟨c, cs, hlist, hc⟩ := literal_head mode hne
    rw [hsame, literal] at hlist
    exact hc (List.cons.inj hlist).1.symm
  · rintro rfl
    rfl

/-! ## Entries -/

/-- The entries that are present are those that are not null. -/
theorem Properties.mem_present {p : Properties} {key : String} {value : Value} :
    (key, value) ∈ p.present ↔ (key, value) ∈ p.entries ∧ value ≠ .null := by
  unfold present
  rw [List.mem_filter]
  refine and_congr_right fun _ => ?_
  cases value with
  | null => exact iff_of_false (fun h => nomatch h) fun h => h rfl
  | _ => exact iff_of_true rfl nofun

namespace Entry

variable {e : Entry}

/-- The value is given for the entry: among its properties, in the map by which it is found or, unless
it is created without looking, in the map that is written then. -/
inductive Given (e : Entry) (value : Value) : Prop where
  /-- Among its properties. -/
  | props {key : String} (h : (key, value) ∈ e.props.entries)
  /-- In the map by which it is found. -/
  | matching {map : Properties} {key : String} (hmap : e.matching = .onMap map)
    (h : (key, value) ∈ map.entries)
  /-- In the map that is written when it is found. -/
  | updating {map : Properties} {key : String} (hlooks : e.matching.isCreate = false)
    (hmap : e.updating = .onMap map) (h : (key, value) ∈ map.entries)

/-- **Exactly what is given for an entry is written**, unless it is null. -/
theorem writes_iff_given {value : Value} : e.Writes value ↔ e.Given value ∧ value ≠ .null := by
  constructor
  · intro h
    cases h with
    | @pattern p key _ hp hmem =>
        obtain ⟨hentry, hnull⟩ := Properties.mem_present.mp hmem
        rw [entries_pattern hp] at hentry
        rcases e.mem_found hentry with hentry | ⟨map, hmap, hentry⟩
        · exact ⟨.props hentry, hnull⟩
        · exact ⟨.matching hmap hentry, hnull⟩
    | created hlooks hmem =>
        obtain ⟨hentry, hnull⟩ := Properties.mem_present.mp hmem
        exact ⟨.props hentry, hnull⟩
    | changed hlooks hchange hmem =>
        obtain ⟨hentry, hnull⟩ := Properties.mem_present.mp hmem
        rw [entries_change hchange] at hentry
        rcases e.mem_changed hentry with hentry | ⟨map, hmap, hentry⟩
        · exact ⟨.props hentry, hnull⟩
        · exact ⟨.updating hlooks hmap hentry, hnull⟩
  · rintro ⟨h, hnull⟩
    cases h with
    | props hentry =>
        have hmem := Properties.mem_present.mpr ⟨hentry, hnull⟩
        cases hcreate : e.matching.isCreate with
        | true => exact .pattern (pattern_of_isCreate hcreate) hmem
        | false => exact .created hcreate hmem
    | @matching map key hmap hentry =>
        have hpattern : e.pattern = .ok map := by
          unfold Entry.pattern
          rw [hmap]
        exact .pattern hpattern (Properties.mem_present.mpr ⟨hentry, hnull⟩)
    | @updating map key hlooks hmap hentry =>
        have hchange : e.change = .ok (if e.replace then .whole map else .fields map) := by
          unfold Entry.change
          rw [hmap]
        have hprops : (if e.replace then Change.whole map else .fields map).props = map := by
          cases e.replace with
          | true => rfl
          | false => rfl
        rw [← hprops] at hentry
        exact .changed hlooks hchange (Properties.mem_present.mpr ⟨hentry, hnull⟩)

/-- What is given for an entry in normal form is flat. -/
theorem IsNormal.flat_of_given (h : e.IsNormal) {value : Value} (hgiven : e.Given value) :
    value.IsFlat := by
  cases hgiven with
  | props hentry => exact h.props.flat _ hentry
  | matching hmap hentry => exact (h.matching _ hmap).flat _ hentry
  | updating hlooks hmap hentry => exact (h.updating _ hmap).flat _ hentry

end Entry

/-! ## Statements -/

/-- **Which nulls are written.** In the script of a document that is read, no literal is that of a
null. But lists are written with their items: a null stands in a value that is written exactly if this
is a list that holds one, and the statement of an entry writes such a list exactly if one is given for
the entry. -/
theorem document_nulls_written {d : Document} (hd : d.IsAccepted) (settings : Compile.Settings)
    (scope : Scope) (script : Script) (after : Scope)
    (hcompile : Compile.document settings d scope = (.ok script, after)) :
    script.size = d.entries.length ∧
    ∀ (place : Nat) (e : Entry), d.entries[place]? = some e →
      (∃ pattern, d.PatternAt after place pattern ∧
        script.statements[place]? = some (e.composed settings.mode pattern)) ∧
      (∀ value, e.Writes value →
        Cypher.literal settings.mode value ≠ Cypher.literal settings.mode .null ∧
        (value.HasNull ↔ ∃ items, value = .list items ∧ .null ∈ items)) ∧
      ((∃ value, e.Writes value ∧ value.HasNull) ↔ ∃ items, e.Given (.list items) ∧ .null ∈ items) := by
  obtain ⟨commands, hcommands, hscript⟩ := (Compile.planned hcompile).script
  refine ⟨hscript ▸ Plan.size_script settings.mode hcommands, fun place e he => ?_⟩
  have hnormal := hd.isNormal e (List.mem_of_getElem? he)
  have hnull : ∀ value, e.Writes value →
      (value.HasNull ↔ ∃ items, value = .list items ∧ .null ∈ items) := by
    intro value hwrites
    obtain ⟨hgiven, hne⟩ := Entry.writes_iff_given.mp hwrites
    exact (hnormal.flat_of_given hgiven).hasNull_iff hne
  refine ⟨Compile.statement_placed hcompile he, fun value hwrites => ⟨?_, hnull value hwrites⟩, ?_⟩
  · exact mt (Cypher.literal_eq_null _).mp (Entry.writes_iff_given.mp hwrites).2
  · constructor
    · rintro ⟨value, hwrites, hhas⟩
      obtain ⟨items, rfl, hitem⟩ := (hnull value hwrites).mp hhas
      exact ⟨items, (Entry.writes_iff_given.mp hwrites).1, hitem⟩
    · rintro ⟨items, hgiven, hitem⟩
      exact ⟨.list items, Entry.writes_iff_given.mpr ⟨hgiven, nofun⟩, .item hitem .null⟩

/-- A document with a null among its properties, and another one in a list. -/
def listedNullText : String :=
  "\x7b\"nodes\":[\x7b\"props\":\x7b\"note\":null,\"tags\":[\"a\",null]\x7d,\"match\":false\x7d]\x7d"

/-- The value is a list of a string and a null. -/
def Value.isStringAndNull : Value → Bool
  | list [.string _, .null] => true
  | _ => false

/-- Such a value holds both. -/
theorem Value.exists_of_isStringAndNull {value : Value} (h : value.isStringAndNull = true) :
    ∃ s, value = .list [.string s, .null] := by
  unfold isStringAndNull at h
  split at h
  · exact ⟨_, rfl⟩
  · cases h

/-- The document has one node, whose tags are a string and a null. -/
theorem listedNullText_read :
    ∃ d script s, Document.ofText listedNullText = .ok d ∧
      Compile.document .default d .empty =
        (.ok script, (Compile.document .default d .empty).2) ∧
      script.texts = ["CREATE (x0 \x7b tags: ['a', null] \x7d)"] ∧
      ∃ e, d.entries[0]? = some e ∧ e.Given (.list [.string s, .null]) := by
  have hscript : ((Document.ofText listedNullText).toOption.bind fun d =>
      (Compile.document .default d .empty).1.toOption.map fun script => (script.texts,
        d.entries.map fun e => (e.props.get? "tags").any Value.isStringAndNull)) =
        some (["CREATE (x0 \x7b tags: ['a', null] \x7d)"], [true]) := by decide +kernel
  obtain ⟨d, hd, hscript⟩ := Option.bind_eq_some_iff.mp hscript
  obtain ⟨script, hcompile, hscript⟩ := Option.map_eq_some_iff.mp hscript
  obtain ⟨htexts, htags⟩ := Prod.mk.inj hscript
  rw [toOption_eq_some] at hd hcompile
  obtain ⟨e, rest, hentries, htags, -⟩ := List.map_eq_cons_iff.mp htags
  have he : d.entries[0]? = some e := by
    rw [hentries]
    rfl
  obtain ⟨value, hvalue, hlist⟩ := (Option.any_eq_true _ _).mp htags
  obtain ⟨string, rfl⟩ := Value.exists_of_isStringAndNull hlist
  exact ⟨d, script, string, hd, Prod.ext hcompile rfl, htexts, e, he,
    .props (Entries.mem_of_find? hvalue)⟩

/-- The statement of the node writes a null, because its tags do. -/
theorem document_nulls_written_tags :
    ∃ d script after e, Document.ofText listedNullText = .ok d ∧
      Compile.document .default d .empty = (.ok script, after) ∧ d.entries[0]? = some e ∧
      ∃ value, e.Writes value ∧ value.HasNull := by
  obtain ⟨d, script, s, hd, hcompile, -, e, he, hgiven⟩ := listedNullText_read
  obtain ⟨-, hplaces⟩ := document_nulls_written (.text hd) .default .empty script _ hcompile
  exact ⟨d, script, _, e, hd, hcompile, he, (hplaces 0 e he).2.2.mpr ⟨_, hgiven, by simp⟩⟩

/-- **A null that is written**: it stands in a list, and in the statement. -/
theorem null_is_written :
    ∃ d script after e s, Document.ofText listedNullText = .ok d ∧
      Compile.document .default d .empty = (.ok script, after) ∧
      script.texts = ["CREATE (x0 \x7b tags: ['a', null] \x7d)"] ∧
      d.entries[0]? = some e ∧ e.Writes (.list [.string s, .null]) ∧
      Cypher.literal .verbatim .null = "null" := by
  obtain ⟨d, script, s, hd, hcompile, htexts, e, he, hgiven⟩ := listedNullText_read
  exact ⟨d, script, _, e, s, hd, hcompile, htexts, he,
    Entry.writes_iff_given.mpr ⟨hgiven, nofun⟩, by decide⟩

end GraphImport
