import GraphImport.Proofs.Compile.Contents
import GraphImport.Proofs.Cypher.LiteralReading

/-!
# Reading statements

A statement whose strings are escaped tells its pattern and the decision about its entry, whatever
statement follows it. Names are not escaped, so they have to be identifiers.

* `Identifier`, `IdentifierKey` — names that need no escaping.
* `Reader.statement` — takes a statement off a text.
* `Separated` — what may stand behind a statement: nothing, or another statement.
* `Reads.statement` — statements are read back.
-/

namespace GraphImport

/-! ## Names -/

/-- The character may stand in an identifier. -/
def isNameChar (c : Char) : Bool := c.isAlphanum || c == '_'

/-- A letter or underscore, and after it letters, digits and underscores, all of them ASCII. -/
def isIdentifier (s : String) : Bool :=
  match s.toList with
  | [] => false
  | c :: cs => (c.isAlpha || c == '_') && cs.all isNameChar

/-- The name needs no escaping. -/
def Identifier (s : String) : Prop := isIdentifier s = true

instance : DecidablePred Identifier := fun s => inferInstanceAs (Decidable (isIdentifier s = true))

/-- All characters of an identifier may stand in one. -/
theorem Identifier.isNameChar {s : String} (h : Identifier s) :
    ∀ c ∈ s.toList, isNameChar c = true := by
  unfold Identifier isIdentifier at h
  cases hlist : s.toList with
  | nil => exact fun c hc => absurd hc List.not_mem_nil
  | cons first others =>
      rw [hlist] at h
      obtain ⟨hfirst, hothers⟩ := Bool.and_eq_true_iff.mp h
      intro c hc
      rcases List.mem_cons.mp hc with rfl | hc
      · unfold GraphImport.isNameChar Char.isAlphanum
        simp only [Bool.or_eq_true] at hfirst ⊢
        tauto
      · exact List.all_eq_true.mp hothers c hc

/-- The key of an entry is an identifier, if the entry is written at all. -/
def IdentifierKey (entry : String × Value) : Prop := entry.2.isNull = false → Identifier entry.1

instance : DecidablePred IdentifierKey := fun entry =>
  inferInstanceAs (Decidable (entry.2.isNull = false → Identifier entry.1))

/-- The keys that are written are identifiers. -/
theorem Properties.All.identifier {p : Properties} (h : p.All IdentifierKey) :
    ∀ entry ∈ p.present, Identifier entry.1 := by
  intro entry hentry
  obtain ⟨hmem, hnull⟩ := List.mem_filter.mp hentry
  exact h entry hmem (by simpa using hnull)

/-- **What may stand behind a statement**: nothing, or a blank and another statement. -/
def Separated (rest : List Char) : Prop :=
  rest = [] ∨ ∃ after, rest = " CREATE ".toList ++ after ∨ rest = " MERGE ".toList ++ after

/-! ## First characters -/

/-- The text is empty or begins with the character. -/
def BeginsWith (c : Char) (s : String) : Prop := s = "" ∨ ∃ cs, s.toList = c :: cs

/-- What holds of the first character behind a text that may be empty. -/
theorem BeginsWith.forall_head {P : Char → Prop} {c : Char} {s : String} (h : BeginsWith c s)
    (hc : P c) {rest : List Char} (hrest : ∀ d ∈ rest.head?, P d) :
    ∀ d ∈ (s.toList ++ rest).head?, P d := by
  rcases h with rfl | ⟨cs, hs⟩
  · exact hrest
  · exact forall_head_append s hs hc rest

/-- A text begins like its first word. -/
theorem beginsWith_append {c : Char} {cs : List Char} {word : String} (hword : word.toList = c :: cs)
    (t : String) : BeginsWith c (word ++ t) :=
  .inr ⟨cs ++ t.toList, by rw [String.toList_append, hword, List.cons_append]⟩

theorem beginsWith_labels (names : List String) : BeginsWith ':' (Cypher.labels names) := by
  cases names with
  | nil => exact .inl rfl
  | cons name names =>
      unfold Cypher.labels
      rw [List.map_cons, String.join_cons, String.append_assoc]
      exact beginsWith_append rfl _

theorem beginsWith_propertyText (mode : StringMode) (p : Properties) :
    BeginsWith ' ' (Pattern.propertyText mode p) := by
  unfold Pattern.propertyText
  split_ifs
  · exact beginsWith_append rfl _
  · exact .inl rfl

/-! ## Behind a statement -/

namespace Separated

variable {rest : List Char}

/-- What stands behind a statement begins with a blank. -/
theorem head (h : Separated rest) : ∀ c ∈ rest.head?, c = ' ' := by
  rcases h with rfl | ⟨after, rfl | rfl⟩
  · exact fun c hc => absurd hc (by simp)
  · exact forall_head_append " CREATE " rfl (by decide) after
  · exact forall_head_append " MERGE " rfl (by decide) after

/-- A literal may be the end of a statement. -/
theorem follows (h : Separated rest) : Follows rest := fun c hc => .inl (h.head c hc)

/-- The clause for a new entity belongs to the statement in front of it. -/
theorem stops_created (h : Separated rest) : Stops " ON CREATE SET " rest := by
  rcases h with rfl | ⟨after, rfl | rfl⟩ <;> rfl

/-- The clause for an entity that is found belongs to the statement in front of it. -/
theorem stops_change (h : Separated rest) : Stops " ON MATCH SET " rest := by
  rcases h with rfl | ⟨after, rfl | rfl⟩ <;> rfl

/-- A statement ends with its last assignment. -/
theorem stops_comma (h : Separated rest) : Stops ", " rest :=
  stops_of_head rfl fun c hc => by
    rw [h.head c hc]
    decide

end Separated

namespace Reader

/-! ## Readers -/

/-- Takes a name. -/
def name : Reader String := span isNameChar

/-- Takes the name of a variable. -/
def variableName : Reader Variable := do
  expect "x"
  return ⟨← natural⟩

/-- Takes a key and, behind the separator, its value. -/
def field (separator : String) : Reader (String × Value) := do
  let key ← name
  expect separator
  return (key, ← value)

/-- Takes a map with at least one entry. -/
def map : Reader (Entries Value) := do
  expect "\x7b "
  let first ← field ": "
  let others ← many ", " (field ": ")
  expect " \x7d"
  return first :: others

/-- Takes the properties inside a pattern. -/
def properties : Reader (Entries Value) := do
  match ← optional " " map with
  | some entries => return entries
  | none => return []

/-- Takes the part of a pattern that comes behind the node at which a relationship starts. -/
def edge : Reader (Variable × String × Entries Value × Variable) := do
  let v ← variableName
  expect ":"
  let type ← name
  let entries ← properties
  expect "]->("
  let target ← variableName
  expect ")"
  return (v, type, entries, target)

/-- Takes a pattern with its properties. -/
def pattern : Reader (Pattern × Entries Value) := do
  expect "("
  let v ← variableName
  let labels ← many ":" name
  let entries ← properties
  expect ")"
  match ← optional "-[" edge with
  | none => return (.node v labels, entries)
  | some (w, type, entries, target) => return (.relationship w v target type, entries)

/-- Takes the assignment of a map to a variable. -/
def assignment : Reader (Entries Value) := do
  let _ ← variableName
  expect " = "
  map

/-- Takes the assignment of a value to a field of a variable. -/
def item : Reader (String × Value) := do
  let _ ← variableName
  expect "."
  field " = "

/-- Takes what is assigned to an entity that is found: a map, or its fields. -/
def effect : Reader Effect := do
  let _ ← variableName
  match ← optional " = " map with
  | some entries => return .whole entries
  | none =>
    expect "."
    let first ← field " = "
    let others ← many ", " item
    return .fields (first :: others)

/-- Takes a statement. -/
def statement : Reader (Pattern × Decision) := do
  match ← optional "CREATE " pattern with
  | some (pattern, entries) => return (pattern, .create entries)
  | none =>
    expect "MERGE "
    let (pattern, entries) ← pattern
    let created ← optional " ON CREATE SET " assignment
    let effect ← optional " ON MATCH SET " effect
    return (pattern, .merge entries (created.getD []) (effect.getD .nothing))

end Reader

namespace Reads

variable {rest : List Char}

/-! ## Parts of patterns -/

/-- An identifier is read back when no character of a name follows. -/
theorem name {s : String} (hs : Identifier s) (h : ∀ c ∈ rest.head?, isNameChar c = false) :
    Reads Reader.name s s rest := span hs.isNameChar h

/-- The name of a variable is read back when no digit follows. -/
theorem variableName (v : Variable) (h : ∀ c ∈ rest.head?, c.isDigit = false) :
    Reads Reader.variableName v.name v rest :=
  (expect "x" _).bind (natural v.ordinal h).bind_pure

/-- The name of a variable is read back in front of a word that begins with no digit. -/
theorem variableName_word (v : Variable) {word : String} {c : Char} {cs : List Char}
    (hword : word.toList = c :: cs) (hc : c.isDigit = false) (after : List Char) :
    Reads Reader.variableName v.name v (word.toList ++ after) :=
  variableName v (forall_head_append word hword hc after)

/-- A key with its value is read back. -/
theorem field {separator : String} {c : Char} {cs : List Char}
    (hseparator : separator.toList = c :: cs) (hc : isNameChar c = false) {entry : String × Value}
    (hkey : Identifier entry.1) (h : Follows rest) :
    Reads (Reader.field separator) (entry.1 ++ separator ++ Cypher.literal .escaped entry.2)
      (entry.1, entry.2.identifyNaN) rest := by
  have hname : ∀ after, Reads Reader.name entry.1 entry.1 (separator.toList ++ after) :=
    fun after => name hkey (forall_head_append separator hseparator hc after)
  have hvalue := value entry.2 h
  unfold Reader.field
  rw [String.append_assoc]
  exact bind_word hname ((expect separator _).bind hvalue.bind_pure)

/-- A map is written entry by entry. -/
theorem mapLiteral_eq {p : Properties} {first : String × Value} {others : Entries Value}
    (hp : p.present = first :: others) :
    Cypher.mapLiteral .escaped p =
      "\x7b " ++ ((first.1 ++ ": " ++ Cypher.literal .escaped first.2) ++
        (String.join (others.map fun entry =>
          ", " ++ (entry.1 ++ ": " ++ Cypher.literal .escaped entry.2)) ++ " \x7d")) := by
  unfold Cypher.mapLiteral
  rw [hp]
  simp only [List.map_cons, List.isEmpty_cons, Bool.false_eq_true, if_false, intercalate_cons,
    List.map_map, String.append_assoc]
  rfl

/-- **Maps are read back** when they have an entry. -/
theorem map {p : Properties} (hp : p.anyPresent = true) (hkeys : p.All IdentifierKey) :
    Reads Reader.map (Cypher.mapLiteral .escaped p) p.written rest := by
  obtain ⟨first, others, hpresent⟩ := Properties.anyPresent_eq_true.mp hp
  have hcolon : ": ".toList = [':', ' '] := rfl
  have hend : Follows (" \x7d".toList ++ rest) := follows_append rfl (.inl rfl) rest
  have hidentifier : ∀ entry ∈ first :: others, Identifier entry.1 := fun entry h =>
    hkeys.identifier entry (hpresent ▸ h)
  have hfirst := fun after (h : Follows after) =>
    field hcolon rfl (hidentifier first List.mem_cons_self) h
  have hothers : Reads (Reader.many ", " (Reader.field ": "))
      (String.join (others.map fun entry =>
        ", " ++ (entry.1 ++ ": " ++ Cypher.literal .escaped entry.2)))
      (others.map fun entry => (entry.1, entry.2.identifyNaN)) (" \x7d".toList ++ rest) :=
    many (by decide) follows_comma hend (stops_append rfl rfl (by decide) rest)
      fun entry h after hafter =>
        field hcolon rfl (hidentifier entry (List.mem_cons_of_mem _ h)) hafter
  have hclose : Reads (Reader.expect " \x7d") " \x7d" () rest := expect _ _
  have hlast := hend.join others fun entry =>
    entry.1 ++ ": " ++ Cypher.literal .escaped entry.2
  unfold Reader.map
  rw [mapLiteral_eq hpresent, p.written_eq, hpresent, List.map_cons]
  refine (expect _ _).bind (Reads.bind ?_ (hothers.bind (hclose.bind_right (pure _ _))))
  rw [String.toList_append, List.append_assoc]
  exact hfirst _ hlast

/-- **The properties inside a pattern are read back** in front of what is no blank. -/
theorem properties {p : Properties} (hkeys : p.All IdentifierKey) (h : Stops " " rest) :
    Reads Reader.properties (Pattern.propertyText .escaped p) p.written rest := by
  unfold Pattern.propertyText Reader.properties
  by_cases hp : p.anyPresent = true
  · rw [if_pos hp]
    exact (optional_some " " (map hp hkeys)).bind_right (pure _ _)
  · rw [if_neg hp, Properties.written_of_not_anyPresent hp]
    exact (optional_none Reader.map h).bind_right (pure _ _)

/-- Labels are read back in front of what is neither a colon nor part of a name. -/
theorem labels {names : List String} (hnames : ∀ name ∈ names, Identifier name)
    (h : ∀ c ∈ rest.head?, isNameChar c = false ∧ c ≠ ':') :
    Reads (Reader.many ":" Reader.name) (Cypher.labels names) names rest := by
  have hcolon : ∀ after : List Char, ∀ c ∈ (":".toList ++ after).head?, isNameChar c = false :=
    fun after => forall_head_append ":" rfl (by decide) after
  have hread : Reads (Reader.many ":" Reader.name) (Cypher.labels names)
      (names.map fun name => name) rest :=
    many (by decide) hcolon (fun c hc => (h c hc).1) (stops_of_head rfl fun c hc => (h c hc).2)
      fun label hlabel after hafter => name (hnames label hlabel) hafter
  rwa [List.map_id'] at hread

/-- What stands behind the first node of a relationship is read back. -/
theorem edge (v target : Variable) {type : String} (htype : Identifier type) {p : Properties}
    (hkeys : p.All IdentifierKey) (rest : List Char) :
    Reads Reader.edge
      (v.name ++ (":" ++ (type ++ (Pattern.propertyText .escaped p ++
        ("]->(" ++ (target.name ++ ")"))))))
      (v, type, p.written, target) rest := by
  have hclose : Reads (Reader.expect ")") ")" () rest := expect ")" rest
  have htarget : Reads Reader.variableName target.name target (")".toList ++ rest) :=
    variableName_word target rfl rfl rest
  have hproperties : ∀ after, Reads Reader.properties (Pattern.propertyText .escaped p) p.written
      ("]->(".toList ++ after) := fun after =>
    properties hkeys (stops_append rfl rfl (by decide) after)
  have hname : ∀ after, Reads Reader.name type type
      ((Pattern.propertyText .escaped p).toList ++ ("]->(".toList ++ after)) := fun after =>
    name htype ((beginsWith_propertyText .escaped p).forall_head (by decide)
      (forall_head_append "]->(" rfl (by decide) after))
  unfold Reader.edge
  refine bind_word (variableName_word v rfl rfl) ((expect ":" _).bind (Reads.bind ?_
    (bind_word hproperties ((expect "]->(" _).bind
      (htarget.bind (hclose.bind_right (pure _ _)))))))
  simp only [String.toList_append, List.append_assoc]
  exact hname _

/-- The pattern of a node is read back. -/
theorem pattern_node (v : Variable) {names : List String} (hnames : ∀ name ∈ names, Identifier name)
    {p : Properties} (hkeys : p.All IdentifierKey) (h : ∀ c ∈ rest.head?, c = ' ') :
    Reads Reader.pattern ((Pattern.node v names).text .escaped p) (.node v names, p.written)
      rest := by
  have hclose : Reads (Reader.expect ")") ")" () rest := expect ")" rest
  have hnone : Reads (Reader.optional "-[" Reader.edge) "" none rest :=
    optional_none Reader.edge (stops_of_head rfl fun c hc => by
      cases h c hc
      decide)
  have hproperties : Reads Reader.properties (Pattern.propertyText .escaped p) p.written
      (")".toList ++ rest) := properties hkeys (stops_append rfl rfl (by decide) rest)
  have hlabels : Reads (Reader.many ":" Reader.name) (Cypher.labels names) names
      ((Pattern.propertyText .escaped p).toList ++ (")".toList ++ rest)) :=
    labels hnames ((beginsWith_propertyText .escaped p).forall_head (by decide)
      (forall_head_append ")" rfl (by decide) rest))
  have hvariable : Reads Reader.variableName v.name v ((Cypher.labels names).toList ++
      ((Pattern.propertyText .escaped p).toList ++ (")".toList ++ rest))) :=
    variableName v ((beginsWith_labels names).forall_head (by decide)
      ((beginsWith_propertyText .escaped p).forall_head (by decide)
        (forall_head_append ")" rfl (by decide) rest)))
  unfold Pattern.text Reader.pattern
  simp only [String.append_assoc]
  refine (expect "(" _).bind (Reads.bind ?_ (Reads.bind ?_ (hproperties.bind
    (hclose.bind_right (hnone.bind_right (pure _ _))))))
  · simpa only [String.toList_append, List.append_assoc] using hvariable
  · simpa only [String.toList_append, List.append_assoc] using hlabels

/-- The pattern of a relationship is read back. -/
theorem pattern_relationship (v source target : Variable) {type : String} (htype : Identifier type)
    {p : Properties} (hkeys : p.All IdentifierKey) (rest : List Char) :
    Reads Reader.pattern ((Pattern.relationship v source target type).text .escaped p)
      (.relationship v source target type, p.written) rest := by
  -- The first node of a relationship is read as a node without labels and properties.
  have hlabels : ∀ after, Reads (Reader.many ":" Reader.name) "" [] (")".toList ++ after) :=
    fun after => labels (fun _ h => absurd h List.not_mem_nil)
      (forall_head_append ")" rfl (by decide) after)
  have hproperties : ∀ after, Reads Reader.properties "" [] (")".toList ++ after) :=
    fun after => (optional_none Reader.map (stops_append rfl rfl (by decide) after)).bind_right
      (pure _ _)
  have hedge := (optional_some "-[" (edge v target htype hkeys rest)).bind_right
    (f := fun found => match found with
      | none => Pure.pure (Pattern.node source [], [])
      | some (w, type, entries, target) =>
        Pure.pure (Pattern.relationship w source target type, entries)) (pure _ _)
  have htext : Pattern.text .escaped p (.relationship v source target type) =
      "(" ++ (source.name ++ (")" ++ ("-[" ++ (v.name ++ (":" ++ (type ++
        (Pattern.propertyText .escaped p ++ ("]->(" ++ (target.name ++ ")"))))))))) := by
    have hword : ")-[" = ")" ++ "-[" := rfl
    unfold Pattern.text
    rw [hword]
    simp only [String.append_assoc]
  unfold Reader.pattern
  rw [htext]
  exact (expect "(" _).bind (bind_word (variableName_word source rfl rfl)
    (bind_left_word hlabels (bind_left_word hproperties ((expect ")" _).bind hedge))))

/-- **Patterns are read back** in front of a blank and at the end. -/
theorem pattern {pattern : Pattern} (hnames : pattern.All Identifier) {p : Properties}
    (hkeys : p.All IdentifierKey) (h : ∀ c ∈ rest.head?, c = ' ') :
    Reads Reader.pattern (pattern.text .escaped p) (pattern, p.written) rest := by
  cases pattern with
  | node v names => exact pattern_node v hnames hkeys h
  | relationship v source target type =>
      exact pattern_relationship v source target hnames hkeys rest

/-! ## Clauses -/

/-- The assignment of a map is read back. -/
theorem assignment (v : Variable) {p : Properties} (hp : p.anyPresent = true)
    (hkeys : p.All IdentifierKey) :
    Reads Reader.assignment (Cypher.setMap .escaped v p) p.written rest := by
  unfold Reader.assignment Cypher.setMap
  exact bind_word (variableName_word v rfl rfl) ((expect " = " _).bind (map hp hkeys))

/-- The assignment of a value to a field is read back. -/
theorem item (v : Variable) {entry : String × Value} (hkey : Identifier entry.1)
    (h : Follows rest) :
    Reads Reader.item
      (v.name ++ ("." ++ (entry.1 ++ " = " ++ Cypher.literal .escaped entry.2)))
      (entry.1, entry.2.identifyNaN) rest := by
  have hequals : " = ".toList = [' ', '=', ' '] := rfl
  unfold Reader.item
  exact bind_word (variableName_word v rfl rfl) ((expect "." _).bind (field hequals rfl hkey h))

/-- Fields are assigned one by one. -/
theorem setItems_eq (v : Variable) {p : Properties} {first : String × Value}
    {others : Entries Value} (hp : p.present = first :: others) :
    Cypher.setItems .escaped v p =
      v.name ++ ("." ++ ((first.1 ++ " = " ++ Cypher.literal .escaped first.2) ++
        String.join (others.map fun entry => ", " ++
          (v.name ++ ("." ++ (entry.1 ++ " = " ++ Cypher.literal .escaped entry.2)))))) := by
  unfold Cypher.setItems
  rw [hp]
  simp only [List.map_cons, intercalate_cons, List.map_map, String.append_assoc]
  rfl

/-- The assignment of fields is read back. -/
theorem effect_fields (v : Variable) {p : Properties} (hp : p.anyPresent = true)
    (hkeys : p.All IdentifierKey) (h : Follows rest) (hstops : Stops ", " rest) :
    Reads Reader.effect (Cypher.setItems .escaped v p) (.fields p.written) rest := by
  obtain ⟨first, others, hpresent⟩ := Properties.anyPresent_eq_true.mp hp
  have hequals : " = ".toList = [' ', '=', ' '] := rfl
  have hidentifier : ∀ entry ∈ first :: others, Identifier entry.1 := fun entry h =>
    hkeys.identifier entry (hpresent ▸ h)
  have hnone : ∀ after, Reads (Reader.optional " = " Reader.map) "" none (".".toList ++ after) :=
    fun after => optional_none Reader.map (stops_append rfl rfl (by decide) after)
  have hfirst := field hequals rfl (hidentifier first List.mem_cons_self)
    (h.join others fun entry =>
      v.name ++ ("." ++ (entry.1 ++ " = " ++ Cypher.literal .escaped entry.2)))
  have hothers : Reads (Reader.many ", " Reader.item)
      (String.join (others.map fun entry => ", " ++
        (v.name ++ ("." ++ (entry.1 ++ " = " ++ Cypher.literal .escaped entry.2)))))
      (others.map fun entry => (entry.1, entry.2.identifyNaN)) rest :=
    many (by decide) follows_comma h hstops
      fun entry hentry after hafter =>
        item v (hidentifier entry (List.mem_cons_of_mem _ hentry)) hafter
  unfold Reader.effect
  rw [setItems_eq v hpresent, p.written_eq, hpresent, List.map_cons]
  exact bind_word (variableName_word v rfl rfl) (bind_left_word hnone
    ((expect "." _).bind (hfirst.bind hothers.bind_pure)))

/-- The assignment of a map in place of all properties is read back. -/
theorem effect_whole (v : Variable) {p : Properties} (hp : p.anyPresent = true)
    (hkeys : p.All IdentifierKey) :
    Reads Reader.effect (Cypher.setMap .escaped v p) (.whole p.written) rest := by
  unfold Reader.effect Cypher.setMap
  exact bind_word (variableName_word v rfl rfl)
    ((optional_some " = " (map hp hkeys)).bind_right (pure _ _))

/-- **The assignments of a change are read back** when it writes something. -/
theorem effect (v : Variable) {change : Change} (hp : change.props.anyPresent = true)
    (hkeys : change.props.All IdentifierKey) (h : Follows rest) (hstops : Stops ", " rest) :
    Reads Reader.effect (change.assignments .escaped v) change.effect rest := by
  cases change with
  | fields p =>
      have heffect : (Change.fields p).effect = .fields p.written := if_pos hp
      rw [heffect]
      exact effect_fields v hp hkeys h hstops
  | whole p =>
      have heffect : (Change.whole p).effect = .whole p.written := if_pos hp
      rw [heffect]
      exact effect_whole v hp hkeys

/-- The clause for a new entity is read back where no such clause follows. -/
theorem createdClause (v : Variable) {p : Properties} (hkeys : p.All IdentifierKey)
    (h : Stops " ON CREATE SET " rest) :
    ∃ created : Option (Entries Value), created.getD [] = p.written ∧
      Reads (Reader.optional " ON CREATE SET " Reader.assignment)
        (String.join ((GraphImport.createdClause .escaped v p).map fun clause => " " ++ clause))
        created rest := by
  rw [createdClause_eq]
  by_cases hp : p.anyPresent = true
  · refine ⟨some p.written, rfl, ?_⟩
    rw [if_pos hp, join_clause]
    exact optional_some " ON CREATE SET " (assignment v hp hkeys)
  · refine ⟨none, (Properties.written_of_not_anyPresent hp).symm, ?_⟩
    rw [if_neg hp]
    exact optional_none Reader.assignment h

/-- The clause for an entity that is found is read back. -/
theorem clause (v : Variable) {change : Change} (hkeys : change.props.All IdentifierKey)
    (h : Separated rest) :
    ∃ effect : Option Effect, effect.getD .nothing = change.effect ∧
      Reads (Reader.optional " ON MATCH SET " Reader.effect)
        (String.join ((change.clause .escaped v).map fun clause => " " ++ clause)) effect rest := by
  rw [Change.clause_eq]
  by_cases hp : change.props.anyPresent = true
  · refine ⟨some change.effect, rfl, ?_⟩
    rw [if_pos hp, join_clause]
    exact optional_some " ON MATCH SET " (effect v hp hkeys h.follows h.stops_comma)
  · refine ⟨none, (Change.effect_of_not_anyPresent hp).symm, ?_⟩
    rw [if_neg hp]
    exact optional_none Reader.effect h.stops_change

/-- The clause for an entity that is found is none for a new entity, and neither is what follows a
statement. -/
theorem stops_created_clause (v : Variable) (change : Change) (h : Separated rest) :
    Stops " ON CREATE SET "
      ((String.join ((change.clause .escaped v).map fun clause => " " ++ clause)).toList
        ++ rest) := by
  rw [Change.clause_eq]
  split_ifs
  · rw [join_clause, String.toList_append, List.append_assoc]
    rfl
  · exact h.stops_created

/-- Clauses stand behind a blank, like what follows a statement. -/
theorem head_clauses (h : Separated rest) (clauses : List String) :
    ∀ c ∈ ((String.join (clauses.map fun clause => " " ++ clause)).toList ++ rest).head?,
      c = ' ' := by
  cases clauses with
  | nil => exact h.head
  | cons clause clauses =>
      rw [List.map_cons, String.join_cons, String.append_assoc, String.toList_append,
        List.append_assoc]
      exact forall_head_append " " rfl (by decide) _

/-! ## Statements -/

/-- **Statements are read back**: a statement tells its pattern and the decision about its entry,
whatever statement follows it. -/
theorem statement {pattern : Pattern} (hnames : pattern.All Identifier) {action : Action}
    (hkeys : action.All IdentifierKey) (h : Separated rest) :
    Reads Reader.statement (action.statement .escaped pattern).text (pattern, action.decision)
      rest := by
  cases action with
  | create p =>
      rw [Action.create_text]
      unfold Reader.statement Action.decision
      exact (optional_some "CREATE " (Reads.pattern hnames hkeys h.head)).bind_right (pure _ _)
  | merge p created change =>
      -- The clauses are read from the back: what follows a clause tells that it ends there.
      obtain ⟨hp, hcreated, hchange⟩ := hkeys
      have hnone : ∀ after, Reads (Reader.optional "CREATE " Reader.pattern) "" none
          ("MERGE ".toList ++ after) := fun after => optional_none Reader.pattern rfl
      obtain ⟨effect, heffect, hreadEffect⟩ := clause pattern.subject hchange h
      obtain ⟨entries, hentries, hreadCreated⟩ := createdClause pattern.subject hcreated
        (stops_created_clause pattern.subject change h)
      have hpattern := Reads.pattern hnames hp (head_clauses h
        (GraphImport.createdClause .escaped pattern.subject created ++
          change.clause .escaped pattern.subject))
      have hdecision : (Action.merge p created change).decision =
          .merge p.written (entries.getD []) (effect.getD .nothing) := by
        rw [hentries, heffect]
        rfl
      rw [List.map_append, String.join_append] at hpattern
      rw [Action.merge_text, hdecision]
      unfold Reader.statement
      exact bind_left_word hnone ((expect "MERGE " _).bind (hpattern.bind
        (hreadCreated.bind hreadEffect.bind_pure)))

end Reads

end GraphImport
