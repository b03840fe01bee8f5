import GraphImport.Compile.Basic
import GraphImport.Proofs.Binary64.Value

/-!
# Ends of relationships

The ends of a relationship are numbers, and exactly the integers of 64 bits with a sign are read, be
they written as integers or as doubles. So nothing in a document depends on which of the two is
written.

* `Json.Number.exactValue?`, `Field.index?_eq_some_iff_exactValue?` — the numbers that are read.
* `indexInSteps` — the same through doubles, without harm from their rounding.
* `SameMembers`, `Outline.SameUpToEnds`, `Json.SameUpToEnds` — objects, outlines and JSON values that
  differ in nothing but how ends are written.
* `SameOutcome` — results that are related, or the same error.
* `ends_read_exactly` — the ends are read exactly.
-/

namespace GraphImport

/-! ## Exact values -/

/-- **The exact value of a number.** -/
def Json.Number.exactValue? : Number → Option ℚ
  | integer n => some n
  | double x => x.exactValue?

/-- **Exactly the integers of 64 bits with a sign are read.** -/
theorem Field.index?_eq_some_iff_exactValue? {number : Json.Number} {k : Int} :
    index? number = some k ↔ number.exactValue? = some (k : ℚ) ∧ -2 ^ 63 ≤ k ∧ k < 2 ^ 63 := by
  rw [← Json.Number.isSigned_iff]
  unfold index? Json.Number.exactValue?
  cases number with
  | integer n =>
      dsimp only
      rw [Option.ite_none_right_eq_some, Option.some.injEq, Option.some.injEq, Int.cast_inj, and_comm]
      exact and_congr_right fun h => by rw [h]
  | double x =>
      dsimp only
      rw [Option.filter_eq_some_iff, Binary64.wholeNumber?_eq_some_iff_exactValue?]

/-- Numbers with one exact value, an integer, are one index or none. -/
theorem index?_eq_of_exactValue? {number number' : Json.Number} {k : Int}
    (h : number.exactValue? = some (k : ℚ)) (h' : number'.exactValue? = some (k : ℚ)) :
    index? number = index? number' := by
  have hexact : ∀ {n : Json.Number}, n.exactValue? = some (k : ℚ) → ∀ index : Int,
      index? n = some index ↔ k = index ∧ -2 ^ 63 ≤ index ∧ index < 2 ^ 63 := by
    intro n hn index
    rw [Field.index?_eq_some_iff_exactValue?, hn, Option.some.injEq, Int.cast_inj]
  exact Option.ext fun index => (hexact h index).trans (hexact h' index).symm

/-- An end that is a number is read as an index or refused. -/
theorem readField_number (ref : EntryRef) {name : String} {members : Entries Json}
    {number : Json.Number} (hfind : members.find? name = some (.number number)) :
    readField ref name readIndex members =
      ((index? number).map Except.ok).getD (.error (.badField ref name .notIndex)) := by
  have hfield : fieldValue? name members = some (.number number) := by
    unfold fieldValue?
    rw [hfind]
    rfl
  unfold readField readIndex
  rw [hfield]
  dsimp only
  generalize index? number = found
  cases found with
  | none => rfl
  | some index => rfl

/-! ## Reading through doubles -/

/-- The double of a number; an integer is rounded. -/
def Json.Number.toDouble : Number → Binary64
  | integer n => .nearest (decide (n < 0)) n.natAbs 1
  | double x => x

/-- The index that a number is: an integer of 64 bits with a sign is one, and of any other number the
double is looked at. -/
def indexInSteps (number : Json.Number) : Option Int :=
  match number with
  | .integer n =>
    if Json.Number.isSigned n then some n
    else number.toDouble.wholeNumber?.filter fun n => Json.Number.isSigned n
  | .double x => x.wholeNumber?.filter fun n => Json.Number.isSigned n

/-- A double with a magnitude and no minus sign is not negative. -/
theorem Binary64.isNegative_nearest (num den : Nat) :
    (Binary64.nearest false num den).isNegative = false := by
  have hmagnitude : nearestMagnitude num den < 2 ^ 63 :=
    Nat.lt_of_le_of_lt (Nat.min_le_right _ _) (by decide)
  unfold nearest ofMagnitude isNegative
  simp only [Bool.false_eq_true, if_false]
  rw [UInt64.toNat_ofNat_of_lt' (Nat.lt_trans hmagnitude (by decide))]
  exact decide_eq_false (Nat.not_le.mpr hmagnitude)

/-- **An integer too large for a sign is no index through its double either**: rounding does not take
it below the bound. -/
theorem wholeNumber?_toDouble_large {n : Int} (h : 2 ^ 63 ≤ n) :
    ((Json.Number.integer n).toDouble.wholeNumber?.filter fun n => Json.Number.isSigned n) = none := by
  have hdouble : (Json.Number.integer n).toDouble = .ofNat n.natAbs := by
    unfold Json.Number.toDouble Binary64.ofNat
    exact congrArg (Binary64.nearest · n.natAbs 1) (decide_eq_false (by omega))
  have hlarge : 2 ^ 63 ≤ n.natAbs := by omega
  have hunits := Binary64.le_units_ofNat (by decide) hlarge
  rw [Option.filter_eq_none_iff, hdouble]
  intro k hk hsigned
  obtain ⟨-, hupper⟩ := Json.Number.isSigned_iff.mp hsigned
  obtain ⟨-, hvalue⟩ := Binary64.wholeNumber?_eq_some.mp hk
  have hpositive : ((Binary64.ofNat n.natAbs).units : Int) = k * Binary64.unitsPerOne := by
    rw [← hvalue]
    exact (if_neg (by rw [Binary64.ofNat, Binary64.isNegative_nearest]; decide)).symm
  have hlower := Int.ofNat_le.mpr hunits
  rw [hpositive, Int.natCast_mul] at hlower
  have hone : (0 : Int) < Binary64.unitsPerOne := Int.natCast_pos.mpr Binary64.unitsPerOne_pos
  exact absurd hupper (Int.not_lt.mpr (Int.le_of_mul_le_mul_right hlower hone))

/-- **Rounding does no harm**: what is read of a number is read of it through its double. -/
theorem indexInSteps_eq {number : Json.Number}
    (h : ∀ n, number = .integer n → -2 ^ 63 ≤ n) : indexInSteps number = index? number := by
  unfold indexInSteps index?
  cases number with
  | double x => rfl
  | integer n =>
      dsimp only
      by_cases hsigned : Json.Number.isSigned n = true
      · rw [if_pos hsigned, if_pos hsigned]
      · rw [if_neg hsigned, if_neg hsigned]
        rw [Json.Number.isSigned_iff] at hsigned
        exact wholeNumber?_toDouble_large (Int.not_lt.mp fun hlt => hsigned ⟨h n rfl, hlt⟩)

/-! ## Same outcomes -/

section

variable {ε α β α' β' : Type} {Q : α → β → Prop} {R : α' → β' → Prop}

/-- **Two results have the same outcome**: both are there and related, or both are the same error. -/
inductive SameOutcome (Q : α → β → Prop) : Except ε α → Except ε β → Prop where
  /-- Both are there. -/
  | ok {a : α} {b : β} (h : Q a b) : SameOutcome Q (.ok a) (.ok b)
  /-- The same error. -/
  | error (e : ε) : SameOutcome Q (.error e) (.error e)

namespace SameOutcome

/-- Steps with the same outcome, one behind the other. -/
theorem bind {x : Except ε α} {y : Except ε β} (h : SameOutcome Q x y) {f : α → Except ε α'}
    {g : β → Except ε β'} (hstep : ∀ a b, Q a b → SameOutcome R (f a) (g b)) :
    SameOutcome R (x >>= f) (y >>= g) := by
  cases h with
  | ok h => exact hstep _ _ h
  | error e => exact .error e

/-- One step for each item. -/
theorem mapM {items : List α} {items' : List β} (h : List.Forall₂ Q items items')
    {f : α → Except ε α'} {g : β → Except ε β'}
    (hstep : ∀ a b, Q a b → SameOutcome R (f a) (g b)) :
    SameOutcome (List.Forall₂ R) (items.mapM f) (items'.mapM g) := by
  induction h with
  | nil => exact .ok .nil
  | cons hitem _ ih =>
      rw [List.mapM_cons, List.mapM_cons]
      refine (hstep _ _ hitem).bind fun a b hab => ih.bind fun rest rest' hrest => ?_
      exact .ok (.cons hab hrest)

end SameOutcome

/-- Items that are read alike in their places are read alike together. -/
theorem mapM_zipIdx_congr {P : α → α → Prop} {read : Nat → α → Except ε β}
    (hread : ∀ i a b, P a b → read i a = read i b) {items items' : List α}
    (h : List.Forall₂ P items items') (start : Nat) :
    ((items.zipIdx start).mapM fun (item, i) => read i item) =
      (items'.zipIdx start).mapM fun (item, i) => read i item := by
  induction h generalizing start with
  | nil => rfl
  | cons hitem _ ih =>
      rw [List.zipIdx_cons, List.zipIdx_cons, List.mapM_cons, List.mapM_cons, ih]
      dsimp only
      rw [hread start _ _ hitem]

end

/-! ## Relationships -/

/-- **The values that stand under a name are the same**, or numbers that are one integer, if the name
is that of an end. -/
inductive SameValue (name : String) : Json → Json → Prop where
  /-- The same value. -/
  | same (json : Json) : SameValue name json json
  /-- Two numbers. -/
  | ends {number number' : Json.Number} {k : Int} (hname : name = "start" ∨ name = "end")
    (h : number.exactValue? = some (k : ℚ)) (h' : number'.exactValue? = some (k : ℚ)) :
    SameValue name (.number number) (.number number')

/-- **Objects that differ in nothing but how ends are written.** -/
abbrev SameMembers : Entries Json → Entries Json → Prop :=
  List.Forall₂ fun member member' => member.1 = member'.1 ∧ SameValue member.1 member.2 member'.2

section

variable {members members' : Entries Json}

/-- The same is found in such objects. -/
theorem SameMembers.rel_fieldValue? (h : SameMembers members members') (name : String) :
    Option.Rel (SameValue name) (fieldValue? name members) (fieldValue? name members') := by
  unfold fieldValue?
  induction h with
  | nil => exact .none
  | @cons member member' rest rest' hmember _ ih =>
      obtain ⟨key, json⟩ := member
      obtain ⟨key', json'⟩ := member'
      obtain ⟨rfl, hvalue⟩ := hmember
      unfold Entries.find?
      by_cases hkey : key = name
      · rw [if_pos hkey, if_pos hkey, ← hkey]
        cases hvalue with
        | ends hname h h' => exact .some (.ends hname h h')
        | same json =>
            cases (some json).filter fun json => !json.isNull with
            | none => exact .none
            | some json => exact .some (.same json)
      · rw [if_neg hkey, if_neg hkey]
        exact ih

/-- Fields other than the ends are read alike. -/
theorem SameMembers.readField_other {α : Type} (h : SameMembers members members') (ref : EntryRef)
    {name : String} (hname : name ≠ "start" ∧ name ≠ "end")
    (read : Option Json → Except FieldProblem α) :
    readField ref name read members = readField ref name read members' := by
  have hfield := h.rel_fieldValue? name
  unfold readField
  generalize fieldValue? name members = field at hfield ⊢
  generalize fieldValue? name members' = field' at hfield ⊢
  cases hfield with
  | none => rfl
  | some hvalue =>
      cases hvalue with
      | same json => rfl
      | ends hends => exact absurd hends (not_or.mpr hname)

/-- **The ends are read alike**, however they are written. -/
theorem SameMembers.readField_end (h : SameMembers members members') (ref : EntryRef)
    (name : String) : readField ref name readIndex members = readField ref name readIndex members' := by
  have hfield := h.rel_fieldValue? name
  unfold readField
  generalize fieldValue? name members = field at hfield ⊢
  generalize fieldValue? name members' = field' at hfield ⊢
  cases hfield with
  | none => rfl
  | some hvalue =>
      cases hvalue with
      | same json => rfl
      | ends _ hnumber hnumber' =>
          unfold readIndex
          dsimp only
          rw [index?_eq_of_exactValue? hnumber hnumber']

/-- **Relationships are read alike**, however their ends are written. -/
theorem SameMembers.relationship (h : SameMembers members members') (index : Nat) :
    Relationship.ofMembers index members = Relationship.ofMembers index members' := by
  unfold Relationship.ofMembers Entry.ofMembers
  dsimp only
  rw [h.readField_end, h.readField_end, h.readField_other _ (by decide),
    h.readField_other _ (by decide), h.readField_other _ (by decide),
    h.readField_other _ (by decide), h.readField_other _ (by decide)]

end

/-! ## Documents -/

/-- **Outlines that differ in nothing but how ends are written.** -/
structure Outline.SameUpToEnds (outline outline' : Outline) : Prop where
  /-- The objects of the nodes are the same. -/
  nodes : outline.nodes = outline'.nodes
  /-- The objects of the relationships are the same up to their ends. -/
  relationships : List.Forall₂ SameMembers outline.relationships outline'.relationships

/-- **Outlines are read alike**, however ends are written. -/
theorem Outline.SameUpToEnds.ofOutline {outline outline' : Outline}
    (h : outline.SameUpToEnds outline') :
    Document.ofOutline outline = Document.ofOutline outline' := by
  have hread : ∀ i members members', SameMembers members members' →
      Relationship.ofMembers i members = Relationship.ofMembers i members' :=
    fun i members members' hmembers => hmembers.relationship i
  unfold Document.ofOutline
  rw [h.nodes, mapM_zipIdx_congr hread h.relationships]

namespace Json

/-- JSON values of relationships that are the same up to their ends. -/
inductive SameRelationship : Json → Json → Prop where
  /-- The same value. -/
  | same (json : Json) : SameRelationship json json
  /-- Two objects. -/
  | object {members members' : Entries Json} (h : SameMembers members members') :
    SameRelationship (.object members) (.object members')

/-- JSON values of lists of relationships that are the same up to their ends. -/
inductive SameList : Json → Json → Prop where
  /-- The same value. -/
  | same (json : Json) : SameList json json
  /-- Two arrays. -/
  | array {items items' : List Json} (h : List.Forall₂ SameRelationship items items') :
    SameList (.array items) (.array items')

/-- **JSON values that differ in nothing but how ends are written.** The relationships stand under
their name or in the second place. -/
inductive SameUpToEnds : Json → Json → Prop where
  /-- Two objects. -/
  | object {members members' : Entries Json}
    (h : List.Forall₂ (fun member member' => member.1 = member'.1 ∧
      (member.2 = member'.2 ∨ member.1 = "rels" ∧ SameList member.2 member'.2)) members members') :
    SameUpToEnds (.object members) (.object members')
  /-- Two arrays. -/
  | array {nodes relationships relationships' : Json} (more : List Json)
    (h : SameList relationships relationships') :
    SameUpToEnds (.array (nodes :: relationships :: more)) (.array (nodes :: relationships' :: more))

/-- Lists of relationships are lists of objects alike. -/
theorem SameList.objectsOf {json json' : Json} (h : SameList json json') :
    SameOutcome (List.Forall₂ SameMembers) (Outline.objectsOf json) (Outline.objectsOf json') := by
  have hrefl : ∀ members : Entries Json, SameMembers members members := fun members =>
    List.forall₂_same.mpr fun member _ => ⟨rfl, .same member.2⟩
  have hitem : ∀ item item', SameRelationship item item' →
      SameOutcome SameMembers (Outline.membersOf item) (Outline.membersOf item') := by
    intro item item' h
    cases h with
    | object h => exact .ok h
    | same =>
        cases Outline.membersOf item with
        | ok members => exact .ok (hrefl members)
        | error error => exact .error error
  cases h with
  | array h => exact .mapM h hitem
  | same =>
      cases Outline.objectsOf json with
      | ok objects => exact .ok (List.forall₂_same.mpr fun members _ => hrefl members)
      | error error => exact .error error

/-- Members that list entries list them alike. -/
theorem ofMembers_alike {members members' : Entries Json}
    (h : List.Forall₂ (fun member member' => member.1 = member'.1 ∧
      (member.2 = member'.2 ∨ member.1 = "rels" ∧ SameList member.2 member'.2)) members members')
    {outline outline' : Outline} (houtline : outline.SameUpToEnds outline') :
    SameOutcome Outline.SameUpToEnds (Outline.ofMembers outline members)
      (Outline.ofMembers outline' members') := by
  induction h generalizing outline outline' with
  | nil => exact .ok houtline
  | @cons member member' rest rest' hmember _ ih =>
      obtain ⟨key, json⟩ := member
      obtain ⟨key', json'⟩ := member'
      obtain ⟨rfl, hvalue⟩ := hmember
      unfold Outline.ofMembers
      by_cases hnodes : key = "nodes"
      · have hsame : json = json' := by
          rcases hvalue with hsame | ⟨hrelationships, -⟩
          · exact hsame
          · exact absurd (hnodes.symm.trans hrelationships) (by decide)
        rw [if_pos hnodes, if_pos hnodes, hsame]
        cases Outline.objectsOf json' with
        | error error => exact .error error
        | ok nodes => exact ih ⟨rfl, houtline.relationships⟩
      · rw [if_neg hnodes, if_neg hnodes]
        by_cases hrelationships : key = "rels"
        · have hlists : SameList json json' := by
            rcases hvalue with rfl | ⟨-, hlists⟩
            · exact .same json
            · exact hlists
          rw [if_pos hrelationships, if_pos hrelationships]
          exact hlists.objectsOf.bind fun _ _ hobjects => ih ⟨houtline.nodes, hobjects⟩
        · rw [if_neg hrelationships, if_neg hrelationships]
          exact ih houtline

/-- **JSON values have outlines alike**, however ends are written. -/
theorem SameUpToEnds.outline {json json' : Json} (h : SameUpToEnds json json') :
    SameOutcome Outline.SameUpToEnds (Outline.ofJson json) (Outline.ofJson json') := by
  cases h with
  | object h => exact ofMembers_alike h ⟨rfl, .nil⟩
  | @array nodes relationships relationships' more h =>
      change SameOutcome _ (Outline.objectsOf nodes >>= _) (Outline.objectsOf nodes >>= _)
      cases Outline.objectsOf nodes with
      | error error => exact .error error
      | ok nodes =>
          refine h.objectsOf.bind fun _ _ hobjects => ?_
          cases more with
          | nil => exact .ok ⟨rfl, hobjects⟩
          | cons _ _ => exact .error _

end Json

/-- **JSON values are the same document**, however ends are written, or they have the same error. -/
theorem Document.ofJson_eq {json json' : Json} (h : json.SameUpToEnds json') :
    ofJson json = ofJson json' := by
  have houtlines := h.outline
  unfold ofJson
  generalize Outline.ofJson json = found at houtlines ⊢
  generalize Outline.ofJson json' = found' at houtlines ⊢
  cases houtlines with
  | error error => rfl
  | ok h => exact h.ofOutline

/-- **The ends of relationships are read exactly.** A number is read as an end exactly if its exact
value is an integer of 64 bits with a sign, and then it is that integer; any other number is refused.
Looking at a large integer through its double changes nothing, although that is rounded. And whether
ends are written as integers or as doubles makes no difference to a document: it has the same script
or the same error, be it a JSON value or a text. -/
theorem ends_read_exactly :
    (∀ (ref : EntryRef) (name : String) (members : Entries Json) (number : Json.Number),
      members.find? name = some (.number number) →
      (∀ k : Int, readField ref name readIndex members = .ok k ↔
        number.exactValue? = some (k : ℚ) ∧ -2 ^ 63 ≤ k ∧ k < 2 ^ 63) ∧
      ((¬∃ k : Int, number.exactValue? = some (k : ℚ) ∧ -2 ^ 63 ≤ k ∧ k < 2 ^ 63) →
        readField ref name readIndex members = .error (.badField ref name .notIndex))) ∧
    (∀ number : Json.Number, (∀ n, number = .integer n → -2 ^ 63 ≤ n) →
      indexInSteps number = index? number) ∧
    (∀ (settings : Compile.Settings) (json json' : Json), json.SameUpToEnds json' →
      (Document.ofJson json >>= compile settings) = (Document.ofJson json' >>= compile settings)) ∧
    (∀ (settings : Compile.Settings) (text text' : String) (outline outline' : Outline),
      Outline.ofText text = .ok outline → Outline.ofText text' = .ok outline' →
      outline.SameUpToEnds outline' → compileText settings text = compileText settings text') := by
  refine ⟨fun ref name members number hfind => ?_, fun number => indexInSteps_eq,
    fun settings json json' h => ?_, fun settings text text' outline outline' htext htext' h => ?_⟩
  · simp only [← Field.index?_eq_some_iff_exactValue?]
    rw [readField_number ref hfind]
    cases index? number with
    | none => simp
    | some index => simp
  · rw [Document.ofJson_eq h]
  · unfold compileText Document.ofText
    rw [htext, htext']
    dsimp only
    rw [h.ofOutline]

/-- Two nodes, and a relationship whose ends are the given numbers. -/
def Json.endsDocument (source target : Json.Number) : Json :=
  .object [("nodes", .array [.object [], .object []]),
    ("rels", .array [.object [("start", .number source), ("end", .number target),
      ("type", .string "T")]])]

/-- The text of a relationship whose ends are written like this. -/
def endsText (source target : String) : String :=
  "\x7b\"rels\":[\x7b\"start\":" ++ source ++ ",\"end\":" ++ target ++ "\x7d]\x7d"

/-- The double `1.0`. -/
def Binary64.one : Binary64 := ⟨0x3FF0000000000000⟩

/-- The double `-0.0`. -/
def Binary64.minusZero : Binary64 := ⟨0x8000000000000000⟩

/-- The number that a value is, if it is one. -/
def Json.number? : Json → Option Number
  | number n => some n
  | _ => none

/-- The text of two ends has the outline of a relationship with these ends. -/
theorem ofText_endsText {source target : String} {a b : Json.Number}
    (h : ((Outline.ofText (endsText source target)).map fun outline => (outline.nodes.length,
      outline.relationships.map (List.map (Prod.map id Json.number?)))) =
        .ok (0, [[("start", some a), ("end", some b)]])) :
    Outline.ofText (endsText source target) =
      .ok ⟨[], [[("start", .number a), ("end", .number b)]]⟩ := by
  have hnumber : ∀ {json : Json} {n : Json.Number}, json.number? = some n → json = .number n := by
    intro json n h
    cases json with
    | number m => exact congrArg Json.number (Option.some.inj h)
    | _ => exact nomatch h
  obtain ⟨⟨nodes, relationships⟩, houtline, h⟩ := map_eq_ok.mp h
  simp only [Prod.mk.injEq, Prod.map, id, List.length_eq_zero_iff, List.map_eq_cons_iff,
    List.map_eq_nil_iff] at h
  obtain ⟨rfl, _, _, rfl, ⟨⟨_, _⟩, _, rfl, ⟨rfl, hsource⟩, ⟨_, _⟩, _, rfl, ⟨rfl, htarget⟩, rfl⟩, rfl⟩
    := h
  obtain rfl := hnumber hsource
  obtain rfl := hnumber htarget
  exact houtline

/-- A relationship from node one to node zero is the same with doubles, and the first integer that is
too large is refused; it is the double nearest to its predecessor. -/
theorem ends_read_exactly_doubles :
    (Document.ofJson (.endsDocument (.integer 1) (.integer 0)) >>= compile .default) =
        (Document.ofJson (.endsDocument (.double .one) (.double .minusZero)) >>= compile .default) ∧
      compileText .default (endsText "1" "0") = compileText .default (endsText "1.0" "-0.0") ∧
      indexInSteps (.integer (2 ^ 63)) = none ∧
      readField (.relationship 0) "start" readIndex [("start", .number (.integer (2 ^ 63)))] =
        .error (.badField (.relationship 0) "start" .notIndex) ∧
      readField (.relationship 0) "start" readIndex [("start", .number (.double .one))] = .ok 1 := by
  have hone : (Json.Number.double .one).exactValue? = some ((1 : Int) : ℚ) :=
    Binary64.wholeNumber?_eq_some_iff_exactValue?.mp (by decide +kernel)
  have hzero : (Json.Number.double .minusZero).exactValue? = some ((0 : Int) : ℚ) :=
    Binary64.wholeNumber?_eq_some_iff_exactValue?.mp (by decide +kernel)
  obtain ⟨hread, hsteps, hvalue, htext⟩ := ends_read_exactly
  have hmembers : ∀ {rest : Entries Json}, SameMembers
      (("start", .number (.integer 1)) :: ("end", .number (.integer 0)) :: rest)
      (("start", .number (.double .one)) :: ("end", .number (.double .minusZero)) :: rest) :=
    .cons ⟨rfl, .ends (.inl rfl) rfl hone⟩ (.cons ⟨rfl, .ends (.inr rfl) rfl hzero⟩
      (List.forall₂_same.mpr fun member _ => ⟨rfl, .same member.2⟩))
  refine ⟨?_, ?_, ?_, ?_, ?_⟩
  · refine hvalue _ _ _ (.object (.cons ⟨rfl, .inl rfl⟩ (.cons ⟨rfl, .inr ⟨rfl, .array ?_⟩⟩ .nil)))
    exact .cons (.object hmembers) .nil
  · have hintegers : Outline.ofText (endsText "1" "0") = .ok ⟨[], [[("start", .number (.integer 1)),
        ("end", .number (.integer 0))]]⟩ := ofText_endsText (by decide +kernel)
    have hdoubles : Outline.ofText (endsText "1.0" "-0.0") = .ok ⟨[], [[("start",
        .number (.double .one)), ("end", .number (.double .minusZero))]]⟩ :=
      ofText_endsText (by decide +kernel)
    exact htext _ _ _ _ _ hintegers hdoubles ⟨rfl, .cons hmembers .nil⟩
  · rw [hsteps _ (by simp)]
    decide
  · refine (hread _ "start" _ _ rfl).2 ?_
    rintro ⟨k, hk, -, hupper⟩
    simp only [Json.Number.exactValue?, Option.some.injEq, Int.cast_inj] at hk
    omega
  · exact ((hread _ "start" _ _ rfl).1 1).mpr ⟨hone, by decide, by decide⟩

end GraphImport
