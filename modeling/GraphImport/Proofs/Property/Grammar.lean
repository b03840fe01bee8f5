import GraphImport.Proofs.Check
import GraphImport.Proofs.Property.Related
import GraphImport.Proofs.Property.Selection

/-!
# Property values in JSON

Which JSON values are property values, and which value each of them is, stated without the reader:
a scalar, or a flat list of scalars, with integers of 64 bits with a sign. Everything else has a
problem, and the first one is reported.

* `Json.IsScalar`, `Json.IsValue`, `Json.IsProperties` — the grammar.
* `Value.ofJson_eq_ok`, `Properties.ofMembers_eq_ok` — exactly what the grammar allows is read.
* `Json.valueChecks`, `Json.propertyChecks` — what is checked, in order.
* `Value.ofJson_goesThrough`, `Properties.insertMembers_goesThrough` — the first problem is reported.
-/

namespace GraphImport

/-! ## The grammar -/

namespace Json

/-- **The JSON value is a scalar** and stands for the property value. -/
inductive IsScalar : Json → Value → Prop where
  /-- No value. -/
  | null : IsScalar .null .null
  /-- A truth value. -/
  | bool (b : Bool) : IsScalar (.bool b) (.bool b)
  /-- An integer of 64 bits with a sign. -/
  | integer {n : Int} (lower : -2 ^ 63 ≤ n) (upper : n < 2 ^ 63) :
    IsScalar (.number (.integer n)) (.int n)
  /-- Any other number. -/
  | double (x : Binary64) : IsScalar (.number (.double x)) (.double x)
  /-- A string. -/
  | string (s : String) : IsScalar (.string s) (.string s)

/-- **The JSON value is a scalar or a flat list** and stands for the property value. -/
inductive IsValue : Json → Value → Prop where
  /-- A scalar. -/
  | scalar {json : Json} {value : Value} (h : IsScalar json value) : IsValue json value
  /-- A list of scalars. -/
  | list {items : List Json} {values : List Value} (h : List.Forall₂ IsScalar items values) :
    IsValue (.array items) (.list values)

/-- **The members of an object stand for properties**: each for one, in their order. -/
def IsProperties (members : Entries Json) (p : Properties) : Prop :=
  ∃ pairs, Entries.Related IsValue members pairs ∧ p = .ofPairs pairs

/-- An integer of 64 bits with a sign. -/
theorem Number.isSigned_iff {n : Int} : isSigned n = true ↔ -2 ^ 63 ≤ n ∧ n < 2 ^ 63 := by
  unfold isSigned minSigned signedBound
  rw [Bool.and_eq_true, decide_eq_true_iff, decide_eq_true_iff]

end Json

/-! ## What is read -/

/-- Exactly the scalars are read as scalars. -/
theorem Value.ofScalar_eq_ok {compound : Json → ValueProblem} {json : Json} {value : Value} :
    ofScalar compound json = .ok value ↔ json.IsScalar value := by
  constructor
  · intro h
    cases json with
    | null => cases h; exact .null
    | bool b => cases h; exact .bool b
    | string s => cases h; exact .string s
    | array items => exact nomatch h
    | object members => exact nomatch h
    | number n =>
        cases n with
        | double x => cases h; exact .double x
        | integer n =>
            simp only [ofScalar, ofNumber] at h
            split at h
            · rename_i hsigned
              cases h
              obtain ⟨hlower, hupper⟩ := Json.Number.isSigned_iff.mp hsigned
              exact .integer hlower hupper
            · exact nomatch h
  · intro h
    cases h with
    | null => rfl
    | bool b => rfl
    | string s => rfl
    | double x => rfl
    | integer hlower hupper => exact if_pos (Json.Number.isSigned_iff.mpr ⟨hlower, hupper⟩)

/-- A list is read item by item. -/
theorem Value.ofJson_array (items : List Json) :
    ofJson (.array items) = (items.mapM (ofScalar fun _ => .nestedList)).map .list := by
  unfold ofJson
  dsimp only
  generalize items.mapM (ofScalar fun _ => .nestedList) = read
  cases read with
  | error problem => rfl
  | ok values => rfl

/-- Everything else is read as a scalar. -/
theorem Value.ofJson_of_not_array {json : Json} (h : ∀ items, json ≠ .array items) :
    ofJson json = ofScalar (fun _ => .object) json := by
  cases json with
  | array items => exact absurd rfl (h items)
  | _ => rfl

/-- The items of a list are read as scalars. -/
theorem Value.mapM_ofScalar_eq_ok {compound : Json → ValueProblem} {items : List Json}
    {values : List Value} :
    items.mapM (ofScalar compound) = .ok values ↔ List.Forall₂ Json.IsScalar items values := by
  rw [mapM_eq_ok]
  simp only [ofScalar_eq_ok]

/-- **Exactly the property values are read.** -/
theorem Value.ofJson_eq_ok {json : Json} {value : Value} :
    ofJson json = .ok value ↔ json.IsValue value := by
  by_cases harray : ∃ items, json = .array items
  · obtain ⟨items, rfl⟩ := harray
    rw [ofJson_array, map_eq_ok]
    constructor
    · rintro ⟨values, hvalues, rfl⟩
      exact .list (mapM_ofScalar_eq_ok.mp hvalues)
    · intro h
      cases h with
      | list hvalues => exact ⟨_, mapM_ofScalar_eq_ok.mpr hvalues, rfl⟩
      | scalar hscalar => exact nomatch hscalar
  · rw [ofJson_of_not_array fun items h => harray ⟨items, h⟩, ofScalar_eq_ok]
    constructor
    · exact .scalar
    · intro h
      cases h with
      | scalar hscalar => exact hscalar
      | list hvalues => exact absurd ⟨_, rfl⟩ harray

namespace Properties

/-- The value of a member is read as a property value. -/
theorem memberValue_eq_ok {key : String} {json : Json} {value : Value} :
    memberValue key json = .ok value ↔ json.IsValue value := by
  rw [← Value.ofJson_eq_ok]
  unfold memberValue
  cases Value.ofJson json with
  | error problem => exact ⟨fun h => (nomatch h), fun h => (nomatch h)⟩
  | ok found => rw [Except.ok.injEq, Except.ok.injEq]

/-- Members are read one after the other. -/
theorem insertMembers_cons (p : Properties) (key : String) (json : Json) (rest : Entries Json) :
    p.insertMembers ((key, json) :: rest) =
      memberValue key json >>= fun value => (p.insert key value).insertMembers rest := by
  rw [insertMembers]
  cases memberValue key json with
  | error problem => rfl
  | ok value => rfl

/-- Members are read into properties as the pairs that they stand for. -/
theorem insertMembers_eq_ok {p q : Properties} {members : Entries Json} :
    p.insertMembers members = .ok q ↔
      ∃ pairs, Entries.Related Json.IsValue members pairs ∧ q = p.insertAll pairs := by
  induction members generalizing p with
  | nil =>
      simp only [insertMembers, Except.ok.injEq, Entries.Related, List.forall₂_nil_left_iff,
        exists_eq_left]
      exact eq_comm
  | cons member rest ih =>
      obtain ⟨key, json⟩ := member
      rw [insertMembers_cons, bind_eq_ok]
      constructor
      · rintro ⟨value, hvalue, hrest⟩
        obtain ⟨pairs, hpairs, rfl⟩ := ih.mp hrest
        exact ⟨(key, value) :: pairs, .cons ⟨rfl, memberValue_eq_ok.mp hvalue⟩ hpairs, rfl⟩
      · rintro ⟨_, hpairs, rfl⟩
        cases hpairs with
        | @cons _ pair _ pairs hpair hpairs =>
            obtain ⟨hkey, hvalue⟩ := hpair
            cases hkey
            exact ⟨pair.2, memberValue_eq_ok.mpr hvalue, ih.mpr ⟨pairs, hpairs, rfl⟩⟩

/-- **Exactly the objects of property values are read.** -/
theorem ofMembers_eq_ok {members : Entries Json} {p : Properties} :
    ofMembers members = .ok p ↔ Json.IsProperties members p := insertMembers_eq_ok

/-- Under different keys, properties are kept in the order of the members. -/
theorem related_of_isProperties {members : Entries Json} {p : Properties}
    (h : Json.IsProperties members p) (hkeys : members.keys.Nodup) :
    Entries.Related Json.IsValue members p.entries := by
  obtain ⟨pairs, hpairs, rfl⟩ := h
  have hsame := (Entries.Related.iff_keys_values.mp hpairs).1
  rw [hsame] at hkeys
  rw [entries_ofPairs hkeys]
  exact hpairs

end Properties

/-! ## What is checked -/

namespace Json

/-- The check of a scalar; an array or object has the given problem. -/
def scalarCheck (compound : ValueProblem) (json : Json) : Check ValueProblem where
  passes := ∃ value, json.IsScalar value
  blames := fun problem =>
    match json with
    | number (.integer n) => problem = .outOfRange n
    | _ => problem = compound

/-- The checks of a value: of each item of a list, or of a scalar. -/
def valueChecks : Json → List (Check ValueProblem)
  | array items => items.map (scalarCheck .nestedList)
  | json => [scalarCheck .object json]

/-- The checks of the members of an object. -/
def propertyChecks (members : Entries Json) : List (Check PropertyProblem) :=
  members.flatMap fun (key, json) => json.valueChecks.map (Check.relabel (.mk key))

theorem scalarCheck_hasOneError (compound : ValueProblem) (json : Json) :
    (scalarCheck compound json).HasOneError := by
  unfold scalarCheck
  split
  · exact ⟨_, fun _ h => h⟩
  · exact ⟨_, fun _ h => h⟩

theorem valueChecks_hasOneError (json : Json) : ∀ c ∈ json.valueChecks, c.HasOneError := by
  unfold valueChecks
  split
  · intro c hc
    obtain ⟨item, -, rfl⟩ := List.mem_map.mp hc
    exact scalarCheck_hasOneError _ _
  · intro c hc
    rw [List.mem_singleton.mp hc]
    exact scalarCheck_hasOneError _ _

theorem propertyChecks_hasOneError (members : Entries Json) :
    ∀ c ∈ propertyChecks members, c.HasOneError := by
  intro c hc
  obtain ⟨⟨key, json⟩, -, hc⟩ := List.mem_flatMap.mp hc
  obtain ⟨check, hcheck, rfl⟩ := List.mem_map.mp hc
  exact (valueChecks_hasOneError json check hcheck).relabel _

end Json

/-- The scalar is checked. -/
theorem Value.ofScalar_goesThrough (compound : ValueProblem) (json : Json) :
    GoesThrough [json.scalarCheck compound] (ofScalar (fun _ => compound) json) := by
  apply GoesThrough.single (exists_congr fun value => ofScalar_eq_ok.symm)
  intro problem h
  cases json with
  | null => exact nomatch h
  | bool b => exact nomatch h
  | string s => exact nomatch h
  | array items => exact (Except.error.inj h).symm
  | object members => exact (Except.error.inj h).symm
  | number n =>
      cases n with
      | double x => exact nomatch h
      | integer n =>
          simp only [ofScalar, ofNumber] at h
          split at h
          · exact nomatch h
          · exact (Except.error.inj h).symm

/-- **The items of a list are checked in their order.** -/
theorem Value.ofJson_goesThrough (json : Json) : GoesThrough json.valueChecks (ofJson json) := by
  cases json with
  | array items =>
      rw [ofJson_array, Json.valueChecks, List.map_eq_flatMap]
      apply GoesThrough.map
      exact .mapM fun item _ => ofScalar_goesThrough .nestedList item
  | _ => exact ofScalar_goesThrough .object _

/-- **The members of an object are checked in their order.** -/
theorem Properties.insertMembers_goesThrough (p : Properties) (members : Entries Json) :
    GoesThrough (Json.propertyChecks members) (p.insertMembers members) := by
  induction members generalizing p with
  | nil => exact .ok p
  | cons member rest ih =>
      obtain ⟨key, json⟩ := member
      have hvalue : memberValue key json = (Value.ofJson json).mapError (PropertyProblem.mk key) := by
        unfold memberValue
        cases Value.ofJson json with
        | error problem => rfl
        | ok value => rfl
      rw [insertMembers_cons, hvalue]
      exact ((Value.ofJson_goesThrough json).relabel _).bind fun value _ => ih _

end GraphImport
