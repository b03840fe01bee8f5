import GraphImport.Document.Reader
import GraphImport.Proofs.Property.Grammar

/-!
# The fields of an entry

What each field of an entry may hold and what it then says, stated without the readers; and for each
field what is checked, in order. A null counts as absent, and neither other members nor the order of
the members play a part.

* `HasField` — what an object holds under a name.
* `Field.Rule` — what a field may hold, and its checks. `Field.Rule.IsReadBy` ties it to a reader,
  with `Field.Rule.IsReadBy.readField_eq_ok` and `Field.Rule.IsReadBy.readField_goesThrough`.
* `Field.props`, `Field.matching`, `Field.updating`, `Field.replace`, `Field.labels`, `Field.index`,
  `Field.type` — the rules.
-/

namespace GraphImport

/-! ## Whole numbers -/

namespace Binary64

/-- The value of a finite double, in units of `2 ^ -1074`. -/
def signedUnits (x : Binary64) : Int := if x.isNegative then -(x.units : Int) else x.units

end Binary64

/-! ## Fields of objects -/

/-- **What an object holds under a name**; a null counts as absent. -/
inductive HasField (members : Entries Json) (name : String) : Option Json → Prop where
  /-- Nothing but nulls. -/
  | absent (h : ∀ json, (name, json) ∈ members → json = .null) : HasField members name none
  /-- A value. -/
  | present {json : Json} (h : (name, json) ∈ members) (hnull : json ≠ .null) :
    HasField members name (some json)

theorem Json.isNull_iff {json : Json} : json.isNull = true ↔ json = .null := by
  cases json with
  | null => exact ⟨fun _ => rfl, fun _ => rfl⟩
  | _ => exact ⟨fun h => (nomatch h), fun h => (nomatch h)⟩

/-- When no key stands twice, an object holds what is found under a name. -/
theorem hasField_iff {members : Entries Json} {name : String} {field : Option Json}
    (hkeys : members.keys.Nodup) : HasField members name field ↔ fieldValue? name members = field := by
  unfold fieldValue?
  constructor
  · intro h
    cases h with
    | absent h =>
        cases hfind : members.find? name with
        | none => rfl
        | some json =>
            rw [h json (Entries.mem_of_find? hfind)]
            rfl
    | @present json h hnull =>
        rw [Entries.find?_of_mem hkeys h, Option.filter_some, if_pos]
        rw [Bool.not_eq_true', Bool.eq_false_iff]
        exact fun hisNull => hnull (Json.isNull_iff.mp hisNull)
  · rintro rfl
    cases hfind : members.find? name with
    | none =>
        apply HasField.absent
        intro json hmem
        rw [Entries.find?_of_mem hkeys hmem] at hfind
        exact nomatch hfind
    | some json =>
        have hmem := Entries.mem_of_find? hfind
        by_cases hnull : json = .null
        · subst hnull
          apply HasField.absent
          intro other hother
          rw [Entries.find?_of_mem hkeys hother] at hfind
          exact Option.some.inj hfind
        · have hisNull : json.isNull = false := Bool.eq_false_iff.mpr (mt Json.isNull_iff.mp hnull)
          rw [Option.filter_some, hisNull]
          exact .present hmem hnull

/-! ## Rules for fields -/

/-- What a field may hold, and what is checked. -/
structure Field.Rule (α : Type) where
  /-- The field may hold this and then says that. -/
  accepts : Option Json → α → Prop
  /-- The checks, in order. -/
  checks : Option Json → List (Check FieldProblem)

namespace Field.Rule

variable {α : Type} (rule : Rule α)

/-- **The reader follows the rule**: it reads what the rule accepts, and goes through its checks,
each of which has one problem. -/
structure IsReadBy (read : Option Json → Except FieldProblem α) : Prop where
  /-- Exactly what the rule accepts is read. -/
  eq_ok : ∀ field value, read field = .ok value ↔ rule.accepts field value
  /-- The checks are made in their order. -/
  goesThrough : ∀ field, GoesThrough (rule.checks field) (read field)
  /-- Each check has one problem. -/
  hasOneError : ∀ field, ∀ c ∈ rule.checks field, c.HasOneError

/-- The field of the name says the value. -/
def Holds (members : Entries Json) (name : String) (value : α) : Prop :=
  ∃ field, HasField members name field ∧ rule.accepts field value

/-- The check of a field of an entry: that it holds something that the rule accepts. Otherwise the
error names the entry, the field and the first problem of the field. -/
def check (ref : EntryRef) (name : String) (members : Entries Json) : Check ImportError where
  passes := ∃ value, rule.Holds members name value
  blames := fun e => ∃ field problem, HasField members name field ∧
    FirstFailure (rule.checks field) problem ∧ e = .badField ref name problem

variable {rule} {read : Option Json → Except FieldProblem α} {ref : EntryRef} {name : String}
  {members : Entries Json}

/-- A field is read by the rule for what is found under its name. -/
theorem IsReadBy.readField_eq_ok_iff (h : rule.IsReadBy read) {value : α} :
    readField ref name read members = .ok value ↔
      rule.accepts (fieldValue? name members) value := by
  rw [← h.eq_ok]
  unfold readField
  cases read (fieldValue? name members) with
  | error problem => exact ⟨fun h => (nomatch h), fun h => (nomatch h)⟩
  | ok found => rw [Except.ok.injEq, Except.ok.injEq]

/-- **A field is read** when it holds something that the rule accepts. -/
theorem IsReadBy.readField_eq_ok (h : rule.IsReadBy read) (hkeys : members.keys.Nodup) {value : α} :
    readField ref name read members = .ok value ↔ rule.Holds members name value := by
  rw [h.readField_eq_ok_iff]
  constructor
  · intro haccepts
    exact ⟨_, (hasField_iff hkeys).mpr rfl, haccepts⟩
  · rintro ⟨field, hfield, haccepts⟩
    rwa [(hasField_iff hkeys).mp hfield]

/-- **A field is checked**, and the first problem is reported. -/
theorem IsReadBy.readField_goesThrough (h : rule.IsReadBy read) (hkeys : members.keys.Nodup) :
    GoesThrough [rule.check ref name members] (readField ref name read members) := by
  apply GoesThrough.single (exists_congr fun value => (h.readField_eq_ok hkeys).symm)
  intro error herror
  have hchecks := h.goesThrough (fieldValue? name members)
  unfold readField at herror
  cases hread : read (fieldValue? name members) with
  | ok value =>
      rw [hread] at herror
      exact nomatch herror
  | error problem =>
      rw [hread] at herror hchecks
      exact ⟨_, problem, (hasField_iff hkeys).mpr rfl, hchecks, (Except.error.inj herror).symm⟩

/-- The check of a field has one error. -/
theorem IsReadBy.check_hasOneError (h : rule.IsReadBy read) (hkeys : members.keys.Nodup) :
    (rule.check ref name members).HasOneError := by
  by_cases hfails : ∃ problem, FirstFailure (rule.checks (fieldValue? name members)) problem
  · obtain ⟨problem, hproblem⟩ := hfails
    refine ⟨.badField ref name problem, ?_⟩
    rintro _ ⟨field, other, hfield, hother, rfl⟩
    rw [← (hasField_iff hkeys).mp hfield] at hother
    rw [FirstFailure.unique (h.hasOneError _) hother hproblem]
  · refine ⟨.badField ref name .notObject, ?_⟩
    rintro _ ⟨field, other, hfield, hother, rfl⟩
    rw [← (hasField_iff hkeys).mp hfield] at hother
    exact absurd ⟨other, hother⟩ hfails

end Field.Rule

/-! ## The rules -/

namespace Field

/-- The properties of an entry: an object of property values. -/
inductive IsProps : Option Json → Properties → Prop where
  /-- No properties. -/
  | absent : IsProps none .empty
  /-- The properties that the members stand for. -/
  | object {members : Entries Json} {p : Properties} (h : Json.IsProperties members p) :
    IsProps (some (.object members)) p

/-- By what an entry is found: by its properties, by nothing, by some keys or by a map. -/
inductive IsMatchRule : Option Json → MatchRule → Prop where
  /-- By all its properties. -/
  | absent : IsMatchRule none .onProps
  /-- By nothing. -/
  | create : IsMatchRule (some (.bool false)) .create
  /-- By the properties of keys. -/
  | keys (keys : List String) : IsMatchRule (some (.array (keys.map .string))) (.onKeys keys)
  /-- By a map. -/
  | map {members : Entries Json} {p : Properties} (h : Json.IsProperties members p) :
    IsMatchRule (some (.object members)) (.onMap p)

/-- What is written when an entry is found; an empty list or object says nothing. -/
inductive IsUpdateRule : Option Json → UpdateRule → Prop where
  /-- All properties. -/
  | absent : IsUpdateRule none .allProps
  /-- An empty list. -/
  | noKeys : IsUpdateRule (some (.array [])) .allProps
  /-- An empty object. -/
  | noMembers : IsUpdateRule (some (.object [])) .allProps
  /-- The properties of keys. -/
  | keys (keys : List String) (h : keys ≠ []) :
    IsUpdateRule (some (.array (keys.map .string))) (.onKeys keys)
  /-- A map. -/
  | map {members : Entries Json} {p : Properties} (hmembers : members ≠ [])
    (h : Json.IsProperties members p) : IsUpdateRule (some (.object members)) (.onMap p)

/-- Whether an update takes the place of all properties. -/
inductive IsFlag : Option Json → Bool → Prop where
  /-- It does not. -/
  | absent : IsFlag none false
  /-- As it says. -/
  | bool (b : Bool) : IsFlag (some (.bool b)) b

/-- The labels of a node: a list of strings. -/
inductive IsLabels : Option Json → List String → Prop where
  /-- No labels. -/
  | absent : IsLabels none []
  /-- The labels. -/
  | names (names : List String) : IsLabels (some (.array (names.map .string))) names

/-- An end of a relationship: an integer of 64 bits with a sign, perhaps written as a double. -/
inductive IsIndex : Option Json → Int → Prop where
  /-- An integer. -/
  | integer {n : Int} (lower : -2 ^ 63 ≤ n) (upper : n < 2 ^ 63) :
    IsIndex (some (.number (.integer n))) n
  /-- A double without a fraction. -/
  | double {x : Binary64} {n : Int} (hfinite : x.isFinite = true)
    (hvalue : x.signedUnits = n * Binary64.unitsPerOne) (lower : -2 ^ 63 ≤ n) (upper : n < 2 ^ 63) :
    IsIndex (some (.number (.double x))) n

/-- The type of a relationship; it is empty if there is none. -/
inductive IsType : Option Json → String → Prop where
  /-- The empty type. -/
  | absent : IsType none ""
  /-- The type. -/
  | string (s : String) : IsType (some (.string s)) s

/-! ## Checks of fields -/

/-- The check that something else stands here. -/
def otherwise (problem : FieldProblem) : List (Check FieldProblem) := [.of False problem]

/-- The checks of the members of an object of property values. -/
def memberChecks (members : Entries Json) : List (Check FieldProblem) :=
  (Json.propertyChecks members).map (Check.relabel .property)

/-- The checks of a list of strings. -/
def stringChecks (problem : FieldProblem) (items : List Json) : List (Check FieldProblem) :=
  items.map fun item => .of (∃ s, item = .string s) problem

/-- Properties. -/
def props : Rule Properties where
  accepts := IsProps
  checks
    | none => []
    | some (.object members) => memberChecks members
    | some _ => otherwise .notObject

/-- By what an entry is found. -/
def matching : Rule MatchRule where
  accepts := IsMatchRule
  checks
    | none => []
    | some (.bool false) => []
    | some (.array items) => stringChecks .keyNotString items
    | some (.object members) => memberChecks members
    | some _ => otherwise .notMatchRule

/-- What is written when an entry is found. -/
def updating : Rule UpdateRule where
  accepts := IsUpdateRule
  checks
    | none => []
    | some (.array items) => stringChecks .keyNotString items
    | some (.object members) => memberChecks members
    | some _ => otherwise .notUpdateRule

/-- Whether an update takes the place of all properties. -/
def replace : Rule Bool where
  accepts := IsFlag
  checks
    | none => []
    | some (.bool _) => []
    | some _ => otherwise .notFlag

/-- The labels of a node. -/
def labels : Rule (List String) where
  accepts := IsLabels
  checks
    | none => []
    | some (.array items) => stringChecks .labelNotString items
    | some _ => otherwise .notLabelList

/-- An end of a relationship. -/
def index : Rule Int where
  accepts := IsIndex
  checks
    | none => otherwise .missingIndex
    | some json => [.of (∃ n, IsIndex (some json) n) .notIndex]

/-- The type of a relationship. -/
def type : Rule String where
  accepts := IsType
  checks
    | none => []
    | some json => [.of (∃ s, json = .string s) .typeNotString]

end Field

end GraphImport
