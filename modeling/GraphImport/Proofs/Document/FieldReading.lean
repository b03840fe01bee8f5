import GraphImport.Proofs.Binary64.Bounds
import GraphImport.Proofs.Document.Fields

/-!
# Reading fields

Every field of an entry is read by its rule: exactly what the rule accepts is read, and otherwise
the first problem is reported.

* `Binary64.wholeNumber?_eq_some` — which doubles are integers.
* `Field.readProperties_goesThrough`, `Field.mapM_readString_goesThrough` — objects and lists of
  strings, which several fields may hold.
* `Field.props_isReadBy` and the same for the other rules.
-/

namespace GraphImport

namespace Binary64

/-- **A double is an integer** when it is finite and holds that many ones. -/
theorem wholeNumber?_eq_some {x : Binary64} {n : Int} :
    x.wholeNumber? = some n ↔ x.isFinite = true ∧ x.signedUnits = n * unitsPerOne := by
  have hone : (unitsPerOne : Int) ≠ 0 :=
    Int.natCast_ne_zero.mpr (Nat.pos_iff_ne_zero.mp unitsPerOne_pos)
  unfold wholeNumber? signedUnits
  generalize unitsPerOne = one at *
  generalize x.units = units
  rw [Option.ite_none_right_eq_some, Bool.and_eq_true, beq_iff_eq, Option.some.injEq, and_assoc]
  apply and_congr_right
  intro _
  constructor
  · rintro ⟨hmod, rfl⟩
    have hunits : (units : Int) / one * one = units :=
      Int.ediv_mul_cancel (Int.natCast_dvd_natCast.mpr (Nat.dvd_of_mod_eq_zero hmod))
    by_cases hsign : x.isNegative = true
    · rw [if_pos hsign, if_pos hsign, Int.neg_mul, hunits]
    · rw [if_neg hsign, if_neg hsign, hunits]
  · intro h
    have hdvd : (one : Int) ∣ units := by
      by_cases hsign : x.isNegative = true
      · rw [if_pos hsign] at h
        exact (Int.dvd_neg).mp ⟨n, by rw [h, Int.mul_comm]⟩
      · rw [if_neg hsign] at h
        exact ⟨n, by rw [h, Int.mul_comm]⟩
    refine ⟨Nat.mod_eq_zero_of_dvd (Int.natCast_dvd_natCast.mp hdvd), ?_⟩
    by_cases hsign : x.isNegative = true
    · rw [if_pos hsign] at h ⊢
      rw [← Int.neg_ediv_of_dvd hdvd, h, Int.mul_ediv_cancel _ hone]
    · rw [if_neg hsign] at h ⊢
      rw [h, Int.mul_ediv_cancel _ hone]

end Binary64

namespace Field

/-! ## What several fields may hold -/

/-- What stands here otherwise is refused. -/
theorem otherwise_goesThrough {α : Type} (problem : FieldProblem) :
    GoesThrough (otherwise problem) (.error problem : Except FieldProblem α) :=
  FirstFailure.here not_false rfl

theorem otherwise_hasOneError (problem : FieldProblem) :
    ∀ c ∈ otherwise problem, c.HasOneError := by
  simp [otherwise, Check.hasOneError_of]

/-- An object of property values is read as its properties. -/
theorem readProperties_eq (members : Entries Json) :
    readProperties members = (Properties.ofMembers members).mapError .property := by
  unfold readProperties
  cases Properties.ofMembers members with
  | error problem => rfl
  | ok p => rfl

theorem readProperties_eq_ok {members : Entries Json} {p : Properties} :
    readProperties members = .ok p ↔ Json.IsProperties members p := by
  rw [← Properties.ofMembers_eq_ok]
  unfold readProperties
  cases Properties.ofMembers members with
  | error problem => exact ⟨fun h => (nomatch h), fun h => (nomatch h)⟩
  | ok found => rw [Except.ok.injEq, Except.ok.injEq]

theorem readProperties_goesThrough (members : Entries Json) :
    GoesThrough (memberChecks members) (readProperties members) := by
  rw [readProperties_eq]
  exact (Properties.empty.insertMembers_goesThrough members).relabel _

theorem memberChecks_hasOneError (members : Entries Json) :
    ∀ c ∈ memberChecks members, c.HasOneError := by
  intro c hc
  obtain ⟨check, hcheck, rfl⟩ := List.mem_map.mp hc
  exact (Json.propertyChecks_hasOneError members check hcheck).relabel _

/-- A string is read as it is. -/
theorem readString_eq_ok {problem : FieldProblem} {json : Json} {s : String} :
    readString problem json = .ok s ↔ json = .string s := by
  cases json with
  | string found => simp [readString]
  | _ => simp [readString]

theorem readString_goesThrough (problem : FieldProblem) (json : Json) :
    GoesThrough [.of (∃ s, json = .string s) problem] (readString problem json) := by
  apply GoesThrough.single (exists_congr fun s => readString_eq_ok.symm)
  intro e h
  cases json with
  | string s => exact nomatch h
  | _ => exact (Except.error.inj h).symm

/-- A list of strings is read as it is. -/
theorem mapM_readString_eq_ok {problem : FieldProblem} {items : List Json} {names : List String} :
    items.mapM (readString problem) = .ok names ↔ items = names.map .string := by
  rw [mapM_eq_ok]
  simp only [readString_eq_ok]
  constructor
  · intro h
    induction h with
    | nil => rfl
    | cons hitem _ ih => rw [hitem, ih, List.map_cons]
  · rintro rfl
    induction names with
    | nil => exact .nil
    | cons name names ih => exact .cons rfl ih

theorem mapM_readString_goesThrough (problem : FieldProblem) (items : List Json) :
    GoesThrough (stringChecks problem items) (items.mapM (readString problem)) := by
  unfold stringChecks
  rw [List.map_eq_flatMap]
  exact .mapM fun item _ => readString_goesThrough problem item

theorem stringChecks_hasOneError (problem : FieldProblem) (items : List Json) :
    ∀ c ∈ stringChecks problem items, c.HasOneError := by
  intro c hc
  obtain ⟨item, -, rfl⟩ := List.mem_map.mp hc
  exact Check.hasOneError_of _ _

/-! ## The readers follow the rules -/

/-- The properties of an entry are read by their rule. -/
theorem props_isReadBy : props.IsReadBy readProps where
  eq_ok field value := by
    constructor
    · intro h
      match field, h with
      | none, h => cases h; exact .absent
      | some (.object members), h => exact .object (readProperties_eq_ok.mp h)
      | some .null, h | some (.bool _), h | some (.number _), h | some (.string _), h
      | some (.array _), h => exact nomatch h
    · intro h
      cases h with
      | absent => rfl
      | object h => exact readProperties_eq_ok.mpr h
  goesThrough field := by
    match field with
    | none => exact .ok _
    | some (.object members) => exact readProperties_goesThrough members
    | some .null | some (.bool _) | some (.number _) | some (.string _) | some (.array _) =>
      exact otherwise_goesThrough _
  hasOneError field := by
    match field with
    | none => simp [props]
    | some (.object members) => exact memberChecks_hasOneError members
    | some .null | some (.bool _) | some (.number _) | some (.string _) | some (.array _) =>
      exact otherwise_hasOneError _

/-- The match rule of an entry is read by its rule. -/
theorem matching_isReadBy : matching.IsReadBy readMatch where
  eq_ok field value := by
    constructor
    · intro h
      match field, h with
      | none, h => cases h; exact .absent
      | some (.bool false), h => cases h; exact .create
      | some (.array items), h =>
        obtain ⟨keys, hkeys, hvalue⟩ := bind_eq_ok.mp h
        cases hvalue
        rw [mapM_readString_eq_ok.mp hkeys]
        exact .keys keys
      | some (.object members), h =>
        obtain ⟨p, hp, hvalue⟩ := bind_eq_ok.mp h
        cases hvalue
        exact .map (readProperties_eq_ok.mp hp)
      | some .null, h | some (.bool true), h | some (.number _), h | some (.string _), h =>
        exact nomatch h
    · intro h
      cases h with
      | absent => rfl
      | create => rfl
      | keys keys => exact bind_eq_ok.mpr ⟨keys, mapM_readString_eq_ok.mpr rfl, rfl⟩
      | map h => exact bind_eq_ok.mpr ⟨_, readProperties_eq_ok.mpr h, rfl⟩
  goesThrough field := by
    match field with
    | none => exact .ok _
    | some (.bool false) => exact .ok _
    | some (.array items) =>
      rw [readMatch, bind_pure_eq_map]
      exact (mapM_readString_goesThrough _ items).map _
    | some (.object members) =>
      rw [readMatch, bind_pure_eq_map]
      exact (readProperties_goesThrough members).map _
    | some .null | some (.bool true) | some (.number _) | some (.string _) =>
      exact otherwise_goesThrough _
  hasOneError field := by
    match field with
    | none => simp [matching]
    | some (.bool false) => simp [matching]
    | some (.array items) => exact stringChecks_hasOneError _ items
    | some (.object members) => exact memberChecks_hasOneError members
    | some .null | some (.bool true) | some (.number _) | some (.string _) =>
      exact otherwise_hasOneError _

/-- The update rule of an entry is read by its rule. -/
theorem updating_isReadBy : updating.IsReadBy readUpdate where
  eq_ok field value := by
    constructor
    · intro h
      match field, h with
      | none, h => cases h; exact .absent
      | some (.array []), h => cases h; exact .noKeys
      | some (.object []), h => cases h; exact .noMembers
      | some (.array (item :: items)), h =>
        obtain ⟨keys, hkeys, hvalue⟩ := bind_eq_ok.mp h
        cases hvalue
        rw [mapM_readString_eq_ok] at hkeys
        rw [hkeys]
        apply IsUpdateRule.keys
        rintro rfl
        exact nomatch hkeys
      | some (.object (member :: members)), h =>
        obtain ⟨p, hp, hvalue⟩ := bind_eq_ok.mp h
        cases hvalue
        exact .map (List.cons_ne_nil _ _) (readProperties_eq_ok.mp hp)
      | some .null, h | some (.bool _), h | some (.number _), h | some (.string _), h =>
        exact nomatch h
    · intro h
      cases h with
      | absent => rfl
      | noKeys => rfl
      | noMembers => rfl
      | keys keys h =>
          cases keys with
          | nil => exact absurd rfl h
          | cons key keys => exact bind_eq_ok.mpr ⟨_, mapM_readString_eq_ok.mpr rfl, rfl⟩
      | @map members p hmembers h =>
          cases members with
          | nil => exact absurd rfl hmembers
          | cons member members => exact bind_eq_ok.mpr ⟨p, readProperties_eq_ok.mpr h, rfl⟩
  goesThrough field := by
    match field with
    | none => exact .ok _
    | some (.array []) => exact .ok _
    | some (.object []) => exact .ok _
    | some (.array (item :: items)) =>
      rw [readUpdate, bind_pure_eq_map]
      · exact (mapM_readString_goesThrough _ (item :: items)).map _
      · exact fun h => nomatch h
    | some (.object (member :: members)) =>
      rw [readUpdate, bind_pure_eq_map]
      · exact (readProperties_goesThrough (member :: members)).map _
      · exact fun h => nomatch h
    | some .null | some (.bool _) | some (.number _) | some (.string _) =>
      exact otherwise_goesThrough _
  hasOneError field := by
    match field with
    | none => simp [updating]
    | some (.array items) => exact stringChecks_hasOneError _ items
    | some (.object members) => exact memberChecks_hasOneError members
    | some .null | some (.bool _) | some (.number _) | some (.string _) =>
      exact otherwise_hasOneError _

/-- Whether an update takes the place of all properties is read by its rule. -/
theorem replace_isReadBy : replace.IsReadBy readReplace where
  eq_ok field value := by
    constructor
    · intro h
      match field, h with
      | none, h => cases h; exact .absent
      | some (.bool _), h => cases h; exact .bool value
      | some .null, h | some (.number _), h | some (.string _), h | some (.array _), h
      | some (.object _), h => exact nomatch h
    · intro h
      cases h with
      | absent => rfl
      | bool b => rfl
  goesThrough field := by
    match field with
    | none => exact .ok _
    | some (.bool _) => exact .ok _
    | some .null | some (.number _) | some (.string _) | some (.array _) | some (.object _) =>
      exact otherwise_goesThrough _
  hasOneError field := by
    match field with
    | none => simp [replace]
    | some (.bool _) => simp [replace]
    | some .null | some (.number _) | some (.string _) | some (.array _) | some (.object _) =>
      exact otherwise_hasOneError _

/-- The labels of a node are read by their rule. -/
theorem labels_isReadBy : labels.IsReadBy readLabels where
  eq_ok field value := by
    constructor
    · intro h
      match field, h with
      | none, h => cases h; exact .absent
      | some (.array items), h =>
        rw [mapM_readString_eq_ok.mp h]
        exact .names value
      | some .null, h | some (.bool _), h | some (.number _), h | some (.string _), h
      | some (.object _), h => exact nomatch h
    · intro h
      cases h with
      | absent => rfl
      | names names => exact mapM_readString_eq_ok.mpr rfl
  goesThrough field := by
    match field with
    | none => exact .ok _
    | some (.array items) => exact mapM_readString_goesThrough _ items
    | some .null | some (.bool _) | some (.number _) | some (.string _) | some (.object _) =>
      exact otherwise_goesThrough _
  hasOneError field := by
    match field with
    | none => simp [labels]
    | some (.array items) => exact stringChecks_hasOneError _ items
    | some .null | some (.bool _) | some (.number _) | some (.string _) | some (.object _) =>
      exact otherwise_hasOneError _

/-- The integer that a number is. -/
theorem index?_eq_some {number : Json.Number} {n : Int} :
    index? number = some n ↔ IsIndex (some (.number number)) n := by
  cases number with
  | integer m =>
      unfold index?
      rw [Option.ite_none_right_eq_some, Option.some.injEq, Json.Number.isSigned_iff]
      constructor
      · rintro ⟨⟨hlower, hupper⟩, rfl⟩
        exact .integer hlower hupper
      · intro h
        cases h with
        | integer hlower hupper => exact ⟨⟨hlower, hupper⟩, rfl⟩
  | double x =>
      unfold index?
      rw [Option.filter_eq_some_iff, Binary64.wholeNumber?_eq_some, Json.Number.isSigned_iff]
      constructor
      · rintro ⟨⟨hfinite, hvalue⟩, hlower, hupper⟩
        exact .double hfinite hvalue hlower hupper
      · intro h
        cases h with
        | double hfinite hvalue hlower hupper => exact ⟨⟨hfinite, hvalue⟩, hlower, hupper⟩

/-- An end is read when it is an integer. -/
theorem readIndex_eq_ok {field : Option Json} {n : Int} :
    readIndex field = .ok n ↔ IsIndex field n := by
  match field with
  | some (.number number) =>
    rw [← index?_eq_some]
    unfold readIndex
    dsimp only
    cases index? number with
    | none => simp
    | some m => simp
  | none | some .null | some (.bool _) | some (.string _) | some (.array _) | some (.object _) =>
    exact ⟨fun h => (nomatch h), fun h => (nomatch h)⟩

/-- The ends of a relationship are read by their rule. -/
theorem index_isReadBy : index.IsReadBy readIndex where
  eq_ok _ _ := readIndex_eq_ok
  goesThrough field := by
    cases field with
    | none => exact otherwise_goesThrough _
    | some json =>
        apply GoesThrough.single (exists_congr fun n => readIndex_eq_ok.symm)
        intro e h
        cases json with
        | number number =>
            simp only [readIndex] at h
            split at h
            · exact nomatch h
            · exact (Except.error.inj h).symm
        | _ => exact (Except.error.inj h).symm
  hasOneError field := by
    cases field with
    | none => exact otherwise_hasOneError _
    | some json => simp [index, Check.hasOneError_of]

/-- The type of a relationship is read by its rule. -/
theorem type_isReadBy : type.IsReadBy readType where
  eq_ok field value := by
    cases field with
    | none =>
        constructor
        · intro h
          cases h
          exact .absent
        · intro h
          cases h
          rfl
    | some json =>
        apply readString_eq_ok.trans
        constructor
        · rintro rfl
          exact .string value
        · intro h
          cases h
          rfl
  goesThrough field := by
    cases field with
    | none => exact .ok _
    | some json => exact readString_goesThrough _ json
  hasOneError field := by
    cases field with
    | none => simp [type]
    | some json => simp [type, Check.hasOneError_of]

end Field

end GraphImport
