import GraphImport.Property.Value

/-!
# Leaves of values

A value is a scalar or a list of values; its leaves are the scalars in it, however deep they stand.

* `Value.induct` — induction over leaves and lists.
* `Value.mapLeaves` — changes every leaf and keeps the lists.
* `Value.identifyNaN` — the value with one double in place of all that are no number.
* `Value.eraseStrings` — the value with all strings emptied.
-/

namespace GraphImport

/-- The double that stands for all that are no number. -/
def Binary64.nan : Binary64 := ⟨0x7ff8000000000000⟩

/-- The double, or the one that stands for all that are no number. -/
def Binary64.identifyNaN (x : Binary64) : Binary64 := if x.isNaN then nan else x

namespace Value

/-- The value is a list. -/
def isList : Value → Bool
  | list _ => true
  | _ => false

/-! ## Induction -/

/-- **Induction over values**: a property of all leaves that passes from the items to their list
holds of all values. -/
@[elab_as_elim]
theorem induct {P : Value → Prop} (leaf : ∀ v : Value, v.isList = false → P v)
    (list : ∀ items : List Value, (∀ item ∈ items, P item) → P (.list items)) (v : Value) : P v :=
  @Value.rec P (fun items => ∀ item ∈ items, P item)
    (leaf _ rfl) (fun _ => leaf _ rfl) (fun _ => leaf _ rfl) (fun _ => leaf _ rfl)
    (fun _ => leaf _ rfl) list
    (fun _ h => absurd h List.not_mem_nil)
    (fun _ _ hfirst hrest item h => by
      rcases List.mem_cons.mp h with rfl | h
      · exact hfirst
      · exact hrest item h)
    v

/-! ## Changing leaves -/

mutual

/-- Changes every leaf and keeps the lists. -/
def mapLeaves (f : Value → Value) : Value → Value
  | .list items => .list (mapItemLeaves f items)
  | .null => f .null
  | .bool b => f (.bool b)
  | .int n => f (.int n)
  | .double x => f (.double x)
  | .string s => f (.string s)

/-- Changes every leaf of the items of a list. -/
def mapItemLeaves (f : Value → Value) : List Value → List Value
  | [] => []
  | item :: rest => mapLeaves f item :: mapItemLeaves f rest

end

variable {f : Value → Value}

/-- The items of a list are changed one by one. -/
theorem mapItemLeaves_eq_map (f : Value → Value) (items : List Value) :
    mapItemLeaves f items = items.map (mapLeaves f) := by
  induction items with
  | nil => rfl
  | cons item items ih => rw [mapItemLeaves, ih, List.map_cons]

@[simp] theorem mapLeaves_list (f : Value → Value) (items : List Value) :
    mapLeaves f (.list items) = .list (items.map (mapLeaves f)) := by
  rw [mapLeaves, mapItemLeaves_eq_map]

/-- Changed values are null where they were null. -/
theorem isNull_mapLeaves (hf : ∀ v, (f v).isNull = v.isNull) (v : Value) :
    (mapLeaves f v).isNull = v.isNull := by
  cases v with
  | list items => rw [mapLeaves_list]; rfl
  | _ => exact hf _

/-- The value with one double in place of all that are no number. -/
def identifyNaN : Value → Value := mapLeaves fun
  | .double x => .double x.identifyNaN
  | v => v

/-- The value with all strings emptied. -/
def eraseStrings : Value → Value := mapLeaves fun
  | .string _ => .string ""
  | v => v

@[simp] theorem identifyNaN_list (items : List Value) :
    identifyNaN (.list items) = .list (items.map identifyNaN) := mapLeaves_list _ items

@[simp] theorem eraseStrings_list (items : List Value) :
    eraseStrings (.list items) = .list (items.map eraseStrings) := mapLeaves_list _ items

/-- Emptied values are null where they were null. -/
theorem isNull_eraseStrings (v : Value) : v.eraseStrings.isNull = v.isNull :=
  isNull_mapLeaves (fun v => by cases v <;> rfl) v

end Value

end GraphImport
