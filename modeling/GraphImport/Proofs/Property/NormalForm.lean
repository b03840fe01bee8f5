import GraphImport.Proofs.Cypher.Characters
import GraphImport.Proofs.Cypher.LiteralReading
import GraphImport.Proofs.Json.Finite
import GraphImport.Proofs.Property.Grammar

/-!
# The normal form of properties

Whatever stands for properties in JSON has a normal form: no key stands twice, and every value is a
scalar or a flat list of scalars, with integers of 64 bits and finite doubles. Such values are written
as flat literals, in which nothing but a string holds a character that is not its own.

* `Value.IsScalar`, `Value.IsFlat`, `Properties.IsNormal` — the normal form.
* `Properties.isNormal_of_isProperties` — it is all that is read.
* `Cypher.IsScalarText`, `Cypher.IsFlatText` — a grammar of flat literals.
* `Cypher.isFlatText_literal` — flat values are written so.
-/

namespace GraphImport

/-! ## The normal form -/

/-- The value is a scalar: integers have 64 bits with a sign, and doubles are finite. -/
inductive Value.IsScalar : Value → Prop where
  /-- No value. -/
  | null : IsScalar .null
  /-- A truth value. -/
  | bool (b : Bool) : IsScalar (.bool b)
  /-- An integer of 64 bits with a sign. -/
  | int {n : Int} (lower : -2 ^ 63 ≤ n) (upper : n < 2 ^ 63) : IsScalar (.int n)
  /-- A finite double. -/
  | double {x : Binary64} (h : x.isFinite = true) : IsScalar (.double x)
  /-- A string. -/
  | string (s : String) : IsScalar (.string s)

/-- The value is a scalar or a list of scalars. -/
inductive Value.IsFlat : Value → Prop where
  /-- A scalar. -/
  | scalar {value : Value} (h : value.IsScalar) : IsFlat value
  /-- A list of scalars. -/
  | list {items : List Value} (h : ∀ item ∈ items, item.IsScalar) : IsFlat (.list items)

/-- **Properties in normal form.** -/
structure Properties.IsNormal (p : Properties) : Prop where
  /-- No key stands twice. -/
  nodup : p.entries.keys.Nodup
  /-- The values are flat. -/
  flat : p.All fun entry => entry.2.IsFlat

/-! ## What is read -/

/-- Scalars are read as scalars. -/
theorem Json.IsScalar.isScalar {json : Json} {value : Value} (h : json.IsScalar value)
    (hfinite : json.IsFinite) : value.IsScalar := by
  cases h with
  | null => exact .null
  | bool b => exact .bool b
  | integer lower upper => exact .int lower upper
  | double x =>
      cases hfinite with
      | number hx => exact .double hx
  | string s => exact .string s

/-- Values are read as flat values. -/
theorem Json.IsValue.isFlat {json : Json} {value : Value} (h : json.IsValue value)
    (hfinite : json.IsFinite) : value.IsFlat := by
  cases h with
  | scalar hscalar => exact .scalar (hscalar.isScalar hfinite)
  | list hitems =>
      cases hfinite with
      | array hfinite =>
          refine .list fun item hitem => ?_
          obtain ⟨i, hi⟩ := List.mem_iff_getElem?.mp hitem
          obtain ⟨json, hjson, hscalar⟩ := exists_left (rel_getElem? hitems i) hi
          exact hscalar.isScalar (hfinite json (List.mem_of_getElem? hjson))

namespace Properties

/-- A condition on pairs holds of the properties that they are written to. -/
theorem All.insertAll {P : String × Value → Prop} {p : Properties} (hp : p.All P)
    {pairs : List (String × Value)} (hpairs : ∀ pair ∈ pairs, P pair) :
    (p.insertAll pairs).All P := by
  induction pairs generalizing p with
  | nil => exact hp
  | cons pair rest ih =>
      obtain ⟨hpair, hrest⟩ := List.forall_mem_cons.mp hpairs
      refine ih (fun entry hentry => ?_) hrest
      rcases Entries.mem_insert hentry with rfl | hentry
      · exact hpair
      · exact hp entry hentry

/-- Writing pairs never empties properties. -/
theorem insertAll_ne_nil (pairs : List (String × Value)) {p : Properties} (hp : p.entries ≠ []) :
    (p.insertAll pairs).entries ≠ [] := by
  induction pairs generalizing p with
  | nil => exact hp
  | cons pair rest ih => exact ih (Entries.insert_ne_nil pair.1 pair.2 p.entries)

variable {members : Entries Json} {p : Properties}

/-- **What is read as properties is in normal form.** -/
theorem isNormal_of_isProperties (h : Json.IsProperties members p)
    (hfinite : ∀ member ∈ members, member.2.IsFinite) : p.IsNormal := by
  refine ⟨p.nodup, ?_⟩
  obtain ⟨pairs, hpairs, rfl⟩ := h
  have hempty : empty.All fun entry => entry.2.IsFlat := fun _ hentry =>
    absurd hentry List.not_mem_nil
  refine hempty.insertAll fun pair hpair => ?_
  obtain ⟨i, hi⟩ := List.mem_iff_getElem?.mp hpair
  obtain ⟨member, hmember, -, hvalue⟩ := exists_left (rel_getElem? hpairs i) hi
  exact hvalue.isFlat (hfinite member (List.mem_of_getElem? hmember))

/-- An object with members is not read as no properties. -/
theorem ne_nil_of_isProperties (h : Json.IsProperties members p) (hmembers : members ≠ []) :
    p.entries ≠ [] := by
  obtain ⟨pairs, hpairs, rfl⟩ := h
  cases hpairs with
  | nil => exact absurd rfl hmembers
  | @cons _ pair _ pairs _ _ =>
      exact insertAll_ne_nil pairs (Entries.insert_ne_nil pair.1 pair.2 [])

end Properties

/-! ## Flat literals -/

namespace Cypher

/-- **The text of a scalar**: a word, a number of digits, signs and points, or a string. -/
inductive IsScalarText (mode : StringMode) : String → Prop where
  /-- No value. -/
  | null : IsScalarText mode "null"
  /-- A truth value. -/
  | bool (b : Bool) : IsScalarText mode (if b then "true" else "false")
  /-- A number; no division stands here. -/
  | number {text : String} (h : Consists IsNumberChar text) : IsScalarText mode text
  /-- A string. -/
  | string (s : String) : IsScalarText mode (quote mode s)

/-- **The text of a flat value**: a scalar, or scalars between brackets. -/
inductive IsFlatText (mode : StringMode) : String → Prop where
  /-- A scalar. -/
  | scalar {text : String} (h : IsScalarText mode text) : IsFlatText mode text
  /-- A list of scalars. -/
  | list {texts : List String} (h : ∀ text ∈ texts, IsScalarText mode text) :
    IsFlatText mode ("[" ++ String.intercalate ", " texts ++ "]")

/-- Finite doubles are neither infinite nor no number. -/
theorem isScalarText_double {mode : StringMode} {x : Binary64} (h : x.isFinite = true) :
    IsScalarText mode (doubleText x) := by
  have hlt : x.magnitude < Binary64.infiniteMagnitude := of_decide_eq_true h
  have hnan : x.isNaN = false := decide_eq_false (Nat.not_lt_of_gt hlt)
  have hinfinite : x.isInfinite = false := decide_eq_false (Nat.ne_of_lt hlt)
  exact .number (consists_finite hnan hinfinite)

/-- Scalars are written as scalars. -/
theorem isScalarText_literal (mode : StringMode) {value : Value} (h : value.IsScalar) :
    IsScalarText mode (literal mode value) := by
  cases h with
  | null => exact .null
  | bool b => exact .bool b
  | int lower upper => exact .number (consists_int _)
  | double hx => exact isScalarText_double hx
  | string s => exact .string s

/-- **Flat values are written as flat literals.** -/
theorem isFlatText_literal (mode : StringMode) {value : Value} (h : value.IsFlat) :
    IsFlatText mode (literal mode value) := by
  cases h with
  | scalar hscalar => exact .scalar (isScalarText_literal mode hscalar)
  | list hitems =>
      rw [literal_list]
      refine .list fun text htext => ?_
      obtain ⟨item, hitem, rfl⟩ := List.mem_map.mp htext
      exact isScalarText_literal mode (hitems item hitem)

end Cypher

end GraphImport
