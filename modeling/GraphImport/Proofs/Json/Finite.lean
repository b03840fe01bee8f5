import GraphImport.Proofs.Binary64.Bounds
import GraphImport.Proofs.Json.Written

/-!
# Finite numbers

No text is read as an infinite number or as none: a numeral is either out of range, and then the
text is refused, or its value is a finite double.

* `Json.Number.IsFinite`, `Json.IsFinite` — finite numbers, and values of finite numbers only.
* `Json.Numeral.isFinite_value` — numerals have finite values.
* `Json.isFinite_of_isWritten` — whatever is read has finite numbers only.
-/

namespace GraphImport.Json

open Binary64 (AtMost)

/-- The number is an integer or a finite double. -/
def Number.IsFinite : Number → Prop
  | .integer _ => True
  | .double x => x.isFinite = true

/-- All numbers in the value are finite. -/
inductive IsFinite : Json → Prop where
  /-- The value `null`. -/
  | null : IsFinite .null
  /-- A truth value. -/
  | bool (b : Bool) : IsFinite (.bool b)
  /-- A finite number. -/
  | number {n : Number} (h : n.IsFinite) : IsFinite (.number n)
  /-- A string. -/
  | string (s : String) : IsFinite (.string s)
  /-- An array. -/
  | array {items : List Json} (h : ∀ item ∈ items, IsFinite item) : IsFinite (.array items)
  /-- An object. -/
  | object {members : Entries Json} (h : ∀ member ∈ members, IsFinite member.2) :
    IsFinite (.object members)

/-! ## Numerals -/

/-- Digits are only taken in up to 64 bits. -/
theorem absorb_lt {significand : Nat} (h : significand < 2 ^ 64) (digits : List Char) :
    (absorb significand digits).1 < 2 ^ 64 := by
  induction digits generalizing significand with
  | nil => exact h
  | cons digit rest ih =>
      unfold absorb
      dsimp only
      split_ifs with hnext
      · exact ih hnext
      · exact h

/-- A double with a sign is as finite. -/
theorem isFinite_signed (negative : Bool) {x : Binary64} (h : x.isFinite = true) :
    (signed negative x).isFinite = true := by
  cases negative with
  | false => exact h
  | true => exact Binary64.isFinite_negate.trans h

/-- Doubles of 64 bits are finite. -/
theorem isFinite_ofNat {n : Nat} (h : n < 2 ^ 64) : (Binary64.ofNat n).isFinite = true :=
  (Binary64.atMost_ofNat h).isFinite (by decide)

/-- **A significand with a power of ten is finite**, or too large. -/
theorem isFinite_scale {significand : Nat} (h : significand < 2 ^ 64) {exponent : Int}
    {x : Binary64} (hx : scale significand exponent = some x) : x.isFinite = true := by
  have hstart : (Binary64.ofNat significand).AtMost 64 := Binary64.atMost_ofNat h
  unfold scale at hx
  dsimp only at hx
  split_ifs at hx with hexponent hpower hinfinite hzero hpower htwice
  · obtain rfl := Option.some.inj hx
    exact Binary64.isFinite_product (Bool.eq_false_iff.mpr hinfinite)
  · obtain rfl := Option.some.inj hx
    exact isFinite_ofNat h
  · obtain rfl := Option.some.inj hx
    exact (hstart.quotient (Binary64.le_units_powerOfTen _)).isFinite (by decide)
  · obtain rfl := Option.some.inj hx
    exact ((hstart.quotient (Binary64.le_units_powerOfTen _)).quotient
      (Binary64.le_units_powerOfTen _)).isFinite (by decide)
  · obtain rfl := Option.some.inj hx
    exact isFinite_ofNat (by decide)

/-- Integers are finite. -/
theorem isFinite_wholeNumber (negative : Bool) {significand : Nat} (h : significand < 2 ^ 64) :
    (wholeNumber negative significand).IsFinite := by
  unfold wholeNumber
  split_ifs
  · exact Binary64.isFinite_negate.trans (isFinite_ofNat h)
  · trivial
  · trivial

/-- **Numerals have finite values.** -/
theorem Numeral.isFinite_value {numeral : Numeral} {rest : List Char} {n : Number}
    (h : numeral.value rest = .ok n) : n.IsFinite := by
  have hwhole : (absorb 0 numeral.whole).1 < 2 ^ 64 := absorb_lt (by decide) _
  unfold Numeral.value at h
  generalize absorb 0 numeral.whole = whole at h hwhole
  obtain ⟨significand, left⟩ := whole
  dsimp only at h hwhole
  have hall := absorb_lt hwhole (numeral.fraction.getD [])
  generalize absorb significand (numeral.fraction.getD []) = all at h hall
  obtain ⟨digits, dropped⟩ := all
  dsimp only at h hall
  by_cases hinteger : left = 0 ∧ numeral.fraction = none ∧ numeral.exponent = none
  · rw [if_pos hinteger] at h
    cases h
    exact isFinite_wholeNumber _ hwhole
  · rw [if_neg hinteger] at h
    split at h
    · -- The exponent is beyond all limits.
      split_ifs at h
      cases h
      exact isFinite_signed _ (isFinite_ofNat (by decide))
    · split at h
      · rename_i x hx
        cases h
        exact isFinite_signed _ (isFinite_scale hall hx)
      · exact nomatch h

/-- Numbers that are read are finite. -/
theorem isFinite_readNumber {text : List Char} {n : Number} {rest : List Char}
    (h : readNumber text = .ok (n, rest)) : n.IsFinite := by
  obtain ⟨⟨numeral, behind⟩, -, h⟩ := bind_eq_ok.mp h
  obtain ⟨value, hvalue, h⟩ := bind_eq_ok.mp h
  cases h
  exact Numeral.isFinite_value hvalue

/-! ## Values -/

/-- **Induction over JSON values**: a property of all scalars that passes from the items to their
array and from the values of members to their object holds of all values. -/
@[elab_as_elim]
theorem induct {P : Json → Prop} (null : P .null) (bool : ∀ b, P (.bool b))
    (number : ∀ n, P (.number n)) (string : ∀ s, P (.string s))
    (array : ∀ items : List Json, (∀ item ∈ items, P item) → P (.array items))
    (object : ∀ members : Entries Json, (∀ member ∈ members, P member.2) → P (.object members))
    (json : Json) : P json :=
  @Json.rec P (fun items => ∀ item ∈ items, P item) (fun members => ∀ member ∈ members, P member.2)
    (fun member => P member.2) null bool number string array object
    (fun _ h => absurd h List.not_mem_nil)
    (fun _ _ hfirst hrest => List.forall_mem_cons.mpr ⟨hfirst, hrest⟩)
    (fun _ h => absurd h List.not_mem_nil)
    (fun _ _ hfirst hrest => List.forall_mem_cons.mpr ⟨hfirst, hrest⟩)
    (fun _ _ h => h) json

/-- **What is read has finite numbers only.** -/
theorem isFinite_of_isWritten {json : Json} {written : Written} (h : IsWritten json written) :
    json.IsFinite := by
  induction json using induct generalizing written with
  | null => exact .null
  | bool b => exact .bool b
  | number n =>
      cases h with
      | number rest hread => exact .number (isFinite_readNumber hread)
  | string s => exact .string s
  | array items ih =>
      cases h with
      | array hitems =>
          refine .array fun item hitem => ?_
          obtain ⟨i, hi⟩ := List.mem_iff_getElem?.mp hitem
          obtain ⟨written, -, hwritten⟩ := exists_right (rel_getElem? hitems i) hi
          exact ih item hitem hwritten
  | object members ih =>
      cases h with
      | object hnodup hkeys hvalues =>
          refine .object fun member hmember => ?_
          obtain ⟨i, hi⟩ := List.mem_iff_getElem?.mp (List.mem_map_of_mem (f := Prod.snd) hmember)
          obtain ⟨written, -, hwritten⟩ := exists_right (rel_getElem? hvalues i) hi
          exact ih member hmember hwritten

end GraphImport.Json
