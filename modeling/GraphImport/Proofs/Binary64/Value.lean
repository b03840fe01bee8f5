import GraphImport.Proofs.Document.FieldReading
import Mathlib.Algebra.Order.Ring.Rat
import Mathlib.Tactic.NormNum
import Mathlib.Tactic.Ring

/-!
# Exact values of doubles

The value of a double as a rational number, told by the three fields of its word. All arithmetic on
doubles is done in units of `2 ^ -1074`; this is what those units stand for.

* `Binary64.exponentField`, `Binary64.fractionField`, `Binary64.exactValue?` — the value.
* `Binary64.absoluteValue_mul` — a double has the value that its units say.
* `Binary64.wholeNumber?_eq_some_iff_exactValue?` — the doubles that are taken for integers are those
  whose value is one.
-/

namespace GraphImport.Binary64

/-! ## Values -/

/-- The eleven bits of the exponent. -/
def exponentField (x : Binary64) : Nat := x.bits.toNat / 2 ^ 52 % 2 ^ 11

/-- The 52 bits of the fraction. -/
def fractionField (x : Binary64) : Nat := x.bits.toNat % 2 ^ 52

/-- The absolute value of a double that is finite: the fraction has a hidden bit in front of it, but
for the lowest exponent. -/
def absoluteValue (x : Binary64) : ℚ :=
  if x.exponentField = 0 then x.fractionField * 2 ^ (-1074 : ℤ)
  else (2 ^ 52 + x.fractionField) * 2 ^ ((x.exponentField : ℤ) - 1075)

/-- **The exact value of a double.** The highest exponent is that of the infinities and of the NaNs,
which have none. -/
def exactValue? (x : Binary64) : Option ℚ :=
  if x.exponentField = 2047 then none
  else some (if x.isNegative then -x.absoluteValue else x.absoluteValue)

variable {x : Binary64}

theorem exponentField_eq (x : Binary64) : x.exponentField = x.magnitude / 2 ^ 52 := by
  unfold exponentField magnitude
  rw [show 2 ^ 63 = 2 ^ 52 * 2 ^ 11 from rfl, Nat.mod_mul_right_div_self]

theorem fractionField_eq (x : Binary64) : x.fractionField = x.magnitude % 2 ^ 52 := by
  unfold fractionField magnitude
  rw [Nat.mod_mod_of_dvd _ (by decide)]

/-- The doubles with the highest exponent are not finite. -/
theorem exponentField_ne_iff : x.exponentField ≠ 2047 ↔ x.isFinite = true := by
  have hmagnitude : x.magnitude < 2 ^ 63 := Nat.mod_lt _ (by decide)
  unfold isFinite infiniteMagnitude
  rw [exponentField_eq, decide_eq_true_eq]
  omega

/-- **What units stand for**: a double has its absolute value in units of `2 ^ -1074`. -/
theorem absoluteValue_mul (x : Binary64) : x.absoluteValue * unitsPerOne = x.units := by
  have htwo : (2 : ℚ) ≠ 0 := by norm_num
  have hone : (unitsPerOne : ℚ) = 2 ^ (1074 : ℤ) := by
    unfold unitsPerOne
    rw [Nat.cast_pow, Nat.cast_ofNat, zpow_ofNat]
  unfold absoluteValue units unitsOfMagnitude
  rw [hone, exponentField_eq, fractionField_eq]
  by_cases hsmall : x.magnitude < 2 ^ 52
  · rw [if_pos hsmall, if_pos (Nat.div_eq_of_lt hsmall), Nat.mod_eq_of_lt hsmall, mul_assoc,
      ← zpow_add₀ htwo, neg_add_cancel, zpow_zero, mul_one]
  · have hfield : 1 ≤ x.magnitude / 2 ^ 52 :=
      (Nat.le_div_iff_mul_le (by decide)).mpr (by omega)
    rw [if_neg hsmall, if_neg (by omega), mul_assoc, ← zpow_add₀ htwo]
    generalize x.magnitude / 2 ^ 52 = field at hfield ⊢
    generalize x.magnitude % 2 ^ 52 = fraction
    rw [show (field : ℤ) - 1075 + 1074 = ((field - 1 : Nat) : ℤ) by omega, zpow_natCast]
    push_cast
    rfl

/-! ## Integers -/

theorem exactValue?_eq_some {q : ℚ} :
    x.exactValue? = some q ↔ x.isFinite = true ∧ (x.signedUnits : ℚ) = q * unitsPerOne := by
  have hone : (unitsPerOne : ℚ) ≠ 0 := Nat.cast_ne_zero.mpr (Nat.pos_iff_ne_zero.mp unitsPerOne_pos)
  have hsigned : (x.signedUnits : ℚ) =
      (if x.isNegative then -x.absoluteValue else x.absoluteValue) * unitsPerOne := by
    unfold signedUnits
    by_cases hsign : x.isNegative = true
    · rw [if_pos hsign, if_pos hsign, neg_mul, absoluteValue_mul, Int.cast_neg, Int.cast_natCast]
    · rw [if_neg hsign, if_neg hsign, absoluteValue_mul, Int.cast_natCast]
  unfold exactValue?
  rw [← exponentField_ne_iff, hsigned, mul_left_inj' hone, Option.ite_none_left_eq_some,
    Option.some.injEq]

/-- **A double is taken for an integer exactly if that is its value.** -/
theorem wholeNumber?_eq_some_iff_exactValue? {k : Int} :
    x.wholeNumber? = some k ↔ x.exactValue? = some (k : ℚ) := by
  rw [wholeNumber?_eq_some, exactValue?_eq_some]
  norm_cast

end GraphImport.Binary64
