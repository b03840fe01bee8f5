import GraphImport.Decimal.Notation
import GraphImport.Proofs.Decimal.ReadBack
import GraphImport.Proofs.Text.Reading

/-!
# Positional notation

Digits around a point say which decimal they stand for, up to zeros at the end, and so which double
is nearest to it.

* `magnitudeOfDigits` — the double nearest to digits around a point.
* `exists_positional` — positional notation is digits around a point that stand for the decimal.
* `ofMagnitude_magnitude` — a double is its sign and its magnitude.
-/

namespace GraphImport

namespace Decimal

open Binary64

/-- The magnitude of the double that is nearest to digits around a point. -/
def magnitudeOfDigits (whole fraction : String) : Nat :=
  nearestMagnitude (Nat.ofDigitChars 10 (whole.toList ++ fraction.toList) 0)
    (10 ^ fraction.toList.length)

/-! ## Padded digits -/

/-- Padding is done with digits. -/
theorem isDigits_padded (width n : Nat) : IsDigits (padded width n) := by
  intro c hc
  unfold padded at hc
  rw [String.toList_ofList, List.mem_append] at hc
  rcases hc with hc | hc
  · rw [(List.mem_replicate.mp hc).2]
    rfl
  · exact Nat.isDigit_of_mem_toDigits (by decide) (by decide) hc

/-- A number that has room in the width is written in exactly this width. -/
theorem length_padded {width n : Nat} (hwidth : 0 < width) (hn : n < 10 ^ width) :
    (padded width n).toList.length = width := by
  have hlength : (Nat.toDigits 10 n).length ≤ width :=
    (Nat.length_toDigits_le_iff (by decide) hwidth).mpr hn
  unfold padded
  rw [String.toList_ofList, List.length_append, List.length_replicate]
  omega

/-- Padding does not change the value. -/
theorem ofDigitChars_padded {width n : Nat} (hwidth : 0 < width) (hn : n < 10 ^ width)
    (init : Nat) :
    Nat.ofDigitChars 10 (padded width n).toList init = 10 ^ width * init + n := by
  have hlength : (Nat.toDigits 10 n).length ≤ width :=
    (Nat.length_toDigits_le_iff (by decide) hwidth).mpr hn
  have hpow : 10 ^ (Nat.toDigits 10 n).length * 10 ^ (width - (Nat.toDigits 10 n).length) =
      10 ^ width := by
    rw [← Nat.pow_add, Nat.add_sub_cancel' hlength]
  unfold padded
  rw [String.toList_ofList, Nat.ofDigitChars_append, Nat.ofDigitChars_replicate_zero,
    Nat.ofDigitChars_eq_ofDigitChars_zero, Nat.ofDigitChars_ten_toDigits, ← Nat.mul_assoc, hpow]

/-! ## Digits around a point -/

/-- A decimal without places behind the point is written with a zero there. -/
theorem magnitudeOfDigits_whole (n : Nat) :
    magnitudeOfDigits (toString n) "0" = nearestMagnitude n 1 := by
  have hvalue : Nat.ofDigitChars 10 ((toString n).toList ++ "0".toList) 0 = 10 * n := by
    rw [Nat.ofDigitChars_append, ofDigitChars_toString]
    rfl
  unfold magnitudeOfDigits
  rw [hvalue]
  exact nearestMagnitude_mul_left (by decide) n 1

/-- A decimal with places behind the point is cut in two there. -/
theorem magnitudeOfDigits_places (coefficient : Nat) {places : Nat} (hplaces : 0 < places) :
    magnitudeOfDigits (toString (coefficient / 10 ^ places))
        (padded places (coefficient % 10 ^ places)) =
      nearestMagnitude coefficient (10 ^ places) := by
  have hlt : coefficient % 10 ^ places < 10 ^ places :=
    Nat.mod_lt _ (Nat.pow_pos (by decide))
  unfold magnitudeOfDigits
  rw [Nat.ofDigitChars_append, ofDigitChars_toString, ofDigitChars_padded hplaces hlt,
    length_padded hplaces hlt, Nat.div_add_mod]

/-- **Positional notation** consists of digits around a point, at least one of them in front of it,
and they stand for the decimal. -/
theorem exists_positional (d : Decimal) :
    ∃ whole fraction : String, d.positional = whole ++ "." ++ fraction ∧ whole ≠ "" ∧
      IsDigits whole ∧ IsDigits fraction ∧
      magnitudeOfDigits whole fraction = nearestMagnitude d.ratio.1 d.ratio.2 := by
  unfold positional
  by_cases h : 0 ≤ d.exponent
  · have hneg : (-d.exponent).toNat = 0 := Int.toNat_of_nonpos (by omega)
    rw [if_pos h]
    refine ⟨toString (d.coefficient * 10 ^ d.exponent.toNat), "0", ?_, toString_ne_empty _,
      isDigits_toString _, isDigits_toString 0, ?_⟩
    · rw [String.append_assoc]
      rfl
    · unfold ratio
      rw [magnitudeOfDigits_whole, hneg, Nat.pow_zero]
  · have hpos : d.exponent.toNat = 0 := Int.toNat_of_nonpos (by omega)
    rw [if_neg h]
    refine ⟨toString (d.coefficient / 10 ^ (-d.exponent).toNat), _, rfl, toString_ne_empty _,
      isDigits_toString _, isDigits_padded _ _, ?_⟩
    unfold ratio
    rw [magnitudeOfDigits_places _ (by omega), hpos, Nat.pow_zero, Nat.mul_one]

end Decimal

namespace Binary64

/-! ## Sign and magnitude -/

/-- A double is its sign and its magnitude. -/
theorem ofMagnitude_magnitude (x : Binary64) : ofMagnitude x.isNegative x.magnitude = x := by
  have hlt := x.bits.toNat_lt
  have hword : (if x.isNegative then 2 ^ 63 + x.magnitude else x.magnitude) = x.bits.toNat := by
    unfold isNegative magnitude
    simp only [decide_eq_true_eq]
    split <;> omega
  unfold ofMagnitude
  rw [hword, UInt64.ofNat_toNat]

/-- **Reading a finite double**: its sign and the digits of its literal give it back. -/
theorem ofMagnitude_nearest_shortest (tie : Decimal.Tie) {x : Binary64} (hx : x.isFinite = true) :
    ofMagnitude x.isNegative (nearestMagnitude (Decimal.shortest tie x).ratio.1
      (Decimal.shortest tie x).ratio.2) = x := by
  rw [Decimal.nearestMagnitude_shortest tie hx, ofMagnitude_magnitude]

end Binary64

end GraphImport
