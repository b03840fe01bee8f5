import GraphImport.Decimal.Shortest

/-!
# Shortest decimals read back

The decimal that is chosen for a double is rounded to this double again. Either a grid was found on
which a neighbour of the value reads back, and then that was tested, or the value is written out in
full, and exact values round to themselves.

* `roundQuotient_mul_left`, `nearestMagnitude_mul_left` — rounding looks at the value of a quotient
  only.
* `nearestMagnitude_of_exact` — a double whose value is hit exactly is the nearest one.
* `nearestMagnitude_shortest` — the shortest decimal of a double reads back as it.
-/

namespace GraphImport

namespace Binary64

/-! ## Rounding a quotient -/

/-- Rounding does not see a common factor. -/
theorem roundQuotient_mul_left {k : Nat} (hk : 0 < k) (num den : Nat) :
    roundQuotient (k * num) (k * den) = roundQuotient num den := by
  have hlt : ∀ a b : Nat, 2 * (k * a) < k * b ↔ 2 * a < b := by
    intro a b
    rw [Nat.mul_left_comm]
    exact Nat.mul_lt_mul_left hk
  have hgt : ∀ a b : Nat, k * b < 2 * (k * a) ↔ b < 2 * a := by
    intro a b
    rw [Nat.mul_left_comm]
    exact Nat.mul_lt_mul_left hk
  unfold roundQuotient
  simp only [Nat.mul_div_mul_left _ _ hk, Nat.mul_mod_mul_left, hlt, hgt]

/-- A whole quotient is not rounded. -/
theorem roundQuotient_mul_self (n : Nat) {den : Nat} (hden : 0 < den) :
    roundQuotient (n * den) den = n := by
  unfold roundQuotient
  simp only [Nat.mul_mod_left, Nat.mul_div_cancel _ hden, Nat.mul_zero, hden, if_true]

/-- The nearest double does not see a common factor. -/
theorem nearestMagnitude_mul_left {k : Nat} (hk : 0 < k) (num den : Nat) :
    nearestMagnitude (k * num) (k * den) = nearestMagnitude num den := by
  unfold nearestMagnitude
  simp only [Nat.mul_assoc, Nat.mul_div_mul_left _ _ hk, roundQuotient_mul_left hk]

/-! ## Exact values -/

/-- Small magnitudes are their own number of units. -/
theorem unitsOfMagnitude_of_lt {m : Nat} (h : m < 2 ^ 52) : unitsOfMagnitude m = m := by
  unfold unitsOfMagnitude
  exact if_pos h

/-- The number of low bits that a significand of 53 bits leaves out of the units. -/
theorem log2_unitsOfMagnitude_sub (m : Nat) :
    Nat.log2 (unitsOfMagnitude m) - 52 = m / 2 ^ 52 - 1 := by
  by_cases h : m < 2 ^ 52
  · rw [unitsOfMagnitude_of_lt h, Nat.div_eq_of_lt h]
    -- The logarithm of zero is zero, and the lemma for it leaves zero out.
    have hlog : Nat.log2 m ≤ 52 := by
      by_cases hm : m = 0
      · subst hm
        decide
      · exact Nat.le_of_lt ((Nat.log2_lt hm).mpr h)
    omega
  · have hf : m % 2 ^ 52 < 2 ^ 52 := Nat.mod_lt _ (by decide)
    have hlog : Nat.log2 ((2 ^ 52 + m % 2 ^ 52) * 2 ^ (m / 2 ^ 52 - 1)) =
        52 + (m / 2 ^ 52 - 1) := by
      generalize m / 2 ^ 52 - 1 = e
      generalize m % 2 ^ 52 = f at hf
      have hne : (2 ^ 52 + f) * 2 ^ e ≠ 0 :=
        Nat.ne_of_gt (Nat.mul_pos (by omega) (Nat.two_pow_pos e))
      rw [Nat.log2_eq_iff hne]
      constructor
      · rw [Nat.pow_add]
        exact Nat.mul_le_mul_right _ (Nat.le_add_right _ _)
      · rw [show 52 + e + 1 = 53 + e by omega, Nat.pow_add]
        exact Nat.mul_lt_mul_of_pos_right (by omega) (Nat.two_pow_pos e)
    unfold unitsOfMagnitude
    rw [if_neg h, hlog]
    omega

/-- The units without the bits that a significand leaves out, and the magnitude again. -/
theorem unitsOfMagnitude_eq (m : Nat) :
    ∃ significand, unitsOfMagnitude m = significand * 2 ^ (m / 2 ^ 52 - 1) ∧
      significand + (m / 2 ^ 52 - 1) * 2 ^ 52 = m := by
  by_cases h : m < 2 ^ 52
  · refine ⟨m, ?_, ?_⟩
    · rw [unitsOfMagnitude_of_lt h, Nat.div_eq_of_lt h, Nat.zero_sub, Nat.pow_zero, Nat.mul_one]
    · rw [Nat.div_eq_of_lt h]
      omega
  · refine ⟨2 ^ 52 + m % 2 ^ 52, ?_, ?_⟩
    · unfold unitsOfMagnitude
      exact if_neg h
    · have hdiv := Nat.div_add_mod m (2 ^ 52)
      have hpos : 1 ≤ m / 2 ^ 52 := (Nat.one_le_div_iff (by decide)).mpr (by omega)
      omega

/-- **Exact values round to themselves.** -/
theorem nearestMagnitude_of_exact {num den m : Nat} (hden : 0 < den) (hm : m < infiniteMagnitude)
    (h : num * unitsPerOne = unitsOfMagnitude m * den) : nearestMagnitude num den = m := by
  obtain ⟨significand, hunits, hsum⟩ := unitsOfMagnitude_eq m
  have hpos : 0 < den * 2 ^ (m / 2 ^ 52 - 1) := Nat.mul_pos hden (Nat.two_pow_pos _)
  have hround : roundQuotient (unitsOfMagnitude m * den) (den * 2 ^ (m / 2 ^ 52 - 1)) =
      significand := by
    rw [hunits, Nat.mul_assoc, Nat.mul_comm _ den]
    exact roundQuotient_mul_self significand hpos
  unfold nearestMagnitude
  simp only [h, Nat.mul_div_cancel _ hden, log2_unitsOfMagnitude_sub, hround, hsum]
  exact Nat.min_eq_left (Nat.le_of_lt hm)

end Binary64

namespace Decimal

open Binary64

/-! ## The choice of a decimal -/

/-- A decimal that is found on a grid was tested. -/
theorem readsBack_of_atPrecision {tie : Tie} {magnitude lead digits : Nat} {d : Decimal}
    (h : atPrecision tie magnitude lead digits = some d) : readsBack magnitude d = true := by
  unfold atPrecision at h
  dsimp only at h
  split at h
  · rename_i hbelow
    rw [Option.some.injEq] at h
    rw [← h]
    exact (Bool.and_eq_true_iff.mp hbelow).1
  · split at h
    · rename_i habove
      rw [Option.some.injEq] at h
      rwa [← h]
    · exact absurd h (by simp)

/-- The quotient of a decimal with places behind the point. -/
theorem ratio_neg (coefficient places : Nat) :
    ratio ⟨coefficient, -(places : Int)⟩ = (coefficient, 10 ^ places) := by
  have hwhole : (-(places : Int)).toNat = 0 := Int.toNat_of_nonpos (by omega)
  have hplaces : (-(-(places : Int))).toNat = places := by rw [Int.neg_neg, Int.toNat_natCast]
  unfold ratio
  rw [hwhole, hplaces, Nat.pow_zero, Nat.mul_one]

/-- The value of a double, written out in full, reads back. -/
theorem readsBack_exact {magnitude : Nat} (hm : magnitude < infiniteMagnitude) :
    readsBack magnitude (exact magnitude) = true := by
  have hread : ∀ places : Nat, unitsPerOne = 2 ^ places →
      readsBack magnitude ⟨unitsOfMagnitude magnitude * 5 ^ places, -(places : Int)⟩ = true := by
    intro places hunits
    unfold readsBack
    rw [ratio_neg, beq_iff_eq]
    refine nearestMagnitude_of_exact (Nat.pow_pos (by decide)) hm ?_
    rw [hunits, Nat.mul_assoc, ← Nat.mul_pow]
  exact hread 1074 (by rw [unitsPerOne])

/-- Whatever precision the search ends at, its decimal reads back. -/
theorem readsBack_shortestFrom {tie : Tie} {magnitude lead : Nat}
    (hm : magnitude < infiniteMagnitude) (left digits : Nat) :
    readsBack magnitude (shortestFrom tie magnitude lead left digits) = true := by
  induction left generalizing digits with
  | zero => rw [shortestFrom, readsBack_exact hm]
  | succ left ih =>
      rw [shortestFrom]
      cases h : atPrecision tie magnitude lead digits with
      | none => exact ih (digits + 1)
      | some d => exact readsBack_of_atPrecision h

/-- **The shortest decimal of a finite double reads back as this double.** -/
theorem nearestMagnitude_shortest (tie : Tie) {x : Binary64} (hx : x.isFinite = true) :
    nearestMagnitude (shortest tie x).ratio.1 (shortest tie x).ratio.2 = x.magnitude := by
  have hm : x.magnitude < infiniteMagnitude := of_decide_eq_true hx
  unfold shortest
  split
  · rename_i hzero
    have hmag : x.magnitude = 0 := of_decide_eq_true hzero
    have hratio : ratio ⟨0, 0⟩ = (0, 1) := ratio_neg 0 0
    rw [hmag, hratio]
    refine nearestMagnitude_of_exact Nat.one_pos (by decide) ?_
    rw [unitsOfMagnitude_of_lt (by decide), Nat.zero_mul, Nat.zero_mul]
  · exact eq_of_beq (readsBack_shortestFrom hm _ _)

end Decimal

end GraphImport
