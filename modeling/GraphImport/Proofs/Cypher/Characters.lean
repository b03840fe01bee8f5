import GraphImport.Cypher.Literal
import GraphImport.Proofs.Decimal.Positional
import GraphImport.Proofs.Text.Characters

/-!
# Characters of literals

Numbers are written with digits, signs and points, and with the slash of a division where a double
is no finite number.

* `IsNumberChar` — the characters of numbers.
* `consists_int`, `consists_finite`, `consists_doubleText` — integers, finite doubles, doubles.
* `consists_variable`, `consists_labels` — variables and labels.
-/

namespace GraphImport

/-- The character stands in numbers. -/
def IsNumberChar (c : Char) : Prop := c.isDigit = true ∨ c = '-' ∨ c = '.'

instance : DecidablePred IsNumberChar := fun c =>
  inferInstanceAs (Decidable (c.isDigit = true ∨ c = '-' ∨ c = '.'))

/-! ## Numbers -/

/-- Digits stand in numbers. -/
theorem IsDigits.consists {s : String} (h : IsDigits s) : Consists IsNumberChar s :=
  Consists.imp h fun _ => .inl

/-- An integer is written with digits and a sign. -/
theorem consists_int (n : Int) : Consists IsNumberChar (toString n) := by
  cases n with
  | ofNat n => exact (isDigits_toString n).consists
  | negSucc n =>
      exact (by decide : Consists IsNumberChar "-").append (isDigits_toString (n + 1)).consists

/-- The sign of a double stands in numbers. -/
theorem consists_signText (x : Binary64) : Consists IsNumberChar x.signText := by
  unfold Binary64.signText
  split <;> decide

/-- The decimal of a double is written with digits around a point. -/
theorem consists_positional (d : Decimal) : Consists IsNumberChar d.positional := by
  obtain ⟨whole, fraction, htext, -, hwhole, hfraction, -⟩ := Decimal.exists_positional d
  rw [htext]
  exact (hwhole.consists.append (by decide)).append hfraction.consists

/-- **A finite double is written with digits, a sign and a point.** -/
theorem consists_finite {x : Binary64} (hnan : x.isNaN = false) (hinf : x.isInfinite = false) :
    Consists IsNumberChar (Cypher.doubleText x) := by
  unfold Cypher.doubleText
  rw [hnan, hinf]
  exact (consists_signText x).append (consists_positional _)

/-- A double is written with digits, a sign, points and a slash. -/
theorem consists_doubleText (x : Binary64) :
    Consists (fun c => IsNumberChar c ∨ c = '/') (Cypher.doubleText x) := by
  have hsign := (consists_signText x).imp fun c (hc : IsNumberChar c) =>
    (Or.inl hc : IsNumberChar c ∨ c = '/')
  cases hnan : x.isNaN with
  | true =>
      unfold Cypher.doubleText
      rw [hnan, if_pos rfl]
      decide
  | false =>
      cases hinf : x.isInfinite with
      | true =>
          unfold Cypher.doubleText
          rw [hnan, hinf]
          exact hsign.append (by decide)
      | false => exact (consists_finite hnan hinf).imp fun _ => .inl

/-! ## Names -/

/-- The name of a variable consists of a letter and digits. -/
theorem consists_variable {P : Char → Prop} (hletter : P 'x') (hdigit : ∀ c, c.isDigit = true → P c)
    (v : Variable) : Consists P v.name := by
  have hword : Consists P "x" := fun c hc => List.mem_singleton.mp hc ▸ hletter
  exact hword.append (Consists.imp (isDigits_toString v.ordinal) hdigit)

/-- Labels consist of their names and colons. -/
theorem consists_labels {P : Char → Prop} (hcolon : P ':') {names : List String}
    (h : ∀ name ∈ names, Consists P name) : Consists P (Cypher.labels names) := by
  have hword : Consists P ":" := fun c hc => List.mem_singleton.mp hc ▸ hcolon
  refine Consists.join fun text htext => ?_
  obtain ⟨name, hname, rfl⟩ := List.mem_map.mp htext
  exact hword.append (h name hname)

end GraphImport
