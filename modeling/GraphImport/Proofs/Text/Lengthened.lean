import GraphImport.Proofs.Text.Joined

/-!
# Lengthened texts

Two texts that are written side by side, where something may have made the second one longer. When
texts are put together such changes add up: no two of them cancel out, since a text never gets
shorter. So the wholes are equal exactly when nothing was changed anywhere.

* `Lengthened` — the second text is the first one, or it was changed and is longer.
* `Lengthened.append`, `Lengthened.join`, `Lengthened.intercalate` — changes add up.
* `Lengthened.eq_iff` — the texts are equal exactly when nothing was changed.
-/

namespace GraphImport

/-- **The second text is the first one, or it was changed and is longer.** -/
structure Lengthened (changed : Prop) (s t : String) : Prop where
  /-- What was not changed is the same. -/
  same : ¬changed → s = t
  /-- What was changed is longer. -/
  longer : changed → s.length < t.length

namespace Lengthened

variable {a b : Prop} {s t s' t' : String}

/-- A text that stays as it is. -/
theorem refl (s : String) : Lengthened False s s := ⟨fun _ => rfl, False.elim⟩

/-- The second text is not shorter. -/
theorem length_le (h : Lengthened a s t) : s.length ≤ t.length := by
  by_cases ha : a
  · exact Nat.le_of_lt (h.longer ha)
  · exact Nat.le_of_eq (congrArg String.length (h.same ha))

/-- **The texts are equal exactly when nothing was changed.** -/
theorem eq_iff (h : Lengthened a s t) : s = t ↔ ¬a := by
  refine ⟨fun heq ha => ?_, h.same⟩
  have hlt := h.longer ha
  rw [heq] at hlt
  exact Nat.lt_irrefl _ hlt

/-- The same change in other words. -/
theorem congr (h : Lengthened a s t) (hab : a ↔ b) : Lengthened b s t :=
  ⟨fun hb => h.same (mt hab.mp hb), fun hb => h.longer (hab.mpr hb)⟩

/-- **Changes add up**: two texts in a row are changed when one of them is. -/
theorem append (h : Lengthened a s t) (h' : Lengthened b s' t') :
    Lengthened (a ∨ b) (s ++ s') (t ++ t') where
  same hnot := by rw [h.same fun ha => hnot (.inl ha), h'.same fun hb => hnot (.inr hb)]
  longer hor := by
    have hle := h.length_le
    have hle' := h'.length_le
    rw [String.length_append, String.length_append]
    rcases hor with ha | hb
    · have hlt := h.longer ha
      omega
    · have hlt := h'.longer hb
      omega

/-- A text behind one that stays as it is. -/
theorem behind (front : String) (h : Lengthened a s t) : Lengthened a (front ++ s) (front ++ t) :=
  ((refl front).append h).congr (by simp)

/-- A text in front of one that stays as it is. -/
theorem before (h : Lengthened a s t) (back : String) : Lengthened a (s ++ back) (t ++ back) :=
  (h.append (refl back)).congr (by simp)

section Lists

variable {γ : Type} {changed : γ → Prop} {f g : γ → String} {items : List γ}

/-- Texts in a row are changed when one of them is. -/
theorem join (h : ∀ item ∈ items, Lengthened (changed item) (f item) (g item)) :
    Lengthened (∃ item ∈ items, changed item) (String.join (items.map f))
      (String.join (items.map g)) := by
  induction items with
  | nil => exact (refl "").congr (by simp)
  | cons item items ih =>
      rw [List.map_cons, List.map_cons, String.join_cons, String.join_cons]
      have hfirst := h item List.mem_cons_self
      have hrest := ih fun other hother => h other (List.mem_cons_of_mem _ hother)
      exact (hfirst.append hrest).congr (by simp)

/-- Texts with a separator between them are changed when one of them is. -/
theorem intercalate (separator : String)
    (h : ∀ item ∈ items, Lengthened (changed item) (f item) (g item)) :
    Lengthened (∃ item ∈ items, changed item) (String.intercalate separator (items.map f))
      (String.intercalate separator (items.map g)) := by
  cases items with
  | nil => exact (refl "").congr (by simp)
  | cons item items =>
      rw [List.map_cons, List.map_cons, intercalate_cons, intercalate_cons, List.map_map,
        List.map_map]
      have hfirst := h item List.mem_cons_self
      have hrest := join fun other hother =>
        (h other (List.mem_cons_of_mem _ hother)).behind separator
      exact (hfirst.append hrest).congr (by simp)

end Lists

end Lengthened

end GraphImport
