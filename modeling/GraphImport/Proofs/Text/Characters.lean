import GraphImport.Proofs.Text.Reading

/-!
# Characters of texts

A condition on the characters of a text holds of the whole when it holds of the parts.

* `Consists` — all characters of a text meet a condition.
* `Consists.append`, `Consists.join`, `Consists.intercalate` — texts made of others.
* `mem_join`, `mem_intercalate` — the characters of texts made of others.
* `split_intercalate`, `map_intercalate` — a text with separators, split again and with changed
  characters.
-/

namespace GraphImport

/-- All characters of the text meet the condition. -/
def Consists (P : Char → Prop) (s : String) : Prop := ∀ c ∈ s.toList, P c

instance (P : Char → Prop) [DecidablePred P] : DecidablePred (Consists P) := fun s =>
  List.decidableBAll P s.toList

namespace Consists

variable {P Q : Char → Prop} {s t separator : String} {texts : List String}

theorem imp (h : Consists P s) (himp : ∀ c, P c → Q c) : Consists Q s :=
  fun c hc => himp c (h c hc)

theorem empty : Consists P "" := fun _ hc => absurd hc List.not_mem_nil

theorem append (hs : Consists P s) (ht : Consists P t) : Consists P (s ++ t) := by
  intro c hc
  rw [String.toList_append] at hc
  rcases List.mem_append.mp hc with hc | hc
  · exact hs c hc
  · exact ht c hc

/-- A joined text consists of what its parts consist of. -/
theorem join (h : ∀ text ∈ texts, Consists P text) : Consists P (String.join texts) := by
  induction texts with
  | nil => exact empty
  | cons text rest ih =>
      rw [String.join_cons]
      exact (h text List.mem_cons_self).append
        (ih fun other hother => h other (List.mem_cons_of_mem _ hother))

/-- A text with separators consists of what these and its parts consist of. -/
theorem intercalate (hseparator : Consists P separator) (h : ∀ text ∈ texts, Consists P text) :
    Consists P (String.intercalate separator texts) := by
  cases texts with
  | nil =>
      rw [String.intercalate_nil]
      exact empty
  | cons text rest =>
      rw [intercalate_cons]
      refine (h text List.mem_cons_self).append (join fun other hother => ?_)
      obtain ⟨part, hpart, rfl⟩ := List.mem_map.mp hother
      exact hseparator.append (h part (List.mem_cons_of_mem _ hpart))

end Consists

/-! ## Single characters -/

/-- A joined text has the characters of its parts. -/
theorem mem_join {c : Char} {texts : List String} :
    c ∈ (String.join texts).toList ↔ ∃ text ∈ texts, c ∈ text.toList := by
  rw [String.toList_join, List.mem_flatMap]

/-- A text with separators has no other characters than its parts, apart from those of the
separators. -/
theorem mem_intercalate {c : Char} {separator : String} (h : c ∉ separator.toList)
    {texts : List String} :
    c ∈ (String.intercalate separator texts).toList ↔ ∃ text ∈ texts, c ∈ text.toList := by
  cases texts with
  | nil =>
      simp only [String.intercalate_nil, String.toList_empty, List.not_mem_nil, false_and,
        exists_false]
  | cons text rest =>
      simp only [intercalate_cons, String.toList_append, List.mem_append, mem_join, List.mem_map,
        List.mem_cons, exists_exists_and_eq_and, exists_eq_or_imp, h, false_or]

/-! ## Separators -/

/-- **A text is split into its parts** at a separator that none of them holds. -/
theorem split_intercalate {separator : Char} {texts : List String} (hne : texts ≠ [])
    (h : ∀ text ∈ texts, Consists (· ≠ separator) text) :
    ((String.intercalate (String.singleton separator) texts).split separator).toList.map
      String.Slice.copy = texts := by
  have hnot : ∀ text ∈ texts, separator ∉ text.toList := fun text htext hmem =>
    h text htext separator hmem rfl
  have hsplit := String.toList_split_intercalate hnot
  rwa [if_neg hne] at hsplit

/-- A text keeps its characters if each of them is left as it is. -/
theorem map_eq_self {f : Char → Char} {s : String} (h : Consists (fun c => f c = c) s) :
    s.map f = s := by
  apply String.toList_inj.mp
  rw [String.toList_map, List.map_congr_left h, List.map_id']

/-- Changing the characters of a text changes those of its parts. -/
theorem map_append (f : Char → Char) (s t : String) : (s ++ t).map f = s.map f ++ t.map f := by
  apply String.toList_inj.mp
  simp only [String.toList_map, String.toList_append, List.map_append]

/-- Changing the characters of a text with separators changes its parts and the separators. -/
theorem map_intercalate (f : Char → Char) (separator : String) (texts : List String) :
    (String.intercalate separator texts).map f =
      String.intercalate (separator.map f) (texts.map (·.map f)) := by
  induction texts with
  | nil =>
      rw [List.map_nil, String.intercalate_nil, String.intercalate_nil]
      exact map_eq_self .empty
  | cons text rest ih =>
      cases rest with
      | nil => simp only [String.intercalate_singleton, List.map_cons, List.map_nil]
      | cons other rest =>
          rw [String.intercalate_cons_cons, map_append, map_append, ih]
          simp only [List.map_cons, String.intercalate_cons_cons]

end GraphImport
