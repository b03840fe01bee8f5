/-!
# Joined texts

A text made of others, with or without a separator between them.

* `join_singletons` — a text is made of its characters.
* `intercalate_cons` — the first text, and the others each behind the separator.
* `length_le_join`, `length_le_intercalate` — parts are not longer than the whole.
* `count_le_length_join` — there are not more parts than characters.
-/

namespace GraphImport

/-- A text is made of its characters. -/
theorem join_singletons (s : String) : String.join (s.toList.map String.singleton) = s := by
  apply String.toList_inj.mp
  rw [String.toList_join, List.flatMap_map]
  simp

/-- Texts with a separator between them: the first one, and the others each behind the
separator. -/
theorem intercalate_cons (separator s : String) (texts : List String) :
    String.intercalate separator (s :: texts) =
      s ++ String.join (texts.map fun text => separator ++ text) := by
  induction texts generalizing s with
  | nil => rw [String.intercalate_singleton, List.map_nil, String.join_nil, String.append_empty]
  | cons text texts ih =>
      rw [String.intercalate_cons_cons, ih, List.map_cons, String.join_cons, String.append_assoc,
        String.append_assoc]

/-- A joined text is at least as long as each of its parts. -/
theorem length_le_join {s : String} {texts : List String} (h : s ∈ texts) :
    s.length ≤ (String.join texts).length := by
  induction texts with
  | nil => exact absurd h List.not_mem_nil
  | cons text texts ih =>
      rw [String.join_cons, String.length_append]
      rcases List.mem_cons.mp h with rfl | h
      · exact Nat.le_add_right _ _
      · exact Nat.le_trans (ih h) (Nat.le_add_left _ _)

/-- A text with separators is at least as long as each of its parts. -/
theorem length_le_intercalate {separator s : String} {texts : List String} (h : s ∈ texts) :
    s.length ≤ (String.intercalate separator texts).length := by
  cases texts with
  | nil => exact absurd h List.not_mem_nil
  | cons text texts =>
      rw [intercalate_cons, String.length_append]
      rcases List.mem_cons.mp h with rfl | h
      · exact Nat.le_add_right _ _
      · have hjoin := length_le_join (List.mem_map_of_mem (f := fun text => separator ++ text) h)
        rw [String.length_append] at hjoin
        omega

/-- A text that is joined of texts with characters is at least as long as they are many. -/
theorem count_le_length_join {γ : Type} {text : γ → String} (htext : ∀ item, text item ≠ "")
    (items : List γ) : items.length ≤ (String.join (items.map text)).length := by
  induction items with
  | nil => exact Nat.zero_le _
  | cons item items ih =>
      have hpos : 0 < (text item).length :=
        Nat.pos_of_ne_zero fun hzero => htext item (String.length_eq_zero_iff.mp hzero)
      rw [List.map_cons, String.join_cons, String.length_append, List.length_cons]
      omega

end GraphImport
