import GraphImport.Scope
import Mathlib.Data.List.Basic
import Mathlib.Data.List.Nodup

/-!
# How scopes grow

A scope only ever gets new keys behind the ones it has, so what is bound keeps its variable. This is
all that compilation needs to know about scopes.

* `Scope.ExtendedBy` — the second scope has the keys of the first one, and others behind them.
* `Scope.NamedBy` — a naming of all keys agrees with the scope.
* `Scope.bind_of_namedBy` — a request gives the name of the key.
* `Scope.IsSegment` — the keys are the first natural numbers, in order.
-/

namespace GraphImport

namespace Scope

variable {s t u : Scope} {key : Nat} {v : Variable} {ρ : Nat → Variable}

/-! ## Lookups -/

/-- A scope contains its keys. -/
theorem contains_iff : s.contains key = true ↔ key ∈ s.keys := List.contains_iff_mem

/-- A bound key has the variable whose number is the place of the key. -/
theorem find?_of_mem (h : key ∈ s.keys) : s.find? key = some ⟨s.keys.idxOf key⟩ := if_pos h

/-- Exactly bound keys have a variable. -/
theorem isSome_find? (s : Scope) (key : Nat) : (s.find? key).isSome = s.contains key := by
  unfold find? contains
  split_ifs with h
  · exact (List.contains_iff_mem.mpr h).symm
  · exact (Bool.eq_false_iff.mpr (mt List.contains_iff_mem.mp h)).symm

/-- Only bound keys have a variable. -/
theorem mem_of_find? (h : s.find? key = some v) : key ∈ s.keys := by
  unfold find? at h
  split at h
  · assumption
  · exact absurd h (by simp)

/-- **Variables are distinct**: two keys with the same variable are the same. -/
theorem find?_injective {other : Nat} (h : s.find? key = some v) (hother : s.find? other = some v) :
    key = other := by
  have hkey := mem_of_find? h
  rw [find?_of_mem hkey] at h
  rw [find?_of_mem (mem_of_find? hother)] at hother
  have hidx : s.keys.idxOf key = s.keys.idxOf other :=
    congrArg Variable.ordinal (Option.some.inj (h.trans hother.symm))
  exact (List.idxOf_inj hkey).mp hidx

/-! ## Growth -/

/-- The second scope has the keys of the first one, and perhaps others behind them. -/
def ExtendedBy (s t : Scope) : Prop := s.keys <+: t.keys

theorem ExtendedBy.refl (s : Scope) : s.ExtendedBy s := List.prefix_refl _

theorem ExtendedBy.trans (h : s.ExtendedBy t) (h' : t.ExtendedBy u) : s.ExtendedBy u :=
  List.IsPrefix.trans h h'

/-- Bound keys stay bound. -/
theorem ExtendedBy.mem (h : s.ExtendedBy t) (hkey : key ∈ s.keys) : key ∈ t.keys := h.subset hkey

/-- **Bound keys keep their variables** when a scope grows. -/
theorem ExtendedBy.find? (h : s.ExtendedBy t) (hv : s.find? key = some v) :
    t.find? key = some v := by
  have hkey := mem_of_find? hv
  rw [find?_of_mem hkey] at hv
  obtain ⟨others, hothers⟩ := h
  have hmem : key ∈ t.keys := hothers ▸ List.mem_append_left _ hkey
  have hidx : t.keys.idxOf key = s.keys.idxOf key := by
    rw [← hothers, List.idxOf_append_of_mem hkey]
  rw [find?_of_mem hmem, hidx, hv]

/-- A request binds its key behind the others, if it is new. -/
theorem keys_extend (s : Scope) (key : Nat) :
    (s.extend key).keys = if key ∈ s.keys then s.keys else s.keys ++ [key] := by
  unfold extend
  split <;> rfl

theorem extendedBy_extend (s : Scope) (key : Nat) : s.ExtendedBy (s.extend key) := by
  unfold ExtendedBy
  rw [keys_extend]
  split_ifs
  · exact List.prefix_refl _
  · exact List.prefix_append _ _

/-- A key is bound when it was before or is requested. -/
theorem mem_extend_iff {other : Nat} :
    other ∈ (s.extend key).keys ↔ other ∈ s.keys ∨ other = key := by
  rw [keys_extend]
  split_ifs with h
  · refine ⟨.inl, ?_⟩
    rintro (hother | rfl)
    · exact hother
    · exact h
  · rw [List.mem_append, List.mem_singleton]

/-- A request binds its key. -/
theorem mem_extend (s : Scope) (key : Nat) : key ∈ (s.extend key).keys :=
  mem_extend_iff.mpr (.inr rfl)

/-- A request changes nothing for other keys. -/
theorem find?_extend_of_ne (s : Scope) {other : Nat} (h : other ≠ key) :
    (s.extend key).find? other = s.find? other := by
  by_cases hother : other ∈ s.keys
  · have hfound := find?_of_mem hother
    rw [hfound, (s.extendedBy_extend key).find? hfound]
  · have hafter : other ∉ (s.extend key).keys := fun hmem =>
      (mem_extend_iff.mp hmem).elim hother h
    exact (if_neg hafter).trans (if_neg hother).symm

/-- Requesting a bound key changes nothing. -/
theorem extend_of_mem (h : key ∈ s.keys) : s.extend key = s := dif_pos h

/-! ## Namings -/

/-- **The scope agrees with a naming**: every bound key has the variable that it is named by. -/
def NamedBy (s : Scope) (ρ : Nat → Variable) : Prop := ∀ key v, s.find? key = some v → ρ key = v

/-- What agrees with a scope agrees with every scope that it came from. -/
theorem NamedBy.of_extendedBy (h : t.NamedBy ρ) (hst : s.ExtendedBy t) : s.NamedBy ρ :=
  fun key v hv => h key v (hst.find? hv)

/-- A request gives the name of the key. -/
theorem bind_of_namedBy (h : (s.extend key).NamedBy ρ) : s.bind key = (ρ key, s.extend key) := by
  have hname := h key _ (find?_of_mem (mem_extend s key))
  unfold bind
  rw [hname]

/-- The naming that a scope stands for; keys that are not bound have no names of their own. -/
def naming (s : Scope) (key : Nat) : Variable := ⟨s.keys.idxOf key⟩

theorem namedBy_naming (s : Scope) : s.NamedBy s.naming := by
  intro key v hv
  rw [find?_of_mem (mem_of_find? hv)] at hv
  exact Option.some.inj hv

/-! ## Segments -/

/-- The keys are the first natural numbers, in order. -/
def IsSegment (s : Scope) (size : Nat) : Prop := s.keys = List.range size

/-- Every key of a segment has its own number. -/
theorem IsSegment.namedBy {size : Nat} (h : s.IsSegment size) : s.NamedBy Variable.mk := by
  intro key v hv
  have hkey := mem_of_find? hv
  rw [find?_of_mem hkey, h] at hv
  rw [h, List.mem_range] at hkey
  have hidx : (List.range size).idxOf key = key := by
    have hlength : key < (List.range size).length := by
      rw [List.length_range]
      exact hkey
    have hplace := List.nodup_range.idxOf_getElem key hlength
    rwa [List.getElem_range] at hplace
  rw [hidx] at hv
  exact Option.some.inj hv

/-- **A segment stays one** when the key that is requested is in it or the next one. -/
theorem IsSegment.extend {size : Nat} (h : s.IsSegment size) (hkey : key ≤ size) :
    (s.extend key).IsSegment (max size (key + 1)) := by
  unfold IsSegment at *
  rw [keys_extend, h]
  rcases Nat.lt_or_eq_of_le hkey with hlt | rfl
  · rw [if_pos (List.mem_range.mpr hlt), Nat.max_eq_left hlt]
  · have hnew : key ∉ List.range key := fun hmem => Nat.lt_irrefl _ (List.mem_range.mp hmem)
    rw [if_neg hnew, Nat.max_eq_right (Nat.le_succ key), List.range_succ]

end Scope

end GraphImport
