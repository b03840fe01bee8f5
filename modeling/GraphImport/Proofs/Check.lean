import GraphImport.Proofs.Result
import Mathlib.Data.List.Forall2

/-!
# Checks in order

A computation that makes one check after the other ends at the first that fails. What it checks, and
in which order, is a list; the computation goes through the list when it succeeds exactly if all
checks pass and otherwise reports the first that does not.

* `Check` — a condition, and the errors that tell of a failure.
* `FirstFailure` — an error tells of the first check that fails.
* `GoesThrough` — a result is that of checks in order, with `GoesThrough.bind` and
  `GoesThrough.mapM` for steps one after the other.
* `GoesThrough.ok_iff`, `GoesThrough.error_iff` — when it succeeds and what it reports.
-/

namespace GraphImport

variable {ε ε' α β : Type}

/-- A condition, and the errors that tell of an input which does not meet it. -/
structure Check (ε : Type) where
  /-- The condition. -/
  passes : Prop
  /-- The errors that tell of a failure. -/
  blames : ε → Prop

namespace Check

/-- A condition with one error. -/
def of (passes : Prop) (error : ε) : Check ε := ⟨passes, fun e => e = error⟩

/-- At most one error tells of a failure. -/
def HasOneError (c : Check ε) : Prop := ∃ error, ∀ e, c.blames e → e = error

/-- The check with other errors. -/
def relabel (f : ε → ε') (c : Check ε) : Check ε' := ⟨c.passes, fun e' => ∃ e, c.blames e ∧ e' = f e⟩

@[simp] theorem passes_of (passes : Prop) (error : ε) : (of passes error).passes = passes := rfl

theorem hasOneError_of (passes : Prop) (error : ε) : (of passes error).HasOneError :=
  ⟨error, fun _ h => h⟩

/-- Errors in other words are as many. -/
theorem HasOneError.relabel {c : Check ε} (h : c.HasOneError) (f : ε → ε') :
    (c.relabel f).HasOneError := by
  obtain ⟨error, herror⟩ := h
  refine ⟨f error, ?_⟩
  rintro _ ⟨e, he, rfl⟩
  rw [herror e he]

@[simp] theorem relabel_of (f : ε → ε') (passes : Prop) (error : ε) :
    (of passes error).relabel f = of passes (f error) := by
  simp [relabel, of]

end Check

/-! ## First failures -/

/-- **The error tells of the first check that fails.** -/
inductive FirstFailure : List (Check ε) → ε → Prop where
  /-- The first check fails. -/
  | here {c : Check ε} {rest : List (Check ε)} {e : ε} (fails : ¬c.passes) (blames : c.blames e) :
    FirstFailure (c :: rest) e
  /-- The first check passes, and one of the others fails. -/
  | later {c : Check ε} {rest : List (Check ε)} {e : ε} (passes : c.passes)
    (first : FirstFailure rest e) : FirstFailure (c :: rest) e

namespace FirstFailure

variable {checks more : List (Check ε)} {e e' : ε}

/-- What comes behind a failure does not matter. -/
theorem append_right (h : FirstFailure checks e) (more : List (Check ε)) :
    FirstFailure (checks ++ more) e := by
  induction h with
  | here fails blames => exact .here fails blames
  | later passes first ih => exact .later passes ih

/-- Checks that pass may stand in front. -/
theorem append_left (hpass : ∀ c ∈ checks, c.passes) (h : FirstFailure more e) :
    FirstFailure (checks ++ more) e := by
  induction checks with
  | nil => exact h
  | cons c rest ih =>
      apply FirstFailure.later (hpass c List.mem_cons_self)
      exact ih fun other hother => hpass other (List.mem_cons_of_mem _ hother)

/-- There is no failure when all checks pass. -/
theorem not_all_pass (h : FirstFailure checks e) : ¬∀ c ∈ checks, c.passes := by
  intro hpass
  induction h with
  | here fails _ => exact fails (hpass _ List.mem_cons_self)
  | later _ _ ih => exact ih fun c hc => hpass c (List.mem_cons_of_mem _ hc)

/-- The error tells of one of the checks. -/
theorem exists_blames (h : FirstFailure checks e) : ∃ c ∈ checks, c.blames e := by
  induction h with
  | here _ blames => exact ⟨_, List.mem_cons_self, blames⟩
  | later _ _ ih =>
      obtain ⟨c, hc, blames⟩ := ih
      exact ⟨c, List.mem_cons_of_mem _ hc, blames⟩

/-- **The first failure is one**: checks with one error each have at most one first failure. -/
theorem unique (hchecks : ∀ c ∈ checks, c.HasOneError)
    (h : FirstFailure checks e) (h' : FirstFailure checks e') : e = e' := by
  induction h with
  | here fails blames =>
      obtain ⟨error, herror⟩ := hchecks _ List.mem_cons_self
      cases h' with
      | here _ blames' => rw [herror _ blames, herror _ blames']
      | later passes _ => exact absurd passes fails
  | later passes _ ih =>
      cases h' with
      | here fails _ => exact absurd passes fails
      | later _ first' => exact ih (fun c hc => hchecks c (List.mem_cons_of_mem _ hc)) first'

end FirstFailure

/-! ## Results of checks -/

/-- **The result is that of checks in order**: a success when all of them pass, otherwise an error
that tells of the first one that does not. -/
def GoesThrough (checks : List (Check ε)) : Except ε α → Prop
  | .ok _ => ∀ c ∈ checks, c.passes
  | .error e => FirstFailure checks e

namespace GoesThrough

variable {checks more : List (Check ε)} {x : Except ε α}

theorem ok (a : α) : GoesThrough ([] : List (Check ε)) (.ok a) := fun _ hc => absurd hc List.not_mem_nil

/-- One check that passes. -/
theorem passed {c : Check ε} (h : c.passes) (a : α) : GoesThrough [c] (.ok a : Except ε α) := by
  intro other hother
  rw [List.mem_singleton.mp hother]
  exact h

/-- A result that is a success exactly when a condition holds, and otherwise blames it. -/
theorem single {c : Check ε} (hpasses : c.passes ↔ ∃ a, x = .ok a)
    (hblames : ∀ e, x = .error e → c.blames e) : GoesThrough [c] x := by
  cases x with
  | ok a => exact passed (hpasses.mpr ⟨a, rfl⟩) a
  | error e =>
      refine FirstFailure.here ?_ (hblames e rfl)
      intro h
      obtain ⟨a, ha⟩ := hpasses.mp h
      cases ha

/-- **Two computations one after the other** make the checks of both. -/
theorem bind {f : α → Except ε β} (hx : GoesThrough checks x)
    (hf : ∀ a, x = .ok a → GoesThrough more (f a)) : GoesThrough (checks ++ more) (x >>= f) := by
  cases x with
  | error e => exact FirstFailure.append_right hx more
  | ok a =>
      have hmore := hf a rfl
      change GoesThrough (checks ++ more) (f a)
      cases hb : f a with
      | error e =>
          rw [hb] at hmore
          exact FirstFailure.append_left hx hmore
      | ok b =>
          rw [hb] at hmore
          intro c hc
          rcases List.mem_append.mp hc with hc | hc
          · exact hx c hc
          · exact hmore c hc

/-- What is made of a result does not matter. -/
theorem map (h : GoesThrough checks x) (f : α → β) : GoesThrough checks (x.map f) := by
  cases x with
  | ok a => exact h
  | error e => exact h

/-- **One computation for each item** makes the checks of all items in their order. -/
theorem mapM {γ : Type} {f : γ → Except ε α} {itemChecks : γ → List (Check ε)} {items : List γ}
    (h : ∀ item ∈ items, GoesThrough (itemChecks item) (f item)) :
    GoesThrough (items.flatMap itemChecks) (items.mapM f) := by
  induction items with
  | nil => exact ok []
  | cons item rest ih =>
      rw [List.mapM_cons, List.flatMap_cons]
      apply (h item List.mem_cons_self).bind
      intro a _
      have hrest := ih fun other hother => h other (List.mem_cons_of_mem _ hother)
      have hpure := hrest.bind (f := fun as => pure (a :: as)) fun as _ => ok (a :: as)
      rwa [List.append_nil] at hpure

/-- Errors may be put in other words. -/
theorem relabel (h : GoesThrough checks x) (f : ε → ε') :
    GoesThrough (checks.map (Check.relabel f)) (x.mapError f) := by
  cases x with
  | ok a =>
      intro other hother
      obtain ⟨c, hc, rfl⟩ := List.mem_map.mp hother
      exact h c hc
  | error e =>
      change FirstFailure checks e at h
      change FirstFailure _ (f e)
      induction h with
      | here fails blames => exact .here fails ⟨_, blames, rfl⟩
      | later passes _ ih => exact .later passes ih

/-- **The result is a success exactly when all checks pass.** -/
theorem ok_iff (h : GoesThrough checks x) : (∃ a, x = .ok a) ↔ ∀ c ∈ checks, c.passes := by
  cases x with
  | ok a => exact ⟨fun _ => h, fun _ => ⟨a, rfl⟩⟩
  | error e =>
      refine ⟨fun ⟨a, ha⟩ => (nomatch ha), fun hpass => ?_⟩
      exact absurd hpass (FirstFailure.not_all_pass h)

/-- **The result is the error of the first check that fails**, when each check has one error. -/
theorem error_iff (h : GoesThrough checks x)
    (hchecks : ∀ c ∈ checks, c.HasOneError) {e : ε} :
    x = .error e ↔ FirstFailure checks e := by
  cases x with
  | ok a =>
      refine ⟨fun heq => (nomatch heq), fun hfirst => ?_⟩
      exact absurd h hfirst.not_all_pass
  | error e' =>
      rw [Except.error.injEq]
      constructor
      · rintro rfl
        exact h
      · intro hfirst
        exact FirstFailure.unique hchecks h hfirst

end GoesThrough

end GraphImport
