import Mathlib
import ModePolicy.Report

/-!
# What a success says about its steps

An operation is a chain of steps, each of which may fail. The lemmas here take a successful chain
apart: `bind_succeeds` and `Report.bind_succeeds` say that it succeeds exactly when its steps
succeed one after another, for a plain `Except` and for the result of a report. The log of a report
plays no part in them.

The other direction, running a chain whose steps are known, is rewriting: `Report.result_bind` and
`result_lift` reduce the result of a report to `Except`, and `ok_bind` goes on from a success.
-/

namespace ModePolicy

section Steps

variable {ε ε' α β : Type}

/-- A chain goes on with what its first step gives. -/
@[simp] theorem ok_bind (a : α) (f : α → Except ε β) : (Except.ok a).bind f = f a := rfl

@[simp] theorem error_bind (e : ε) (f : α → Except ε β) :
    (Except.error e : Except ε α).bind f = .error e := rfl

@[simp] theorem ok_chain (a : α) (f : α → Except ε β) : (Except.ok a >>= f) = f a := rfl

@[simp] theorem pure_is_ok (a : α) : (pure a : Except ε α) = .ok a := rfl

/-- A chain of two steps succeeds exactly when both do. -/
theorem bind_succeeds {x : Except ε α} {f : α → Except ε β} {b : β} :
    x.bind f = .ok b ↔ ∃ a, x = .ok a ∧ f a = .ok b := by
  constructor
  · intro h
    cases x with
    | ok a => exact ⟨a, rfl, h⟩
    | error e => exact absurd h (by simp)
  · intro h
    obtain ⟨a, rfl, h⟩ := h
    exact h

/-- A pass over a list succeeds where its step does for each member. -/
theorem mapM_succeeds {f : α → Except ε β} {g : α → β} {xs : List α}
    (h : ∀ x ∈ xs, f x = .ok (g x)) : xs.mapM f = .ok (xs.map g) := by
  induction xs with
  | nil => rfl
  | cons x rest ih =>
    obtain ⟨hx, hrest⟩ := List.forall_mem_cons.mp h
    rw [List.mapM_cons, hx, ok_chain, ih hrest]
    rfl

/-- A pass over a list succeeds exactly if its step does for each member. -/
theorem exists_mapM_iff {f : α → Except ε β} {xs : List α} :
    (∃ ys, xs.mapM f = .ok ys) ↔ ∀ x ∈ xs, ∃ y, f x = .ok y := by
  induction xs with
  | nil => exact iff_of_true ⟨[], rfl⟩ (List.forall_mem_nil _)
  | cons x rest ih =>
    rw [List.forall_mem_cons, ← ih, List.mapM_cons]
    constructor
    · intro h
      obtain ⟨ys, h⟩ := h
      obtain ⟨y, hy, h⟩ := bind_succeeds.mp h
      obtain ⟨ys, hrest, -⟩ := bind_succeeds.mp h
      exact ⟨⟨y, hy⟩, ys, hrest⟩
    · intro h
      obtain ⟨⟨y, hy⟩, ys, hrest⟩ := h
      exact ⟨y :: ys, by rw [hy, ok_chain, hrest]; rfl⟩

/-- A pass over a list stops at the first member for which its step fails. -/
theorem mapM_fails_iff {f : α → Except ε β} {xs : List α} {why : ε} :
    xs.mapM f = .error why ↔ ∃ before x after, xs = before ++ x :: after ∧
      (∀ b ∈ before, ∃ y, f b = .ok y) ∧ f x = .error why := by
  constructor
  · intro h
    induction xs with
    | nil => exact absurd h (by simp)
    | cons x rest ih =>
      rw [List.mapM_cons] at h
      cases hx : f x with
      | error e =>
        rw [hx] at h
        exact ⟨[], x, rest, rfl, List.forall_mem_nil _, by rw [hx, Except.error.inj h]⟩
      | ok y =>
        -- the step succeeds for the first member, so the pass over the others has failed
        have hrest : rest.mapM f = .error why := by
          rw [hx, ok_chain] at h
          cases hrest : rest.mapM f with
          | error e => rwa [hrest] at h
          | ok ys => exact absurd (hrest ▸ h) (by simp)
        obtain ⟨before, bad, after, rfl, hbefore, hbad⟩ := ih hrest
        exact ⟨x :: before, bad, after, rfl, List.forall_mem_cons.mpr ⟨⟨y, hx⟩, hbefore⟩, hbad⟩
  · intro h
    obtain ⟨before, x, after, rfl, hbefore, hx⟩ := h
    obtain ⟨ys, hys⟩ := exists_mapM_iff.mpr hbefore
    rw [List.mapM_append, List.mapM_cons, hys, hx]
    rfl

/-- Another wording of failures changes no success. -/
@[simp] theorem mapError_succeeds {x : Except ε α} {f : ε → ε'} {a : α} :
    x.mapError f = .ok a ↔ x = .ok a := by
  constructor
  · intro h
    cases x with
    | ok b => exact congrArg Except.ok (Except.ok.inj h)
    | error e => exact absurd h (by simp [Except.mapError])
  · intro h
    rw [h]
    rfl

/-- A misuse is a failure of the operation that it stops. -/
@[simp] theorem lift_misuse {x : Except Misuse α} :
    (liftM x : Except Failure α) = x.mapError .misuse := rfl

@[simp] theorem mapError_ok {f : ε → ε'} (a : α) :
    (Except.ok a : Except ε α).mapError f = .ok a := rfl

end Steps

namespace Report

variable {α β : Type}

/-- A step without a log, lifted into a report. -/
@[simp] theorem result_lift (x : Except Failure α) : (liftM x : Report α).result = x := rfl

/-- A misuse is a failure of the report. -/
@[simp] theorem result_lift_misuse (x : Except Misuse α) :
    (liftM x : Report α).result = x.mapError .misuse := rfl

@[simp] theorem result_fail (e : Failure) : (fail e : Report α).result = .error e := rfl

/-- A report of two steps succeeds exactly when both do. -/
theorem bind_succeeds {x : Report α} {f : α → Report β} {b : β} :
    (x >>= f).result = .ok b ↔ ∃ a, x.result = .ok a ∧ (f a).result = .ok b := by
  rw [result_bind]
  exact ModePolicy.bind_succeeds

end Report

end ModePolicy
