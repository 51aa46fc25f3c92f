import Mathlib.Data.List.Induction

/-!
# `InfixCalc.Proofs.Fold`: runs that may stop

The conversion to postfix order and the machine both take in a list of tokens one by one and stop
at the first one that they refuse. Both are a `List.foldlM` into `Except`. The facts about such
runs that do not depend on what a step does are stated here once:

* `foldlM_ok_induction`: what holds of nothing read and the state at the start, and is kept by
  every step that succeeds, holds of the whole list and the state at the end.
* `foldlM_eq_error_iff`: a run fails exactly if its steps succeed on some front part of the list and
  the next step fails.
-/

set_option autoImplicit false

namespace InfixCalc

section
variable {ε α β : Type}

/-- What comes after a result goes on with it. -/
@[simp] theorem except_ok_bind (a : α) (f : α → Except ε β) : (Except.ok a >>= f) = f a :=
  rfl

/-- What comes after an error is not looked at. -/
@[simp] theorem except_error_bind (e : ε) (f : α → Except ε β) :
    ((Except.error e : Except ε α) >>= f) = .error e :=
  rfl

/-- A sequence succeeds exactly if its first part does and its second part does on what the first
gave. -/
theorem except_bind_eq_ok_iff (x : Except ε α) (f : α → Except ε β) (b : β) :
    (x >>= f) = .ok b ↔ ∃ a, x = .ok a ∧ f a = .ok b := by
  cases x <;> simp

end

section
variable {ε σ τ : Type} {step : σ → τ → Except ε σ}

/-- An invariant of a run: it relates the part of the list that has been read to the state. -/
theorem foldlM_ok_induction (holds : List τ → σ → Prop) {start : σ} (init : holds [] start)
    (kept : ∀ read s x s', holds read s → step s x = .ok s' → holds (read ++ [x]) s') :
    ∀ {xs : List τ} {s : σ}, xs.foldlM step start = .ok s → holds xs s := by
  intro xs
  -- From the end: what the invariant says of the front part is what the last step starts from.
  induction xs using List.reverseRecOn with
  | nil =>
      intro s run
      cases run
      exact init
  | append_singleton read x ih =>
      intro s run
      rw [List.foldlM_append, except_bind_eq_ok_iff] at run
      obtain ⟨mid, front, last⟩ := run
      rw [List.foldlM_cons, except_bind_eq_ok_iff] at last
      obtain ⟨s', stepped, rest⟩ := last
      cases rest
      exact kept read mid x s (ih front) stepped

/-- If the front of a list goes through, the fold over the list is the one over its rest. -/
theorem foldlM_append_of_ok {xs ys : List τ} {start mid : σ}
    (front : xs.foldlM step start = .ok mid) :
    (xs ++ ys).foldlM step start = ys.foldlM step mid := by
  rw [List.foldlM_append, front, except_ok_bind]

/-- The last step of a run has the last word. -/
theorem foldlM_concat_of_ok {xs : List τ} {x : τ} {start mid : σ}
    (front : xs.foldlM step start = .ok mid) : (xs ++ [x]).foldlM step start = step mid x := by
  rw [foldlM_append_of_ok front, List.foldlM_cons]
  cases step mid x <;> rfl

/-- A run fails exactly at the first element that its step refuses. -/
theorem foldlM_eq_error_iff {xs : List τ} {start : σ} {e : ε} :
    xs.foldlM step start = .error e ↔
      ∃ before x after mid, xs = before ++ x :: after ∧ before.foldlM step start = .ok mid ∧
        step mid x = .error e := by
  constructor
  · intro run
    induction xs generalizing start with
    | nil => cases run
    | cons x rest ih =>
        rw [List.foldlM_cons] at run
        -- The first element is refused, or it is one of those that went through before the refusal.
        cases first : step start x with
        | error e' =>
            rw [first, except_error_bind] at run
            cases run
            exact ⟨[], x, rest, start, rfl, rfl, first⟩
        | ok s =>
            rw [first, except_ok_bind] at run
            obtain ⟨before, y, after, mid, split, front, refused⟩ := ih run
            refine ⟨x :: before, y, after, mid, by rw [split]; rfl, ?_, refused⟩
            rw [List.foldlM_cons, first, except_ok_bind]
            exact front
  · rintro ⟨before, x, after, mid, rfl, front, refused⟩
    rw [foldlM_append_of_ok front, List.foldlM_cons, refused, except_error_bind]

/-- Steps that differ in how they tell their errors make runs that differ in the same way. -/
theorem foldlM_mapError {ε' : Type} {other : σ → τ → Except ε' σ} {tell : ε → ε'}
    (same : ∀ s x, other s x = (step s x).mapError tell) (xs : List τ) (start : σ) :
    xs.foldlM other start = (xs.foldlM step start).mapError tell := by
  induction xs generalizing start with
  | nil => rfl
  | cons x xs ih =>
      rw [List.foldlM_cons, List.foldlM_cons, same]
      cases step start x with
      | error e => rfl
      | ok s => exact ih s

end

end InfixCalc
