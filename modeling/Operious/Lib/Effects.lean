-- Computations that change a state and may fail, where a failure keeps the changes made before
-- it. A relation that every step keeps is kept by the whole, whether it returns or fails.
import Mathlib.Order.Defs.Unbundled

namespace effects

variable {ε σ α β : Type}

/-- A computation on the states `σ` that may fail with `ε`. -/
abbrev Effect (ε σ : Type) := ExceptT ε (StateM σ)

/-- The outcome of a computation: what it returns or fails with, and the state it leaves. -/
def run (x : Effect ε σ α) (s : σ) : Except ε α × σ := StateT.run (ExceptT.run x) s

/-- A part that only computes, and may fail. -/
def lift (r : Except ε α) : Effect ε σ α := ExceptT.mk (pure r)

@[simp] theorem run_pure (a : α) (s : σ) : run (pure a : Effect ε σ α) s = (.ok a, s) := rfl

@[simp] theorem run_throw (e : ε) (s : σ) : run (throw e : Effect ε σ α) s = (.error e, s) := rfl

@[simp] theorem run_lift (r : Except ε α) (s : σ) : run (lift r : Effect ε σ α) s = (r, s) := rfl

variable {s t : σ} {r : Except ε α}

theorem run_lift_eq_ok {a : α} :
    run (lift r : Effect ε σ α) s = (.ok a, t) ↔ r = .ok a ∧ s = t := by
  rw [run_lift, Prod.mk.injEq]

@[simp] theorem run_get (s : σ) : run (get : Effect ε σ σ) s = (.ok s, s) := rfl

@[simp] theorem run_set (t s : σ) : run (set t : Effect ε σ PUnit) s = (.ok ⟨⟩, t) := rfl

@[simp] theorem run_modify (f : σ → σ) (s : σ) :
    run (modify f : Effect ε σ PUnit) s = (.ok ⟨⟩, f s) := rfl

theorem run_bind (x : Effect ε σ α) (f : α → Effect ε σ β) (s : σ) :
    run (x >>= f) s =
      match run x s with
      | (.ok a, t) => run (f a) t
      | (.error e, t) => (.error e, t) := by
  simp only [run, ExceptT.run_bind, StateT.run_bind]
  rcases StateT.run (ExceptT.run x) s with ⟨r, t⟩
  cases r <;> rfl

variable {f : α → Effect ε σ β} {x : Effect ε σ α}

/-- The first part returned. -/
theorem run_bind_ok {a : α} (h : run x s = (.ok a, t)) : run (x >>= f) s = run (f a) t := by
  rw [run_bind, h]

/-- The first part failed. -/
theorem run_bind_error {e : ε} (h : run x s = (.error e, t)) : run (x >>= f) s = (.error e, t) := by
  rw [run_bind, h]

theorem run_throw_ne {e : ε} {a : α} : run (throw e : Effect ε σ α) s ≠ (.ok a, t) := by
  rw [run_throw]
  exact fun h => nomatch h

/-- Two parts in a row return exactly when the first one does and then the second. -/
theorem run_bind_eq_ok {s u : σ} {b : β} :
    run (x >>= f) s = (.ok b, u) ↔
      ∃ a t, run x s = (.ok a, t) ∧ run (f a) t = (.ok b, u) := by
  rw [run_bind]
  rcases run x s with ⟨r, t⟩
  cases r with
  | error e => simp
  | ok a =>
    constructor
    · exact fun h => ⟨a, t, rfl, h⟩
    · rintro ⟨_, _, heq, h⟩
      cases heq
      exact h

/-- What follows leaves the state, so the whole leaves the state that the first part leaves. -/
theorem run_bind_state (h : ∀ a t, (run (f a) t).2 = t) (s : σ) :
    (run (x >>= f) s).2 = (run x s).2 := by
  rw [run_bind]
  rcases run x s with ⟨r, t⟩
  cases r with
  | error e => rfl
  | ok a => exact h a t

/-- A computation whose result is dropped leaves the state that it leaves. -/
theorem run_discard (x : Effect ε σ α) (b : β) (s : σ) :
    (run (x >>= fun _ => pure b) s).2 = (run x s).2 := run_bind_state (fun _ _ => rfl) s

/-! ## What every step keeps -/

/-- The computation takes each state to one that `R` relates to it, also where it fails. -/
def Keeps (R : σ → σ → Prop) (x : Effect ε σ α) : Prop := ∀ s, R s (run x s).2

/-- The state that a run leaves is one that the first is related to. -/
theorem Keeps.of_run {R : σ → σ → Prop} (hx : Keeps R x) (h : run x s = (r, t)) : R s t := by
  have hkeeps := hx s
  rwa [h] at hkeeps

section

variable {R : σ → σ → Prop} [IsPreorder σ R]

theorem Keeps.pure (a : α) : Keeps R (pure a : Effect ε σ α) := fun s => refl_of R s

theorem Keeps.throw (e : ε) : Keeps R (throw e : Effect ε σ α) := fun s => refl_of R s

theorem Keeps.lift (r : Except ε α) : Keeps R (lift r : Effect ε σ α) := fun s => refl_of R s

theorem Keeps.get : Keeps R (get : Effect ε σ σ) := fun s => refl_of R s

omit [IsPreorder σ R] in
theorem Keeps.modify {f : σ → σ} (h : ∀ s, R s (f s)) : Keeps R (modify f : Effect ε σ PUnit) := h

/-- What is computed first may be used in what follows. -/
theorem Keeps.lift_bind (h : ∀ a, r = .ok a → Keeps R (f a)) : Keeps R (effects.lift r >>= f) := by
  intro s
  rw [run_bind, run_lift]
  cases r with
  | error e => exact refl_of R s
  | ok a => exact h a rfl s

omit [IsPreorder σ R] in
/-- What is read first may be used in what follows. -/
theorem Keeps.get_bind {f : σ → Effect ε σ α} (h : ∀ s, R s (run (f s) s).2) :
    Keeps R ((MonadState.get : Effect ε σ σ) >>= f) := by
  intro s
  rw [run_bind, run_get]
  exact h s

theorem Keeps.bind (hx : Keeps R x) (hf : ∀ a, Keeps R (f a)) : Keeps R (x >>= f) := by
  intro s
  have hxs := hx s
  rw [run_bind]
  rcases h : run x s with ⟨r, t⟩
  rw [h] at hxs
  cases r with
  | error e => exact hxs
  | ok a => exact trans_of R hxs (hf a t)

omit [IsPreorder σ R] in
theorem Keeps.ite {c : Prop} [Decidable c] {x y : Effect ε σ α} (hx : Keeps R x)
    (hy : Keeps R y) : Keeps R (if c then x else y) := by
  split
  · exact hx
  · exact hy

end

end effects
