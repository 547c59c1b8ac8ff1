-- Tasks that may raise, run alone; and what a task does, call by call, whatever it is answered.
import Operious.Lib.Awaits

namespace awaits

variable {C : Type} {A : C → Type} {ε α β W : Type}

/-- A task that may raise. -/
abbrev Raising (ε : Type) (C : Type) (A : C → Type) (α : Type) := ExceptT ε (Task C A) α

/-- One call and its answer. -/
def Raising.call (c : C) : Raising ε C A (A c) := ExceptT.mk (Task.call c >>= fun r => pure (.ok r))

/-- A part that awaits nothing. -/
def Raising.compute (r : Except ε α) : Raising ε C A α := ExceptT.mk (Task.done r)

/-! ## Run alone -/

section

variable (perform : (c : C) → W → A c × W)

/-- What a coroutine returns or raises when nothing runs beside it, and the world it leaves. -/
def outcome (x : Raising ε C A α) (w : W) : Except ε α × W := run perform x.run w

@[simp] theorem outcome_pure (a : α) (w : W) :
    outcome perform (pure a : Raising ε C A α) w = (.ok a, w) := rfl

@[simp] theorem outcome_throw (e : ε) (w : W) :
    outcome perform (throw e : Raising ε C A α) w = (.error e, w) := rfl

@[simp] theorem outcome_call (c : C) (w : W) :
    outcome perform (Raising.call c : Raising ε C A (A c)) w =
      (.ok (perform c w).1, (perform c w).2) := rfl

@[simp] theorem outcome_compute (r : Except ε α) (w : W) :
    outcome perform (Raising.compute r : Raising ε C A α) w = (r, w) := rfl

variable {perform} {x : Raising ε C A α} {w w' : W} {a : α} {e : ε}

theorem outcome_bind_ok (h : outcome perform x w = (.ok a, w')) (f : α → Raising ε C A β) :
    outcome perform (x >>= f) w = outcome perform (f a) w' := by
  unfold outcome at h ⊢
  rw [ExceptT.run_bind, run_bind, h]

theorem outcome_bind_error (h : outcome perform x w = (.error e, w'))
    (f : α → Raising ε C A β) : outcome perform (x >>= f) w = (.error e, w') := by
  unfold outcome at h ⊢
  rw [ExceptT.run_bind, run_bind, h]
  rfl

end

/-! ### Preconditions and postconditions -/

variable {f : α → Raising ε C A β} {r : Except ε α}

section

variable (perform : (c : C) → W → A c × W)

/-- From a world where `P` holds, the coroutine ends as `Q` says, whether it returns or raises. -/
def Ends (P : W → Prop) (x : Raising ε C A α) (Q : Except ε α → W → Prop) : Prop :=
  ∀ w, P w → Q (outcome perform x w).1 (outcome perform x w).2

variable {perform} {P P' : W → Prop} {x : Raising ε C A α} {Q Q' : Except ε α → W → Prop}

theorem Ends.pure {a : α} (h : ∀ w, P w → Q (.ok a) w) :
    Ends perform P (pure a : Raising ε C A α) Q := h

theorem Ends.throw {e : ε} (h : ∀ w, P w → Q (.error e) w) :
    Ends perform P (throw e : Raising ε C A α) Q := h

theorem Ends.call (c : C) {Q : Except ε (A c) → W → Prop}
    (h : ∀ w, P w → Q (.ok (perform c w).1) (perform c w).2) :
    Ends perform P (Raising.call c : Raising ε C A (A c)) Q := h

theorem Ends.weaken (h : Ends perform P x Q) (hP : ∀ w, P' w → P w)
    (hQ : ∀ r w, Q r w → Q' r w) : Ends perform P' x Q' :=
  fun w hw => hQ _ _ (h w (hP w hw))

variable {R : Except ε β → W → Prop}

theorem Ends.bind (hx : Ends perform P x Q) (hok : ∀ a, Ends perform (Q (.ok a)) (f a) R)
    (herror : ∀ e w, Q (.error e) w → R (.error e) w) : Ends perform P (x >>= f) R := by
  intro w hw
  have hQ := hx w hw
  rcases h : outcome perform x w with ⟨r, w'⟩
  rw [h] at hQ
  cases r with
  | ok a =>
    rw [outcome_bind_ok h]
    exact hok a w' hQ
  | error e =>
    rw [outcome_bind_error h]
    exact herror e w' hQ

/-- What is computed may be used in what follows. -/
theorem Ends.compute_bind (hok : ∀ a, r = .ok a → Ends perform P (f a) R)
    (herror : ∀ e, r = .error e → ∀ w, P w → R (.error e) w) :
    Ends perform P (Raising.compute r >>= f) R := by
  cases r with
  | ok a => exact hok a rfl
  | error e => exact herror e rfl

end

/-! ## Side by side -/

variable {x : Raising ε C A α}

section

variable {ι Γ : Type} {P : Protocol ι (W × Γ)} {exec : (c : C) → W → A c → W → Prop} {i : ι}
  {Q : Except ε β → W × Γ → Prop} {s : W × Γ}

/-- A coroutine that goes on after a part of it. What the part raises is what it raises. -/
theorem Sat.raising_bind (hs : P.inv s)
    (h : Sat P exec i x.run (fun r t => match r with
      | .ok a => Sat P exec i (f a).run Q t
      | .error e => ∀ u, P.Rely i t u → Q (.error e) u) s) : Sat P exec i (x >>= f).run Q s := by
  rw [ExceptT.run_bind]
  refine Sat.bind hs (Sat.weaken h fun r t _ hr => ?_)
  cases r with
  | ok a => exact hr
  | error e => exact hr

/-- A coroutine that goes on with the answer of a call. -/
theorem Sat.raising_call {c : C} {f : A c → Raising ε C A β}
    (h : ∀ t, P.Rely i s t → ∀ r w, exec c t.1 r w →
      ∃ g, P.Allows i t (w, g) ∧ Sat P exec i (f r).run Q (w, g)) :
    Sat P exec i (Raising.call c >>= f).run Q s := h

end

/-! ## Call by call -/

section

variable {S : Type}

/-- From the state `s` on, the task makes only calls that `may` allows. Its state follows the
answers, of which it is promised what `fits` says, and what it returns is as `Q` says. -/
def Does (may : S → C → Prop) (fits : S → (c : C) → A c → Prop) (moved : S → (c : C) → A c → S)
    (Q : α → S → Prop) : Task C A α → S → Prop
  | .done a, s => Q a s
  | .await c k, s => may s c ∧ ∀ r, fits s c r → Does may fits moved Q (k r) (moved s c r)

variable {may : S → C → Prop} {fits : S → (c : C) → A c → Prop} {moved : S → (c : C) → A c → S}
  {Q Q' : α → S → Prop} {s : S}

variable {t : Task C A α}

theorem Does.weaken (h : Does may fits moved Q t s) (hQ : ∀ a s, Q a s → Q' a s) :
    Does may fits moved Q' t s := by
  induction t generalizing s with
  | done a => exact hQ a s h
  | await c k ih => exact ⟨h.1, fun r hr => ih r (h.2 r hr)⟩

variable {R : β → S → Prop}

theorem Does.bind {f : α → Task C A β}
    (h : Does may fits moved (fun a s => Does may fits moved R (f a) s) t s) :
    Does may fits moved R (t >>= f) s := by
  induction t generalizing s with
  | done a => exact h
  | await c k ih => exact ⟨h.1, fun r hr => ih r (h.2 r hr)⟩

/-- What a coroutine does, with `Q` for what it returns. It may raise at any time. -/
def Makes (may : S → C → Prop) (fits : S → (c : C) → A c → Prop) (moved : S → (c : C) → A c → S)
    (Q : α → S → Prop) (x : Raising ε C A α) (s : S) : Prop :=
  Does may fits moved (fun r s => ∀ a, r = .ok a → Q a s) x.run s

theorem makes_iff : Makes may fits moved Q x s ↔
    Does may fits moved (fun r s => ∀ a, r = .ok a → Q a s) x.run s := Iff.rfl

theorem Makes.pure {a : α} (h : Q a s) : Makes may fits moved Q (pure a : Raising ε C A α) s := by
  intro b hb
  cases hb
  exact h

theorem Makes.throw {e : ε} : Makes may fits moved Q (throw e : Raising ε C A α) s := by
  intro b hb
  cases hb

theorem Makes.call (c : C) {Q : A c → S → Prop} (h : may s c)
    (hQ : ∀ r, fits s c r → Q r (moved s c r)) :
    Makes may fits moved Q (Raising.call c : Raising ε C A (A c)) s := by
  refine ⟨h, fun r hr a ha => ?_⟩
  cases ha
  exact hQ r hr

theorem Makes.compute (h : ∀ a, r = .ok a → Q a s) :
    Makes may fits moved Q (Raising.compute r : Raising ε C A α) s := h

theorem Makes.weaken (h : Makes may fits moved Q x s) (hQ : ∀ a s, Q a s → Q' a s) :
    Makes may fits moved Q' x s :=
  Does.weaken h fun _ s hr a ha => hQ a s (hr a ha)

theorem Makes.bind (h : Makes may fits moved (fun a s => Makes may fits moved R (f a) s) x s) :
    Makes may fits moved R (x >>= f) s := by
  unfold Makes
  rw [ExceptT.run_bind]
  apply Does.bind
  refine Does.weaken h fun r s hr => ?_
  cases r with
  | error e =>
    intro b hb
    cases hb
  | ok a => exact hr a rfl

attribute [irreducible] Makes

end

end awaits
