-- Coroutines. A task computes until it awaits a call and goes on with the answer. Tasks run alone, or
-- side by side in a pool, where any one of them may be resumed next: what a task keeps whatever the
-- others do, every interleaving keeps.
import Mathlib.Logic.Function.Basic
import Mathlib.Logic.Relation

namespace awaits

/-- A task that returns an `α`. The call `c` is answered with an `A c`. -/
inductive Task (C : Type) (A : C → Type) (α : Type)
  | done (a : α)
  | await (c : C) (k : A c → Task C A α)

variable {C : Type} {A : C → Type} {α β γ : Type}

namespace Task

def bind : Task C A α → (α → Task C A β) → Task C A β
  | done a, f => f a
  | await c k, f => await c fun r => (k r).bind f

/-- One call and its answer. -/
def call (c : C) : Task C A (A c) := await c done

theorem bind_done (t : Task C A α) : t.bind done = t := by
  induction t with
  | done a => rfl
  | await c k ih => simp only [bind, ih]

theorem bind_assoc (t : Task C A α) (f : α → Task C A β) (g : β → Task C A γ) :
    (t.bind f).bind g = t.bind fun a => (f a).bind g := by
  induction t with
  | done a => rfl
  | await c k ih => simp only [bind, ih]

instance : Monad (Task C A) where
  pure := done
  bind := bind

instance : LawfulMonad (Task C A) :=
  LawfulMonad.mk' (Task C A) bind_done (fun _ _ => rfl) bind_assoc

end Task

/-! ## A task that runs alone -/

section

variable {W : Type} (perform : (c : C) → W → A c × W)

/-- What a task returns and the world it leaves when nothing runs beside it. -/
def run : Task C A α → W → α × W
  | .done a, w => (a, w)
  | .await c k, w => run (k (perform c w).1) (perform c w).2

@[simp] theorem run_done (a : α) (w : W) : run perform (.done a : Task C A α) w = (a, w) := rfl

@[simp] theorem run_pure (a : α) (w : W) : run perform (pure a : Task C A α) w = (a, w) := rfl

@[simp] theorem run_call (c : C) (w : W) : run perform (Task.call c) w = perform c w := rfl

theorem run_bind (t : Task C A α) (f : α → Task C A β) (w : W) :
    run perform (t >>= f) w = run perform (f (run perform t w).1) (run perform t w).2 := by
  induction t generalizing w with
  | done a => rfl
  | await c k ih => exact ih _ _

end

/-! ## A pool of tasks -/

/-- A world that tasks share, and the tasks that were started, each with what is left of it. -/
structure Pool (ι : Type) (C : Type) (A : C → Type) (α W : Type) where
  world : W
  tasks : ι → Option (Task C A α)

namespace Pool

variable {ι W : Type} [DecidableEq ι] {p q : Pool ι C A α W}

/-- The pool before any task. -/
def idle (w : W) : Pool ι C A α W := ⟨w, fun _ => none⟩

/-- No task is in flight. -/
def Quiet (p : Pool ι C A α W) : Prop := ∀ i t, p.tasks i = some t → ∃ a, t = .done a

/-- One step: a task starts, or one that awaits a call is resumed with an answer that the world
allows. A task that is never resumed again has crashed. -/
inductive Step (starts : ι → Task C A α → Prop) (exec : (c : C) → W → A c → W → Prop) :
    Pool ι C A α W → Pool ι C A α W → Prop
  | start {p : Pool ι C A α W} (i : ι) (t : Task C A α) (free : p.tasks i = none)
      (may : starts i t) : Step starts exec p ⟨p.world, Function.update p.tasks i (some t)⟩
  | resume {p : Pool ι C A α W} (i : ι) (c : C) (k : A c → Task C A α) (r : A c) (w : W)
      (waits : p.tasks i = some (.await c k)) (answer : exec c p.world r w) :
      Step starts exec p ⟨w, Function.update p.tasks i (some (k r))⟩

/-- Some interleaving leads from `p` to `q`. -/
abbrev Leads (starts : ι → Task C A α → Prop) (exec : (c : C) → W → A c → W → Prop) :
    Pool ι C A α W → Pool ι C A α W → Prop := Relation.ReflTransGen (Step starts exec)

variable {starts : ι → Task C A α → Prop}

/-- What the world answers leaves at least the interleavings of a world that answers less. -/
theorem Leads.mono {exec exec' : (c : C) → W → A c → W → Prop}
    (hexec : ∀ c w r w', exec c w r w' → exec' c w r w') (h : Leads starts exec p q) :
    Leads starts exec' p q := by
  refine Relation.ReflTransGen.mono (fun a b hstep => ?_) p q h
  cases hstep with
  | start i t free may => exact .start i t free may
  | resume i c k r w waits answer => exact .resume i c k r w waits (hexec c _ r w answer)

variable {perform : (c : C) → W → A c × W}

/-- A task that runs alone is one of the interleavings. -/
theorem leads_run {i : ι} {t : Task C A α} (h : p.tasks i = some t) :
    Leads starts (fun c w r w' => perform c w = (r, w')) p
      ⟨(run perform t p.world).2,
        Function.update p.tasks i (some (.done (run perform t p.world).1))⟩ := by
  induction t generalizing p with
  | done a =>
    have hp : (⟨p.world, Function.update p.tasks i (some (.done a))⟩ : Pool ι C A α W) = p := by
      rw [Function.update_eq_self_iff.mpr h.symm]
    rw [run_done, hp]
  | await c k ih =>
    refine Relation.ReflTransGen.head (Step.resume i c k _ _ h rfl) ?_
    have hrest := ih (perform c p.world).1
      (p := ⟨(perform c p.world).2, Function.update p.tasks i (some (k (perform c p.world).1))⟩)
      (Function.update_self ..)
    rw [Function.update_idem] at hrest
    exact hrest

/-- The pool after a task that ran alone. -/
def alone (perform : (c : C) → W → A c × W) (p : Pool ι C A α W) (i : ι) (t : Task C A α) :
    Pool ι C A α W :=
  ⟨(run perform t p.world).2, Function.update p.tasks i (some (.done (run perform t p.world).1))⟩

theorem leads_alone {i : ι} {t : Task C A α} (free : p.tasks i = none) (may : starts i t) :
    Leads starts (fun c w r w' => perform c w = (r, w')) p (alone perform p i t) := by
  refine Relation.ReflTransGen.head (Step.start i t free may) ?_
  have htask : Function.update p.tasks i (some t) i = some t := Function.update_self ..
  have hrun : Leads starts _ ⟨p.world, Function.update p.tasks i (some t)⟩ _ :=
    @leads_run _ _ _ _ _ _ _ starts perform i t htask
  rw [Function.update_idem] at hrun
  exact hrun

end Pool

/-! ## Rely and guarantee -/

/-- What the tasks of a pool agree on. The states may carry more than the world: what only the
proof keeps. -/
structure Protocol (ι S : Type) where
  /-- Holds between any two steps. -/
  inv : S → Prop
  /-- What every step does. -/
  moves : S → S → Prop
  /-- What the steps of the others leave to a task. -/
  keeps : ι → S → S → Prop
  /-- How a task finds the state before it starts. -/
  fresh : ι → S → Prop
  moves_refl : ∀ x, moves x x
  moves_trans : ∀ {x y z}, moves x y → moves y z → moves x z
  keeps_refl : ∀ i x, keeps i x x
  keeps_trans : ∀ {i x y z}, keeps i x y → keeps i y z → keeps i x z
  fresh_keeps : ∀ {i x y}, fresh i x → keeps i x y → fresh i y

namespace Protocol

variable {ι S : Type} (P : Protocol ι S) {i : ι} {x y z : S}

/-- What the others may have done while a task waits. -/
structure Rely (i : ι) (x y : S) : Prop where
  inv : P.inv y
  moves : P.moves x y
  keeps : P.keeps i x y

/-- What a step of a task has to do. -/
structure Allows (i : ι) (x y : S) : Prop where
  inv : P.inv y
  moves : P.moves x y
  keeps : ∀ j, j ≠ i → P.keeps j x y

theorem Rely.refl (h : P.inv x) : P.Rely i x x := ⟨h, P.moves_refl x, P.keeps_refl i x⟩

variable {P}

theorem Rely.trans (hxy : P.Rely i x y) (hyz : P.Rely i y z) : P.Rely i x z :=
  ⟨hyz.inv, P.moves_trans hxy.moves hyz.moves, P.keeps_trans hxy.keeps hyz.keeps⟩

/-- A step that changes nothing. -/
theorem Allows.refl (h : P.inv x) : P.Allows i x x :=
  ⟨h, P.moves_refl x, fun j _ => P.keeps_refl j x⟩

end Protocol

variable {f : α → Task C A β}

section

variable {ι W Γ : Type} (P : Protocol ι (W × Γ)) (exec : (c : C) → W → A c → W → Prop)

/-- The task keeps to the protocol from the state on, whatever the others do in between, and
returns only what `Q` allows. -/
def Sat (i : ι) : Task C A α → (α → W × Γ → Prop) → W × Γ → Prop
  | .done a, Q, x => ∀ y, P.Rely i x y → Q a y
  | .await c k, Q, x => ∀ y, P.Rely i x y → ∀ r w, exec c y.1 r w →
      ∃ g, P.Allows i y (w, g) ∧ Sat i (k r) Q (w, g)

variable {P exec} {i : ι} {Q Q' : α → W × Γ → Prop} {x y : W × Γ}

theorem Sat.of_rely {t : Task C A α} (h : Sat P exec i t Q x) (hxy : P.Rely i x y) :
    Sat P exec i t Q y := by
  cases t with
  | done a => exact fun z hz => h z (hxy.trans hz)
  | await c k => exact fun z hz => h z (hxy.trans hz)

theorem Sat.weaken {t : Task C A α} (h : Sat P exec i t Q x)
    (hQ : ∀ a y, P.inv y → Q a y → Q' a y) : Sat P exec i t Q' x := by
  induction t generalizing x with
  | done a => exact fun z hz => hQ a z hz.inv (h z hz)
  | await c k ih =>
    intro z hz r w hr
    obtain ⟨g, hall, hk⟩ := h z hz r w hr
    exact ⟨g, hall, ih r hk⟩

/-- What a task returns stays true while the others go on. -/
theorem Sat.closed {t : Task C A α} (h : Sat P exec i t Q x) :
    Sat P exec i t (fun a y => ∀ z, P.Rely i y z → Q a z) x := by
  induction t generalizing x with
  | done a => exact fun y hy z hz => h z (hy.trans hz)
  | await c k ih =>
    intro z hz r w hr
    obtain ⟨g, hall, hk⟩ := h z hz r w hr
    exact ⟨g, hall, ih r hk⟩

/-- From its first state to its last a task, with the others in between, only moves. -/
theorem Sat.with_moves {t : Task C A α} (h : Sat P exec i t Q x) (hyx : P.moves y x) :
    Sat P exec i t (fun a z => P.moves y z ∧ Q a z) x := by
  induction t generalizing x with
  | done a => exact fun z hz => ⟨P.moves_trans hyx hz.moves, h z hz⟩
  | await c k ih =>
    intro z hz r w hr
    obtain ⟨g, hall, hk⟩ := h z hz r w hr
    exact ⟨g, hall, ih r hk (P.moves_trans hyx (P.moves_trans hz.moves hall.moves))⟩

theorem Sat.bind {t : Task C A α} {Q : β → W × Γ → Prop} (hx : P.inv x)
    (h : Sat P exec i t (fun a y => Sat P exec i (f a) Q y) x) : Sat P exec i (t >>= f) Q x := by
  induction t generalizing x with
  | done a => exact h x (Protocol.Rely.refl P hx)
  | await c k ih =>
    intro z hz r w hr
    obtain ⟨g, hall, hk⟩ := h z hz r w hr
    exact ⟨g, hall, ih r hall.inv hk⟩

/-- A call: what the step does, and what is then known, which the others have to leave true. -/
theorem Sat.call {c : C} {Q : A c → W × Γ → Prop}
    (hstable : ∀ r y z, P.Rely i y z → Q r y → Q r z)
    (h : ∀ y, P.Rely i x y → ∀ r w, exec c y.1 r w → ∃ g, P.Allows i y (w, g) ∧ Q r (w, g)) :
    Sat P exec i (Task.call c) Q x := by
  intro y hy r w hr
  obtain ⟨g, hall, hQ⟩ := h y hy r w hr
  exact ⟨g, hall, fun z hz => hstable r _ z hz hQ⟩

end

/-! ## From tasks to interleavings -/

section

variable {ι T : Type} [DecidableEq ι] {f : ι → Option T} {i j : ι} {t u : T}

theorem of_update_eq_none (h : Function.update f i (some t) j = none) : j ≠ i ∧ f j = none := by
  by_cases hij : j = i
  · subst hij
    rw [Function.update_self] at h
    cases h
  · rw [Function.update_of_ne hij] at h
    exact ⟨hij, h⟩

theorem of_update_eq_some (h : Function.update f i (some t) j = some u) :
    (j = i ∧ u = t) ∨ (j ≠ i ∧ f j = some u) := by
  by_cases hij : j = i
  · subst hij
    rw [Function.update_self] at h
    exact Or.inl ⟨rfl, (Option.some.inj h).symm⟩
  · rw [Function.update_of_ne hij] at h
    exact Or.inr ⟨hij, h⟩

end

section

variable {ι W Γ : Type} (P : Protocol ι (W × Γ)) (exec : (c : C) → W → A c → W → Prop)
  (Q : ι → α → W × Γ → Prop)

/-- The invariant of a pool whose tasks keep to the protocol. -/
structure Sound (p : Pool ι C A α W) (g : Γ) : Prop where
  inv : P.inv (p.world, g)
  fresh : ∀ i, p.tasks i = none → P.fresh i (p.world, g)
  tasks : ∀ i t, p.tasks i = some t → Sat P exec i t (Q i) (p.world, g)

variable {P exec Q} {p q : Pool ι C A α W} {starts : ι → Task C A α → Prop}

variable {g : Γ}

theorem Sound.idle {w : W} (hinv : P.inv (w, g)) (hfresh : ∀ i, P.fresh i (w, g)) :
    Sound P exec Q (Pool.idle w) g :=
  ⟨hinv, fun i _ => hfresh i, fun i t h => by cases h⟩

/-- In a quiet pool each task has returned what it may return. -/
theorem Sound.quiet (h : Sound P exec Q p g) (hq : p.Quiet) {i : ι} {t : Task C A α}
    (ht : p.tasks i = some t) : ∃ a, Q i a (p.world, g) := by
  obtain ⟨a, rfl⟩ := hq i t ht
  exact ⟨a, h.tasks i _ ht _ (Protocol.Rely.refl P h.inv)⟩

variable [DecidableEq ι]

theorem Sound.step (h : Sound P exec Q p g)
    (hstart : ∀ i t x, starts i t → P.inv x → P.fresh i x → Sat P exec i t (Q i) x)
    (hpq : Pool.Step starts exec p q) :
    ∃ g', P.moves (p.world, g) (q.world, g') ∧ Sound P exec Q q g' := by
  cases hpq with
  | start i t free may =>
    refine ⟨g, P.moves_refl _, h.inv, fun j hj => ?_, fun j u hj => ?_⟩
    · obtain ⟨-, hj⟩ := of_update_eq_none hj
      exact h.fresh j hj
    · rcases of_update_eq_some hj with ⟨rfl, rfl⟩ | ⟨-, hj⟩
      · exact hstart j u _ may h.inv (h.fresh j free)
      · exact h.tasks j u hj
  | resume i c k r w waits answer =>
    obtain ⟨g', hall, hk⟩ := h.tasks i _ waits _ (Protocol.Rely.refl P h.inv) r w answer
    refine ⟨g', hall.moves, hall.inv, fun j hj => ?_, fun j u hj => ?_⟩
    · obtain ⟨hij, hj⟩ := of_update_eq_none hj
      exact P.fresh_keeps (h.fresh j hj) (hall.keeps j hij)
    · rcases of_update_eq_some hj with ⟨rfl, rfl⟩ | ⟨hij, hj⟩
      · exact hk
      · exact (h.tasks j u hj).of_rely ⟨hall.inv, hall.moves, hall.keeps j hij⟩

theorem Sound.leads (h : Sound P exec Q p g)
    (hstart : ∀ i t x, starts i t → P.inv x → P.fresh i x → Sat P exec i t (Q i) x)
    (hpq : Pool.Leads starts exec p q) :
    ∃ g', P.moves (p.world, g) (q.world, g') ∧ Sound P exec Q q g' := by
  induction hpq with
  | refl => exact ⟨g, P.moves_refl _, h⟩
  | tail _ hstep ih =>
    obtain ⟨g', hmoves, hsound⟩ := ih
    obtain ⟨g'', hmoves', hsound'⟩ := hsound.step hstart hstep
    exact ⟨g'', P.moves_trans hmoves hmoves', hsound'⟩

end

/-! ## What a task calls -/

/-- Every call that a task makes, whatever it is answered, is one of these. -/
def Task.Only (P : C → Prop) : Task C A α → Prop
  | .done _ => True
  | .await c k => P c ∧ ∀ r, (k r).Only P

variable {P : C → Prop}

theorem Task.Only.bind {t : Task C A α} (h : t.Only P) (hf : ∀ a, (f a).Only P) :
    (t >>= f).Only P := by
  induction t with
  | done a => exact hf a
  | await c k ih => exact ⟨h.1, fun r => ih r (h.2 r)⟩

/-- What every call of the tasks leaves true holds after every interleaving of them. -/
theorem Pool.Leads.invariant {ι W : Type} [DecidableEq ι] {starts : ι → Task C A α → Prop}
    {exec : (c : C) → W → A c → W → Prop} {I : W → Prop} {p q : Pool ι C A α W}
    (honly : ∀ i t, starts i t → t.Only P) (hstep : ∀ c w r w', P c → exec c w r w' → I w → I w')
    (hp : I p.world) (htasks : ∀ i t, p.tasks i = some t → t.Only P)
    (h : Pool.Leads starts exec p q) : I q.world ∧ ∀ i t, q.tasks i = some t → t.Only P := by
  induction h with
  | refl => exact ⟨hp, htasks⟩
  | tail _ hmove ih =>
    obtain ⟨hworld, htasks⟩ := ih
    cases hmove with
    | start i t free may =>
      refine ⟨hworld, fun j u hj => ?_⟩
      rcases of_update_eq_some hj with ⟨-, rfl⟩ | ⟨-, hj⟩
      · exact honly i u may
      · exact htasks j u hj
    | resume i c k r w waits answer =>
      have hcalls := htasks i _ waits
      refine ⟨hstep c _ r w hcalls.1 answer hworld, fun j u hj => ?_⟩
      rcases of_update_eq_some hj with ⟨-, rfl⟩ | ⟨-, hj⟩
      · exact hcalls.2 r
      · exact htasks j u hj

/-- What each call of a task leaves true holds after the task has run alone. -/
theorem Task.Only.run {W : Type} {perform : (c : C) → W → A c × W} {P : C → Prop} {I : W → Prop}
    (hstep : ∀ c w, P c → I w → I (perform c w).2) {t : Task C A α} (h : t.Only P) {w : W}
    (hw : I w) : I (run perform t w).2 := by
  induction t generalizing w with
  | done a => exact hw
  | await c k ih => exact ih _ (h.2 _) (hstep c w h.1 hw)

section

variable {ε : Type} {P : C → Prop}

variable (P) in
/-- Every call of a task that may raise is one of these. -/
def Calls (x : ExceptT ε (Task C A) α) : Prop := Task.Only P x.run

@[simp] theorem calls_pure (a : α) : Calls P (pure a : ExceptT ε (Task C A) α) := trivial

@[simp] theorem calls_throw (e : ε) : Calls P (throw e : ExceptT ε (Task C A) α) := trivial

@[simp] theorem calls_done (r : Except ε α) :
    Calls P (ExceptT.mk (Task.done r) : ExceptT ε (Task C A) α) := trivial

theorem Calls.bind {x : ExceptT ε (Task C A) α} {f : α → ExceptT ε (Task C A) β} (h : Calls P x)
    (hf : ∀ a, Calls P (f a)) : Calls P (x >>= f) := by
  refine Task.Only.bind h fun r => ?_
  cases r with
  | error e => trivial
  | ok a => exact hf a

theorem Calls.tryCatch {x : ExceptT ε (Task C A) α} {handler : ε → ExceptT ε (Task C A) α}
    (h : Calls P x) (hhandler : ∀ e, Calls P (handler e)) : Calls P (tryCatch x handler) := by
  refine Task.Only.bind h fun r => ?_
  cases r with
  | error e => exact hhandler e
  | ok a => trivial

end

end awaits
