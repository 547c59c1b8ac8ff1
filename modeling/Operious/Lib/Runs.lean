-- Runs of a labelled system. A system is a step function that may refuse an action; a run is
-- a list of actions. The rules here carry a fact about one step to every run.
import Mathlib.Data.List.Basic

namespace runs

variable {σ α : Type*} {next : σ → α → Option σ}

/-- The state after the actions of a run, or none when one of them is refused. -/
def after (next : σ → α → Option σ) : σ → List α → Option σ
  | s, [] => some s
  | s, a :: as => (next s a).bind fun t => after next t as

/-- `Q` holds of every step of the run: the state before, the action, the state after. A run
that a refusal cuts short has only the steps before it. -/
def Along (next : σ → α → Option σ) (Q : σ → α → σ → Prop) : σ → List α → Prop
  | _, [] => True
  | s, a :: as => ∀ t, next s a = some t → Q s a t ∧ Along next Q t as

/-- Every action of the run meets `C` in the state where it is taken. -/
def Meets (next : σ → α → Option σ) (C : σ → α → Prop) (s : σ) (as : List α) : Prop :=
  Along next (fun t a _ => C t a) s as

/-- Some run leads from `s` to `t`. -/
def Reaches (next : σ → α → Option σ) (s t : σ) : Prop := ∃ as, after next s as = some t

@[simp] theorem after_nil (s : σ) : after next s [] = some s := rfl

theorem after_cons (s : σ) (a : α) (as : List α) :
    after next s (a :: as) = (next s a).bind fun t => after next t as := rfl

theorem after_append (s : σ) (as bs : List α) :
    after next s (as ++ bs) = (after next s as).bind fun t => after next t bs := by
  induction as generalizing s with
  | nil => rfl
  | cons a as ih =>
    simp only [List.cons_append, after_cons]
    cases next s a with
    | none => rfl
    | some t => exact ih t

theorem after_concat (s : σ) (as : List α) (a : α) :
    after next s (as ++ [a]) = (after next s as).bind fun t => next t a := by
  rw [after_append]
  congr 1
  funext t
  rw [after_cons]
  cases next t a <;> rfl

theorem Reaches.refl (s : σ) : Reaches next s s := ⟨[], rfl⟩

/-- A run can be checked for a condition that each step can be checked for. -/
def decidableAlong {Q : σ → α → σ → Prop} [∀ s a t, Decidable (Q s a t)] :
    (s : σ) → (as : List α) → Decidable (Along next Q s as)
  | _, [] => isTrue trivial
  | s, a :: as =>
    match h : next s a with
    | none => isTrue fun t ht => by rw [h] at ht; cases ht
    | some t =>
      haveI := decidableAlong (Q := Q) t as
      decidable_of_iff (Q s a t ∧ Along next Q t as)
        ⟨fun hq u hu => by rw [h] at hu; cases hu; exact hq, fun hall => hall t h⟩

instance {C : σ → α → Prop} [∀ s a, Decidable (C s a)] (s : σ) (as : List α) :
    Decidable (Meets next C s as) := decidableAlong s as

instance {Q : σ → α → σ → Prop} [∀ s a t, Decidable (Q s a t)] (s : σ) (as : List α) :
    Decidable (Along next Q s as) := decidableAlong s as

/-! ## From one step to a run -/

variable {C : σ → α → Prop} {I : σ → Prop} {as : List α} {s : σ}

/-- The invariant rule, for the runs whose actions meet `C`. -/
theorem invariant_when (hstep : ∀ t a u, I t → C t a → next t a = some u → I u) {u : σ} (hI : I s)
    (hC : Meets next C s as) (h : after next s as = some u) : I u := by
  induction as generalizing s with
  | nil => cases h; exact hI
  | cons a as ih =>
    rw [after_cons] at h
    obtain ⟨t, ht, hu⟩ := Option.bind_eq_some_iff.mp h
    obtain ⟨hCa, hrest⟩ := hC t ht
    exact ih (hstep s a t hI hCa ht) hrest hu

/-- The invariant rule, for every run. -/
theorem invariant (hstep : ∀ t a u, I t → next t a = some u → I u) {s u : σ} (hI : I s)
    (h : Reaches next s u) : I u := by
  obtain ⟨as, has⟩ := h
  induction as generalizing s with
  | nil => cases has; exact hI
  | cons a as ih =>
    rw [after_cons] at has
    obtain ⟨t, ht, hu⟩ := Option.bind_eq_some_iff.mp has
    exact ih (hstep s a t hI ht) hu

variable {Q : σ → α → σ → Prop}

/-- What one step does from every state of an invariant, it does along every run whose actions
meet `C`. -/
theorem along_when (hstep : ∀ t a u, I t → C t a → next t a = some u → I u ∧ Q t a u) (hI : I s)
    (hC : Meets next C s as) : Along next Q s as := by
  induction as generalizing s with
  | nil => trivial
  | cons a as ih =>
    intro t ht
    obtain ⟨hCa, hrest⟩ := hC t ht
    obtain ⟨hIt, hQ⟩ := hstep s a t hI hCa ht
    exact ⟨hQ, ih hIt hrest⟩

/-- What one step does from every state of an invariant, it does along every run. -/
theorem along (hstep : ∀ t a u, I t → next t a = some u → I u ∧ Q t a u) (hI : I s) (as : List α) :
    Along next Q s as := by
  induction as generalizing s with
  | nil => trivial
  | cons a as ih =>
    intro t ht
    obtain ⟨hIt, hQ⟩ := hstep s a t hI ht
    exact ⟨hQ, ih hIt⟩

/-- What holds of every step of a run holds of its last one. -/
theorem Along.last {s t u : σ} {a : α} (h : Along next Q s (as ++ [a]))
    (ht : after next s as = some t) (hu : next t a = some u) : Q t a u := by
  induction as generalizing s with
  | nil =>
    cases ht
    exact (h u hu).1
  | cons b as ih =>
    rw [after_cons] at ht
    obtain ⟨v, hv, ht⟩ := Option.bind_eq_some_iff.mp ht
    exact ih (h v hv).2 ht

/-- A condition on the actions alone joins one on the states. -/
theorem Meets.and_all {P : α → Prop} (hC : Meets next C s as) (hP : ∀ a ∈ as, P a) :
    Meets next (fun t a => C t a ∧ P a) s as := by
  induction as generalizing s with
  | nil => trivial
  | cons a as ih =>
    intro t ht
    obtain ⟨hCa, hrest⟩ := hC t ht
    exact ⟨⟨hCa, hP a List.mem_cons_self⟩, ih hrest fun b hb => hP b (List.mem_cons_of_mem _ hb)⟩

/-- When a step of the kind `P` keeps the invariant and `Q` exactly if its action meets `C`, the runs
of such steps along which `Q` holds are those whose actions meet `C`. -/
theorem along_iff_meets_of_forall {P : α → Prop}
    (hkeep : ∀ t a u, I t → P a → C t a → next t a = some u → I u)
    (hiff : ∀ t a u, I t → P a → next t a = some u → (Q t a u ↔ C t a)) (hI : I s)
    (hP : ∀ a ∈ as, P a) : Along next Q s as ↔ Meets next C s as := by
  induction as generalizing s with
  | nil => exact ⟨fun _ => trivial, fun _ => trivial⟩
  | cons a as ih =>
    have ha : P a := hP a List.mem_cons_self
    have hrest : ∀ t, I t → (Along next Q t as ↔ Meets next C t as) :=
      fun t ht => ih ht fun b hb => hP b (List.mem_cons_of_mem _ hb)
    constructor
    · intro hQ t ht
      obtain ⟨hQa, hQrest⟩ := hQ t ht
      have hCa : C s a := (hiff s a t hI ha ht).mp hQa
      exact ⟨hCa, (hrest t (hkeep s a t hI ha hCa ht)).mp hQrest⟩
    · intro hC t ht
      obtain ⟨hCa, hCrest⟩ := hC t ht
      exact ⟨(hiff s a t hI ha ht).mpr hCa, (hrest t (hkeep s a t hI ha hCa ht)).mpr hCrest⟩

/-- When a step keeps the invariant and `Q` exactly if its action meets `C`, the runs along
which `Q` holds are the runs whose actions meet `C`. -/
theorem along_iff_meets (hkeep : ∀ t a u, I t → C t a → next t a = some u → I u)
    (hiff : ∀ t a u, I t → next t a = some u → (Q t a u ↔ C t a)) (hI : I s) :
    Along next Q s as ↔ Meets next C s as :=
  along_iff_meets_of_forall (fun t a u ht (_ : True) => hkeep t a u ht)
    (fun t a u ht _ => hiff t a u ht) hI fun _ _ => trivial

end runs
