-- Runs of the methods of one circuit. The circuit wedges exactly where the last request in flight is the
-- trial of a half open circuit and ends without an outcome that releases it.
import Operious.Lib.Runs
import Operious.Runtime.ProviderCircuitBreaker

namespace operious.provider_circuit

open awaits runs ProviderCircuitBreaker

variable {Uuid : Type} {tenant_id provider_name : String} {now : Instant}

/-! ## The trial of a row -/

/-- A trial was admitted and nothing has released it. -/
def Held (s : ProviderCircuitSnapshot Uuid) : Prop :=
  s.state = .halfOpen ∧ s.half_open_trial_started_at ≠ none

def Timed (s : ProviderCircuitSnapshot Uuid) : Prop := s.state = .opened → s.open_until ≠ none

def Settled (s : ProviderCircuitSnapshot Uuid) : Prop :=
  s.state = .closed ∨ s.state = .opened ∧ s.open_until ≠ none

/-- What admission looks at is as it was. -/
structure SameTrial (s s' : ProviderCircuitSnapshot Uuid) : Prop where
  state : s'.state = s.state
  open_until : s'.open_until = s.open_until
  trial : s'.half_open_trial_started_at = s.half_open_trial_started_at

/-- The circuit admits a request at that time. -/
def Admissible (s : ProviderCircuitSnapshot Uuid) (now : Instant) : Prop :=
  s.state = .closed ∨ (s.state = .opened ∧ s.open_until.any (· ≤ now) = true) ∨
    s.state = .halfOpen ∧ s.half_open_trial_started_at = none

theorem SameTrial.refl (s : ProviderCircuitSnapshot Uuid) : SameTrial s s := ⟨rfl, rfl, rfl⟩

variable {s : ProviderCircuitSnapshot Uuid}

variable {s' : ProviderCircuitSnapshot Uuid}

theorem SameTrial.trans {s'' : ProviderCircuitSnapshot Uuid} (h : SameTrial s s')
    (h' : SameTrial s' s'') : SameTrial s s'' :=
  ⟨h'.state.trans h.state, h'.open_until.trans h.open_until, h'.trial.trans h.trial⟩

theorem SameTrial.held (h : SameTrial s s') : Held s' ↔ Held s := by
  unfold Held
  rw [h.state, h.trial]

theorem SameTrial.timed (h : SameTrial s s') (hs : Timed s) : Timed s' := by
  unfold Timed
  rw [h.state, h.open_until]
  exact hs

theorem Settled.not_held (h : Settled s) : ¬ Held s := by
  rintro ⟨hhalf, -⟩
  rcases h with h | ⟨h, -⟩
  · rw [h] at hhalf
    cases hhalf
  · rw [h] at hhalf
    cases hhalf

theorem Settled.timed (h : Settled s) : Timed s := by
  intro hopen
  rcases h with h | ⟨-, h⟩
  · rw [h] at hopen
    cases hopen
  · exact h

theorem admissible_later (htimed : Timed s) (hs : ¬ Held s) (t : Instant) :
    ∃ now, t ≤ now ∧ Admissible s now := by
  cases hstate : s.state with
  | closed => exact ⟨t, le_refl _, Or.inl hstate⟩
  | opened =>
    obtain ⟨until_, huntil⟩ := Option.ne_none_iff_exists'.mp (htimed hstate)
    refine ⟨max t until_, le_max_left _ _, Or.inr (Or.inl ⟨hstate, ?_⟩)⟩
    rw [huntil]
    simp
  | halfOpen =>
    refine ⟨t, le_refl _, Or.inr (Or.inr ⟨hstate, ?_⟩)⟩
    by_contra hne
    exact hs ⟨hstate, hne⟩

theorem not_admissible_of_held (h : Held s) (now : Instant) : ¬ Admissible s now := by
  obtain ⟨hhalf, htrial⟩ := h
  rintro (hs | ⟨hs, -⟩ | ⟨-, hs⟩)
  · rw [hhalf] at hs
    cases hs
  · rw [hhalf] at hs
    cases hs
  · exact htrial hs

/-! ## What the methods do to it -/

section

variable [Stdlib Uuid] {self : ProviderCircuitBreaker} {s : ProviderCircuitSnapshot Uuid}

theorem record_success_turns (hkey : validate_key tenant_id provider_name = .ok ()) :
    Turns tenant_id provider_name now s (record_success tenant_id provider_name now)
      fun _ s' => Settled s' := by
  unfold record_success
  refine Turns.get_state hkey fun ht hp => Turns.transition ht hp ?_
  intro s' _ _ hstate _ _
  exact Or.inl hstate

theorem open_circuit_ok_turns (hkey : validate_key tenant_id provider_name = .ok ())
    (reason : String) (until_ : Instant) (metadata : Metadata) :
    Turns tenant_id provider_name now s
      (self.open_circuit tenant_id provider_name now reason (some until_) metadata)
      fun r s' => r.isOk = true ∧ Settled s' := by
  unfold open_circuit
  refine Turns.get_state hkey fun ht hp => Turns.compute_bind ?_ ?_
  · rintro u -
    refine Turns.transition ht hp fun s' _ _ hstate huntil _ => ⟨rfl, Or.inr ⟨hstate, ?_⟩⟩
    rw [huntil]
    simp
  · intro e he
    cases he

theorem open_circuit_turns (hkey : validate_key tenant_id provider_name = .ok ())
    (reason : String) (until_ : Instant) (metadata : Metadata) :
    Turns tenant_id provider_name now s
      (self.open_circuit tenant_id provider_name now reason (some until_) metadata)
      fun _ s' => Settled s' :=
  Turns.weaken (open_circuit_ok_turns hkey reason until_ metadata) fun _ _ h => h.2

theorem record_failure_turns (hkey : validate_key tenant_id provider_name = .ok ())
    (reason : String) (metadata : Metadata) :
    Turns tenant_id provider_name now s
      (self.record_failure tenant_id provider_name now reason true metadata)
      fun _ s' => if (add_seconds now self.default_open_seconds).isOk then Settled s'
        else (SameTrial s s' ∨ Settled s') ∧ (s.state = .halfOpen → SameTrial s s') := by
  unfold record_failure
  refine Turns.get_state hkey fun ht hp => ?_
  dsimp only
  split
  · refine Turns.compute_bind ?_ ?_
    · intro until_ huntil
      rw [huntil]
      exact open_circuit_turns hkey _ _ _
    · intro e he
      rw [he]
      exact ⟨Or.inl (SameTrial.refl s), fun _ => SameTrial.refl s⟩
  · rename_i hhalf
    refine Turns.transition ht hp fun s' _ _ hstate _ _ => ?_
    have hsettled : Settled s' := Or.inl hstate
    split
    · exact hsettled
    · exact ⟨Or.inr hsettled, fun h => absurd (Or.inl h) hhalf⟩

theorem cool_down_turns (ht : s.tenant_id = tenant_id) (hp : s.provider_name = provider_name) :
    Turns tenant_id provider_name now s (cool_down tenant_id provider_name now s)
      fun r s' => (r = .ok s' ∧ s'.tenant_id = tenant_id ∧ s'.provider_name = provider_name ∧
          ((s' = s ∧ s.state ≠ .opened) ∨ (s.state = .opened ∧ s.open_until.any (· ≤ now) = true ∧
            s'.state = .halfOpen ∧ s'.half_open_trial_started_at = none))) ∨
        (r.isOk = false ∧ s' = s ∧ ¬ Admissible s now) := by
  unfold cool_down
  by_cases hopen : s.state = .opened
  · rw [if_pos hopen]
    by_cases huntil : s.open_until.any (· ≤ now) = true
    · rw [if_pos huntil]
      refine Turns.transition ht hp fun s' ht' hp' hstate _ htrial => ?_
      exact Or.inl ⟨rfl, ht', hp', Or.inr ⟨hopen, huntil, hstate, htrial⟩⟩
    · rw [if_neg huntil]
      refine Turns.throw (Or.inr ⟨rfl, rfl, ?_⟩)
      rintro (h | ⟨-, h⟩ | ⟨h, -⟩)
      · rw [hopen] at h
        cases h
      · exact huntil h
      · rw [hopen] at h
        cases h
  · rw [if_neg hopen]
    exact Turns.pure (Or.inl ⟨rfl, ht, hp, Or.inl ⟨rfl, hopen⟩⟩)

theorem start_trial_turns (ht : s.tenant_id = tenant_id) (hp : s.provider_name = provider_name) :
    Turns tenant_id provider_name now s (start_trial tenant_id provider_name now s)
      fun r s' => (r.isOk = true ∧ ¬ Held s ∧ s'.state = s.state) ∨
        (r.isOk = false ∧ Held s ∧ s' = s) := by
  unfold start_trial
  by_cases hhalf : s.state = .halfOpen
  · rw [if_pos hhalf]
    by_cases htrial : s.half_open_trial_started_at ≠ none
    · rw [if_pos htrial]
      exact Turns.throw (Or.inr ⟨rfl, ⟨hhalf, htrial⟩, rfl⟩)
    · rw [if_neg htrial]
      refine Turns.transition ht hp fun s' _ _ hstate _ _ => ?_
      exact Or.inl ⟨rfl, fun h => htrial h.2, hstate.trans hhalf.symm⟩
  · rw [if_neg hhalf]
    exact Turns.pure (Or.inl ⟨rfl, fun h => hhalf h.1, rfl⟩)

theorem before_request_turns (hkey : validate_key tenant_id provider_name = .ok ()) :
    Turns tenant_id provider_name now s (before_request tenant_id provider_name now)
      fun r s' => (r.isOk = true ∧ Admissible s now ∧ s'.state ≠ .opened) ∨
        (r.isOk = false ∧ ¬ Admissible s now ∧ s' = s) := by
  unfold before_request
  refine Turns.get_state hkey fun ht hp => Turns.bind (cool_down_turns ht hp) ?_ ?_
  · intro a s1 h
    rcases h with ⟨ha, ht1, hp1, hcooled⟩ | ⟨ha, -⟩
    swap
    · cases ha
    cases ha
    refine Turns.weaken (start_trial_turns ht1 hp1) ?_
    intro r s' hr
    rcases hcooled with ⟨rfl, hopen⟩ | ⟨hopen, huntil, hhalf, htrial⟩
    · rcases hr with ⟨hok, hheld, hstate⟩ | ⟨herror, hheld, rfl⟩
      · refine Or.inl ⟨hok, ?_, by rw [hstate]; exact hopen⟩
        cases hs : a.state with
        | closed => exact Or.inl hs
        | opened => exact absurd hs hopen
        | halfOpen =>
          refine Or.inr (Or.inr ⟨hs, ?_⟩)
          by_contra hne
          exact hheld ⟨hs, hne⟩
      · exact Or.inr ⟨herror, not_admissible_of_held hheld now, rfl⟩
    · rcases hr with ⟨hok, -, hstate⟩ | ⟨-, hheld, -⟩
      · exact Or.inl ⟨hok, Or.inr (Or.inl ⟨hopen, huntil⟩), by rw [hstate, hhalf]; simp⟩
      · exact absurd htrial hheld.2
  · intro e s1 h
    rcases h with ⟨he, -⟩ | ⟨-, rfl, hnot⟩
    · cases he
    · exact Or.inr ⟨rfl, hnot, rfl⟩

end

/-! ## Reports -/

/-- What becomes of a request. A crashed caller reports nothing. -/
inductive Outcome
  | success
  | http_status (status_code : Int) (retry_after : Option String)
  | transient_failure (reason : String)
  | crash

variable {o : Outcome}

section

variable [Stdlib Uuid] [MailDates]

def Outcome.record (self : ProviderCircuitBreaker) (tenant_id provider_name : String)
    (now : Instant) : Outcome → Coroutine Uuid Unit
  | success => do let _ ← record_success tenant_id provider_name now
  | http_status status_code retry_after => do
    let _ ← self.record_http_status tenant_id provider_name now status_code retry_after
  | transient_failure reason => do
    let _ ← self.record_transient_failure tenant_id provider_name now reason
  | crash => pure ()

/-- The outcomes whose report releases a trial: a success, and a failure of a status that the breaker
records, at a time that leaves room for the time that the circuit is to stay open. -/
def Releases (self : ProviderCircuitBreaker) (s : ProviderCircuitSnapshot Uuid) (now : Instant) :
    Outcome → Prop
  | .success => True
  | .http_status status_code retry_after =>
    if status_code = 429 then
      (retry_after_deadline Uuid retry_after now self.default_open_seconds).isOk = true
    else (status_code = 503 ∨ status_code = 504 ∨ status_code = 408) ∧
      (add_seconds now self.default_open_seconds).isOk = true
  | .transient_failure _ =>
    (retry_window now s).isOk = true ∧ (add_seconds now self.default_open_seconds).isOk = true
  | .crash => False

variable {self : ProviderCircuitBreaker} {s : ProviderCircuitSnapshot Uuid}

/-- How a report leaves the row: the trial as it was, or settled, and of a held trial it is known
which. -/
structure Reported (breaker : ProviderCircuitBreaker) (s : ProviderCircuitSnapshot Uuid)
    (now : Instant) (o : Outcome) (s' : ProviderCircuitSnapshot Uuid) : Prop where
  ends : SameTrial s s' ∨ Settled s'
  held : Held s →
    (Releases breaker s now o → Settled s') ∧ (¬ Releases breaker s now o → SameTrial s s')

variable {s' : ProviderCircuitSnapshot Uuid}

theorem Reported.held_iff (h : Reported self s now o s') :
    Held s' ↔ Held s ∧ ¬ Releases self s now o := by
  constructor
  · intro hs'
    have hsame : SameTrial s s' := h.ends.resolve_right fun hsettled => hsettled.not_held hs'
    have hs : Held s := hsame.held.mp hs'
    exact ⟨hs, fun hr => ((h.held hs).1 hr).not_held hs'⟩
  · rintro ⟨hs, hr⟩
    exact (((h.held hs).2 hr).held).mpr hs

theorem Reported.timed (h : Reported self s now o s') (hs : Timed s) : Timed s' := by
  rcases h.ends with hsame | hsettled
  · exact hsame.timed hs
  · exact hsettled.timed

theorem Reported.of_settled (h : Settled s') (hreleases : Releases self s now o) :
    Reported self s now o s' :=
  ⟨Or.inr h, fun _ => ⟨fun _ => h, fun hnot => absurd hreleases hnot⟩⟩

theorem Reported.of_same (h : SameTrial s s') (hnot : ¬ Releases self s now o) :
    Reported self s now o s' :=
  ⟨Or.inl h, fun _ => ⟨fun hreleases => absurd hreleases hnot, fun _ => h⟩⟩

theorem Reported.of_failure
    (hreleases : Releases self s now o ↔ (add_seconds now self.default_open_seconds).isOk = true)
    (h : if (add_seconds now self.default_open_seconds).isOk then Settled s'
      else (SameTrial s s' ∨ Settled s') ∧ (s.state = .halfOpen → SameTrial s s')) :
    Reported self s now o s' := by
  by_cases hok : (add_seconds now self.default_open_seconds).isOk = true
  · rw [if_pos hok] at h
    exact Reported.of_settled h (hreleases.mpr hok)
  · rw [if_neg hok] at h
    refine ⟨h.1, fun hheld => ⟨fun hr => absurd (hreleases.mp hr) hok, fun _ => h.2 hheld.1⟩⟩

variable {retry_after : Option String}

theorem releases_429_iff :
    Releases self s now (.http_status 429 retry_after) ↔
      (retry_after_deadline Uuid retry_after now self.default_open_seconds).isOk = true := by
  simp [Releases]

theorem releases_status_iff {status_code : Int} (h : status_code ≠ 429) :
    Releases self s now (.http_status status_code retry_after) ↔
      (status_code = 503 ∨ status_code = 504 ∨ status_code = 408) ∧
        (add_seconds now self.default_open_seconds).isOk = true := by
  simp [Releases, h]

theorem record_http_status_turns (hkey : validate_key tenant_id provider_name = .ok ())
    (status_code : Int) (retry_after : Option String) :
    Turns tenant_id provider_name now s
      (self.record_http_status tenant_id provider_name now status_code retry_after)
      fun _ s' => Reported self s now (.http_status status_code retry_after) s' := by
  unfold record_http_status
  by_cases h429 : status_code = 429
  · rw [if_pos h429]
    subst h429
    refine Turns.compute_bind ?_ ?_
    · intro until_ huntil
      refine Turns.weaken (open_circuit_turns hkey _ until_ _) fun _ s' hs' => ?_
      exact Reported.of_settled hs' (releases_429_iff.mpr (by rw [huntil]; rfl))
    · intro e he
      refine Reported.of_same (SameTrial.refl s) ?_
      rw [releases_429_iff, he]
      simp [Except.isOk, Except.toBool]
  rw [if_neg h429]
  by_cases h503 : status_code = 503 ∨ status_code = 504
  · rw [if_pos h503]
    refine Turns.weaken (record_failure_turns hkey _ _) fun _ s' hs' => ?_
    refine Reported.of_failure ?_ hs'
    rw [releases_status_iff h429]
    constructor
    · exact fun h => h.2
    · exact fun h => ⟨by omega, h⟩
  rw [if_neg h503]
  by_cases h408 : status_code = 408
  · rw [if_pos h408]
    refine Turns.weaken (record_failure_turns hkey _ _) fun _ s' hs' => ?_
    refine Reported.of_failure ?_ hs'
    rw [releases_status_iff h429]
    constructor
    · exact fun h => h.2
    · exact fun h => ⟨by omega, h⟩
  rw [if_neg h408]
  refine Turns.weaken (Turns.get_state' hkey) ?_
  rintro r s' ⟨-, rfl⟩
  refine Reported.of_same (SameTrial.refl _) ?_
  rw [releases_status_iff h429]
  rintro ⟨h, -⟩
  omega

omit [MailDates] in
theorem consume_retry_budget_turns (hkey : validate_key tenant_id provider_name = .ok ()) :
    Turns tenant_id provider_name now s
      (self.consume_retry_budget tenant_id provider_name now)
      fun r s' => (r.isOk = true ∧ (retry_window now s).isOk = true ∧ (SameTrial s s' ∨
          Settled s' ∧ (add_seconds now self.default_open_seconds).isOk = true)) ∨
        (r.isOk = false ∧ SameTrial s s' ∧ ¬ ((retry_window now s).isOk = true ∧
          (add_seconds now self.default_open_seconds).isOk = true)) := by
  unfold consume_retry_budget
  refine Turns.get_state hkey fun ht hp => Turns.compute_bind ?_ ?_
  swap
  · intro e he
    refine Or.inr ⟨rfl, SameTrial.refl s, ?_⟩
    rw [he]
    rintro ⟨h, -⟩
    cases h
  rintro ⟨window_start, retries⟩ hwindow
  have hwindow' : (retry_window now s).isOk = true := by
    rw [hwindow]
    rfl
  dsimp only
  refine Turns.bind (Turns.save ht hp) ?_ ?_
  swap
  · rintro e s' ⟨he, -⟩
    cases he
  rintro a s1 ⟨ha, hs1⟩
  cases ha
  have hsame : SameTrial s s1 := by
    rw [hs1]
    exact ⟨rfl, rfl, rfl⟩
  split
  · refine Turns.compute_bind ?_ ?_
    · intro until_ huntil
      refine Turns.weaken (open_circuit_ok_turns hkey _ until_ _) ?_
      rintro r s2 ⟨hok, hs2⟩
      exact Or.inl ⟨hok, hwindow', Or.inr ⟨hs2, by rw [huntil]; rfl⟩⟩
    · intro e he
      refine Or.inr ⟨rfl, hsame, ?_⟩
      rw [he]
      rintro ⟨-, h⟩
      cases h
  · exact Turns.pure (Or.inl ⟨rfl, hwindow', Or.inl hsame⟩)

theorem record_transient_failure_turns (hkey : validate_key tenant_id provider_name = .ok ())
    (reason : String) :
    Turns tenant_id provider_name now s
      (self.record_transient_failure tenant_id provider_name now reason)
      fun _ s' => Reported self s now (.transient_failure reason) s' := by
  unfold record_transient_failure
  refine Turns.bind (consume_retry_budget_turns hkey) ?_ ?_
  · intro a s1 h
    rcases h with ⟨-, hwindow, hs1⟩ | ⟨ha, -⟩
    swap
    · cases ha
    refine Turns.weaken (record_failure_turns hkey _ _) fun _ s2 hs2 => ?_
    by_cases hok : (add_seconds now self.default_open_seconds).isOk = true
    · rw [if_pos hok] at hs2
      exact Reported.of_settled hs2 ⟨hwindow, hok⟩
    · rw [if_neg hok] at hs2
      obtain ⟨hends, hhalf⟩ := hs2
      have hsame : SameTrial s s1 := hs1.resolve_right fun h => hok h.2
      refine ⟨hends.imp_left hsame.trans, fun hheld => ⟨fun hr => absurd hr.2 hok, fun _ => ?_⟩⟩
      exact hsame.trans (hhalf (hsame.state.trans hheld.1))
  · intro e s1 h
    rcases h with ⟨he, -⟩ | ⟨-, hsame, hnot⟩
    · cases he
    · exact Reported.of_same hsame hnot

theorem record_turns (hkey : validate_key tenant_id provider_name = .ok ()) (o : Outcome) :
    Turns tenant_id provider_name now s (o.record self tenant_id provider_name now)
      fun _ s' => Reported self s now o s' := by
  cases o with
  | success =>
    refine Turns.bind (record_success_turns hkey) ?_ ?_
    · exact fun _ s' hs' => Turns.pure (Reported.of_settled hs' trivial)
    · exact fun _ s' hs' => Reported.of_settled hs' trivial
  | http_status status_code retry_after =>
    refine Turns.bind (record_http_status_turns hkey status_code retry_after) ?_ ?_
    · exact fun _ s' hs' => Turns.pure hs'
    · exact fun _ s' hs' => hs'
  | transient_failure reason =>
    refine Turns.bind (record_transient_failure_turns hkey reason) ?_ ?_
    · exact fun _ s' hs' => Turns.pure hs'
    · exact fun _ s' hs' => hs'
  | crash => exact Turns.pure (Reported.of_same (SameTrial.refl s) fun h => h)

end

/-! ## Runs -/

/-- The rows and the number of admitted requests that are still running. -/
structure Provider (Uuid : Type) where
  memory : Memory Uuid
  running : Nat

inductive Action
  | before_request (now : Instant)
  | get_state (now : Instant)
  /-- A running request ends, and reports that. -/
  | report (outcome : Outcome) (now : Instant)

section

variable [Stdlib Uuid] [MailDates] (self : ProviderCircuitBreaker)
  (tenant_id provider_name : String)

def Admits (w : Memory Uuid) (now : Instant) : Prop :=
  (outcome perform (before_request tenant_id provider_name now) w).1.isOk = true

def next (p : Provider Uuid) : Action → Option (Provider Uuid)
  | .before_request now =>
    let ended := outcome perform (before_request tenant_id provider_name now) p.memory
    some ⟨ended.2, if ended.1.isOk then p.running + 1 else p.running⟩
  | .get_state now =>
    some ⟨(outcome perform (get_state tenant_id provider_name now) p.memory).2, p.running⟩
  | .report o now =>
    if p.running = 0 then none
    else
      some ⟨(outcome perform (o.record self tenant_id provider_name now) p.memory).2,
        p.running - 1⟩

/-- Once no request is running, some later one is admitted. -/
def Free (p : Provider Uuid) : Prop :=
  p.running = 0 → ∀ t, ∃ now, t ≤ now ∧ Admits tenant_id provider_name p.memory now

/-- The last running request does not leave a trial behind. -/
def LeavesNoTrial (p : Provider Uuid) : Action → Prop
  | .report o now => ∀ s, p.memory.get? (tenant_id, provider_name) = some s → Held s →
    p.running = 1 → Releases self s now o
  | _ => True

end

/-! ### The invariant -/

section

variable (tenant_id provider_name : String)

/-- The row of the key has it, and is open only for a time. -/
structure Filed (w : Memory Uuid) : Prop where
  key : ∀ s, w.get? (tenant_id, provider_name) = some s →
    s.tenant_id = tenant_id ∧ s.provider_name = provider_name
  timed : ∀ s, w.get? (tenant_id, provider_name) = some s → Timed s

def HeldAt (w : Memory Uuid) : Prop := ∃ s, w.get? (tenant_id, provider_name) = some s ∧ Held s

/-- A held trial is that of a running request. -/
structure Sound (p : Provider Uuid) : Prop where
  filed : Filed tenant_id provider_name p.memory
  held : HeldAt tenant_id provider_name p.memory → 1 ≤ p.running

end

section

variable [Stdlib Uuid] {w w' : Memory Uuid} {s : ProviderCircuitSnapshot Uuid}

theorem initial_not_held (now : Instant) :
    ¬ Held (initial tenant_id provider_name now : ProviderCircuitSnapshot Uuid) := by
  rintro ⟨h, -⟩
  cases h

theorem initial_timed (now : Instant) :
    Timed (initial tenant_id provider_name now : ProviderCircuitSnapshot Uuid) := by
  intro h
  cases h

theorem at_current (h : Filed tenant_id provider_name w) (now : Instant) :
    At tenant_id provider_name now (current tenant_id provider_name now w) w := by
  unfold current
  cases hrow : w.get? (tenant_id, provider_name) with
  | none => exact ⟨rfl, rfl, by unfold current; rw [hrow]⟩
  | some s =>
    obtain ⟨ht, hp⟩ := h.key s hrow
    exact ⟨ht, hp, by unfold current; rw [hrow]⟩

theorem At.eq_of_row (h : At tenant_id provider_name now s w) {row : ProviderCircuitSnapshot Uuid}
    (hrow : w.get? (tenant_id, provider_name) = some row) : row = s := by
  have hcurrent := h.row
  unfold current at hcurrent
  rw [hrow] at hcurrent
  exact hcurrent

theorem At.held_iff (h : At tenant_id provider_name now s w) :
    HeldAt tenant_id provider_name w ↔ Held s := by
  constructor
  · rintro ⟨row, hrow, hheld⟩
    rw [← h.eq_of_row hrow]
    exact hheld
  · intro hheld
    cases hrow : w.get? (tenant_id, provider_name) with
    | none =>
      have hcurrent := h.row
      unfold current at hcurrent
      rw [hrow] at hcurrent
      rw [← hcurrent] at hheld
      exact absurd hheld (initial_not_held now)
    | some row =>
      rw [← h.eq_of_row hrow] at hheld
      exact ⟨row, hrow, hheld⟩

theorem At.filed (h : At tenant_id provider_name now s w) (hs : Timed s) :
    Filed tenant_id provider_name w := by
  refine ⟨?_, ?_⟩
  · intro row hrow
    rw [h.eq_of_row hrow]
    exact ⟨h.tenant, h.provider⟩
  · intro row hrow
    rw [h.eq_of_row hrow]
    exact hs

theorem current_timed (h : Filed tenant_id provider_name w) (now : Instant) :
    Timed (current tenant_id provider_name now w) := by
  unfold current
  cases hrow : w.get? (tenant_id, provider_name) with
  | none => exact initial_timed now
  | some s => exact h.timed s hrow

theorem admits_iff (hkey : validate_key tenant_id provider_name = .ok ())
    (h : Filed tenant_id provider_name w) (now : Instant) :
    Admits tenant_id provider_name w now ↔
      Admissible (current tenant_id provider_name now w) now := by
  obtain ⟨s', -, hs'⟩ := (before_request_turns hkey).at (at_current h now)
  unfold Admits
  rcases hs' with ⟨hok, hadmissible, -⟩ | ⟨herror, hnot, -⟩
  · exact ⟨fun _ => hadmissible, fun _ => hok⟩
  · rw [herror]
    exact ⟨fun h => absurd h (by simp), fun h => absurd h hnot⟩

theorem free_iff (hkey : validate_key tenant_id provider_name = .ok ()) {p : Provider Uuid}
    (h : Filed tenant_id provider_name p.memory) :
    Free tenant_id provider_name p ↔
      (p.running = 0 → ¬ HeldAt tenant_id provider_name p.memory) := by
  constructor
  · intro hfree hzero hheld
    obtain ⟨now, -, hadmits⟩ := hfree hzero 0
    have hcurrent := (at_current h now).held_iff.mp hheld
    exact not_admissible_of_held hcurrent now ((admits_iff hkey h now).mp hadmits)
  · intro hnot hzero t
    have hheld : ¬ Held (current tenant_id provider_name t p.memory) := fun hs =>
      hnot hzero ((at_current h t).held_iff.mpr hs)
    obtain ⟨now, hle, hadmissible⟩ := admissible_later (current_timed h t) hheld t
    refine ⟨now, hle, (admits_iff hkey h now).mpr ?_⟩
    unfold current at hadmissible ⊢
    cases hrow : p.memory.get? (tenant_id, provider_name) with
    | none => exact Or.inl rfl
    | some s =>
      rw [hrow] at hadmissible
      exact hadmissible

variable [MailDates] {self : ProviderCircuitBreaker} {p q : Provider Uuid}

omit [Stdlib Uuid] [MailDates] in
theorem sound_new : Sound tenant_id provider_name (⟨Dict.empty, 0⟩ : Provider Uuid) := by
  refine ⟨⟨?_, ?_⟩, ?_⟩
  · intro s hs
    cases hs
  · intro s hs
    cases hs
  · rintro ⟨s, hs, -⟩
    cases hs

theorem sound_before_request (hkey : validate_key tenant_id provider_name = .ok ())
    (h : Sound tenant_id provider_name p) (now : Instant)
    (hnext : next self tenant_id provider_name p (.before_request now) = some q) :
    Sound tenant_id provider_name q := by
  have hat := at_current h.filed now
  obtain ⟨s', hs', hends⟩ := (before_request_turns hkey).at hat
  simp only [next] at hnext
  generalize outcome perform (before_request tenant_id provider_name now) p.memory = ended
    at hnext hs' hends
  obtain rfl := Option.some.inj hnext
  rcases hends with ⟨hok, -, hstate⟩ | ⟨herror, -, rfl⟩
  · refine ⟨hs'.filed fun hopen => absurd hopen hstate, fun _ => ?_⟩
    dsimp only
    rw [if_pos hok]
    omega
  · refine ⟨hs'.filed (current_timed h.filed now), fun hheld => ?_⟩
    dsimp only
    rw [herror, if_neg (by simp)]
    exact h.held (hat.held_iff.mpr (hs'.held_iff.mp hheld))

theorem sound_get_state (hkey : validate_key tenant_id provider_name = .ok ())
    (h : Sound tenant_id provider_name p) (now : Instant)
    (hnext : next self tenant_id provider_name p (.get_state now) = some q) :
    Sound tenant_id provider_name q := by
  have hat := at_current h.filed now
  obtain ⟨s', hs', -, rfl⟩ := (Turns.get_state' hkey).at hat
  simp only [next] at hnext
  generalize outcome perform (get_state tenant_id provider_name now) p.memory = ended at hnext hs'
  obtain rfl := Option.some.inj hnext
  refine ⟨hs'.filed (current_timed h.filed now), fun hheld => ?_⟩
  exact h.held (hat.held_iff.mpr (hs'.held_iff.mp hheld))

theorem report_leaves (hkey : validate_key tenant_id provider_name = .ok ())
    (h : Filed tenant_id provider_name p.memory)
    (hnext : next self tenant_id provider_name p (.report o now) = some q) :
    p.running = q.running + 1 ∧ Filed tenant_id provider_name q.memory ∧
      (HeldAt tenant_id provider_name q.memory ↔ ∃ s,
        p.memory.get? (tenant_id, provider_name) = some s ∧ Held s ∧ ¬ Releases self s now o) := by
  have hat := at_current h now
  have hturns : Turns tenant_id provider_name now (current tenant_id provider_name now p.memory)
      (o.record self tenant_id provider_name now) _ := record_turns hkey o
  obtain ⟨s', hs', hreported⟩ := hturns.at hat
  simp only [next] at hnext
  split at hnext
  · cases hnext
  rename_i hrunning
  generalize outcome perform (o.record self tenant_id provider_name now) p.memory = ended
    at hnext hs'
  obtain rfl := Option.some.inj hnext
  refine ⟨by dsimp only; omega, hs'.filed (hreported.timed (current_timed h now)), ?_⟩
  rw [hs'.held_iff, hreported.held_iff]
  constructor
  · rintro ⟨hheld, hnot⟩
    obtain ⟨s, hrow, hs⟩ := hat.held_iff.mpr hheld
    rw [← hat.eq_of_row hrow] at hnot
    exact ⟨s, hrow, hs, hnot⟩
  · rintro ⟨s, hrow, hs, hnot⟩
    rw [← hat.eq_of_row hrow]
    exact ⟨hs, hnot⟩

/-- A circuit that was never used is free, and after every step it is free again, exactly when in every
step the last running request does not leave a trial behind. -/
theorem never_wedges_iff (hkey : validate_key tenant_id provider_name = .ok ())
    {run : List Action} :
    (Free tenant_id provider_name (⟨Dict.empty, 0⟩ : Provider Uuid) ∧
        Along (next self tenant_id provider_name) (fun _ _ q => Free tenant_id provider_name q)
          (⟨Dict.empty, 0⟩ : Provider Uuid) run) ↔
      Meets (next self tenant_id provider_name) (LeavesNoTrial self tenant_id provider_name)
        (⟨Dict.empty, 0⟩ : Provider Uuid) run := by
  have hfree : ∀ {q : Provider Uuid}, Sound tenant_id provider_name q →
      Free tenant_id provider_name q := by
    intro q hq
    refine (free_iff hkey hq.filed).mpr fun hzero hheld => ?_
    have hpos := hq.held hheld
    omega
  rw [and_iff_right (hfree sound_new)]
  refine along_iff_meets (I := Sound tenant_id provider_name) ?_ ?_ sound_new
  · intro p a q hp hmeets hnext
    cases a with
    | before_request now => exact sound_before_request hkey hp now hnext
    | get_state now => exact sound_get_state hkey hp now hnext
    | report o now =>
      obtain ⟨hrunning, hfiled, hheld⟩ := report_leaves hkey hp.filed hnext
      refine ⟨hfiled, fun h => ?_⟩
      obtain ⟨s, hrow, hs, hnot⟩ := hheld.mp h
      have hone : p.running ≠ 1 := fun hone => hnot (hmeets s hrow hs hone)
      omega
  · intro p a q hp hnext
    cases a with
    | before_request now =>
      exact iff_of_true (hfree (sound_before_request hkey hp now hnext)) trivial
    | get_state now => exact iff_of_true (hfree (sound_get_state hkey hp now hnext)) trivial
    | report o now =>
      obtain ⟨hrunning, hfiled, hheld⟩ := report_leaves hkey hp.filed hnext
      rw [free_iff hkey hfiled, hheld]
      constructor
      · intro hfree s hrow hs hone
        by_contra hnot
        exact hfree (by omega) ⟨s, hrow, hs, hnot⟩
      · rintro hleaves hzero ⟨s, hrow, hs, hnot⟩
        exact hnot (hleaves s hrow hs (by omega))

end

/-! ## A trial that is released and one that is not -/

/-- A provider that answers 429 once and then half opens for a trial. -/
def trialRun (o : Outcome) : List Action :=
  [.before_request 0, .report (.http_status 429 (some "5")) 1, .before_request 6000000,
    .report o 6000001]

theorem a_released_trial_does_not_wedge :
    Free "acme" "anthropic" (⟨Dict.empty, 0⟩ : Provider String) ∧
      Along (next .default "acme" "anthropic") (fun _ _ q => Free "acme" "anthropic" q)
        (⟨Dict.empty, 0⟩ : Provider String) (trialRun .success) := by
  refine (never_wedges_iff (by decide +kernel)).mpr ?_
  refine fun _ _ => ⟨trivial, fun _ _ => ⟨?_, fun _ _ => ⟨trivial, fun _ _ => ⟨?_, trivial⟩⟩⟩⟩
  · intro s _ _ _
    exact releases_429_iff.mpr (by decide +kernel)
  · intro s _ _ _
    exact trivial

/-- The trial ends with a 500, which no one records. -/
theorem a_trial_of_status_500_wedges :
    ¬ ∀ run : List Action, Along (next .default "acme" "anthropic")
      (fun _ _ q => Free "acme" "anthropic" q) (⟨Dict.empty, 0⟩ : Provider String) run := by
  intro h
  obtain ⟨-, h⟩ := h (trialRun (.http_status 500 none)) _ rfl
  obtain ⟨-, h⟩ := h _ rfl
  obtain ⟨-, h⟩ := h _ rfl
  obtain ⟨hfree, -⟩ := h _ rfl
  obtain ⟨now, -, hadmits⟩ := hfree (by decide +kernel) 0
  have hheld : ((outcome perform (Outcome.record .default "acme" "anthropic" 6000001
      (.http_status 500 none)) (outcome perform (before_request "acme" "anthropic" 6000000)
        (outcome perform (Outcome.record .default "acme" "anthropic" 1
          (.http_status 429 (some "5"))) (outcome perform (before_request "acme" "anthropic" 0)
            (Dict.empty : Memory String)).2).2).2).2.get? ("acme", "anthropic")).any (fun s =>
              s.tenant_id = "acme" ∧ s.provider_name = "anthropic" ∧ s.state = .halfOpen ∧
                s.half_open_trial_started_at ≠ none) = true := by
    decide +kernel
  obtain ⟨s, hrow, hs⟩ := (Option.any_eq_true _ _).mp hheld
  obtain ⟨ht, hp, hhalf, htrial⟩ := of_decide_eq_true hs
  have hat : At "acme" "anthropic" now s _ := ⟨ht, hp, by unfold current; rw [hrow]; rfl⟩
  obtain ⟨s', -, hends⟩ := (before_request_turns (by decide +kernel)).at hat
  rcases hends with ⟨-, hadmissible, -⟩ | ⟨herror, -⟩
  · exact not_admissible_of_held ⟨hhalf, htrial⟩ now hadmissible
  · exact absurd (hadmits.symm.trans herror) (by simp)

end operious.provider_circuit
