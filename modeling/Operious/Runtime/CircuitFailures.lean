-- Failures that arrive while the circuit is open. A failure looks at the count of failures alone, so
-- whether it keeps the circuit open for as long as before depends on the count and on its own deadline.
import Operious.Runtime.CircuitRuns

namespace operious.provider_circuit

open awaits runs ProviderCircuitBreaker

variable {Uuid : Type} {tenant_id provider_name : String} {now : Instant}

/-! ## Calls -/

/-- A call that reports a failure. Of the statuses only four count as one. -/
inductive Failure
  | failure (reason : String) (opens_after_threshold : Bool) (metadata : Metadata)
  | http_status (status_code : {n : Int // n ∈ [429, 503, 504, 408]}) (retry_after : Option String)
  | transient_failure (reason : String)

/-- A call of the breaker. -/
inductive Method
  | before_request
  | get_state
  | record_success
  | record_http_status (status_code : Int) (retry_after : Option String)
  | record_transient_failure (reason : String)
  | consume_retry_budget
  | record_failure (reason : String) (opens_after_threshold : Bool) (metadata : Metadata)
  | open_circuit (reason : String) (open_until : Option Instant) (metadata : Metadata)

def Failure.method : Failure → Method
  | failure reason opens metadata => .record_failure reason opens metadata
  | http_status status_code retry_after => .record_http_status status_code retry_after
  | transient_failure reason => .record_transient_failure reason

section

variable [Stdlib Uuid] [MailDates] (self : ProviderCircuitBreaker)
  (tenant_id provider_name : String)

def Method.coroutine (now : Instant) : Method → Coroutine Uuid (ProviderCircuitSnapshot Uuid)
  | before_request => ProviderCircuitBreaker.before_request tenant_id provider_name now
  | get_state => ProviderCircuitBreaker.get_state tenant_id provider_name now
  | record_success => ProviderCircuitBreaker.record_success tenant_id provider_name now
  | record_http_status status_code retry_after =>
    self.record_http_status tenant_id provider_name now status_code retry_after
  | record_transient_failure reason =>
    self.record_transient_failure tenant_id provider_name now reason
  | consume_retry_budget => self.consume_retry_budget tenant_id provider_name now
  | record_failure reason opens metadata =>
    self.record_failure tenant_id provider_name now reason opens metadata
  | open_circuit reason open_until metadata =>
    self.open_circuit tenant_id provider_name now reason open_until metadata

/-- A call made at a time. It leaves the rows that it leaves, whether it returns or raises. -/
def called (w : Memory Uuid) (call : Method × Instant) : Option (Memory Uuid) :=
  some (outcome perform (call.1.coroutine self tenant_id provider_name call.2) w).2

end

/-! ## What a failure is to keep -/

/-- The circuit is open until `u`, which is still to come. -/
def OpenBeyond (s : ProviderCircuitSnapshot Uuid) (now u : Instant) : Prop :=
  s.state = .opened ∧ s.open_until = some u ∧ now < u

/-- The call returned, and an open circuit stays open for no less than before. -/
def Strengthened (s : ProviderCircuitSnapshot Uuid) (now : Instant)
    (r : Except BreakerException (ProviderCircuitSnapshot Uuid))
    (s' : ProviderCircuitSnapshot Uuid) : Prop :=
  r.isOk = true ∧ ∀ u, OpenBeyond s now u →
    s'.state = .opened ∧ ∃ u', s'.open_until = some u' ∧ u ≤ u'

/-- What a failure makes of the circuit that the rows hold. -/
def Strengthens [Stdlib Uuid] [MailDates] (self : ProviderCircuitBreaker)
    (tenant_id provider_name : String) (c : Failure) (now : Instant) (w : Memory Uuid) : Prop :=
  let ended := outcome perform (c.method.coroutine self tenant_id provider_name now) w
  Strengthened (current tenant_id provider_name now w) now ended.1
    (current tenant_id provider_name now ended.2)

/-! ## When it is kept -/

section

variable [Stdlib Uuid] [MailDates] (self : ProviderCircuitBreaker)
  (s : ProviderCircuitSnapshot Uuid) (now : Instant)

/-- The calendar has room for the time that the breaker opens a circuit for. -/
def HasRoom : Prop := (add_seconds now self.default_open_seconds).isOk = true

def ReachesThreshold (failures : Nat) : Prop := self.unavailable_failure_threshold ≤ failures + 1

/-- No more time is left than the breaker opens a circuit for. -/
def EndsWithin : Prop := ∀ u, OpenBeyond s now u → u ≤ now + self.default_open_seconds * 1000000

/-- The retries of the window are used up by one more. -/
def OutOfRetries (retries : Nat) : Prop := self.retry_budget_per_minute < retries + 1

/-- The failures counted when the retry of a transient failure has been taken. An open circuit counts one
at least. -/
def failuresAfterRetry (retries : Nat) : Nat :=
  if self.retry_budget_per_minute < retries + 1 then max 1 s.consecutive_failures
  else s.consecutive_failures

def Covers : Failure → Prop
  | .failure _ opens _ =>
    (s.state = .halfOpen ∨ opens = true ∧ ReachesThreshold self s.consecutive_failures →
        HasRoom self now) ∧
      ((∃ u, OpenBeyond s now u) →
        opens = true ∧ ReachesThreshold self s.consecutive_failures ∧ EndsWithin self s now)
  | .http_status status_code retry_after =>
    if status_code.val = 429 then
      ∃ deadline, retry_after_deadline Uuid retry_after now self.default_open_seconds =
        .ok deadline ∧ ∀ u, OpenBeyond s now u → u ≤ deadline
    else
      (s.state = .halfOpen ∨ ReachesThreshold self s.consecutive_failures → HasRoom self now) ∧
        ((∃ u, OpenBeyond s now u) →
          ReachesThreshold self s.consecutive_failures ∧ EndsWithin self s now)
  | .transient_failure _ =>
    ∃ window_start retries, retry_window now s = .ok (window_start, retries) ∧
      (OutOfRetries self retries ∨ s.state = .halfOpen ∨
        ReachesThreshold self s.consecutive_failures → HasRoom self now) ∧
      ((∃ u, OpenBeyond s now u) →
        ReachesThreshold self (failuresAfterRetry self s retries) ∧ EndsWithin self s now)

end

/-! ## What the methods do -/

section

variable {self : ProviderCircuitBreaker} {s s₁ s' : ProviderCircuitSnapshot Uuid}

/-- The circuit is open until `u`. -/
structure OpenedUntil (s : ProviderCircuitSnapshot Uuid) (u : Instant) : Prop where
  state : s.state = .opened
  until_ : s.open_until = some u

theorem hasRoom_iff : HasRoom self now ↔
    add_seconds now self.default_open_seconds = .ok (now + self.default_open_seconds * 1000000) := by
  unfold HasRoom add_seconds
  split
  · simp [Except.isOk, Except.toBool]
  · simp [Except.isOk, Except.toBool]

theorem add_default_cases :
    (HasRoom self now ∧ add_seconds now self.default_open_seconds =
        .ok (now + self.default_open_seconds * 1000000)) ∨
      (¬ HasRoom self now ∧ ∃ e, add_seconds now self.default_open_seconds = .error e) := by
  by_cases h : HasRoom self now
  · exact Or.inl ⟨h, hasRoom_iff.mp h⟩
  · refine Or.inr ⟨h, ?_⟩
    rw [hasRoom_iff] at h
    unfold add_seconds at h ⊢
    split at h
    · exact absurd rfl h
    · rename_i hout
      exact ⟨.overflow_error, if_neg hout⟩

section

variable {r : Except BreakerException (ProviderCircuitSnapshot Uuid)}

theorem strengthened_of_opened (hr : r.isOk = true) {u' : Instant} (h : OpenedUntil s' u') :
    Strengthened s now r s' ↔ ∀ u, OpenBeyond s now u → u ≤ u' := by
  constructor
  · rintro ⟨-, hkept⟩ u hu
    obtain ⟨-, v, hv, hle⟩ := hkept u hu
    rw [h.until_] at hv
    cases hv
    exact hle
  · intro hle
    exact ⟨hr, fun u hu => ⟨h.state, u', h.until_, hle u hu⟩⟩

theorem strengthened_of_closed (hr : r.isOk = true) (h : s'.state = .closed) :
    Strengthened s now r s' ↔ ¬ ∃ u, OpenBeyond s now u := by
  constructor
  · rintro ⟨-, hkept⟩ ⟨u, hu⟩
    have hopen := (hkept u hu).1
    rw [h] at hopen
    cases hopen
  · intro hnone
    exact ⟨hr, fun u hu => absurd ⟨u, hu⟩ hnone⟩

theorem not_strengthened (hr : r.isOk = false) : ¬ Strengthened s now r s' := by
  rintro ⟨hok, -⟩
  rw [hr] at hok
  cases hok

end

theorem not_half_open_of_openBeyond (h : ∃ u, OpenBeyond s now u) : s.state ≠ .halfOpen := by
  obtain ⟨u, hstate, -⟩ := h
  rw [hstate]
  simp

variable [Stdlib Uuid]

theorem open_circuit_until_turns (hkey : validate_key tenant_id provider_name = .ok ())
    (reason : String) (u : Instant) (metadata : Metadata) :
    Turns tenant_id provider_name now s
      (self.open_circuit tenant_id provider_name now reason (some u) metadata)
      fun r s' => r.isOk = true ∧ OpenedUntil s' u ∧
        s'.consecutive_failures = max 1 s.consecutive_failures := by
  unfold open_circuit
  refine Turns.get_state hkey fun ht hp => Turns.compute_bind ?_ ?_
  · intro v hv
    cases hv
    unfold transition
    refine Turns.weaken (Turns.save ht hp) ?_
    rintro r s' ⟨rfl, rfl⟩
    exact ⟨rfl, ⟨rfl, rfl⟩, rfl⟩
  · intro e he
    cases he

/-- How one failure leaves the circuit: open for the default time from now, or closed. -/
structure FailureLeft (breaker : ProviderCircuitBreaker) (s : ProviderCircuitSnapshot Uuid)
    (now : Instant) (opens : Bool) (r : Except BreakerException (ProviderCircuitSnapshot Uuid))
    (s' : ProviderCircuitSnapshot Uuid) : Prop where
  opened : s.state = .halfOpen ∨ opens = true ∧ ReachesThreshold breaker s.consecutive_failures →
    HasRoom breaker now → r.isOk = true ∧ OpenedUntil s' (now + breaker.default_open_seconds * 1000000)
  no_room : s.state = .halfOpen ∨ opens = true ∧ ReachesThreshold breaker s.consecutive_failures →
    ¬ HasRoom breaker now → r.isOk = false
  closed : ¬ (s.state = .halfOpen ∨ opens = true ∧ ReachesThreshold breaker s.consecutive_failures) →
    r.isOk = true ∧ s'.state = .closed

theorem record_failure_left (hkey : validate_key tenant_id provider_name = .ok ())
    (reason : String) (opens : Bool) (metadata : Metadata) :
    Turns tenant_id provider_name now s
      (self.record_failure tenant_id provider_name now reason opens metadata)
      fun r s' => FailureLeft self s now opens r s' := by
  unfold record_failure
  refine Turns.get_state hkey fun ht hp => ?_
  dsimp only
  split
  · rename_i hopens
    rcases @add_default_cases now self with ⟨hroom, hadd⟩ | ⟨hroom, e, hadd⟩
    · rw [hadd]
      refine Turns.compute_bind ?_ ?_
      · intro u hu
        cases hu
        refine Turns.weaken (open_circuit_until_turns hkey _ _ _) ?_
        rintro r s' ⟨hok, hopened, -⟩
        exact ⟨fun _ _ => ⟨hok, hopened⟩, fun _ h => absurd hroom h, fun h => absurd hopens h⟩
      · intro e he
        cases he
    · rw [hadd]
      refine Turns.compute_bind ?_ ?_
      · intro u hu
        cases hu
      · intro e' he
        cases he
        exact ⟨fun _ h => absurd h hroom, fun _ _ => rfl, fun h => absurd hopens h⟩
  · rename_i hopens
    refine Turns.transition ht hp fun s' _ _ hstate _ _ => ?_
    exact ⟨fun h => absurd h hopens, fun h => absurd h hopens, fun _ => ⟨rfl, hstate⟩⟩

variable {r : Except BreakerException (ProviderCircuitSnapshot Uuid)} {opens : Bool}

omit [Stdlib Uuid] in
theorem FailureLeft.strengthened_iff (h : FailureLeft self s₁ now opens r s') :
    Strengthened s now r s' ↔
      (s₁.state = .halfOpen ∨ opens = true ∧ ReachesThreshold self s₁.consecutive_failures →
          HasRoom self now) ∧
        ((∃ u, OpenBeyond s now u) →
          (s₁.state = .halfOpen ∨ opens = true ∧ ReachesThreshold self s₁.consecutive_failures) ∧
            EndsWithin self s now) := by
  by_cases hopens : s₁.state = .halfOpen ∨
      opens = true ∧ ReachesThreshold self s₁.consecutive_failures
  · by_cases hroom : HasRoom self now
    · obtain ⟨hr, hopened⟩ := h.opened hopens hroom
      rw [strengthened_of_opened hr hopened]
      constructor
      · exact fun hle => ⟨fun _ => hroom, fun _ => ⟨hopens, hle⟩⟩
      · exact fun hle u hu => (hle.2 ⟨u, hu⟩).2 u hu
    · refine iff_of_false (not_strengthened (h.no_room hopens hroom)) ?_
      exact fun hcovers => hroom (hcovers.1 hopens)
  · obtain ⟨hr, hclosed⟩ := h.closed hopens
    rw [strengthened_of_closed hr hclosed]
    constructor
    · exact fun hnone => ⟨fun h => absurd h hopens, fun h => absurd h hnone⟩
    · exact fun hcovers h => hopens (hcovers.2 h).1

omit [Stdlib Uuid] in
theorem FailureLeft.strengthened_self_iff (h : FailureLeft self s now opens r s') :
    Strengthened s now r s' ↔
      (s.state = .halfOpen ∨ opens = true ∧ ReachesThreshold self s.consecutive_failures →
          HasRoom self now) ∧
        ((∃ u, OpenBeyond s now u) →
          opens = true ∧ ReachesThreshold self s.consecutive_failures ∧ EndsWithin self s now) := by
  rw [h.strengthened_iff]
  refine and_congr_right fun _ => forall_congr' fun hopen => ?_
  rw [or_iff_right (not_half_open_of_openBeyond hopen), and_assoc]

/-- How the retry of a transient failure leaves the circuit: as it was, or open when it was the last. -/
structure RetryLeft (breaker : ProviderCircuitBreaker) (s : ProviderCircuitSnapshot Uuid)
    (now : Instant) (retries : Nat) (r : Except BreakerException (ProviderCircuitSnapshot Uuid))
    (s' : ProviderCircuitSnapshot Uuid) : Prop where
  counted : r.isOk = true → s'.consecutive_failures = failuresAfterRetry breaker s retries
  spent : OutOfRetries breaker retries → HasRoom breaker now → r.isOk = true ∧ s'.state = .opened
  no_room : OutOfRetries breaker retries → ¬ HasRoom breaker now → r.isOk = false
  left : ¬ OutOfRetries breaker retries → r.isOk = true ∧ s'.state = s.state

theorem consume_retry_budget_left (hkey : validate_key tenant_id provider_name = .ok ()) :
    Turns tenant_id provider_name now s (self.consume_retry_budget tenant_id provider_name now)
      fun r s' => (∃ window_start retries, retry_window now s = .ok (window_start, retries) ∧
          RetryLeft self s now retries r s') ∨
        ((retry_window now s).isOk = false ∧ r.isOk = false) := by
  unfold consume_retry_budget
  refine Turns.get_state hkey fun ht hp => Turns.compute_bind ?_ ?_
  swap
  · intro e he
    exact Or.inr ⟨by rw [he]; rfl, rfl⟩
  rintro ⟨window_start, retries⟩ hwindow
  have hleft : ∀ r s', RetryLeft self s now retries r s' →
      (∃ window_start retries, retry_window now s = .ok (window_start, retries) ∧
          RetryLeft self s now retries r s') ∨
        ((retry_window now s).isOk = false ∧ r.isOk = false) :=
    fun r s' h => Or.inl ⟨window_start, retries, hwindow, h⟩
  dsimp only
  refine Turns.bind (Turns.save ht hp) ?_ ?_
  swap
  · rintro e s' ⟨he, -⟩
    cases he
  rintro a s₁ ⟨ha, hs₁⟩
  cases ha
  split
  · rename_i hspent
    have hcounted : failuresAfterRetry self s retries = max 1 s.consecutive_failures :=
      if_pos hspent
    rcases @add_default_cases now self with ⟨hroom, hadd⟩ | ⟨hroom, e, hadd⟩
    · rw [hadd]
      refine Turns.compute_bind ?_ ?_
      · intro u hu
        refine Turns.weaken (open_circuit_until_turns hkey _ _ _) ?_
        rintro r s' ⟨hok, hopened, hfailures⟩
        refine hleft r s' ⟨fun _ => ?_, fun _ _ => ⟨hok, hopened.state⟩, fun _ h => absurd hroom h,
          fun h => absurd hspent h⟩
        rw [hfailures, hcounted, hs₁]
        rfl
      · intro e he
        cases he
    · rw [hadd]
      refine Turns.compute_bind ?_ ?_
      · intro u hu
        cases hu
      · intro e' he
        refine hleft _ s₁ ⟨fun h => ?_, fun _ h => absurd h hroom, fun _ _ => rfl,
          fun h => absurd hspent h⟩
        cases h
  · rename_i hspent
    refine Turns.pure (hleft _ s₁ ⟨fun _ => ?_, fun h => absurd h hspent, fun h => absurd h hspent,
      fun _ => ⟨rfl, ?_⟩⟩)
    · rw [failuresAfterRetry, if_neg hspent, hs₁]
      rfl
    · rw [hs₁]
      rfl

variable [MailDates]

theorem record_http_status_strengthens (hkey : validate_key tenant_id provider_name = .ok ())
    (status_code : {n : Int // n ∈ [429, 503, 504, 408]}) (retry_after : Option String) :
    Turns tenant_id provider_name now s
      (self.record_http_status tenant_id provider_name now status_code retry_after)
      fun r s' => Strengthened s now r s' ↔
        Covers self s now (.http_status status_code retry_after) := by
  obtain ⟨code, hcode⟩ := status_code
  have hcases : code = 429 ∨ code = 503 ∨ code = 504 ∨ code = 408 := by simpa using hcode
  unfold record_http_status Covers
  dsimp only
  by_cases h429 : code = 429
  · simp only [if_pos h429]
    refine Turns.compute_bind ?_ ?_
    · intro deadline hdeadline
      refine Turns.weaken (open_circuit_until_turns hkey _ deadline _) ?_
      rintro r s' ⟨hok, hopened, -⟩
      rw [strengthened_of_opened hok hopened]
      constructor
      · exact fun hle => ⟨deadline, hdeadline, hle⟩
      · rintro ⟨v, hv, hle⟩
        rw [hdeadline] at hv
        cases hv
        exact hle
    · intro e he
      refine iff_of_false (not_strengthened rfl) ?_
      rintro ⟨deadline, hdeadline, -⟩
      rw [he] at hdeadline
      cases hdeadline
  · simp only [if_neg h429]
    have hfailure : ∀ reason metadata, Turns tenant_id provider_name now s
        (self.record_failure tenant_id provider_name now reason true metadata) fun r s' =>
          Strengthened s now r s' ↔
            (s.state = .halfOpen ∨ ReachesThreshold self s.consecutive_failures →
                HasRoom self now) ∧
              ((∃ u, OpenBeyond s now u) →
                ReachesThreshold self s.consecutive_failures ∧ EndsWithin self s now) := by
      intro reason metadata
      refine Turns.weaken (record_failure_left hkey reason true metadata) fun r s' h => ?_
      simpa using h.strengthened_self_iff
    split
    · exact hfailure _ _
    · rename_i h503
      rw [if_pos (by omega : code = 408)]
      exact hfailure _ _

theorem record_transient_failure_strengthens
    (hkey : validate_key tenant_id provider_name = .ok ()) (reason : String) :
    Turns tenant_id provider_name now s
      (self.record_transient_failure tenant_id provider_name now reason)
      fun r s' => Strengthened s now r s' ↔ Covers self s now (.transient_failure reason) := by
  unfold record_transient_failure Covers
  refine Turns.bind (consume_retry_budget_left hkey) ?_ ?_
  · rintro a s₁ (⟨window_start, retries, hwindow, hleft⟩ | ⟨-, ha⟩)
    swap
    · cases ha
    refine Turns.weaken (record_failure_left hkey _ _ _) fun r s' hfailure => ?_
    rw [hfailure.strengthened_iff, hleft.counted rfl]
    have hcovers : ∀ {P : Instant → Nat → Prop}, (∃ window_start retries,
        retry_window now s = .ok (window_start, retries) ∧ P window_start retries) ↔
          P window_start retries := by
      intro P
      constructor
      · rintro ⟨start', retries', hwindow', hP⟩
        rw [hwindow] at hwindow'
        cases hwindow'
        exact hP
      · exact fun hP => ⟨window_start, retries, hwindow, hP⟩
    rw [hcovers]
    by_cases hspent : OutOfRetries self retries
    · have hroom : HasRoom self now := by
        by_contra hroom
        have hraised := hleft.no_room hspent hroom
        cases hraised
      obtain ⟨-, hopened⟩ := hleft.spent hspent hroom
      simp [hopened, hroom]
    · have hsame := (hleft.left hspent).2
      have hcount : failuresAfterRetry self s retries = s.consecutive_failures := if_neg hspent
      rw [hsame, hcount]
      refine and_congr ?_ (forall_congr' fun hopen => ?_)
      · simp [hspent]
      · rw [or_iff_right (not_half_open_of_openBeyond hopen), and_iff_right rfl]
  · rintro e s₁ (⟨window_start, retries, hwindow, hleft⟩ | ⟨hwindow, -⟩)
    · refine iff_of_false (not_strengthened rfl) ?_
      rintro ⟨start', retries', hwindow', hroom, -⟩
      rw [hwindow] at hwindow'
      cases hwindow'
      have hspent : OutOfRetries self retries := by
        by_contra hspent
        have hok := (hleft.left hspent).1
        cases hok
      have hok := (hleft.spent hspent (hroom (Or.inl hspent))).1
      cases hok
    · refine iff_of_false (not_strengthened rfl) ?_
      rintro ⟨start', retries', hwindow', -⟩
      rw [hwindow'] at hwindow
      cases hwindow

theorem failure_strengthens (hkey : validate_key tenant_id provider_name = .ok ()) (c : Failure) :
    Turns tenant_id provider_name now s
      (c.method.coroutine self tenant_id provider_name now)
      fun r s' => Strengthened s now r s' ↔ Covers self s now c := by
  cases c with
  | failure reason opens metadata =>
    refine Turns.weaken (record_failure_left hkey reason opens metadata) fun r s' h => ?_
    exact h.strengthened_self_iff
  | http_status status_code retry_after =>
    exact record_http_status_strengthens hkey status_code retry_after
  | transient_failure reason => exact record_transient_failure_strengthens hkey reason

/-! ## Runs -/

theorem method_turns (hkey : validate_key tenant_id provider_name = .ok ()) (m : Method) :
    Turns tenant_id provider_name now s (m.coroutine self tenant_id provider_name now)
      fun _ s' => Timed s → Timed s' := by
  cases m with
  | before_request =>
    refine Turns.weaken (before_request_turns hkey) ?_
    rintro r s' (⟨-, -, hstate⟩ | ⟨-, -, rfl⟩)
    · exact fun _ hopen => absurd hopen hstate
    · exact id
  | get_state =>
    refine Turns.weaken (Turns.get_state' hkey) ?_
    rintro r s' ⟨-, rfl⟩
    exact id
  | record_success =>
    exact Turns.weaken (record_success_turns hkey) fun _ _ h _ => h.timed
  | record_http_status status_code retry_after =>
    exact Turns.weaken (record_http_status_turns hkey status_code retry_after)
      fun _ _ h => h.timed
  | record_transient_failure reason =>
    exact Turns.weaken (record_transient_failure_turns hkey reason) fun _ _ h => h.timed
  | consume_retry_budget =>
    refine Turns.weaken (consume_retry_budget_turns hkey) ?_
    rintro r s' (⟨-, -, hsame | ⟨hsettled, -⟩⟩ | ⟨-, hsame, -⟩)
    · exact hsame.timed
    · exact fun _ => hsettled.timed
    · exact hsame.timed
  | record_failure reason opens metadata =>
    unfold Method.coroutine record_failure
    refine Turns.get_state hkey fun ht hp => ?_
    dsimp only
    split
    · refine Turns.compute_bind ?_ ?_
      · intro u hu
        exact Turns.weaken (open_circuit_turns hkey _ _ _) fun _ _ h _ => h.timed
      · exact fun _ _ => id
    · refine Turns.transition ht hp fun s' _ _ hstate _ _ _ hopen => ?_
      rw [hstate] at hopen
      cases hopen
  | open_circuit reason open_until metadata =>
    unfold Method.coroutine ProviderCircuitBreaker.open_circuit
    refine Turns.get_state hkey fun ht hp => Turns.compute_bind ?_ ?_
    · intro u hu
      refine Turns.transition ht hp fun s' _ _ _ huntil _ _ _ => ?_
      rw [huntil]
      simp
    · exact fun _ _ => id

theorem filed_called (hkey : validate_key tenant_id provider_name = .ok ()) {w w' : Memory Uuid}
    (h : Filed tenant_id provider_name w) {call : Method × Instant}
    (hcalled : called self tenant_id provider_name w call = some w') :
    Filed tenant_id provider_name w' := by
  obtain ⟨m, now⟩ := call
  cases hcalled
  obtain ⟨s', hs', htimed⟩ := (method_turns hkey m).at (at_current h now)
  exact hs'.filed (htimed (current_timed h now))

/-- From any state of the circuit that calls lead to, a failure returns and keeps an open circuit open for
no less than before exactly where its count and its deadline cover it. -/
theorem failures_never_weaken_iff (hkey : validate_key tenant_id provider_name = .ok ())
    {w : Memory Uuid} (hw : Reaches (called self tenant_id provider_name) Dict.empty w)
    (c : Failure) (now : Instant) :
    Strengthens self tenant_id provider_name c now w ↔
      Covers self (current tenant_id provider_name now w) now c := by
  have hfiled : Filed tenant_id provider_name w :=
    invariant (fun _ _ _ h hcalled => filed_called hkey h hcalled) sound_new.filed hw
  obtain ⟨s', hs', hiff⟩ := (failure_strengthens hkey c).at (at_current hfiled now)
  rw [← hiff, ← hs'.row]
  rfl

/-- In every state that calls lead to, a request is admitted exactly if the circuit is closed, open past its
deadline or half open with no trial; and one is at some later time, unless a trial is held. -/
theorem admits_exactly (hkey : validate_key tenant_id provider_name = .ok ())
    {w : Memory Uuid} (hw : Reaches (called self tenant_id provider_name) Dict.empty w) (t : Instant) :
    (Admits tenant_id provider_name w t ↔ Admissible (current tenant_id provider_name t w) t) ∧
      ((∃ now, t ≤ now ∧ Admits tenant_id provider_name w now) ↔
        ¬ Held (current tenant_id provider_name t w)) := by
  have hfiled : Filed tenant_id provider_name w :=
    invariant (fun _ _ _ h hcalled => filed_called hkey h hcalled) sound_new.filed hw
  have hheld (now : Instant) : HeldAt tenant_id provider_name w ↔
      Held (current tenant_id provider_name now w) := (at_current hfiled now).held_iff
  refine ⟨admits_iff hkey hfiled t, ?_, fun ht => ?_⟩
  · rintro ⟨now, -, hadmits⟩ ht
    exact not_admissible_of_held ((hheld now).mp ((hheld t).mpr ht)) now
      ((admits_iff hkey hfiled now).mp hadmits)
  · have hfree := (free_iff (p := ⟨w, 0⟩) hkey hfiled).mpr fun _ h => ht ((hheld t).mp h)
    exact hfree rfl t

end

/-! ## A late answer -/

/-- The circuit of one provider after a 429 that names the seconds to wait. -/
def limitedFor (seconds : String) : Memory String :=
  (outcome perform (ProviderCircuitBreaker.default.record_http_status "acme" "anthropic" 0 429
    (some seconds)) Dict.empty).2

theorem reaches_limitedFor (seconds : String) :
    Reaches (called .default "acme" "anthropic") Dict.empty (limitedFor seconds) :=
  ⟨[(.record_http_status 429 (some seconds), 0)], rfl⟩

/-- The circuit that a 429 opened is not shut for good. -/
theorem a_limited_circuit_admits :
    ∃ now, 0 ≤ now ∧ Admits "acme" "anthropic" (limitedFor "60") now :=
  (admits_exactly (by decide +kernel) (reaches_limitedFor "60") 0).2.mpr fun h => by
    have hopen : (current "acme" "anthropic" 0 (limitedFor "60")).state = .opened := by decide +kernel
    cases hopen.symm.trans h.1

/-- A second 429 that names a longer wait keeps the circuit open. -/
theorem a_longer_wait_is_kept :
    Strengthens .default "acme" "anthropic"
      (.http_status ⟨429, by decide⟩ (some "3600")) 1000000 (limitedFor "60") := by
  refine (failures_never_weaken_iff (by decide +kernel) (reaches_limitedFor "60") _ _).mpr ?_
  refine ⟨3601000000, by decide +kernel, ?_⟩
  rintro u ⟨-, huntil, -⟩
  have hopen : (current "acme" "anthropic" 1000000 (limitedFor "60")).open_until =
      some 60000000 := by decide +kernel
  rw [hopen] at huntil
  cases huntil
  decide

/-- A 503 to a request that was sent before the circuit opened for an hour closes it. -/
theorem a_late_answer_closes_the_circuit :
    ¬ ∀ (w : Memory String), Reaches (called .default "acme" "anthropic") Dict.empty w →
      ∀ (c : Failure) (now : Instant), Strengthens .default "acme" "anthropic" c now w := by
  intro h
  have hkept := (h (limitedFor "3600") (reaches_limitedFor "3600")
    (.http_status ⟨503, by decide⟩ none) 1000000).2 3600000000 ⟨by decide +kernel,
      by decide +kernel, by decide⟩
  have hclosed : (current "acme" "anthropic" 1000000
      (outcome perform (ProviderCircuitBreaker.default.record_http_status "acme" "anthropic" 1000000
        503 none) (limitedFor "3600")).2).state = .closed := by decide +kernel
  have hopen := hkept.1
  simp only [Failure.method, Method.coroutine] at hopen
  rw [hclosed] at hopen
  cases hopen

end operious.provider_circuit
