-- The circuit breaker of a tenant and a provider. Each method reads the snapshot of the circuit and
-- writes back a changed one.
import Operious.Lib.Raising
import Operious.Python

namespace operious.provider_circuit

open awaits

/-! ## Snapshots -/

inductive ProviderCircuitState
  | closed
  | opened
  | halfOpen
  deriving DecidableEq, Repr

def ProviderCircuitState.value : ProviderCircuitState → String
  | .closed => "closed"
  | .opened => "open"
  | .halfOpen => "half_open"

inductive ProviderFailureKind
  | rateLimit
  | unavailable
  | transient
  deriving DecidableEq, Repr

def ProviderFailureKind.value : ProviderFailureKind → String
  | .rateLimit => "rate_limit"
  | .unavailable => "unavailable"
  | .transient => "transient"

structure ProviderCircuitSnapshot (Uuid : Type) where
  state_id : Uuid
  tenant_id : String
  provider_name : String
  state : ProviderCircuitState
  consecutive_failures : Nat
  retry_count : Nat
  retry_window_started_at : Option Instant
  opened_at : Option Instant
  open_until : Option Instant
  half_open_trial_started_at : Option Instant
  last_failure_reason : Option String
  last_transition_at : Instant
  updated_at : Instant
  metadata : Metadata
  deriving DecidableEq

/-- The arguments of `_replace`. Those that are left out keep what the snapshot has. -/
structure Changes where
  state : Option ProviderCircuitState := none
  consecutive_failures : Option Nat := none
  retry_count : Option Nat := none
  retry_window_started_at : Option (Option Instant) := none
  opened_at : Option (Option Instant) := none
  open_until : Option (Option Instant) := none
  half_open_trial_started_at : Option (Option Instant) := none
  last_failure_reason : Option (Option String) := none
  last_transition_at : Option Instant := none
  updated_at : Option Instant := none
  metadata : Option Metadata := none

/-- `dict(metadata or snapshot.metadata)`: an empty mapping gives way. -/
def orMetadata (metadata : Option Metadata) (existing : Metadata) : Metadata :=
  match metadata with
  | none => existing
  | some m => if m.items = [] then existing else m

variable {Uuid : Type}

def replace (snapshot : ProviderCircuitSnapshot Uuid) (changes : Changes) :
    ProviderCircuitSnapshot Uuid where
  state_id := snapshot.state_id
  tenant_id := snapshot.tenant_id
  provider_name := snapshot.provider_name
  state := changes.state.getD snapshot.state
  consecutive_failures := changes.consecutive_failures.getD snapshot.consecutive_failures
  retry_count := changes.retry_count.getD snapshot.retry_count
  retry_window_started_at :=
    changes.retry_window_started_at.getD snapshot.retry_window_started_at
  opened_at := changes.opened_at.getD snapshot.opened_at
  open_until := changes.open_until.getD snapshot.open_until
  half_open_trial_started_at :=
    changes.half_open_trial_started_at.getD snapshot.half_open_trial_started_at
  last_failure_reason := changes.last_failure_reason.getD snapshot.last_failure_reason
  last_transition_at := changes.last_transition_at.getD snapshot.last_transition_at
  updated_at := changes.updated_at.getD snapshot.updated_at
  metadata := orMetadata changes.metadata snapshot.metadata

/-! ## Exceptions and instants -/

inductive BreakerException
  | circuit_open (tenant_id provider_name : String) (open_until : Option Instant)
      (state : ProviderCircuitState)
  | value_error (message : String)
  | overflow_error
  deriving DecidableEq, Repr

/-- The least and the greatest instant of a UTC datetime. -/
def datetime_min : Instant := -62135596800000000
def datetime_max : Instant := 253402300799999999

/-- `t + timedelta(seconds=seconds)`. -/
def add_seconds (t : Instant) (seconds : Int) : Except BreakerException Instant :=
  if datetime_min ≤ t + seconds * 1000000 ∧ t + seconds * 1000000 ≤ datetime_max then
    .ok (t + seconds * 1000000)
  else .error .overflow_error

def validate_key (tenant_id provider_name : String) : Except BreakerException Unit :=
  if strip tenant_id = "" then .error (.value_error "tenant_id must be non-empty")
  else if strip provider_name = "" then .error (.value_error "provider_name must be non-empty")
  else .ok ()

/-- What `parsedate_to_datetime` raises: the text is no mail date, or a number in it is beyond what
a datetime is built from. -/
inductive MailDateError
  | value_error
  | overflow_error
  deriving DecidableEq, Repr

/-- `email.utils.parsedate_to_datetime`: the instant of a mail date, which is UTC when it names no
zone. -/
class MailDates where
  parsedate_to_datetime : String → Except MailDateError Instant

section

variable [Stdlib Uuid]

variable (Uuid) in
def STATE_NAMESPACE : Uuid := Stdlib.uuid "a6027b60-38bd-5d2c-bef0-3f6e08aa6f3d"

def derive_state_id (tenant_id provider_name : String) : Uuid :=
  Stdlib.uuid5 (STATE_NAMESPACE Uuid) (tenant_id ++ "|" ++ provider_name)

variable (Uuid) in
def retry_after_deadline [MailDates] (retry_after : Option String) (now : Instant)
    (default_seconds : Nat) : Except BreakerException Instant :=
  match retry_after with
  | none => add_seconds now default_seconds
  | some text =>
    let stripped := strip text
    if stripped = "" then add_seconds now default_seconds
    else
      match Stdlib.parseInt Uuid stripped with
      | some seconds => add_seconds now (max 0 seconds)
      | none =>
        match MailDates.parsedate_to_datetime stripped with
        | .ok parsed => .ok parsed
        | .error .value_error => add_seconds now default_seconds
        | .error .overflow_error => .error .overflow_error

end

/-! ## Calls -/

/-- What a method awaits: `_load` and `_save`. -/
inductive Call (Uuid : Type)
  | load (tenant_id provider_name : String)
  | save (snapshot : ProviderCircuitSnapshot Uuid)

def Call.Answer : Call Uuid → Type
  | load _ _ => Option (ProviderCircuitSnapshot Uuid)
  | save _ => Unit

abbrev Coroutine (Uuid α : Type) := Raising BreakerException (Call Uuid) Call.Answer α

def load (tenant_id provider_name : String) :
    Coroutine Uuid (Option (ProviderCircuitSnapshot Uuid)) :=
  Raising.call (Call.load tenant_id provider_name)

def save (snapshot : ProviderCircuitSnapshot Uuid) :
    Coroutine Uuid (ProviderCircuitSnapshot Uuid) := do
  let _ ← Raising.call (Call.save snapshot)
  pure snapshot

abbrev Memory (Uuid : Type) := Dict (String × String) (ProviderCircuitSnapshot Uuid)

/-- What the breaker makes of a call: a row is read, or written whole. -/
def perform : (c : Call Uuid) → Memory Uuid → c.Answer × Memory Uuid
  | .load tenant_id provider_name, w => (w.get? (tenant_id, provider_name), w)
  | .save snapshot, w => ((), w.set (snapshot.tenant_id, snapshot.provider_name) snapshot)

/-! ## The breaker -/

structure ProviderCircuitBreaker where
  retry_budget_per_minute : Nat
  unavailable_failure_threshold : Nat
  default_open_seconds : Nat
  budget_pos : 1 ≤ retry_budget_per_minute
  threshold_pos : 1 ≤ unavailable_failure_threshold
  open_pos : 1 ≤ default_open_seconds

/-- The breaker that the services build. -/
def ProviderCircuitBreaker.default : ProviderCircuitBreaker :=
  ⟨5, 3, 60, Nat.le_add_left 1 4, Nat.le_add_left 1 2, Nat.le_add_left 1 59⟩

def transition (snapshot : ProviderCircuitSnapshot Uuid) (state : ProviderCircuitState)
    (now : Instant) (changes : Changes) : Coroutine Uuid (ProviderCircuitSnapshot Uuid) :=
  save (replace snapshot
    { changes with
      state := some state
      last_transition_at := some now
      updated_at := some now
      metadata := some (orMetadata changes.metadata snapshot.metadata) })

namespace ProviderCircuitBreaker

variable [Stdlib Uuid] (self : ProviderCircuitBreaker) (tenant_id provider_name : String)
  (observed_at : Instant)

/-- The snapshot of a circuit that was never used. -/
def initial : ProviderCircuitSnapshot Uuid where
  state_id := derive_state_id tenant_id provider_name
  tenant_id := tenant_id
  provider_name := provider_name
  state := .closed
  consecutive_failures := 0
  retry_count := 0
  retry_window_started_at := none
  opened_at := none
  open_until := none
  half_open_trial_started_at := none
  last_failure_reason := none
  last_transition_at := observed_at
  updated_at := observed_at
  metadata := Dict.ofList [("origin", .str "provider_circuit_breaker")]

def get_state : Coroutine Uuid (ProviderCircuitSnapshot Uuid) := do
  Raising.compute (validate_key tenant_id provider_name)
  match ← load tenant_id provider_name with
  | some existing => pure existing
  | none => save (initial tenant_id provider_name observed_at)

/-- An open circuit whose time is over becomes half open. -/
def cool_down (snapshot : ProviderCircuitSnapshot Uuid) :
    Coroutine Uuid (ProviderCircuitSnapshot Uuid) :=
  if snapshot.state = .opened then
    if snapshot.open_until.any fun until_ => until_ ≤ observed_at then
      transition snapshot .halfOpen observed_at
        { half_open_trial_started_at := some none
          last_failure_reason := some none
          metadata := some (snapshot.metadata.set "transition" (.str "cooldown_elapsed")) }
    else throw (.circuit_open tenant_id provider_name snapshot.open_until snapshot.state)
  else pure snapshot

def start_trial (snapshot : ProviderCircuitSnapshot Uuid) :
    Coroutine Uuid (ProviderCircuitSnapshot Uuid) :=
  if snapshot.state = .halfOpen then
    if snapshot.half_open_trial_started_at ≠ none then
      throw (.circuit_open tenant_id provider_name snapshot.open_until snapshot.state)
    else
      transition snapshot .halfOpen observed_at
        { half_open_trial_started_at := some (some observed_at)
          metadata := some (snapshot.metadata.set "transition" (.str "half_open_trial")) }
  else pure snapshot

def before_request : Coroutine Uuid (ProviderCircuitSnapshot Uuid) := do
  let snapshot ← get_state tenant_id provider_name observed_at
  let snapshot ← cool_down tenant_id provider_name observed_at snapshot
  start_trial tenant_id provider_name observed_at snapshot

def record_success : Coroutine Uuid (ProviderCircuitSnapshot Uuid) := do
  let snapshot ← get_state tenant_id provider_name observed_at
  transition snapshot .closed observed_at
    { consecutive_failures := some 0
      opened_at := some none
      open_until := some none
      half_open_trial_started_at := some none
      last_failure_reason := some none
      metadata := some (snapshot.metadata.set "transition" (.str "provider_success")) }

/-- `open`. -/
def open_circuit (reason : String) (open_until : Option Instant) (metadata : Metadata) :
    Coroutine Uuid (ProviderCircuitSnapshot Uuid) := do
  let snapshot ← get_state tenant_id provider_name observed_at
  let until_ ← Raising.compute (match open_until with
    | some until_ => .ok until_
    | none => add_seconds observed_at self.default_open_seconds)
  transition snapshot .opened observed_at
    { consecutive_failures := some (max 1 snapshot.consecutive_failures)
      opened_at := some (some observed_at)
      open_until := some (some until_)
      half_open_trial_started_at := some none
      last_failure_reason := some (some reason)
      metadata := some ((snapshot.metadata.update metadata.items).set "transition"
        (.str "provider_circuit_open")) }

def record_failure (reason : String) (opens_after_threshold : Bool) (metadata : Metadata) :
    Coroutine Uuid (ProviderCircuitSnapshot Uuid) := do
  let snapshot ← get_state tenant_id provider_name observed_at
  let failures := snapshot.consecutive_failures + 1
  if snapshot.state = .halfOpen ∨
      (opens_after_threshold ∧ self.unavailable_failure_threshold ≤ failures) then
    let open_until ← Raising.compute (add_seconds observed_at self.default_open_seconds)
    self.open_circuit tenant_id provider_name observed_at reason (some open_until)
      (metadata.set "consecutive_failures" (.int failures))
  else
    transition snapshot .closed observed_at
      { consecutive_failures := some failures
        last_failure_reason := some (some reason)
        metadata := some ((snapshot.metadata.update metadata.items).set "transition"
          (.str "provider_failure")) }

/-- The window that a retry falls in, and the retries that it has had. -/
def retry_window (snapshot : ProviderCircuitSnapshot Uuid) :
    Except BreakerException (Instant × Nat) :=
  match snapshot.retry_window_started_at with
  | none => .ok (observed_at, 0)
  | some window_start =>
    (add_seconds observed_at (-60)).map fun minute_ago =>
      if window_start ≤ minute_ago then (observed_at, 0) else (window_start, snapshot.retry_count)

def consume_retry_budget : Coroutine Uuid (ProviderCircuitSnapshot Uuid) := do
  let snapshot ← get_state tenant_id provider_name observed_at
  let (window_start, retries) ← Raising.compute (retry_window observed_at snapshot)
  let retry_count := retries + 1
  let updated ← save (replace snapshot
    { retry_window_started_at := some (some window_start)
      retry_count := some retry_count
      updated_at := some observed_at
      metadata := some (snapshot.metadata.set "retry_budget" (.int retry_count)) })
  if self.retry_budget_per_minute < retry_count then
    let open_until ← Raising.compute (add_seconds observed_at self.default_open_seconds)
    self.open_circuit tenant_id provider_name observed_at "retry_budget_exhausted"
      (some open_until) (Dict.ofList [("retry_count", .int retry_count)])
  else pure updated

def record_http_status [MailDates] (status_code : Int) (retry_after : Option String) :
    Coroutine Uuid (ProviderCircuitSnapshot Uuid) :=
  if status_code = 429 then do
    let open_until ← Raising.compute
      (retry_after_deadline Uuid retry_after observed_at self.default_open_seconds)
    self.open_circuit tenant_id provider_name observed_at ProviderFailureKind.rateLimit.value
      (some open_until)
      (Dict.ofList [("http_status", .int status_code), ("retry_after", .ofOptStr retry_after)])
  else if status_code = 503 ∨ status_code = 504 then
    self.record_failure tenant_id provider_name observed_at ProviderFailureKind.unavailable.value
      true (Dict.ofList [("http_status", .int status_code)])
  else if status_code = 408 then
    self.record_failure tenant_id provider_name observed_at ProviderFailureKind.transient.value
      true (Dict.ofList [("http_status", .int status_code)])
  else get_state tenant_id provider_name observed_at

def record_transient_failure (reason : String) : Coroutine Uuid (ProviderCircuitSnapshot Uuid) := do
  let _ ← self.consume_retry_budget tenant_id provider_name observed_at
  self.record_failure tenant_id provider_name observed_at reason true
    (Dict.ofList [("failure_kind", .str ProviderFailureKind.transient.value)])

end ProviderCircuitBreaker

/-! ## A calendar of one mail date, to run the model on -/

instance : MailDates where
  parsedate_to_datetime text :=
    if text = "Sun, 01 Mar 2026 00:00:10 GMT" then .ok 1772323210000000 else .error .value_error

end operious.provider_circuit

-- What each method of the circuit breaker does to the row of its key when it runs alone.
namespace operious.provider_circuit

open awaits ProviderCircuitBreaker

variable {Uuid : Type} [Stdlib Uuid]

/-! ## The row -/

section

variable (tenant_id provider_name : String) (now : Instant)

/-- The snapshot that `get_state` finds, or makes of a missing row. -/
def current (w : Memory Uuid) : ProviderCircuitSnapshot Uuid :=
  (w.get? (tenant_id, provider_name)).getD (initial tenant_id provider_name now)

/-- The row is the snapshot, and filed under its own key. -/
structure At (s : ProviderCircuitSnapshot Uuid) (w : Memory Uuid) : Prop where
  tenant : s.tenant_id = tenant_id
  provider : s.provider_name = provider_name
  row : current tenant_id provider_name now w = s

/-- The method turns the row `s` into another one and ends as `Q` says. -/
def Turns {α : Type} (s : ProviderCircuitSnapshot Uuid) (x : Coroutine Uuid α)
    (Q : Except BreakerException α → ProviderCircuitSnapshot Uuid → Prop) : Prop :=
  Ends perform (At tenant_id provider_name now s) x
    fun r w => ∃ s', At tenant_id provider_name now s' w ∧ Q r s'

end

section

variable {tenant_id provider_name : String} {now : Instant} {α β : Type}
  {s : ProviderCircuitSnapshot Uuid} {x : Coroutine Uuid α}
  {Q : Except BreakerException α → ProviderCircuitSnapshot Uuid → Prop}

theorem At.saved {w : Memory Uuid} (ht : s.tenant_id = tenant_id)
    (hp : s.provider_name = provider_name) :
    At tenant_id provider_name now s (w.set (s.tenant_id, s.provider_name) s) := by
  refine ⟨ht, hp, ?_⟩
  unfold current
  rw [ht, hp, Dict.get?_set_self]
  rfl

theorem Turns.at {w : Memory Uuid} (h : Turns tenant_id provider_name now s x Q)
    (hw : At tenant_id provider_name now s w) :
    ∃ s', At tenant_id provider_name now s' (outcome perform x w).2 ∧
      Q (outcome perform x w).1 s' := h w hw

theorem Turns.pure {a : α} (h : Q (.ok a) s) :
    Turns tenant_id provider_name now s (pure a : Coroutine Uuid α) Q :=
  Ends.pure fun _ hw => ⟨s, hw, h⟩

theorem Turns.throw {e : BreakerException} (h : Q (.error e) s) :
    Turns tenant_id provider_name now s (throw e : Coroutine Uuid α) Q :=
  Ends.throw fun _ hw => ⟨s, hw, h⟩

theorem Turns.weaken {Q' : Except BreakerException α → ProviderCircuitSnapshot Uuid → Prop}
    (h : Turns tenant_id provider_name now s x Q) (hQ : ∀ r s', Q r s' → Q' r s') :
    Turns tenant_id provider_name now s x Q' :=
  Ends.weaken h (fun _ hw => hw) fun r _ ⟨s', hs', hq⟩ => ⟨s', hs', hQ r s' hq⟩

variable {R : Except BreakerException β → ProviderCircuitSnapshot Uuid → Prop}
  {f : α → Coroutine Uuid β}

theorem Turns.bind (hx : Turns tenant_id provider_name now s x Q)
    (hok : ∀ a s', Q (.ok a) s' → Turns tenant_id provider_name now s' (f a) R)
    (herror : ∀ e s', Q (.error e) s' → R (.error e) s') :
    Turns tenant_id provider_name now s (x >>= f) R := by
  refine Ends.bind hx ?_ ?_
  · rintro a w ⟨s', hs', hq⟩
    exact hok a s' hq w hs'
  · rintro e w ⟨s', hs', hq⟩
    exact ⟨s', hs', herror e s' hq⟩

theorem Turns.compute_bind {r : Except BreakerException α}
    (hok : ∀ a, r = .ok a → Turns tenant_id provider_name now s (f a) R)
    (herror : ∀ e, r = .error e → R (.error e) s) :
    Turns tenant_id provider_name now s (Raising.compute r >>= f) R :=
  Ends.compute_bind hok fun e he _ hw => ⟨s, hw, herror e he⟩

theorem Turns.save {w : ProviderCircuitSnapshot Uuid} (ht : w.tenant_id = tenant_id)
    (hp : w.provider_name = provider_name) :
    Turns tenant_id provider_name now s (operious.provider_circuit.save w)
      fun r s' => r = .ok w ∧ s' = w :=
  fun _ _ => ⟨w, At.saved ht hp, rfl, rfl⟩

theorem Turns.get_state {f : ProviderCircuitSnapshot Uuid → Coroutine Uuid β}
    (hkey : validate_key tenant_id provider_name = .ok ())
    (h : s.tenant_id = tenant_id → s.provider_name = provider_name →
      Turns tenant_id provider_name now s (f s) R) :
    Turns tenant_id provider_name now s
      (ProviderCircuitBreaker.get_state tenant_id provider_name now >>= f) R := by
  intro w hw
  have hread : ∃ w', outcome perform
      (ProviderCircuitBreaker.get_state tenant_id provider_name now) w = (.ok s, w') ∧
        At tenant_id provider_name now s w' := by
    unfold ProviderCircuitBreaker.get_state
    rw [hkey, outcome_bind_ok (outcome_compute perform _ w)]
    have hload : outcome perform (load tenant_id provider_name) w =
        (.ok (w.get? (tenant_id, provider_name)), w) := rfl
    rw [outcome_bind_ok hload]
    have hrow := hw.row
    unfold current at hrow
    cases hget : w.get? (tenant_id, provider_name) with
    | some existing =>
      rw [hget] at hrow
      cases hrow
      exact ⟨w, rfl, hw⟩
    | none =>
      rw [hget] at hrow
      cases hrow
      exact ⟨_, rfl, At.saved rfl rfl⟩
  obtain ⟨w', hget, hat⟩ := hread
  rw [outcome_bind_ok hget]
  exact h hw.tenant hw.provider w' hat

theorem Turns.get_state' (hkey : validate_key tenant_id provider_name = .ok ()) :
    Turns tenant_id provider_name now s
      (ProviderCircuitBreaker.get_state tenant_id provider_name now)
      fun r s' => r = .ok s ∧ s' = s := by
  rw [← bind_pure (ProviderCircuitBreaker.get_state tenant_id provider_name now)]
  exact Turns.get_state hkey fun _ _ => Turns.pure ⟨rfl, rfl⟩

theorem Turns.transition {state : ProviderCircuitState} {changes : Changes}
    (ht : s.tenant_id = tenant_id) (hp : s.provider_name = provider_name)
    {Q : Except BreakerException (ProviderCircuitSnapshot Uuid) → ProviderCircuitSnapshot Uuid →
      Prop}
    (h : ∀ s', s'.tenant_id = tenant_id → s'.provider_name = provider_name → s'.state = state →
      s'.open_until = changes.open_until.getD s.open_until →
      s'.half_open_trial_started_at =
        changes.half_open_trial_started_at.getD s.half_open_trial_started_at → Q (.ok s') s') :
    Turns tenant_id provider_name now s
      (operious.provider_circuit.transition s state now changes) Q := by
  unfold operious.provider_circuit.transition
  refine Turns.weaken (Turns.save ht hp) ?_
  rintro r s' ⟨rfl, rfl⟩
  exact h _ ht hp rfl rfl rfl

attribute [irreducible] Turns

end

end operious.provider_circuit
