-- The admission of an execution: the configuration of its tenant, the circuit of its provider, its own
-- circuit breaker, and how many executions there are are looked at before it is created.
import Operious.Execution.Runtime
import Operious.Runtime.ProviderCircuitBreaker

namespace operious.execution_governance

open operious.execution_runtime
open operious.provider_circuit (ProviderCircuitSnapshot)

/-! ## Records -/

inductive TenantExecutionCircuitState
  | closed | opened | half_open
  deriving DecidableEq, Repr

def TenantExecutionCircuitState.value : TenantExecutionCircuitState → String
  | closed => "closed"
  | opened => "open"
  | half_open => "half_open"

section

variable (Uuid : Type)

structure TenantExecutionGovernanceConfigurationRecord where
  config_id : Uuid
  execution_quota : Nat
  throughput_limit : Nat
  throughput_window_minutes : Nat
  governance_budget_limit : Nat
  governance_budget_window_minutes : Nat
  circuit_failure_threshold : Nat
  circuit_window_minutes : Nat
  circuit_cooldown_minutes : Nat
  version : Int
  content_sha256 : String

structure TenantExecutionCircuitBreakerRecord where
  breaker_id : Uuid
  tenant_id : String
  config_id : Uuid
  state : TenantExecutionCircuitState
  failure_count : Nat
  opened_at : Option Instant
  open_until : Option Instant
  last_transition_at : Instant
  reason : Option String
  updated_at : Instant

structure ExecutionGovernanceEvaluation where
  evaluation_id : Uuid
  evaluated_at : Instant
  allowed : Bool
  reason : Option String
  config : Option (TenantExecutionGovernanceConfigurationRecord Uuid)
  circuit_breaker : Option (TenantExecutionCircuitBreakerRecord Uuid)
  provider_circuit_state : Option String := none

structure ExecutionQuery where
  tenant_id : Option String := none
  state : Option ExecutionState := none
  requested_after_or_at : Option Instant := none
  failed_after_or_at : Option Instant := none

end

variable {Uuid : Type}

/-! ## Counting executions -/

/-- `timedelta(minutes=...)`. -/
def minutes (n : Nat) : Int := n * 60000000

def ExecutionQuery.keeps (query : ExecutionQuery) (r : ExecutionRecord Uuid) : Bool :=
  (match query.tenant_id with
    | some tenant_id => r.tenant_id = tenant_id
    | none => true) &&
  (match query.state with
    | some state => r.state = state
    | none => true) &&
  (match query.requested_after_or_at with
    | some start => start ≤ r.requested_at
    | none => true) &&
  (match query.failed_after_or_at with
    | some start => r.failed_at.any (start ≤ ·)
    | none => true)

/-- `total` of `list_executions`. -/
def list_executions_total (s : InMemoryExecutionPersistence Uuid) (query : ExecutionQuery)
    (expected_tenant_id : String) : Nat :=
  (s.executions.values.filter fun r => r.tenant_id = expected_tenant_id && query.keeps r).length

/-- The executions that count against the quota. -/
def executionCount (s : InMemoryExecutionPersistence Uuid) (tenant_id : String) : Nat :=
  list_executions_total s { tenant_id := some tenant_id } tenant_id

def throughputCount (s : InMemoryExecutionPersistence Uuid) (tenant_id : String) (start : Instant) :
    Nat :=
  list_executions_total s { tenant_id := some tenant_id, requested_after_or_at := some start } tenant_id

/-! ## The evaluation -/

section

variable [Stdlib Uuid]

def evaluation_id (tenant_id : String) (evaluated_at : Instant) (provider_name : Option String) :
    Uuid :=
  Stdlib.uuid5 (Stdlib.uuid "f64a9df2-76aa-5a1a-81a8-45c21f448be0")
    (tenant_id ++ "|" ++ Stdlib.isoformat Uuid evaluated_at ++ "|" ++ provider_name.getD "")

def derive_execution_circuit_breaker_id (tenant_id : String) (config_id : Uuid) : Uuid :=
  Stdlib.uuid5 (Stdlib.uuid "25a0c0f1-0007-4007-8007-000000000007")
    (strip tenant_id ++ "|" ++ Stdlib.str config_id ++ "|execution_circuit")

/-- What an evaluation reads beside the executions: the circuit of the provider, and how many governance
decisions there are since a time. -/
structure Readings (Uuid : Type) where
  provider_name : Option String := none
  provider_circuit : Option (ProviderCircuitSnapshot Uuid) := none
  governance_budget_used : Instant → Nat := fun _ => 0

def Readings.circuit (readings : Readings Uuid) : Option (ProviderCircuitSnapshot Uuid) :=
  if readings.provider_name.isSome then readings.provider_circuit else none

def providerOpen (circuit : ProviderCircuitSnapshot Uuid) (now : Instant) : Bool :=
  circuit.state = .opened &&
    (match circuit.open_until with
      | none => true
      | some open_until => now < open_until)

/-- The breaker stands open at the time. -/
def breakerOpen (breaker : TenantExecutionCircuitBreakerRecord Uuid) (now : Instant) : Bool :=
  breaker.state = .opened && breaker.open_until.any (now < ·)

variable [DecidableEq Uuid]

/-- `_load_or_create_breaker`, with the breakers after it. -/
def load_or_create_breaker (breakers : Dict Uuid (TenantExecutionCircuitBreakerRecord Uuid))
    (tenant_id : String) (config : TenantExecutionGovernanceConfigurationRecord Uuid) (now : Instant) :
    TenantExecutionCircuitBreakerRecord Uuid × Dict Uuid (TenantExecutionCircuitBreakerRecord Uuid) :=
  let breaker_id := derive_execution_circuit_breaker_id tenant_id config.config_id
  match breakers.get? breaker_id with
  | some breaker => (breaker, breakers)
  | none =>
    let breaker : TenantExecutionCircuitBreakerRecord Uuid := {
      breaker_id, tenant_id, config_id := config.config_id, state := .closed, failure_count := 0
      opened_at := none, open_until := none, last_transition_at := now, reason := none
      updated_at := now }
    (breaker, breakers.set breaker_id breaker)

def openedBreaker (breaker : TenantExecutionCircuitBreakerRecord Uuid) (tenant_id : String)
    (config : TenantExecutionGovernanceConfigurationRecord Uuid) (failure_count : Nat) (now : Instant) :
    TenantExecutionCircuitBreakerRecord Uuid where
  breaker_id := breaker.breaker_id
  tenant_id := tenant_id
  config_id := config.config_id
  state := .opened
  failure_count := failure_count
  opened_at := some now
  open_until := some (now + minutes config.circuit_cooldown_minutes)
  last_transition_at := now
  reason := some "execution_governance:circuit_opened"
  updated_at := now

def quotaFree (config : TenantExecutionGovernanceConfigurationRecord Uuid)
    (s : InMemoryExecutionPersistence Uuid) (tenant_id : String) : Bool :=
  executionCount s tenant_id < config.execution_quota

def throughputFree (config : TenantExecutionGovernanceConfigurationRecord Uuid)
    (s : InMemoryExecutionPersistence Uuid) (tenant_id : String) (now : Instant) : Bool :=
  throughputCount s tenant_id (now - minutes config.throughput_window_minutes) < config.throughput_limit

/-- `evaluate`, with the breakers after it. -/
def evaluate (config : Option (TenantExecutionGovernanceConfigurationRecord Uuid))
    (readings : Readings Uuid) (s : InMemoryExecutionPersistence Uuid)
    (breakers : Dict Uuid (TenantExecutionCircuitBreakerRecord Uuid)) (tenant_id : String)
    (evaluated_at : Instant) :
    ExecutionGovernanceEvaluation Uuid × Dict Uuid (TenantExecutionCircuitBreakerRecord Uuid) :=
  let id := evaluation_id tenant_id evaluated_at readings.provider_name
  match config with
  | none => ({
      evaluation_id := id, evaluated_at, allowed := false
      reason := some "execution_governance:configuration_missing"
      config := none, circuit_breaker := none }, breakers)
  | some config =>
    let deny (reason : String) (breaker : Option (TenantExecutionCircuitBreakerRecord Uuid))
        (provider_circuit_state : Option String) : ExecutionGovernanceEvaluation Uuid := {
      evaluation_id := id, evaluated_at, allowed := false
      reason := some ("execution_governance:" ++ reason)
      config := some config, circuit_breaker := breaker, provider_circuit_state }
    let provider_circuit_state := readings.circuit.map (·.state.value)
    if readings.circuit.any (providerOpen · evaluated_at) then
      (deny "provider_circuit_open" none provider_circuit_state, breakers)
    else
      let (breaker, breakers) := load_or_create_breaker breakers tenant_id config evaluated_at
      if breakerOpen breaker evaluated_at then (deny "circuit_open" (some breaker) none, breakers)
      else if !quotaFree config s tenant_id then
        (deny "execution_quota_exceeded" (some breaker) none, breakers)
      else if !throughputFree config s tenant_id evaluated_at then
        (deny "throughput_limit_exceeded" (some breaker) none, breakers)
      else if config.governance_budget_limit < readings.governance_budget_used
          (evaluated_at - minutes config.governance_budget_window_minutes) then
        (deny "governance_budget_exceeded" (some breaker) none, breakers)
      else
        let failure_count := list_executions_total s {
          tenant_id := some tenant_id, state := some .failed
          failed_after_or_at := some (evaluated_at - minutes config.circuit_window_minutes) } tenant_id
        if config.circuit_failure_threshold ≤ failure_count then
          let opened := openedBreaker breaker tenant_id config failure_count evaluated_at
          (deny "circuit_opened" (some opened) none, breakers.set opened.breaker_id opened)
        else ({
          evaluation_id := id, evaluated_at, allowed := true, reason := none
          config := some config, circuit_breaker := some breaker, provider_circuit_state }, breakers)

/-- The token of an evaluation, as the dispatch builds it. -/
def ExecutionGovernanceEvaluation.token (evaluation : ExecutionGovernanceEvaluation Uuid)
    (governance_decision_id : Uuid) (tenant_id : String) : GovernanceAdmissionToken Uuid where
  governance_decision_id := governance_decision_id
  execution_governance_evaluation_id := evaluation.evaluation_id
  admitted_at := evaluation.evaluated_at
  tenant_id := tenant_id
  execution_governance_config_id := evaluation.config.map (·.config_id)
  execution_governance_config_version := evaluation.config.map (·.version)
  execution_governance_config_sha256 := evaluation.config.map (·.content_sha256)

theorem free_of_allowed {config : Option (TenantExecutionGovernanceConfigurationRecord Uuid)}
    {readings : Readings Uuid} {s : InMemoryExecutionPersistence Uuid}
    {breakers : Dict Uuid (TenantExecutionCircuitBreakerRecord Uuid)} {tenant_id : String}
    {now : Instant} (h : (evaluate config readings s breakers tenant_id now).1.allowed = true) :
    ∃ active, config = some active ∧ quotaFree active s tenant_id = true ∧
      throughputFree active s tenant_id now = true := by
  unfold evaluate at h
  cases config with
  | none => cases h
  | some active =>
    refine ⟨active, rfl, ?_⟩
    simp only at h
    split at h
    · cases h
    · split at h
      · cases h
      · split at h
        · cases h
        · rename_i hquota
          split at h
          · cases h
          · rename_i hthroughput
            simp only [Bool.not_eq_true', Bool.not_eq_false] at hquota hthroughput
            exact ⟨hquota, hthroughput⟩

end

end operious.execution_governance
