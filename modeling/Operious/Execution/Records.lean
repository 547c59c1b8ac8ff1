-- The records of the execution substrate: the states, the durable rows and the derived ids.
import Operious.Python

namespace operious.execution_runtime

/-! ## The wire vocabulary -/

inductive ExecutionKind
  | diagnosticAgent
  deriving DecidableEq, Repr

def ExecutionKind.value : ExecutionKind → String
  | .diagnosticAgent => "diagnostic_agent"

inductive ExecutionState
  | requested
  | claimed
  | completed
  | failed
  | deadLettered
  deriving DecidableEq, Repr

def ExecutionState.value : ExecutionState → String
  | .requested => "requested"
  | .claimed => "claimed"
  | .completed => "completed"
  | .failed => "failed"
  | .deadLettered => "dead_lettered"

/-- The states that no call leaves: `_TERMINAL_OUTBOX_RETRY_EXECUTION_STATES`. -/
def ExecutionState.terminal : ExecutionState → Bool
  | .completed | .failed | .deadLettered => true
  | .requested | .claimed => false

inductive ExecutionAttemptState
  | running
  | completed
  | failed
  | deadLettered
  deriving DecidableEq, Repr

def ExecutionAttemptState.value : ExecutionAttemptState → String
  | .running => "running"
  | .completed => "completed"
  | .failed => "failed"
  | .deadLettered => "dead_lettered"

inductive ExecutionOutboxState
  | pending
  | publishing
  | published
  | failed
  deriving DecidableEq, Repr

def ExecutionOutboxState.value : ExecutionOutboxState → String
  | .pending => "pending"
  | .publishing => "publishing"
  | .published => "published"
  | .failed => "failed"

/-! ## The rows -/

/-- The result of a worker, as `from_dict` reads it off the payload. -/
structure ExecutionResultEnvelope where
  schema_version : String := "1"
  diagnostic_category : Option String := none
  diagnostic_confidence : Option Rat := none
  diagnostic_summary : Option String := none
  governance_decision_id : Option String := none
  governance_decision : Option String := none
  resolution_proposal_id : Option String := none
  resolution_draft_id : Option String := none
  error_code : Option String := none
  error_message : Option String := none
  metadata : Metadata := Dict.empty
  deriving DecidableEq

structure ExecutionRecord (Uuid : Type) where
  execution_id : Uuid
  kind : ExecutionKind
  dispatch_id : String
  session_id : String
  tenant_id : String
  state : ExecutionState
  attempt_count : Nat
  requested_at : Instant
  diagnostic_category : Option String := none
  diagnostic_confidence : Option Rat := none
  governance_decision_id : Option Uuid := none
  execution_governance_evaluation_id : Option Uuid := none
  governance_admitted_at : Option Instant := none
  execution_governance_config_id : Option Uuid := none
  execution_governance_config_version : Option Int := none
  execution_governance_config_sha256 : Option String := none
  claimed_at : Option Instant := none
  completed_at : Option Instant := none
  failed_at : Option Instant := none
  worker_id : Option String := none
  result : ExecutionResultEnvelope := {}
  error : Option String := none
  metadata : Metadata := Dict.empty
  deriving DecidableEq

structure ExecutionAttemptRecord (Uuid : Type) where
  attempt_id : Uuid
  execution_id : Uuid
  attempt_number : Nat
  state : ExecutionAttemptState
  worker_id : String
  started_at : Instant
  completed_at : Option Instant := none
  failed_at : Option Instant := none
  previous_attempt_id : Option Uuid := none
  retry_requested : Bool := false
  result : ExecutionResultEnvelope := {}
  error : Option String := none
  metadata : Metadata := Dict.empty
  deriving DecidableEq

structure ExecutionOutboxRecord (Uuid : Type) where
  outbox_id : Uuid
  execution_id : Uuid
  state : ExecutionOutboxState
  created_at : Instant
  claimed_at : Option Instant := none
  published_at : Option Instant := none
  publisher_id : Option String := none
  claim_id : Option Uuid := none
  publish_attempt_count : Nat := 0
  last_error : Option String := none
  metadata : Metadata := Dict.empty
  deriving DecidableEq

structure ExecutionClaimRecord (Uuid : Type) where
  execution : ExecutionRecord Uuid
  attempt : ExecutionAttemptRecord Uuid

/-- The typed outcome of a stale worker. -/
structure ExecutionClaimLost (Uuid : Type) where
  execution_id : Uuid
  attempt_id : Option Uuid
  worker_id : Option String
  reason : String
  current : Option (ExecutionRecord Uuid)

inductive ExecutionTransitionResult (Uuid : Type)
  | record (execution : ExecutionRecord Uuid)
  | lost (claim : ExecutionClaimLost Uuid)

/-- The typed outcome of a stale publisher. -/
structure ExecutionOutboxClaimLost (Uuid : Type) where
  outbox_id : Uuid
  claim_id : Uuid
  reason : String
  current : Option (ExecutionOutboxRecord Uuid)

inductive ExecutionOutboxTransitionResult (Uuid : Type)
  | record (outbox : ExecutionOutboxRecord Uuid)
  | lost (claim : ExecutionOutboxClaimLost Uuid)

/-- The errors that the substrate raises, with their texts. -/
inductive ExecutionError
  | persistence (message : String)
  | state (message : String)
  | admission (message : String)
  | value (message : String)
  deriving DecidableEq, Repr

structure GovernanceAdmissionToken (Uuid : Type) where
  governance_decision_id : Uuid
  execution_governance_evaluation_id : Uuid
  admitted_at : Instant
  tenant_id : String
  execution_governance_config_id : Option Uuid := none
  execution_governance_config_version : Option Int := none
  execution_governance_config_sha256 : Option String := none

/-! ## Derived ids -/

section

variable {Uuid : Type} [Stdlib Uuid]

def executionNamespace : Uuid := Stdlib.uuid "e0ec7001-0001-4001-8001-000000000001"
def outboxNamespace : Uuid := Stdlib.uuid "e0ec7001-0002-4002-8002-000000000002"
def attemptNamespace : Uuid := Stdlib.uuid "e0ec7001-0003-4003-8003-000000000003"
def outboxClaimNamespace : Uuid := Stdlib.uuid "e0ec7001-0004-4004-8004-000000000004"

/-- A missing id in a seed: the sentinel between two NUL characters. -/
def projectOptionalStr : Option String → String
  | none => "\x00<none>\x00"
  | some s => s

def deriveExecutionId (kind dispatch_id session_id : String) (tenant_id : Option String) :
    Except ExecutionError Uuid :=
  if kind.isEmpty then
    .error (.value "derive_execution_id requires a non-empty kind")
  else if dispatch_id.isEmpty then
    .error (.value "derive_execution_id requires a non-empty dispatch_id")
  else if session_id.isEmpty then
    .error (.value "derive_execution_id requires a non-empty session_id")
  else
    .ok (Stdlib.uuid5 executionNamespace
      (kind ++ "|" ++ projectOptionalStr tenant_id ++ "|" ++ dispatch_id ++ "|" ++ session_id))

def deriveOutboxId (execution_id : Uuid) : Uuid :=
  Stdlib.uuid5 outboxNamespace (Stdlib.str execution_id)

/-- The token of one claim of an outbox row. The callers pass a non-empty publisher id and a
count of 1 or more, so the two checks of the source never raise. -/
def deriveOutboxClaimId (outbox_id : Uuid) (publisher_id : String)
    (publish_attempt_count : Nat) : Uuid :=
  Stdlib.uuid5 outboxClaimNamespace
    (Stdlib.str outbox_id ++ "|" ++ publisher_id ++ "|" ++ publish_attempt_count.repr)

/-- The id of one attempt. The callers count from 1, so the check of the source never raises. -/
def deriveAttemptId (execution_id : Uuid) (attempt_number : Nat) : Uuid :=
  Stdlib.uuid5 attemptNamespace (Stdlib.str execution_id ++ "|" ++ attempt_number.repr)

theorem deriveAttemptId_inj [LawfulStdlib Uuid] {e e' : Uuid} {n n' : Nat}
    (h : deriveAttemptId e n = deriveAttemptId e' n') : e = e' ∧ n = n' := by
  have hs := congrArg String.toList (LawfulStdlib.uuid5_inj _ h)
  simp only [String.toList_append, List.append_assoc, String.reduceToList,
    List.singleton_append] at hs
  obtain ⟨h1, h2⟩ := cut_at_bar (LawfulStdlib.str_no_bar e) (LawfulStdlib.str_no_bar e') hs
  exact ⟨LawfulStdlib.str_inj (String.toList_injective h1),
    repr_inj (String.toList_injective h2)⟩

theorem deriveOutboxId_inj [LawfulStdlib Uuid] {e e' : Uuid}
    (h : deriveOutboxId e = deriveOutboxId e') : e = e' :=
  LawfulStdlib.str_inj (LawfulStdlib.uuid5_inj _ h)

theorem deriveOutboxClaimId_inj [LawfulStdlib Uuid] {o o' : Uuid} {p p' : String} {n n' : Nat}
    (h : deriveOutboxClaimId o p n = deriveOutboxClaimId o' p' n') : o = o' ∧ p = p' ∧ n = n' := by
  have hs := congrArg String.toList (LawfulStdlib.uuid5_inj _ h)
  simp only [String.toList_append, List.append_assoc, String.reduceToList,
    List.singleton_append] at hs
  obtain ⟨h1, h2⟩ := cut_at_bar (LawfulStdlib.str_no_bar o) (LawfulStdlib.str_no_bar o') hs
  obtain ⟨h3, h4⟩ := cut_at_last_bar (repr_no_bar n) (repr_no_bar n') h2
  exact ⟨LawfulStdlib.str_inj (String.toList_injective h1), String.toList_injective h3,
    repr_inj (String.toList_injective h4)⟩

end

end operious.execution_runtime
