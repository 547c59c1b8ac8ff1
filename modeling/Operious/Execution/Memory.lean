-- The in-memory execution store. Each call takes its lock, so it is one function of the store:
-- an error leaves the store as it was, and a result comes with the store after the call.
import Operious.Execution.Transitions

namespace operious.execution_runtime

structure InMemoryExecutionPersistence (Uuid : Type) where
  executions : Dict Uuid (ExecutionRecord Uuid)
  attempts : Dict Uuid (ExecutionAttemptRecord Uuid)
  attempts_by_execution : Dict Uuid (List Uuid)
  outbox : Dict Uuid (ExecutionOutboxRecord Uuid)
  outbox_by_execution : Dict Uuid Uuid
  by_dispatch : Dict (String × String × ExecutionKind) Uuid

/-- What a call gives: an error, or its result with the store after it. -/
abbrev Outcome (Uuid α : Type) := Except ExecutionError (α × InMemoryExecutionPersistence Uuid)

namespace InMemoryExecutionPersistence

/-- `InMemoryExecutionPersistence()`. -/
def new {Uuid : Type} : InMemoryExecutionPersistence Uuid :=
  ⟨Dict.empty, Dict.empty, Dict.empty, Dict.empty, Dict.empty, Dict.empty⟩

variable {Uuid : Type} [DecidableEq Uuid] [Stdlib Uuid]

def require (s : InMemoryExecutionPersistence Uuid) (execution_id : Uuid) :
    Except ExecutionError (ExecutionRecord Uuid) :=
  match s.executions.get? execution_id with
  | none => .error (.persistence ("execution not found: " ++ Stdlib.str execution_id))
  | some record => .ok record

def attemptIds (s : InMemoryExecutionPersistence Uuid) (execution_id : Uuid) : List Uuid :=
  (s.attempts_by_execution.get? execution_id).getD []

def latestAttemptId (s : InMemoryExecutionPersistence Uuid) (execution_id : Uuid) : Option Uuid :=
  (s.attemptIds execution_id).getLast?

/-! ## The calls -/

def requestExecution (s : InMemoryExecutionPersistence Uuid) (execution : ExecutionRecord Uuid)
    (outbox : ExecutionOutboxRecord Uuid) : Outcome Uuid (ExecutionRecord Uuid) :=
  let key := (execution.tenant_id, execution.dispatch_id, execution.kind)
  match s.by_dispatch.get? key with
  | some existing_id =>
    match s.executions.get? existing_id with
    | none => .error (.persistence "execution dispatch index points at missing row")
    | some existing => .ok (existing, s)
  | none =>
    if (s.executions.get? execution.execution_id).isSome then
      .error (.persistence ("duplicate execution_id: " ++ Stdlib.str execution.execution_id))
    else
      .ok (execution,
        { s with
          executions := s.executions.set execution.execution_id execution
          by_dispatch := s.by_dispatch.set key execution.execution_id
          outbox := s.outbox.set outbox.outbox_id outbox
          outbox_by_execution := s.outbox_by_execution.set outbox.execution_id outbox.outbox_id })

def claimExecution (s : InMemoryExecutionPersistence Uuid) (execution_id : Uuid)
    (worker_id : String) (claimed_at : Instant) :
    Outcome Uuid (Option (ExecutionClaimRecord Uuid)) :=
  match s.executions.get? execution_id with
  | none => .ok (none, s)
  | some record =>
    if record.state ≠ .requested then .ok (none, s)
    else
      let attempt_number := record.attempt_count + 1
      let attempt_id := deriveAttemptId execution_id attempt_number
      let updated :=
        { record with
          state := .claimed, attempt_count := attempt_number, claimed_at := some claimed_at,
          worker_id := some worker_id }
      let attempt : ExecutionAttemptRecord Uuid :=
        { attempt_id, execution_id, attempt_number, state := .running, worker_id,
          started_at := claimed_at, previous_attempt_id := s.latestAttemptId execution_id }
      .ok (some ⟨updated, attempt⟩,
        { s with
          executions := s.executions.set execution_id updated
          attempts := s.attempts.set attempt_id attempt
          attempts_by_execution :=
            s.attempts_by_execution.set execution_id (s.attemptIds execution_id ++ [attempt_id]) })

/-- The body that complete, fail and dead-letter share: load the attempt, take the shortcut if
there is one, check the claim, then write the attempt and the execution. -/
def transition (s : InMemoryExecutionPersistence Uuid) (execution_id : Uuid)
    (attempt_id : Option Uuid) (worker_id : String) (report : Report) :
    Outcome Uuid (ExecutionTransitionResult Uuid) :=
  match s.require execution_id with
  | .error e => .error e
  | .ok record =>
    match loadAttemptForTransition s.attempts execution_id attempt_id worker_id record with
    | .error lost => .ok (.lost lost, s)
    | .ok attempt =>
      match report.shortcut execution_id attempt_id worker_id record attempt with
      | some result => .ok (result, s)
      | none =>
        match transitionClaimLost execution_id attempt_id worker_id record attempt with
        | some lost => .ok (.lost lost, s)
        | none =>
          .ok (.record (report.onExecution record),
            { s with
              attempts := s.attempts.set attempt.attempt_id (report.onAttempt attempt)
              executions := s.executions.set execution_id (report.onExecution record) })

def completeExecution (s : InMemoryExecutionPersistence Uuid) (execution_id : Uuid)
    (attempt_id : Option Uuid) (result : ExecutionResultEnvelope) (completed_at : Instant)
    (worker_id : String) (diagnostic_category : Option String)
    (diagnostic_confidence : Option Rat) : Outcome Uuid (ExecutionTransitionResult Uuid) :=
  s.transition execution_id attempt_id worker_id
    (.complete result completed_at diagnostic_category diagnostic_confidence)

def failExecution (s : InMemoryExecutionPersistence Uuid) (execution_id : Uuid)
    (attempt_id : Option Uuid) (error : String) (failed_at : Instant) (retry_requested : Bool)
    (worker_id : String) (result : ExecutionResultEnvelope) :
    Outcome Uuid (ExecutionTransitionResult Uuid) :=
  s.transition execution_id attempt_id worker_id (.fail error failed_at retry_requested result)

def deadLetterExecution (s : InMemoryExecutionPersistence Uuid) (execution_id : Uuid)
    (attempt_id : Option Uuid) (error : String) (dead_lettered_at : Instant) (worker_id : String)
    (result : ExecutionResultEnvelope) : Outcome Uuid (ExecutionTransitionResult Uuid) :=
  s.transition execution_id attempt_id worker_id (.deadLetter error dead_lettered_at result)

def recoverStaleExecution (s : InMemoryExecutionPersistence Uuid) (execution_id : Uuid)
    (stale_before recovered_at : Instant) (reason : String) :
    Outcome Uuid (Option (ExecutionClaimRecord Uuid)) :=
  match s.executions.get? execution_id with
  | none => .ok (none, s)
  | some record =>
    if record.state ≠ .claimed then .ok (none, s)
    else if record.claimed_at.all (· > stale_before) then .ok (none, s)
    else
      match resolveRunningAttempt s.attempts execution_id (s.latestAttemptId execution_id)
          record.worker_id (some record) with
      | .error e => .error e
      | .ok attempt =>
        let recovered_attempt := recoveredAttempt reason recovered_at attempt attempt
        let updated := recoveredExecution reason recovered_at attempt record record
        .ok (some ⟨updated, recovered_attempt⟩,
          { s with
            attempts := s.attempts.set attempt.attempt_id recovered_attempt
            executions := s.executions.set execution_id updated })

end InMemoryExecutionPersistence

/-! ## Runs of store calls -/

variable {Uuid : Type} [DecidableEq Uuid] [Stdlib Uuid]

/-- The store after an outcome: an error leaves the store that the call found. -/
def Outcome.storeAfter {α : Type} (s : InMemoryExecutionPersistence Uuid) :
    Outcome Uuid α → InMemoryExecutionPersistence Uuid
  | .error _ => s
  | .ok (_, s') => s'

/-- One call of the store, with its arguments. Whoever interleaves, these are the steps. -/
inductive StoreCall (Uuid : Type)
  | request (execution : ExecutionRecord Uuid) (outbox : ExecutionOutboxRecord Uuid)
  | claim (execution_id : Uuid) (worker_id : String) (claimed_at : Instant)
  | complete (execution_id : Uuid) (attempt_id : Option Uuid) (result : ExecutionResultEnvelope)
      (completed_at : Instant) (worker_id : String) (diagnostic_category : Option String)
      (diagnostic_confidence : Option Rat)
  | fail (execution_id : Uuid) (attempt_id : Option Uuid) (error : String) (failed_at : Instant)
      (retry_requested : Bool) (worker_id : String) (result : ExecutionResultEnvelope)
  | deadLetter (execution_id : Uuid) (attempt_id : Option Uuid) (error : String)
      (dead_lettered_at : Instant) (worker_id : String) (result : ExecutionResultEnvelope)
  | recoverStale (execution_id : Uuid) (stale_before recovered_at : Instant) (reason : String)

def applyCall (s : InMemoryExecutionPersistence Uuid) :
    StoreCall Uuid → InMemoryExecutionPersistence Uuid
  | .request execution outbox => Outcome.storeAfter s (s.requestExecution execution outbox)
  | .claim execution_id worker_id claimed_at =>
    Outcome.storeAfter s (s.claimExecution execution_id worker_id claimed_at)
  | .complete execution_id attempt_id result completed_at worker_id category confidence =>
    Outcome.storeAfter s (s.completeExecution execution_id attempt_id result completed_at worker_id
      category confidence)
  | .fail execution_id attempt_id error failed_at retry_requested worker_id result =>
    Outcome.storeAfter s (s.failExecution execution_id attempt_id error failed_at retry_requested
      worker_id result)
  | .deadLetter execution_id attempt_id error dead_lettered_at worker_id result =>
    Outcome.storeAfter s (s.deadLetterExecution execution_id attempt_id error dead_lettered_at
      worker_id result)
  | .recoverStale execution_id stale_before recovered_at reason =>
    Outcome.storeAfter s (s.recoverStaleExecution execution_id stale_before recovered_at reason)

/-- A request stores a fresh row, as the runtime builds it. Every other call is free. -/
def StoreCall.Admitted : StoreCall Uuid → Prop
  | .request execution _ => execution.state = .requested ∧ execution.attempt_count = 0
  | _ => True

instance (c : StoreCall Uuid) : Decidable c.Admitted := by
  cases c <;> unfold StoreCall.Admitted <;> infer_instance

def nextStoreCall (s : InMemoryExecutionPersistence Uuid) (c : StoreCall Uuid) :
    Option (InMemoryExecutionPersistence Uuid) :=
  if c.Admitted then some (applyCall s c) else none

end operious.execution_runtime
