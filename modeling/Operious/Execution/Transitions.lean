-- What both backends check before a worker or a sweep ends a claim, and what they write then.
-- Each backend has its own copy of these helpers; the copies say the same.
import Mathlib.Data.List.MinMax
import Operious.Execution.Records
import Operious.Lib.Runs

namespace operious.execution_runtime

/-- The two tables that every backend keeps. -/
structure ExecutionTables (Uuid : Type) where
  executions : Dict Uuid (ExecutionRecord Uuid)
  attempts : Dict Uuid (ExecutionAttemptRecord Uuid)

variable {Uuid : Type}

/-! ## The checks -/

variable {a : ExecutionAttemptRecord Uuid} {r : ExecutionRecord Uuid}
  {attempts : Dict Uuid (ExecutionAttemptRecord Uuid)} {execution_id : Uuid}

variable {attempt_id : Option Uuid} {worker_id : String}

section

variable [DecidableEq Uuid]

def loadAttemptForTransition (attempts : Dict Uuid (ExecutionAttemptRecord Uuid))
    (execution_id : Uuid) (attempt_id : Option Uuid) (worker_id : String)
    (current : ExecutionRecord Uuid) :
    Except (ExecutionClaimLost Uuid) (ExecutionAttemptRecord Uuid) :=
  let lost (reason : String) : ExecutionClaimLost Uuid :=
    { execution_id, attempt_id, worker_id := some worker_id, reason, current := some current }
  match attempt_id with
  | none => .error (lost "attempt_id_required")
  | some id =>
    match attempts.get? id with
    | none => .error (lost "attempt_not_found")
    | some attempt =>
      if attempt.execution_id ≠ execution_id then .error (lost "attempt_execution_mismatch")
      else if attempt.worker_id ≠ worker_id then .error (lost "worker_mismatch:attempt")
      else .ok attempt

theorem loadAttemptForTransition_eq_ok
    (h : loadAttemptForTransition attempts execution_id attempt_id worker_id r = .ok a) :
    (∃ id, attempt_id = some id ∧ attempts.get? id = some a) ∧ a.execution_id = execution_id ∧
      a.worker_id = worker_id := by
  unfold loadAttemptForTransition at h
  cases attempt_id with
  | none => simp at h
  | some id =>
    simp only at h
    split at h
    · simp at h
    · rename_i b hb
      split_ifs at h with hmine hworker
      cases h
      exact ⟨⟨id, rfl, hb⟩, not_not.mp hmine, not_not.mp hworker⟩

end

def transitionClaimLost (execution_id : Uuid) (attempt_id : Option Uuid) (worker_id : String)
    (current : ExecutionRecord Uuid) (attempt : ExecutionAttemptRecord Uuid) :
    Option (ExecutionClaimLost Uuid) :=
  let lost (reason : String) : ExecutionClaimLost Uuid :=
    { execution_id, attempt_id, worker_id := some worker_id, reason, current := some current }
  if current.state ≠ .claimed then
    some (lost ("execution_not_claimed:" ++ current.state.value))
  else if current.worker_id ≠ some worker_id then some (lost "worker_mismatch:execution")
  else if attempt.attempt_number ≠ current.attempt_count then some (lost "attempt_not_current")
  else if attempt.state ≠ .running then
    some (lost ("attempt_not_running:" ++ attempt.state.value))
  else none

theorem transitionClaimLost_eq_none
    (h : transitionClaimLost execution_id attempt_id worker_id r a = none) :
    r.state = .claimed ∧ r.worker_id = some worker_id ∧ a.attempt_number = r.attempt_count ∧
      a.state = .running := by
  unfold transitionClaimLost at h
  split_ifs at h with h1 h2 h3 h4
  exact ⟨not_not.mp h1, not_not.mp h2, not_not.mp h3, not_not.mp h4⟩

/-- The idempotent answer of complete: a completed execution gives its record to the attempt
that completed it. It comes before the check of the claim. -/
def completedShortcut (execution_id : Uuid) (attempt_id : Option Uuid) (worker_id : String)
    (record : ExecutionRecord Uuid) (attempt : ExecutionAttemptRecord Uuid) :
    Option (ExecutionTransitionResult Uuid) :=
  if record.state = .completed then
    if attempt.state = .completed then some (.record record)
    else some (.lost
      { execution_id, attempt_id, worker_id := some worker_id,
        reason := "execution_not_claimed:completed", current := some record })
  else none

/-- The running attempt of a claimed execution, looked up under the id that was resolved for
it. A mismatch is an error here, not a lost claim. -/
def resolveRunningAttempt [DecidableEq Uuid] [Stdlib Uuid]
    (attempts : Dict Uuid (ExecutionAttemptRecord Uuid)) (execution_id : Uuid)
    (resolved_id : Option Uuid) (worker_id : Option String)
    (current : Option (ExecutionRecord Uuid)) :
    Except ExecutionError (ExecutionAttemptRecord Uuid) :=
  match resolved_id with
  | none => .error (.persistence ("execution has no attempt: " ++ Stdlib.str execution_id))
  | some id =>
    match attempts.get? id with
    | none => .error (.persistence ("attempt not found: " ++ Stdlib.str id))
    | some attempt =>
      if attempt.execution_id ≠ execution_id then
        .error (.state "attempt does not belong to execution")
      else if attempt.state ≠ .running then
        .error (.state "only running attempts can be completed or failed")
      else if ∃ c ∈ current, attempt.attempt_number ≠ c.attempt_count then
        .error (.state "attempt is no longer current")
      else if ∃ w ∈ worker_id, attempt.worker_id ≠ w then
        .error (.state "worker does not own attempt")
      else if ∃ w ∈ worker_id, ∃ c ∈ current, c.worker_id ≠ some w then
        .error (.state "worker does not own execution")
      else .ok attempt

theorem resolveRunningAttempt_eq_ok [DecidableEq Uuid] [Stdlib Uuid] {resolved_id : Option Uuid}
    {worker_id : Option String}
    (h : resolveRunningAttempt attempts execution_id resolved_id worker_id (some r) = .ok a) :
    ∃ id, resolved_id = some id ∧ attempts.get? id = some a ∧ a.execution_id = execution_id ∧
      a.state = .running ∧ a.attempt_number = r.attempt_count := by
  unfold resolveRunningAttempt at h
  cases resolved_id with
  | none => simp at h
  | some id =>
    simp only at h
    split at h
    · simp at h
    · rename_i b hb
      split_ifs at h with h1 h2 h3
      cases h
      exact ⟨id, rfl, hb, not_not.mp h1, not_not.mp h2, by simpa using h3⟩

/-! ## The writes -/

/-- What a worker reports of the attempt it names. -/
inductive Report
  | complete (result : ExecutionResultEnvelope) (completed_at : Instant)
      (diagnostic_category : Option String) (diagnostic_confidence : Option Rat)
  | fail (error : String) (failed_at : Instant) (retry_requested : Bool)
      (result : ExecutionResultEnvelope)
  | deadLetter (error : String) (dead_lettered_at : Instant) (result : ExecutionResultEnvelope)

def Report.onAttempt : Report → ExecutionAttemptRecord Uuid → ExecutionAttemptRecord Uuid
  | .complete result completed_at _ _, attempt =>
    { attempt with state := .completed, completed_at := some completed_at, result }
  | .fail error failed_at retry_requested result, attempt =>
    { attempt with
      state := .failed, failed_at := some failed_at, retry_requested, result,
      error := some error }
  | .deadLetter error dead_lettered_at result, attempt =>
    { attempt with
      state := .deadLettered, failed_at := some dead_lettered_at, retry_requested := false,
      result, error := some error }

def Report.onExecution : Report → ExecutionRecord Uuid → ExecutionRecord Uuid
  | .complete result completed_at diagnostic_category diagnostic_confidence, record =>
    { record with
      state := .completed, completed_at := some completed_at, failed_at := none,
      diagnostic_category := orStr diagnostic_category result.diagnostic_category,
      diagnostic_confidence := diagnostic_confidence.or result.diagnostic_confidence,
      result, error := none }
  | .fail error failed_at retry_requested result, record =>
    { record with
      state := if retry_requested then .requested else .failed, failed_at := some failed_at,
      result, error := some error }
  | .deadLetter error dead_lettered_at result, record =>
    { record with
      state := .deadLettered, failed_at := some dead_lettered_at, result,
      error := some error }

def Report.shortcut (execution_id : Uuid) (attempt_id : Option Uuid) (worker_id : String) :
    Report → ExecutionRecord Uuid → ExecutionAttemptRecord Uuid →
      Option (ExecutionTransitionResult Uuid)
  | .complete .., record, attempt =>
    completedShortcut execution_id attempt_id worker_id record attempt
  | _, _, _ => none

section

variable [Stdlib Uuid]

/-- What recovery adds to the metadata of the attempt, and first to that of the execution. -/
def recoveryMetadata (Uuid : Type) [Stdlib Uuid] (reason : String) (recovered_at : Instant) :
    List (String × Value) :=
  [("recovery.reason", .str reason),
    ("recovery.recovered_at", .str (Stdlib.isoformat Uuid recovered_at))]

/-- The attempt row after a recovery that read `seen`. -/
def recoveredAttempt (reason : String) (recovered_at : Instant)
    (seen attempt : ExecutionAttemptRecord Uuid) : ExecutionAttemptRecord Uuid :=
  { attempt with
    state := .failed, failed_at := some recovered_at, retry_requested := true,
    error := some reason,
    metadata := seen.metadata.update (recoveryMetadata Uuid reason recovered_at) }

/-- The execution row after a recovery that read `seen` and its attempt. -/
def recoveredExecution (reason : String) (recovered_at : Instant)
    (attempt : ExecutionAttemptRecord Uuid) (seen record : ExecutionRecord Uuid) :
    ExecutionRecord Uuid :=
  { record with
    state := .requested, claimed_at := none, worker_id := none,
    failed_at := some recovered_at, error := some reason,
    metadata := seen.metadata.update (recoveryMetadata Uuid reason recovered_at ++
      [("recovery.attempt_id", .str (Stdlib.str attempt.attempt_id)),
        ("recovery.worker_id", .str attempt.worker_id)]) }

end

end operious.execution_runtime

-- The Postgres execution store under concurrency. A call is its reads, each of the rows that are
-- committed then, and at its end the guarded updates, which commit together and look at the
-- guards again. Any number of callers are in flight at once.
namespace operious.execution_runtime

namespace PostgresExecutionPersistence

variable {Uuid : Type} [DecidableEq Uuid] [Stdlib Uuid]

/-! ## The reads -/

def getExecution (db : ExecutionTables Uuid) (execution_id : Uuid) :
    Option (ExecutionRecord Uuid) := db.executions.get? execution_id

/-- `order_by(attempt_number.desc()).limit(1)` over the attempts of one execution. -/
def latestAttemptId (db : ExecutionTables Uuid) (execution_id : Uuid) : Option Uuid :=
  ((db.attempts.values.filter fun a => a.execution_id = execution_id).argmax
    (·.attempt_number)).map (·.attempt_id)

/-! ## The updates -/

/-- The insert of a request. A collision on the id or on the dispatch inserts nothing. -/
def requestExecution (db : ExecutionTables Uuid) (execution : ExecutionRecord Uuid) :
    ExecutionTables Uuid :=
  if (db.executions.get? execution.execution_id).isSome ∨
      ∃ r ∈ db.executions.values, r.tenant_id = execution.tenant_id ∧
        r.dispatch_id = execution.dispatch_id ∧ r.kind = execution.kind then db
  else { db with executions := db.executions.set execution.execution_id execution }

/-- The claim: one guarded update, then the insert of the attempt under the new count. The
insert fails, and takes the update back, when the id or the number is taken. -/
def claimExecution (db : ExecutionTables Uuid) (execution_id : Uuid) (worker_id : String)
    (claimed_at : Instant) : ExecutionTables Uuid :=
  match db.executions.get? execution_id with
  | none => db
  | some row =>
    if row.state ≠ .requested then db
    else
      let record :=
        { row with
          state := .claimed, attempt_count := row.attempt_count + 1,
          claimed_at := some claimed_at, worker_id := some worker_id }
      let attempt : ExecutionAttemptRecord Uuid :=
        { attempt_id := deriveAttemptId execution_id record.attempt_count, execution_id,
          attempt_number := record.attempt_count, state := .running, worker_id,
          started_at := claimed_at, previous_attempt_id := latestAttemptId db execution_id }
      if (db.attempts.get? attempt.attempt_id).isSome ∨
          ∃ a ∈ db.attempts.values, a.execution_id = execution_id ∧
            a.attempt_number = attempt.attempt_number then db
      else ⟨db.executions.set execution_id record, db.attempts.set attempt.attempt_id attempt⟩

/-- The updates of complete, fail and dead-letter: the row of the execution by state, count and
worker, then the row of the attempt by all it was read with. A miss of the second takes the
first back. -/
def commitReport (db : ExecutionTables Uuid) (execution_id : Uuid) (worker_id : String)
    (report : Report) (attempt : ExecutionAttemptRecord Uuid) : ExecutionTables Uuid :=
  match db.executions.get? execution_id with
  | none => db
  | some row =>
    if row.state = .claimed ∧ row.attempt_count = attempt.attempt_number ∧
        row.worker_id = some worker_id then
      match db.attempts.get? attempt.attempt_id with
      | none => db
      | some attempt_row =>
        if attempt_row.execution_id = execution_id ∧ attempt_row.state = .running ∧
            attempt_row.attempt_number = attempt.attempt_number ∧
            attempt_row.worker_id = worker_id then
          ⟨db.executions.set execution_id (report.onExecution row),
            db.attempts.set attempt.attempt_id (report.onAttempt attempt_row)⟩
        else db
    else db

/-- The guard of the update of recover: the state and the age of the claim, nothing else. -/
def recoverGuard (row : ExecutionRecord Uuid) (stale_before : Instant) : Prop :=
  row.state = .claimed ∧ ∃ t ∈ row.claimed_at, t ≤ stale_before

instance (row : ExecutionRecord Uuid) (stale_before : Instant) :
    Decidable (recoverGuard row stale_before) :=
  inferInstanceAs (Decidable (_ ∧ _))

/-- The updates of recover: the row of the execution under its guard, then the attempt that was
read, by its id alone. -/
def commitRecovery (db : ExecutionTables Uuid) (execution_id : Uuid)
    (stale_before recovered_at : Instant) (reason : String) (existing : ExecutionRecord Uuid)
    (attempt : ExecutionAttemptRecord Uuid) : ExecutionTables Uuid :=
  match db.executions.get? execution_id with
  | none => db
  | some row =>
    if recoverGuard row stale_before then
      ⟨db.executions.set execution_id (recoveredExecution reason recovered_at attempt existing row),
        match db.attempts.get? attempt.attempt_id with
        | none => db.attempts
        | some attempt_row =>
          db.attempts.set attempt.attempt_id
            (recoveredAttempt reason recovered_at attempt attempt_row)⟩
    else db

/-! ## Calls in flight -/

inductive Flight (Uuid : Type)
  /-- Complete, fail or dead-letter: the execution is read. -/
  | reporting (execution_id : Uuid) (attempt_id : Option Uuid) (worker_id : String)
      (report : Report) (existing : ExecutionRecord Uuid)
  /-- The attempt is read and the checks passed: the updates are next. -/
  | reported (execution_id : Uuid) (worker_id : String) (report : Report)
      (attempt : ExecutionAttemptRecord Uuid)
  | recovering (execution_id : Uuid) (stale_before recovered_at : Instant) (reason : String)
      (existing : ExecutionRecord Uuid)
  /-- The id of the latest attempt is read. -/
  | resolving (execution_id : Uuid) (stale_before recovered_at : Instant) (reason : String)
      (existing : ExecutionRecord Uuid) (latest : Option Uuid)
  /-- The attempt is read and the checks passed: the updates are next. -/
  | resolved (execution_id : Uuid) (stale_before recovered_at : Instant) (reason : String)
      (existing : ExecutionRecord Uuid) (attempt : ExecutionAttemptRecord Uuid)
  /-- The call returned or raised. -/
  | ended

/-- The committed rows and the calls in flight, one to a caller. -/
structure World (Uuid : Type) where
  db : ExecutionTables Uuid
  calls : Dict Nat (Flight Uuid)

inductive Action (Uuid : Type)
  | request (execution : ExecutionRecord Uuid)
  | claim (execution_id : Uuid) (worker_id : String) (claimed_at : Instant)
  /-- A caller begins complete, fail or dead-letter with the read of the execution. -/
  | report (caller : Nat) (execution_id : Uuid) (attempt_id : Option Uuid) (worker_id : String)
      (report : Report)
  | recover (caller : Nat) (execution_id : Uuid) (stale_before recovered_at : Instant)
      (reason : String)
  /-- A caller in flight takes its next read, or commits its updates. -/
  | proceed (caller : Nat)

/-- What a call in flight does next: the rows after it, and how far the call is then. -/
def Flight.proceed (db : ExecutionTables Uuid) : Flight Uuid → ExecutionTables Uuid × Flight Uuid
  | .reporting execution_id attempt_id worker_id report existing =>
    match loadAttemptForTransition db.attempts execution_id attempt_id worker_id existing with
    | .error _ => (db, .ended)
    | .ok attempt =>
      match report.shortcut execution_id attempt_id worker_id existing attempt with
      | some _ => (db, .ended)
      | none =>
        match transitionClaimLost execution_id attempt_id worker_id existing attempt with
        | some _ => (db, .ended)
        | none => (db, .reported execution_id worker_id report attempt)
  | .reported execution_id worker_id report attempt =>
    (commitReport db execution_id worker_id report attempt, .ended)
  | .recovering execution_id stale_before recovered_at reason existing =>
    (db, .resolving execution_id stale_before recovered_at reason existing
      (latestAttemptId db execution_id))
  | .resolving execution_id stale_before recovered_at reason existing latest =>
    match resolveRunningAttempt db.attempts execution_id latest existing.worker_id
        (some existing) with
    | .error _ => (db, .ended)
    | .ok attempt =>
      (db, .resolved execution_id stale_before recovered_at reason existing attempt)
  | .resolved execution_id stale_before recovered_at reason existing attempt =>
    (commitRecovery db execution_id stale_before recovered_at reason existing attempt, .ended)
  | .ended => (db, .ended)

/-- The first read of complete, fail and dead-letter. -/
def beginReport (db : ExecutionTables Uuid) (execution_id : Uuid) (attempt_id : Option Uuid)
    (worker_id : String) (report : Report) : Flight Uuid :=
  match getExecution db execution_id with
  | none => .ended
  | some existing => .reporting execution_id attempt_id worker_id report existing

/-- The first read of recover, and its checks of what it read. -/
def beginRecovery (db : ExecutionTables Uuid) (execution_id : Uuid)
    (stale_before recovered_at : Instant) (reason : String) : Flight Uuid :=
  match getExecution db execution_id with
  | none => .ended
  | some existing =>
    if existing.state ≠ .claimed then .ended
    else if existing.claimed_at.all (· > stale_before) then .ended
    else .recovering execution_id stale_before recovered_at reason existing

/-- One step of the world. A request brings a fresh row, as the runtime builds it. -/
def next (w : World Uuid) : Action Uuid → Option (World Uuid)
  | .request execution =>
    if execution.state = .requested ∧ execution.attempt_count = 0 then
      some { w with db := requestExecution w.db execution }
    else none
  | .claim execution_id worker_id claimed_at =>
    some { w with db := claimExecution w.db execution_id worker_id claimed_at }
  | .report caller execution_id attempt_id worker_id report =>
    some { w with
      calls := w.calls.set caller (beginReport w.db execution_id attempt_id worker_id report) }
  | .recover caller execution_id stale_before recovered_at reason =>
    some { w with
      calls := w.calls.set caller
        (beginRecovery w.db execution_id stale_before recovered_at reason) }
  | .proceed caller =>
    match w.calls.get? caller with
    | none => none
    | some flight =>
      some ⟨(flight.proceed w.db).1, w.calls.set caller (flight.proceed w.db).2⟩

/-- No rows and no calls. -/
def World.start : World Uuid := ⟨⟨Dict.empty, Dict.empty⟩, Dict.empty⟩

end PostgresExecutionPersistence

end operious.execution_runtime
