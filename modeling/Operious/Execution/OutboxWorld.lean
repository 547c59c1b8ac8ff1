-- The publishers and the sweeps of the outbox as threads over one store. A thread takes one read
-- or one store call at a time, may stop for good between any two, and so do all the others.
import Operious.Execution.Outbox
import Operious.Execution.Runtime

namespace operious.execution_runtime

namespace OutboxWorld

open InMemoryExecutionPersistence

variable {Uuid : Type} [DecidableEq Uuid] [Stdlib Uuid]

def stuckPendingReconcilerPublisherId : String := "execution_outbox_stuck_pending_reconciler"

/-- The arguments of one lease sweep. -/
structure StaleArgs where
  stale_before : Instant
  tenant_id : Option String := none
  reason : String := "publisher lease expired"

/-- The arguments of one sweep of failed rows. -/
structure FailedArgs where
  failed_before_or_at : Instant
  requeued_at : Instant
  tenant_id : Option String := none
  reason : String := "failed publisher retry"
  max_publish_attempts : Nat := 3

/-- The arguments of one sweep of stuck pending rows. -/
structure StuckArgs where
  stale_before : Instant
  tenant_id : Option String := none
  max_publish_attempts : Nat := 3
  reason : String := "stale pending retry"

/-- One row that a sweep has yet to handle. Only the stuck-pending sweep keeps the row as its
page showed it; the other two keep the id. -/
inductive Job (Uuid : Type)
  | stale (outbox_id : Uuid) (args : StaleArgs)
  | failed (outbox_id : Uuid) (args : FailedArgs)
  | stuck (outbox : ExecutionOutboxRecord Uuid) (args : StuckArgs)

/-- Where a thread is inside one call, with the rows it has read. -/
inductive Pc (Uuid : Type)
  | idle
  /-- `claim_outbox_for_execution` of a publisher: the row is read, the store call is next. -/
  | claiming (execution_id : Uuid) (publisher_id : String) (current : ExecutionOutboxRecord Uuid)
  /-- `reconcile_stale_outbox`: the row is read and stale. -/
  | requeueingStale (outbox_id : Uuid) (args : StaleArgs)
  /-- `reconcile_failed_execution_outbox`: the row is read, its execution is next. -/
  | checkingParent (current : ExecutionOutboxRecord Uuid) (outbox_id : Uuid) (args : FailedArgs)
  | requeueingFailed (outbox_id : Uuid) (args : FailedArgs)
  /-- `_reclaim_stuck_pending_outbox`: the execution is read, the row is next. -/
  | reclaiming (outbox : ExecutionOutboxRecord Uuid) (args : StuckArgs)
  /-- The row is read again, the store call is next. -/
  | claimingStuck (outbox current : ExecutionOutboxRecord Uuid) (args : StuckArgs)
  /-- The claim is held, `publish_execution` is next. -/
  | publishing (claimed : ExecutionOutboxRecord Uuid) (failure : String → String)
  | markingPublished (claimed : ExecutionOutboxRecord Uuid)
  | markingFailed (claimed : ExecutionOutboxRecord Uuid) (error : String)

structure Thread (Uuid : Type) where
  pc : Pc Uuid := .idle
  rest : List (Job Uuid) := []

/-- A claim that went through: the row, who claimed it, the count that it had read, and the
token it got. -/
structure Claim (Uuid : Type) where
  outbox_id : Uuid
  publisher_id : String
  seen : Nat
  claim_id : Uuid
  deriving DecidableEq

/-- The store, the threads, and a record of the claims that went through and of the publish
calls that were made, newest first. -/
structure World (Uuid : Type) where
  store : InMemoryExecutionPersistence Uuid
  threads : Dict Nat (Thread Uuid)
  claims : List (Claim Uuid)
  /-- The row and the number of the claim of each `publish_execution`. -/
  publishes : List (Uuid × Nat)

def World.start : World Uuid := ⟨.new, Dict.empty, [], []⟩

/-! ## One step of a thread -/

/-- What one step did: the store and the place of the thread after it, and what went through. -/
structure Effect (Uuid : Type) where
  store : InMemoryExecutionPersistence Uuid
  pc : Pc Uuid
  claim : Option (Claim Uuid) := none
  publish : Option (Uuid × Nat) := none

def claimIdFor (publisher_id : String) (current : ExecutionOutboxRecord Uuid) : Uuid :=
  deriveOutboxClaimId current.outbox_id publisher_id (current.publish_attempt_count + 1)

/-- The read half of `claim_outbox_for_execution`. -/
def readForClaim (s : InMemoryExecutionPersistence Uuid) (execution_id : Uuid) :
    Option (ExecutionOutboxRecord Uuid) :=
  (s.getOutboxByExecution execution_id).filter (·.state = .pending)

/-- The store half, with the place of a thread that holds the claim then. -/
def claimStep (s : InMemoryExecutionPersistence Uuid) (execution_id : Uuid)
    (publisher_id : String) (current : ExecutionOutboxRecord Uuid) (t : Instant)
    (held : ExecutionOutboxRecord Uuid → Pc Uuid) : Effect Uuid :=
  match s.claimOutboxForExecution execution_id publisher_id (claimIdFor publisher_id current) t with
  | (none, s') => { store := s', pc := .idle }
  | (some claimed, s') =>
    { store := s', pc := held claimed,
      claim := some ⟨claimed.outbox_id, publisher_id, current.publish_attempt_count,
        claimIdFor publisher_id current⟩ }

/-- `ExecutionRuntime.get_outbox`. -/
def getOutbox (s : InMemoryExecutionPersistence Uuid) (outbox_id : Uuid)
    (expected_tenant_id : Option String) : Option (ExecutionOutboxRecord Uuid) :=
  (s.outbox.get? outbox_id).filter fun row =>
    expected_tenant_id.all fun t => (s.executions.get? row.execution_id).any (·.tenant_id = t)

/-- The first read of a job, with the checks of what it read. -/
def beginJob (s : InMemoryExecutionPersistence Uuid) : Job Uuid → Pc Uuid
  | .stale outbox_id args =>
    match getOutbox s outbox_id args.tenant_id with
    | none => .idle
    | some current =>
      if current.state ≠ .publishing then .idle
      else if current.claimed_at.all (· > args.stale_before) then .idle
      else .requeueingStale outbox_id args
  | .failed outbox_id args =>
    match getOutbox s outbox_id args.tenant_id with
    | none => .idle
    | some current =>
      if current.state ≠ .failed then .idle
      else if current.publish_attempt_count ≥ args.max_publish_attempts then .idle
      else if (outboxFailedAt current).all (· > args.failed_before_or_at) then .idle
      else .checkingParent current outbox_id args
  | .stuck outbox args =>
    if s.retryableParent outbox.execution_id none then .reclaiming outbox args else .idle

/-- The text of a failed retry, cut to the width of its column. -/
def retryFailure (reason error : String) : String :=
  String.ofList ((reason ++ ": " ++ error).toList.take 480)

/-- One step inside a call. `t` is the clock of the step, `error` what the publisher raises. -/
def Pc.step (s : InMemoryExecutionPersistence Uuid) (t : Instant) (error : Option String) :
    Pc Uuid → Effect Uuid
  | .idle => { store := s, pc := .idle }
  | .claiming execution_id publisher_id current =>
    claimStep s execution_id publisher_id current t fun claimed => .publishing claimed id
  | .requeueingStale outbox_id args =>
    { store := (s.requeueStaleOutbox outbox_id args.stale_before args.reason).2, pc := .idle }
  | .checkingParent current outbox_id args =>
    { store := s,
      pc := if s.retryableParent current.execution_id args.tenant_id then
          .requeueingFailed outbox_id args else .idle }
  | .requeueingFailed outbox_id args =>
    { store := (s.requeueFailedOutbox outbox_id args.failed_before_or_at args.requeued_at
        args.reason args.max_publish_attempts args.tenant_id).2, pc := .idle }
  | .reclaiming outbox args =>
    { store := s,
      pc := match readForClaim s outbox.execution_id with
        | none => .idle
        | some current => .claimingStuck outbox current args }
  | .claimingStuck outbox current args =>
    claimStep s outbox.execution_id stuckPendingReconcilerPublisherId current t fun claimed =>
      -- The budget is checked on the row as the page showed it.
      if outbox.publish_attempt_count ≥ args.max_publish_attempts then
        .markingFailed claimed "stale_pending_retry_budget_exhausted"
      else .publishing claimed (retryFailure args.reason)
  | .publishing claimed failure =>
    { store := s,
      pc := match error with
        | some message => .markingFailed claimed (failure message)
        | none => .markingPublished claimed
      publish := some (claimed.outbox_id, claimed.publish_attempt_count) }
  | .markingPublished claimed =>
    { store := match claimed.claim_id with
        | none => s
        | some claim_id => Outcome.storeAfter s (s.markOutboxPublished claimed.outbox_id claim_id t)
      pc := .idle }
  | .markingFailed claimed message =>
    { store := match claimed.claim_id with
        | none => s
        | some claim_id =>
          Outcome.storeAfter s (s.markOutboxFailed claimed.outbox_id claim_id message t)
      pc := .idle }

/-! ## The steps of the world -/

inductive Action (Uuid : Type)
  /-- Any call that moves an execution. -/
  | runtime (call : RuntimeCall Uuid)
  /-- A publisher reads the row that it wants to claim. -/
  | claim (caller : Nat) (execution_id : Uuid) (publisher_id : String)
  /-- Whoever has a token marks the row with it, failed with an error or else published. -/
  | mark (outbox_id claim_id : Uuid) (t : Instant) (error : Option String)
  /-- A sweep lists its page. -/
  | staleSweep (caller : Nat) (args : StaleArgs) (limit : Nat)
  | failedSweep (caller : Nat) (args : FailedArgs) (limit : Nat)
  | stuckSweep (caller : Nat) (args : StuckArgs) (limit : Nat)
  /-- A reconciler is given one row. -/
  | reconcile (caller : Nat) (job : Job Uuid)
  /-- A thread takes its next step, or begins its next row. -/
  | step (caller : Nat) (t : Instant) (error : Option String)

def claimThread (s : InMemoryExecutionPersistence Uuid) (execution_id : Uuid)
    (publisher_id : String) : Thread Uuid :=
  if publisher_id.isEmpty then {}
  else
    match readForClaim s execution_id with
    | none => {}
    | some current => { pc := .claiming execution_id publisher_id current }

/-- The rows that a sweep has before it. Arguments out of range raise. -/
def staleJobs (s : InMemoryExecutionPersistence Uuid) (args : StaleArgs) (limit : Nat) :
    List (Job Uuid) :=
  if limit < 1 ∨ args.reason.isEmpty then []
  else (s.listOutbox args.tenant_id .publishing limit).map fun row => .stale row.outbox_id args

def failedJobs (s : InMemoryExecutionPersistence Uuid) (args : FailedArgs) (limit : Nat) :
    List (Job Uuid) :=
  if limit < 1 ∨ args.max_publish_attempts < 1 ∨ args.reason.isEmpty then []
  else
    (s.listRetryableFailedOutboxRecords args.tenant_id args.failed_before_or_at
      args.max_publish_attempts limit).map fun row => .failed row.outbox_id args

def stuckJobs (s : InMemoryExecutionPersistence Uuid) (args : StuckArgs) (limit : Nat) :
    List (Job Uuid) :=
  if limit < 1 ∨ args.max_publish_attempts < 1 ∨ args.reason.isEmpty then []
  else (s.listStuckPendingOutboxRecords args.tenant_id args.stale_before limit).map (.stuck · args)

/-- The reconcilers check their arguments too. `_reclaim_stuck_pending_outbox` is not called but
by its sweep. -/
def reconcileJobs : Job Uuid → List (Job Uuid)
  | .stale outbox_id args => if args.reason.isEmpty then [] else [.stale outbox_id args]
  | .failed outbox_id args =>
    if args.max_publish_attempts < 1 ∨ args.reason.isEmpty then [] else [.failed outbox_id args]
  | .stuck .. => []

/-- The thread at its next step: between two rows it begins the next one. -/
def Thread.step (s : InMemoryExecutionPersistence Uuid) (t : Instant) (error : Option String)
    (thread : Thread Uuid) : Effect Uuid × List (Job Uuid) :=
  match thread.pc, thread.rest with
  | .idle, [] => ({ store := s, pc := .idle }, [])
  | .idle, job :: rest => ({ store := s, pc := beginJob s job }, rest)
  | pc, rest => (pc.step s t error, rest)

def next (w : World Uuid) : Action Uuid → Option (World Uuid)
  | .runtime call => some { w with store := perform w.store call }
  | .claim caller execution_id publisher_id =>
    some { w with
      threads := w.threads.set caller (claimThread w.store execution_id publisher_id) }
  | .mark outbox_id claim_id t error =>
    some { w with
      store := Outcome.storeAfter w.store (match error with
        | none => w.store.markOutboxPublished outbox_id claim_id t
        | some message => w.store.markOutboxFailed outbox_id claim_id message t) }
  | .staleSweep caller args limit =>
    some { w with threads := w.threads.set caller { rest := staleJobs w.store args limit } }
  | .failedSweep caller args limit =>
    some { w with threads := w.threads.set caller { rest := failedJobs w.store args limit } }
  | .stuckSweep caller args limit =>
    some { w with threads := w.threads.set caller { rest := stuckJobs w.store args limit } }
  | .reconcile caller job =>
    some { w with threads := w.threads.set caller { rest := reconcileJobs job } }
  | .step caller t error =>
    match w.threads.get? caller with
    | none => none
    | some thread =>
      let (effect, rest) := thread.step w.store t error
      some
        { store := effect.store
          threads := w.threads.set caller ⟨effect.pc, rest⟩
          claims := effect.claim.toList ++ w.claims
          publishes := effect.publish.toList ++ w.publishes }

end OutboxWorld

end operious.execution_runtime
