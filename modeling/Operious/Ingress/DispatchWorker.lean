-- One call of a worker on a captured message: the claim, the admission, the dispatch with whoever it calls,
-- and the mark. What a dispatch leaves to follow up is an execution request or a case of human review.
import Operious.Identity.DerivedIds
import Operious.Ingress.DispatchOutbox
import Operious.Ingress.DispatchService
import Operious.Lib.Effects

namespace operious.ingress

open effects
open operious.arbitration (TextRepr)
open operious.coordination
open operious.dispatch_arbitration (DispatchArbitrationEvaluation DispatchArbitrationProposal
  DispatchResult)
open operious.execution_runtime (deriveExecutionId)
open operious.governance (PyException)
open operious.identity (dispatch_session_id reopened_dispatch_session_id)

/-! ## What a dispatch stores -/

/-- The stores behind the coordination: the sessions in `T`, and the ids of the execution requests and of the
approval cases. -/
structure FollowUps (Uuid T : Type) where
  sessions : T
  executions : List Uuid := []
  cases : List Uuid := []

section

variable {Uuid T : Type} [Stdlib Uuid]

/-- `project_optional_str` in the key of a case without an execution and a session. -/
def derive_approval_case_id (tenant_id dispatch_id : String) : Uuid :=
  let namespace_ : Uuid := Stdlib.uuid "51b3132f-2f18-4e68-a002-ef97051b0001"
  let absent := execution_runtime.projectOptionalStr none
  let dedup_key := Stdlib.str (Stdlib.uuid5 namespace_ (tenant_id ++ "|" ++ absent ++ "|" ++ dispatch_id ++
    "|" ++ absent ++ "|coordination_human_review"))
  Stdlib.uuid5 namespace_ (tenant_id ++ "|" ++ dedup_key)

def diagnosticAgent : String := "diagnostic_agent"

/-- The dispatch of the id has an execution request, of whatever session, or a case of human review. -/
def FollowedUp (tenant_id dispatch_id : String) (s : FollowUps Uuid T) : Prop :=
  (∃ session_id, ∃ execution_id ∈ s.executions,
    deriveExecutionId diagnosticAgent dispatch_id session_id (some tenant_id) = .ok execution_id) ∨
  derive_approval_case_id tenant_id dispatch_id ∈ s.cases

end

/-! ## Whom the dispatch calls after its arbitration -/

inductive ContinuityOutcome
  | new_case | continuation | reopened_case
  deriving DecidableEq, Repr

structure CaseContinuityResult where
  outcome : ContinuityOutcome
  existing_session_id : Option String := none
  prior_session_id : Option String := none

/-- What the identity resolution finds. It never raises. -/
structure IdentityResolutionResult where
  match_stage : Nat := 0
  matched_session_ids : List String := []

def IdentityResolutionResult.has_context (result : IdentityResolutionResult) : Bool :=
  0 < result.match_stage && !result.matched_session_ids.isEmpty

structure ApprovalQueue where
  request_case_review : Except PyException Unit := .ok ()
  review_case : Except PyException Unit := .ok ()

/-- The collaborators of a dispatch behind its arbitration. Each may refuse or raise. -/
structure Collaborators (Uuid T : Type) where
  approval_queue : Option ApprovalQueue
  resolve_identity : T → IdentityResolutionResult × T
  handle_merge_confirmation : String → Effect PyException T Unit
  evaluate_continuity : String → Effect PyException T CaseContinuityResult
  /-- `append_event`: the session of the result, where there is one. -/
  append_follow_up : String → Effect PyException T (Option String)
  /-- `open_session`, under the parent: the session of the result, where there is one. -/
  open_session : Uuid → Option String → Effect PyException T (Option String)
  append_customer_message : String → Effect PyException T Unit
  /-- What the persistence of the request raises. It stores nothing then. -/
  request_execution : Except PyException Unit
  /-- `publish_execution`: the reason of a `QueueBackpressureError`, which is handled. -/
  publish_execution : Uuid → Effect PyException T (Option String)

section

variable {Uuid T : Type} [Stdlib Uuid]

/-- A computation on the sessions alone. -/
def onSessions {α : Type} (x : Effect PyException T α) : Effect PyException (FollowUps Uuid T) α :=
  ExceptT.mk fun s => ((run x s.sessions).1, { s with sessions := (run x s.sessions).2 })

def dispatchServiceError (text : String) : PyException := ⟨"DispatchServiceError", text⟩

def derived {ε : Type} (id : Except ε Uuid) : Effect PyException (FollowUps Uuid T) Uuid :=
  lift (id.mapError fun _ => ⟨"ValueError", "an id is derived from texts that are not empty"⟩)

variable (c : Collaborators Uuid T) (ingress : BoundaryIngressRecord Uuid) (tenant_id : String)

def continuity (external_handle : String) (identity : IdentityResolutionResult) :
    Effect PyException (FollowUps Uuid T) CaseContinuityResult := do
  let continuity ← match orStr ingress.external_conversation_id none with
    | none => pure { outcome := .new_case }
    | some _ => do
      onSessions (c.handle_merge_confirmation external_handle)
      onSessions (c.evaluate_continuity external_handle)
  match identity.matched_session_ids with
  | first :: _ =>
    if identity.has_context && continuity.outcome = .new_case then
      return { outcome := .reopened_case, existing_session_id := some first, prior_session_id := some first }
    else return continuity
  | [] => return continuity

def sessionOf (external_handle : String) (continuity : CaseContinuityResult) :
    Effect PyException (FollowUps Uuid T) String := do
  let session ← match continuity.outcome with
    | .continuation =>
      match continuity.existing_session_id with
      | none => throw (dispatchServiceError "continuation missing session id")
      | some session_id => onSessions (c.append_follow_up session_id)
    | .reopened_case =>
      match continuity.prior_session_id with
      | none => throw (dispatchServiceError "reopen missing prior session id")
      | some parent => do
        let session_id ← derived (reopened_dispatch_session_id tenant_id external_handle ingress.ingress_id)
        onSessions (c.open_session session_id (some parent))
    | .new_case => do
      let session_id ← derived (dispatch_session_id tenant_id external_handle)
      onSessions (c.open_session session_id none)
  match session with
  | some session_id => return session_id
  | none => throw (dispatchServiceError "session runtime did not answer a session")

/-- `request_diagnostic_execution`: the request is stored, or is there already. -/
def request_diagnostic_execution (dispatch_id session_id : String) :
    Effect PyException (FollowUps Uuid T) Uuid := do
  let execution_id ← derived (deriveExecutionId diagnosticAgent dispatch_id session_id (some tenant_id))
  lift c.request_execution
  modify fun s => { s with executions := execution_id :: s.executions }
  return execution_id

def settle (coordination_result : CoordinationDispatchResult Uuid)
    (arbitration : Option (DispatchArbitrationEvaluation Uuid)) :
    Effect PyException (FollowUps Uuid T) DispatchResult := do
  let external_handle := (orStr ingress.external_conversation_id
    (some (Stdlib.str ingress.ingress_id))).getD ""
  let identity ← onSessions (ExceptT.mk fun t => ((.ok (c.resolve_identity t).1), (c.resolve_identity t).2))
  let continuity ← continuity c ingress external_handle identity
  let session_id ← sessionOf c ingress tenant_id external_handle continuity
  onSessions (c.append_customer_message session_id)
  let execution_id ← request_diagnostic_execution c tenant_id
    (Stdlib.str coordination_result.coordination_id) session_id
  let backpressure ← onSessions (c.publish_execution execution_id)
  return {
    dispatch_id := Stdlib.str coordination_result.coordination_id
    session_id := some session_id
    execution_id := some (Stdlib.str execution_id)
    governance_decision_id := coordination_result.trace.governance_decision_id.map Stdlib.str
    verdict := if backpressure.isSome then dispatch_arbitration.CoordinationDispatchOutcome.degraded.value
      else coordination_result.outcome.value
    arbitration_evaluation_id := arbitration.bind (·.evaluation_id)
    arbitration_outcome := arbitration.bind (·.outcome)
    halted := backpressure.isSome
    halt_reason := backpressure }

/-- `request_coordination_human_review_case` of an outcome: what it raises. -/
def requestReview (queue : Option ApprovalQueue)
    (outcome : dispatch_arbitration.CoordinationDispatchOutcome) : Except PyException Unit :=
  match queue with
  | none => .ok ()
  | some queue => if outcome = .policy_escalated then do
      queue.request_case_review
      queue.review_case
    else .ok ()

def reviewed (coordination_result : CoordinationDispatchResult Uuid) (s : FollowUps Uuid T) :
    FollowUps Uuid T :=
  if c.approval_queue.isSome && coordination_result.outcome = .policy_escalated then
    { s with cases := derive_approval_case_id tenant_id (Stdlib.str coordination_result.coordination_id) ::
        s.cases }
  else s

end

/-! ## The worker -/

structure AdmissionDecision where
  allowed : Bool
  retry_after_seconds : Option Nat := none

structure WorkerCall (Uuid T : Type) where
  worker_id : String
  now : Instant
  /-- `evaluate_and_persist`, where there is an admission service. -/
  admission : Option (Except PyException AdmissionDecision) := none
  media_pending : Except PyException Bool := .ok false
  /-- The coordination, the governance of executions and the arbitration. What it does with reviews and
  sessions is that of the collaborators. -/
  upstream : DispatchCall Uuid (FollowUps Uuid T)
  collaborators : Collaborators Uuid T
  /-- The publishers that were deferred are flushed after the commit of the dispatch. -/
  flush : Except PyException Unit := .ok ()
  /-- What others make of the row before the wait, and before it is marked. -/
  before_wait : IngressDispatchOutboxRecord Uuid → IngressDispatchOutboxRecord Uuid := id
  before_mark : IngressDispatchOutboxRecord Uuid → IngressDispatchOutboxRecord Uuid := id

/-- The status that a call answers. -/
inductive WorkerAnswer
  | not_claimed (reason : String)
  | dead_lettered
  | rescheduled
  | deferred_for_media
  | claim_lost
  | dispatched
  deriving DecidableEq, Repr

section

variable {Uuid T : Type} [DecidableEq Uuid] [Stdlib Uuid] [TextRepr]
  (runtime : IngressDispatchOutboxRuntime) (call : WorkerCall Uuid T)
  (ingress : BoundaryIngressRecord Uuid)

def WorkerCall.dispatching (tenant_id : String) : DispatchCall Uuid (FollowUps Uuid T) :=
  { call.upstream with
    service := { call.upstream.service with
      request_review := fun result => requestReview call.collaborators.approval_queue result.outcome }
    review := reviewed call.collaborators tenant_id
    settle := fun result arbitration s => run (settle call.collaborators ingress tenant_id result arbitration) s }

def bounded_error (exc : PyException) : String := String.ofList (exc.describe.toList.take 1000)

/-- `_dispatch_with_composed_service`: what raises before the commit is rolled back. -/
def dispatch_with_composed_service (tenant_id : String)
    (stores : DispatchStores Uuid (FollowUps Uuid T)) :
    Except PyException Unit × DispatchStores Uuid (FollowUps Uuid T) :=
  match (call.dispatching ingress tenant_id).dispatch ingress tenant_id stores with
  | (.error exc, _) => (.error exc, stores)
  | (.ok _, committed) => (call.flush, committed)

def WorkerCall.claimed (row : IngressDispatchOutboxRecord Uuid) : Except String (Held Uuid) :=
  match claim_due_read runtime row call.worker_id call.now false with
  | .error reason => .error reason
  | .ok claim_id =>
    match claim_ingress_dispatch_outbox row claim_id call.worker_id call.now with
    | none => .error ("outbox_not_claimable:" ++ row.status.value)
    | some outbox => .ok ⟨outbox, claim_id, call.now⟩

/-- The row after a deferral or an exception is settled, and what the call answers. -/
def settled (row : IngressDispatchOutboxRecord Uuid) (held : Held Uuid) (error : String)
    (retry_after_seconds : Option Nat) : WorkerAnswer × IngressDispatchOutboxRecord Uuid :=
  match reschedule_or_dead_letter runtime row held error retry_after_seconds with
  | none => (.rescheduled, row)
  | some row => (if row.status = .dead_lettered then .dead_lettered else .rescheduled, row)

/-- `_wait_for_whatsapp_media_if_pending`: the row that waits, if it does. -/
def wait_for_whatsapp_media_if_pending (row : IngressDispatchOutboxRecord Uuid) (held : Held Uuid) :
    Except PyException (Option (IngressDispatchOutboxRecord Uuid)) :=
  if held.outbox.channel = "whatsapp" ∧
      held.outbox.attempt_count < maxWhatsappMediaWaitReschedules then
    call.media_pending.map fun pending =>
      if pending then
        reschedule runtime row held "whatsapp_media_fetch_pending" (some whatsappMediaWaitRetrySeconds)
      else none
  else .ok none

/-- The end of a call that an exception or a deferral settles. -/
def settledWith (row : IngressDispatchOutboxRecord Uuid) (held : Held Uuid) (error : String)
    (retry_after_seconds : Option Nat) (stores : DispatchStores Uuid (FollowUps Uuid T)) :
    WorkerAnswer × IngressDispatchOutboxRecord Uuid × DispatchStores Uuid (FollowUps Uuid T) :=
  let (answer, row) := settled runtime row held error retry_after_seconds
  (answer, row, stores)

def WorkerCall.dispatchAndMark (row : IngressDispatchOutboxRecord Uuid) (held : Held Uuid)
    (stores : DispatchStores Uuid (FollowUps Uuid T)) :
    WorkerAnswer × IngressDispatchOutboxRecord Uuid × DispatchStores Uuid (FollowUps Uuid T) :=
  let (answer, stores) := dispatch_with_composed_service call ingress held.outbox.tenant_id stores
  let row := call.before_mark row
  match answer with
  | .error exc => settledWith runtime row held (bounded_error exc) none stores
  | .ok _ =>
    match mark_ingress_dispatch_outbox_dispatched row held.claim_id held.now with
    | none => (.claim_lost, row, stores)
    | some row => (.dispatched, row, stores)

def WorkerCall.waitAndDispatch (row : IngressDispatchOutboxRecord Uuid) (held : Held Uuid)
    (stores : DispatchStores Uuid (FollowUps Uuid T)) :
    WorkerAnswer × IngressDispatchOutboxRecord Uuid × DispatchStores Uuid (FollowUps Uuid T) :=
  match wait_for_whatsapp_media_if_pending runtime call row held with
  | .error exc => settledWith runtime row held (bounded_error exc) none stores
  | .ok (some row) => (.deferred_for_media, row, stores)
  | .ok none => call.dispatchAndMark runtime ingress row held stores

def process_ingress_dispatch_outbox_runtime (row : IngressDispatchOutboxRecord Uuid)
    (stores : DispatchStores Uuid (FollowUps Uuid T)) :
    WorkerAnswer × IngressDispatchOutboxRecord Uuid × DispatchStores Uuid (FollowUps Uuid T) :=
  match call.claimed runtime row with
  | .error reason => (.not_claimed reason, row, stores)
  | .ok held =>
    let row := call.before_wait held.outbox
    match call.admission with
    | some (.error exc) => settledWith runtime row held (bounded_error exc) none stores
    | some (.ok decision) =>
      if decision.allowed then call.waitAndDispatch runtime ingress row held stores
      else settledWith runtime row held "ingress dispatch admission deferred"
        (decision.retry_after_seconds.filter (0 < ·)) stores
    | none => call.waitAndDispatch runtime ingress row held stores

end

end operious.ingress
