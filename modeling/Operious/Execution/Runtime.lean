-- The runtime calls that move an execution: what each checks, the one store call it makes, and
-- what it answers. A run of the runtime is a list of these calls.
import Operious.Execution.Memory

namespace operious.execution_runtime

variable {Uuid : Type} [DecidableEq Uuid] [Stdlib Uuid]

structure ExecutionClaimResult (Uuid : Type) where
  claimed : Bool
  execution : Option (ExecutionRecord Uuid)
  attempt : Option (ExecutionAttemptRecord Uuid) := none
  reason : Option String := none

structure ExecutionRecoveryResult (Uuid : Type) where
  recovered : Bool
  execution : Option (ExecutionRecord Uuid)
  attempt : Option (ExecutionAttemptRecord Uuid) := none
  reason : Option String := none

/-- The metadata that a request stores: what the caller gave, and the admission that let it in. -/
def requestMetadata (admission : GovernanceAdmissionToken Uuid) (metadata : Metadata) : Metadata :=
  let decided :=
    match metadata.get? "governance.decision_id" with
    | some _ => metadata
    | none => metadata.set "governance.decision_id"
        (.str (Stdlib.str admission.governance_decision_id))
  let admitted := decided.update
    [("execution_governance.evaluation_id",
        .str (Stdlib.str admission.execution_governance_evaluation_id)),
      ("execution_governance.admitted_at", .str (Stdlib.isoformat Uuid admission.admitted_at))]
  admitted.update
    ((admission.execution_governance_config_id.toList.map fun id =>
        ("execution_governance.config_id", Value.str (Stdlib.str id))) ++
      (admission.execution_governance_config_version.toList.map fun v =>
        ("execution_governance.version", Value.int v)) ++
      (admission.execution_governance_config_sha256.toList.map fun h =>
        ("execution_governance.content_sha256", Value.str h)))

def requestDiagnosticExecution (s : InMemoryExecutionPersistence Uuid)
    (dispatch_id session_id tenant_id : String)
    (admission_token : Option (GovernanceAdmissionToken Uuid)) (requested_at : Instant)
    (metadata : Metadata) : Outcome Uuid (ExecutionRecord Uuid) :=
  if tenant_id.isEmpty then .error (.value "execution request requires tenant_id")
  else
    match admission_token with
    | none => .error (.admission "diagnostic execution requires governance admission")
    | some admission =>
      if admission.tenant_id ≠ tenant_id then
        .error (.admission "governance admission token tenant does not match execution tenant")
      else
        let request_metadata := requestMetadata admission metadata
        match deriveExecutionId ExecutionKind.diagnosticAgent.value dispatch_id session_id
            (some tenant_id) with
        | .error e => .error e
        | .ok execution_id =>
          s.requestExecution
            { execution_id, kind := .diagnosticAgent, dispatch_id, session_id, tenant_id,
              state := .requested, attempt_count := 0, requested_at,
              governance_decision_id := some admission.governance_decision_id,
              execution_governance_evaluation_id :=
                some admission.execution_governance_evaluation_id,
              governance_admitted_at := some admission.admitted_at,
              execution_governance_config_id := admission.execution_governance_config_id,
              execution_governance_config_version :=
                admission.execution_governance_config_version,
              execution_governance_config_sha256 := admission.execution_governance_config_sha256,
              metadata := request_metadata }
            { outbox_id := deriveOutboxId execution_id, execution_id, state := .pending,
              created_at := requested_at,
              metadata :=
                (Dict.ofList [("execution.kind", .str ExecutionKind.diagnosticAgent.value)]).update
                  request_metadata.items }

def claimExecution (s : InMemoryExecutionPersistence Uuid) (execution_id : Uuid)
    (worker_id : String) (claimed_at : Instant) : Outcome Uuid (ExecutionClaimResult Uuid) :=
  if worker_id.isEmpty then .error (.value "worker_id must be non-empty")
  else
    match s.claimExecution execution_id worker_id claimed_at with
    | .error e => .error e
    | .ok (some claimed, s') => .ok (⟨true, some claimed.execution, some claimed.attempt, none⟩, s')
    | .ok (none, s') =>
      match s'.executions.get? execution_id with
      | none => .ok (⟨false, none, none, some "execution_not_found"⟩, s')
      | some current =>
        .ok (⟨false, some current, none,
          some ("execution_not_claimable:" ++ current.state.value)⟩, s')

def validateWorkerId (worker_id : String) : Except ExecutionError Unit :=
  if worker_id.isEmpty then .error (.value "worker_id must be non-empty") else .ok ()

def completeExecution (s : InMemoryExecutionPersistence Uuid) (execution_id : Uuid)
    (attempt_id : Option Uuid) (worker_id : String) (result : ExecutionResultEnvelope)
    (completed_at : Instant) (diagnostic_category : Option String)
    (diagnostic_confidence : Option Rat) : Outcome Uuid (ExecutionTransitionResult Uuid) :=
  match validateWorkerId worker_id with
  | .error e => .error e
  | .ok () =>
    s.completeExecution execution_id attempt_id result completed_at worker_id
      (orStr diagnostic_category result.diagnostic_category)
      (diagnostic_confidence.or result.diagnostic_confidence)

def failExecution (s : InMemoryExecutionPersistence Uuid) (execution_id : Uuid)
    (attempt_id : Option Uuid) (worker_id error : String) (failed_at : Instant)
    (retry_requested : Bool) (result : Option ExecutionResultEnvelope) :
    Outcome Uuid (ExecutionTransitionResult Uuid) :=
  match validateWorkerId worker_id with
  | .error e => .error e
  | .ok () =>
    s.failExecution execution_id attempt_id error failed_at retry_requested worker_id
      (result.getD { error_code := some "execution_failed", error_message := some error })

def deadLetterExecution (s : InMemoryExecutionPersistence Uuid) (execution_id : Uuid)
    (attempt_id : Option Uuid) (worker_id error : String) (dead_lettered_at : Instant)
    (result : Option ExecutionResultEnvelope) :
    Outcome Uuid (ExecutionTransitionResult Uuid) :=
  match validateWorkerId worker_id with
  | .error e => .error e
  | .ok () =>
    s.deadLetterExecution execution_id attempt_id error dead_lettered_at worker_id
      (result.getD { error_code := some "execution_dead_lettered", error_message := some error })

def recoverStaleExecution (s : InMemoryExecutionPersistence Uuid) (execution_id : Uuid)
    (stale_before recovered_at : Instant) (reason : String) :
    Outcome Uuid (ExecutionRecoveryResult Uuid) :=
  if reason.isEmpty then .error (.value "recovery reason must be non-empty")
  else
    match s.recoverStaleExecution execution_id stale_before recovered_at reason with
    | .error e => .error e
    | .ok (some recovered, s') =>
      .ok (⟨true, some recovered.execution, some recovered.attempt, none⟩, s')
    | .ok (none, s') =>
      match s'.executions.get? execution_id with
      | none => .ok (⟨false, none, none, some "execution_not_found"⟩, s')
      | some current =>
        if current.state ≠ .claimed then
          .ok (⟨false, some current, none,
            some ("execution_not_claimed:" ++ current.state.value)⟩, s')
        else .ok (⟨false, some current, none, some "execution_not_stale"⟩, s')

/-! ## Runs -/

inductive RuntimeCall (Uuid : Type)
  | request (dispatch_id session_id tenant_id : String)
      (admission_token : Option (GovernanceAdmissionToken Uuid)) (requested_at : Instant)
      (metadata : Metadata)
  | claim (execution_id : Uuid) (worker_id : String) (claimed_at : Instant)
  | complete (execution_id : Uuid) (attempt_id : Option Uuid) (worker_id : String)
      (result : ExecutionResultEnvelope) (completed_at : Instant)
      (diagnostic_category : Option String) (diagnostic_confidence : Option Rat)
  | fail (execution_id : Uuid) (attempt_id : Option Uuid) (worker_id error : String)
      (failed_at : Instant) (retry_requested : Bool) (result : Option ExecutionResultEnvelope)
  | deadLetter (execution_id : Uuid) (attempt_id : Option Uuid) (worker_id error : String)
      (dead_lettered_at : Instant) (result : Option ExecutionResultEnvelope)
  | recoverStale (execution_id : Uuid) (stale_before recovered_at : Instant) (reason : String)

def perform (s : InMemoryExecutionPersistence Uuid) :
    RuntimeCall Uuid → InMemoryExecutionPersistence Uuid
  | .request dispatch_id session_id tenant_id admission_token requested_at metadata =>
    Outcome.storeAfter s (requestDiagnosticExecution s dispatch_id session_id tenant_id
      admission_token requested_at metadata)
  | .claim execution_id worker_id claimed_at =>
    Outcome.storeAfter s (claimExecution s execution_id worker_id claimed_at)
  | .complete execution_id attempt_id worker_id result completed_at category confidence =>
    Outcome.storeAfter s (completeExecution s execution_id attempt_id worker_id result completed_at
      category confidence)
  | .fail execution_id attempt_id worker_id error failed_at retry_requested result =>
    Outcome.storeAfter s (failExecution s execution_id attempt_id worker_id error failed_at
      retry_requested result)
  | .deadLetter execution_id attempt_id worker_id error dead_lettered_at result =>
    Outcome.storeAfter s (deadLetterExecution s execution_id attempt_id worker_id error
      dead_lettered_at result)
  | .recoverStale execution_id stale_before recovered_at reason =>
    Outcome.storeAfter s (recoverStaleExecution s execution_id stale_before recovered_at reason)

/-- The store calls that the runtime makes. Only a request says something of its rows: they are
fresh, and the ids are derived. -/
def StoreCall.FromRuntime : StoreCall Uuid → Prop
  | .request execution outbox =>
    execution.state = .requested ∧ execution.attempt_count = 0 ∧
      outbox.outbox_id = deriveOutboxId execution.execution_id ∧
      outbox.execution_id = execution.execution_id ∧ outbox.claim_id = none ∧
      outbox.publish_attempt_count = 0
  | _ => True

/-- A runtime call fails a check and leaves the store alone, or it makes its one store call. -/
theorem perform_cases (s : InMemoryExecutionPersistence Uuid) (c : RuntimeCall Uuid) :
    perform s c = s ∨ ∃ call : StoreCall Uuid, call.FromRuntime ∧ perform s c = applyCall s call := by
  cases c with
  | request dispatch_id session_id tenant_id token t metadata =>
    simp only [perform, requestDiagnosticExecution]
    split_ifs
    · exact Or.inl rfl
    · split
      · exact Or.inl rfl
      · split_ifs
        · exact Or.inl rfl
        · split
          · exact Or.inl rfl
          · exact Or.inr ⟨.request _ _, ⟨rfl, rfl, rfl, rfl, rfl, rfl⟩, rfl⟩
  | claim e w t =>
    simp only [perform, claimExecution]
    split_ifs
    · exact Or.inl rfl
    · refine Or.inr ⟨.claim e w t, trivial, ?_⟩
      simp only [applyCall]
      cases InMemoryExecutionPersistence.claimExecution s e w t with
      | error e => rfl
      | ok p =>
        obtain ⟨_ | claimed, s'⟩ := p
        · simp only
          split <;> rfl
        · rfl
  | complete e a w result t category confidence =>
    simp only [perform, completeExecution]
    split
    · exact Or.inl rfl
    · exact Or.inr ⟨.complete e a result t w _ _, trivial, rfl⟩
  | fail e a w error t retry_requested result =>
    simp only [perform, failExecution]
    split
    · exact Or.inl rfl
    · exact Or.inr ⟨.fail e a error t retry_requested w _, trivial, rfl⟩
  | deadLetter e a w error t result =>
    simp only [perform, deadLetterExecution]
    split
    · exact Or.inl rfl
    · exact Or.inr ⟨.deadLetter e a error t w _, trivial, rfl⟩
  | recoverStale e stale_before recovered_at reason =>
    simp only [perform, recoverStaleExecution]
    split_ifs
    · exact Or.inl rfl
    · refine Or.inr ⟨.recoverStale e stale_before recovered_at reason, trivial, ?_⟩
      simp only [applyCall]
      cases InMemoryExecutionPersistence.recoverStaleExecution s e stale_before recovered_at
          reason with
      | error e => rfl
      | ok p =>
        obtain ⟨_ | recovered, s'⟩ := p
        · simp only
          split
          · rfl
          · split_ifs <;> rfl
        · rfl

/-- The system of the runtime calls: none of them is ever refused, an error is an answer. -/
def nextCall (s : InMemoryExecutionPersistence Uuid) (c : RuntimeCall Uuid) :
    Option (InMemoryExecutionPersistence Uuid) := some (perform s c)

theorem after_nextCall (s : InMemoryExecutionPersistence Uuid) (cs : List (RuntimeCall Uuid)) :
    runs.after nextCall s cs = some (cs.foldl perform s) := by
  induction cs generalizing s with
  | nil => rfl
  | cons c cs ih => exact ih (perform s c)

/-- A store that runtime calls made from the empty one. -/
def Reachable (s : InMemoryExecutionPersistence Uuid) : Prop :=
  runs.Reaches nextCall .new s

end operious.execution_runtime
