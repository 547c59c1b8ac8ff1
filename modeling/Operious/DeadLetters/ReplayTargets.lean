-- A replay and its target. The row of a captured message is made pending again before its task is
-- published; the execution of a diagnostic is not, and no worker claims one that is dead-lettered.
import Operious.DeadLetters.Replays
import Operious.Execution.Memory

namespace operious.dead_letters

open operious.execution_runtime (ExecutionRecord ExecutionState InMemoryExecutionPersistence)
open operious.ingress
open runs

section

variable {Uuid : Type} [DecidableEq Uuid] [Stdlib Uuid]

/-! ## The replay -/

/-- What the tasks work on: the executions of diagnostics, and the outbox of captured messages. -/
structure Targets (Uuid : Type) where
  executions : InMemoryExecutionPersistence Uuid
  outbox : Uuid → Option (IngressDispatchOutboxRecord Uuid)

def Targets.outboxOf (targets : Targets Uuid) (tenant_id : String) (outbox_id : Uuid) :
    Option (IngressDispatchOutboxRecord Uuid) :=
  (targets.outbox outbox_id).filter (·.tenant_id = tenant_id)

/-- `a or b`, for a value of the metadata. -/
def orValue : Option Value → Value → Value
  | none, b | some .none, b | some (.bool false), b | some (.int 0), b | some (.str ""), b => b
  | some a, _ => a

/-- The outbox row, pending and due from the replay on, with a retry budget of its own. -/
def reset (row : IngressDispatchOutboxRecord Uuid) (claim : DeadLetterReplayClaim Uuid) :
    IngressDispatchOutboxRecord Uuid :=
  { row with
    status := .pending, claim_id := none, worker_id := none, claimed_at := none, dispatched_at := none
    attempt_count := 0, next_attempt_at := some claim.replayed_at, created_at := claim.replayed_at
    last_error := none
    metadata := row.metadata.update
      [("replay.dead_letter_task_id", .str (Stdlib.str claim.dlq_id)),
       ("replay.reset_at", .str (Stdlib.isoformat Uuid claim.replayed_at)),
       ("replay.reset_by", .str claim.replayed_by),
       ("replay.original_created_at",
        orValue (row.metadata.get? "replay.original_created_at")
          (.str (Stdlib.isoformat Uuid row.created_at)))] }

variable (parse : String → Option Uuid)

def prepare_claimed_replay_target (targets : Targets Uuid) (claim : DeadLetterReplayClaim Uuid)
    (tenant_id : String) : Except DeadLetterError (Targets Uuid) :=
  if claim.task_name ≠ "dispatch_ingress" then .ok targets
  else do
    let outbox_id ← outbox_id_from_kwargs parse claim.kwargs
    match targets.outboxOf tenant_id outbox_id with
    | none => .error (.cannot_replay_unknown_task "cannot_replay_missing_ingress_dispatch_outbox")
    | some row =>
      if row.status = .claimed ∨ row.status = .dispatched then .ok targets
      else .ok { targets with outbox := Function.update targets.outbox outbox_id (some (reset row claim)) }

/-- What follows the commit of the claim: the publisher raises, or it returns and the mark is committed or
raises. -/
inductive Publication
  | raises (error : String)
  | returns (marked : Bool)

/-- What a replay leaves, and the claim under which it answers `replayed`, or none where it raises. -/
structure ReplayResult (Uuid : Type) where
  replayed : Option (DeadLetterReplayClaim Uuid)
  row : DeadLetterTaskRow Uuid
  targets : Targets Uuid

def claim_and_prepare (targets : Targets Uuid) (row : DeadLetterTaskRow Uuid) (replayed_by : String)
    (replayed_at : Instant) :
    Except DeadLetterError (DeadLetterTaskRow Uuid × DeadLetterReplayClaim Uuid × Targets Uuid) := do
  let (row', claim) ← claim_dead_letter_replay parse
    (fun outbox_id => (targets.outboxOf row.tenant_id outbox_id).map (·.status)) row replayed_by replayed_at
  let targets' ← prepare_claimed_replay_target parse targets claim row.tenant_id
  return (row', claim, targets')

/-- `replay_dead_letter` for the tenant of the row. -/
def replay_dead_letter (targets : Targets Uuid) (row : DeadLetterTaskRow Uuid) (replayed_by : String)
    (replayed_at settled_at : Instant) (publication : Publication) : ReplayResult Uuid :=
  match claim_and_prepare parse targets row replayed_by replayed_at with
  | .error _ => ⟨none, row, targets⟩
  | .ok (row', claim, targets') =>
    match publication with
    | .raises error => ⟨none, mark_dead_letter_replay claim (.error error) settled_at row', targets'⟩
    | .returns true => ⟨some claim, mark_dead_letter_replay claim (.ok ()) settled_at row', targets'⟩
    | .returns false => ⟨none, row', targets'⟩

/-! ## The first step of the replayed task -/

/-- The execution that the arguments of a task name. -/
def executionIdOf (kwargs : Metadata) : Option Uuid :=
  match kwargs.get? "execution_id" with
  | some (.str text) => parse text
  | _ => none

def executionOf (targets : Targets Uuid) (kwargs : Metadata) : Option (ExecutionRecord Uuid) :=
  (executionIdOf parse kwargs).bind targets.executions.executions.get?

/-- The outbox row that the arguments of a task name. -/
def outboxRowOf (targets : Targets Uuid) (kwargs : Metadata) : Option (IngressDispatchOutboxRecord Uuid) :=
  (outbox_id_from_kwargs parse kwargs).toOption.bind targets.outbox

variable (runtime : IngressDispatchOutboxRuntime)

/-- The first step of the task on its target: `claim_execution`, or `claim_due_outbox`. -/
def claimsTarget (targets : Targets Uuid) (claim : DeadLetterReplayClaim Uuid) (worker_id : String)
    (now : Instant) : Bool :=
  if claim.task_name = "execute_diagnostic_agent" then
    (executionIdOf parse claim.kwargs).any fun execution_id =>
      match targets.executions.claimExecution execution_id worker_id now with
      | .ok (some _, _) => true
      | _ => false
  else if claim.task_name = "dispatch_ingress" then
    (outboxRowOf parse targets claim.kwargs).any fun row =>
      (claim_due_read runtime row worker_id now false).isOk
  else false

def takenByAnother (targets : Targets Uuid) (claim : DeadLetterReplayClaim Uuid) : Bool :=
  if claim.task_name = "execute_diagnostic_agent" then
    (executionOf parse targets claim.kwargs).any fun execution =>
      execution.state = .claimed || execution.state = .completed || execution.state = .failed
  else if claim.task_name = "dispatch_ingress" then
    (outboxRowOf parse targets claim.kwargs).any fun row =>
      row.status = .claimed || row.status = .dispatched
  else false

/-- The row is under a claim, which its operator settles or a sweep takes back; or it can be claimed, at
least from some state of its target. -/
def CanBeReplayed (row : DeadLetterTaskRow Uuid) : Prop :=
  row.replay_state = .claimed ∨ ∃ status, assert_replayable parse status row = .ok ()

/-- A replay that raises leaves a row that can be replayed again, and one that answers has published a task
whose first step succeeds, while the budget of the replay lasts, unless another run has its target. -/
def Revives (replayed_at : Instant) (result : ReplayResult Uuid) : Prop :=
  match result.replayed with
  | none => CanBeReplayed parse result.row
  | some claim =>
    takenByAnother parse result.targets claim = true ∨
      ∀ worker_id now, replayed_at ≤ now → now < replayed_at + seconds runtime.max_age_seconds →
        claimsTarget parse runtime result.targets claim worker_id now = true

/-! ## The rows that the workers record -/

def queue_for_ingress_dispatch_channel (channel : String) : String :=
  if channel = "whatsapp" then "ingress.whatsapp"
  else if channel = "shopify" then "ingress.shopify"
  else "ingress.email"

/-- The arguments that the worker of diagnostics records for its task. -/
def diagnosticKwargs (execution_id : Uuid) (tenant_id : String) : Metadata :=
  Dict.ofList [("execution_id", .str (Stdlib.str execution_id)), ("tenant_id", .str tenant_id)]

/-- `uuid.UUID` reads the text of the id back. -/
def ReadBack (id : Uuid) : Prop := Stdlib.str id ≠ "" ∧ parse (Stdlib.str id) = some id

/-- What the rows of the three workers are when they are recorded, and stay through replays and sweeps. No
replay of an outbound message has its arguments, so none is ever claimed. -/
inductive Recorded (row : DeadLetterTaskRow Uuid) : Prop
  | diagnostic (execution_id : Uuid) (id : ReadBack parse execution_id)
      (task : row.task_name = "execute_diagnostic_agent") (queue : row.queue = some "diagnostic.normal")
      (kwargs : row.celery_kwargs = some (diagnosticKwargs execution_id row.tenant_id))
  | ingress (outbox_id : Uuid) (id : ReadBack parse outbox_id) (channel : String)
      (task : row.task_name = "dispatch_ingress")
      (queue : row.queue = some (queue_for_ingress_dispatch_channel channel))
      (kwargs : row.celery_kwargs = none)
      (target : row.metadata.get? "outbox_id" = some (.str (Stdlib.str outbox_id)))
  | outbound_send
      (task : row.task_name = "send_outbound_draft" ∨ row.task_name = "outbound_send_needs_reconciliation")
      (kwargs : row.celery_kwargs = none) (unclaimed : row.replay_state = .none)

/-- A row of the three workers, as replays and sweeps have left it. -/
structure Replayed (row : DeadLetterTaskRow Uuid) : Prop where
  recorded : Recorded parse row
  published : row.replayed = true ↔ row.replay_state = .published

/-- The condition of a replay: a diagnostic has not been published by an earlier replay, and its execution
is not dead-lettered, unless its replay is still under a claim. -/
def Revivable (targets : Targets Uuid) (row : DeadLetterTaskRow Uuid) : Prop :=
  row.task_name = "execute_diagnostic_agent" → row.replay_state ≠ .published ∧
    (row.replay_state = .claimed ∨
      ∃ execution ∈ row.celery_kwargs.bind (executionOf parse targets), execution.state ≠ .deadLettered)

variable {parse runtime} {targets targets' : Targets Uuid} {row row' : DeadLetterTaskRow Uuid}
  {claim : DeadLetterReplayClaim Uuid} {replayed_by : String} {replayed_at : Instant}

/-! ## What a replay that raises leaves -/

omit [DecidableEq Uuid] [Stdlib Uuid] in
theorem canBeReplayed_of_replayable (h : row.replayable = true) : CanBeReplayed parse row :=
  .inr ⟨fun _ => none, if_pos h⟩

omit [DecidableEq Uuid] in
theorem Replayed.replayable (h : Replayed parse row) (hclaimed : row.replay_state ≠ .claimed)
    (hpublished : row.replay_state ≠ .published) : row.replayable = true := by
  have hopen : row.replayed = false := Bool.eq_false_iff.mpr fun hr => hpublished (h.published.mp hr)
  unfold DeadLetterTaskRow.replayable
  rw [hopen]
  cases hstate : row.replay_state with
  | none => rfl
  | failed => rfl
  | claimed => exact absurd hstate hclaimed
  | published => exact absurd hstate hpublished

theorem claim_and_prepare_ok
    (h : claim_and_prepare parse targets row replayed_by replayed_at = .ok (row', claim, targets')) :
    claim_dead_letter_replay parse
        (fun outbox_id => (targets.outboxOf row.tenant_id outbox_id).map (·.status)) row replayed_by
        replayed_at = .ok (row', claim) ∧
      prepare_claimed_replay_target parse targets claim row.tenant_id = .ok targets' := by
  unfold claim_and_prepare at h
  obtain ⟨⟨_, _⟩, hclaim, h⟩ := bind_eq_ok.mp h
  obtain ⟨_, hprepared, h⟩ := bind_eq_ok.mp h
  cases h
  exact ⟨hclaim, hprepared⟩

theorem claimed_canBeReplayed {status : Uuid → Option IngressDispatchOutboxStatus}
    (h : claim_dead_letter_replay parse status row replayed_by replayed_at = .ok (row', claim))
    (error : String) (settled_at : Instant) :
    CanBeReplayed parse (mark_dead_letter_replay claim (.error error) settled_at row') ∧
      CanBeReplayed parse row' := by
  obtain ⟨rfl, -, queue_name, heq⟩ := claim_dead_letter_replay_ok h
  refine ⟨canBeReplayed_of_replayable ?_, .inl rfl⟩
  have hunder : (row.claim replayed_by replayed_at).claimedUnder claim = true := by
    rw [heq]
    simp [DeadLetterTaskRow.claimedUnder, DeadLetterTaskRow.claim, DeadLetterTaskRow.claimId]
  rw [mark_dead_letter_replay, if_pos hunder]
  rfl

theorem revives_of (settled_at : Instant) (publication : Publication)
    (hraised : ∀ error, claim_and_prepare parse targets row replayed_by replayed_at = .error error →
      CanBeReplayed parse row)
    (hreplayed : ∀ row' claim targets',
      claim_and_prepare parse targets row replayed_by replayed_at = .ok (row', claim, targets') →
      takenByAnother parse targets' claim = true ∨
        ∀ worker_id now, replayed_at ≤ now → now < replayed_at + seconds runtime.max_age_seconds →
          claimsTarget parse runtime targets' claim worker_id now = true) :
    Revives parse runtime replayed_at
      (replay_dead_letter parse targets row replayed_by replayed_at settled_at publication) := by
  unfold replay_dead_letter
  cases hclaim : claim_and_prepare parse targets row replayed_by replayed_at with
  | error error => exact hraised error hclaim
  | ok claimed =>
    obtain ⟨row', claim, targets'⟩ := claimed
    have hopen := claimed_canBeReplayed (claim_and_prepare_ok hclaim).1
    cases publication with
    | raises error => exact (hopen error settled_at).1
    | returns marked =>
      cases marked with
      | false => exact (hopen "" settled_at).2
      | true => exact hreplayed row' claim targets' hclaim

/-! ## The three workers -/

variable {execution_id : Uuid}

omit [DecidableEq Uuid] in
theorem replay_kwargs_diagnostic
    (kwargs : row.celery_kwargs = some (diagnosticKwargs execution_id row.tenant_id)) :
    replay_kwargs_for_row row = .ok (diagnosticKwargs execution_id row.tenant_id) := by
  unfold replay_kwargs_for_row
  rw [kwargs]
  rfl

variable {outbox_id : Uuid}

omit [DecidableEq Uuid] in
theorem replay_kwargs_ingress (hstr : Stdlib.str outbox_id ≠ "")
    (task : row.task_name = "dispatch_ingress") (kwargs : row.celery_kwargs = none)
    (target : row.metadata.get? "outbox_id" = some (.str (Stdlib.str outbox_id))) :
    replay_kwargs_for_row row = .ok (Dict.ofList [("outbox_id", .str (Stdlib.str outbox_id))]) := by
  have htext : metadata_str row.metadata "outbox_id" = some (Stdlib.str outbox_id) := by
    rw [metadata_str, target]
    exact if_neg fun hempty => hstr (String.isEmpty_iff.mp hempty)
  have hlookup : (fallbackKwargExtractors row.task_payload row.metadata).lookup "dispatch_ingress" =
      some (extract (metadata_str row.metadata) ["outbox_id"] []) := rfl
  unfold replay_kwargs_for_row
  rw [kwargs, task, hlookup]
  simp [extract, htext]

omit [DecidableEq Uuid] [Stdlib Uuid] in
theorem replay_kwargs_outbound_send
    (task : row.task_name = "send_outbound_draft" ∨ row.task_name = "outbound_send_needs_reconciliation")
    (kwargs : row.celery_kwargs = none) :
    replay_kwargs_for_row row = .error (.cannot_replay_unknown_task "cannot_replay_unknown_task") := by
  unfold replay_kwargs_for_row
  rw [kwargs]
  rcases task with task | task <;> rw [task] <;> rfl

omit [DecidableEq Uuid] in
theorem executionIdOf_diagnostic (hparse : parse (Stdlib.str execution_id) = some execution_id)
    (tenant_id : String) :
    executionIdOf parse (diagnosticKwargs execution_id tenant_id) = some execution_id :=
  hparse

omit [DecidableEq Uuid] in
theorem outbox_id_ingress (hparse : parse (Stdlib.str outbox_id) = some outbox_id) :
    outbox_id_from_kwargs parse (Dict.ofList [("outbox_id", .str (Stdlib.str outbox_id))]) = .ok outbox_id := by
  have hget : (Dict.ofList [("outbox_id", Value.str (Stdlib.str outbox_id))]).get? "outbox_id" =
      some (.str (Stdlib.str outbox_id)) := rfl
  rw [outbox_id_from_kwargs, hget]
  simp only [hparse]

theorem claims_execution (executions : InMemoryExecutionPersistence Uuid) (execution_id : Uuid)
    (worker_id : String) (now : Instant) :
    (match executions.claimExecution execution_id worker_id now with
      | .ok (some _, _) => true
      | _ => false) = (executions.executions.get? execution_id).any (·.state = .requested) := by
  unfold InMemoryExecutionPersistence.claimExecution
  cases executions.executions.get? execution_id with
  | none => rfl
  | some execution =>
    rcases Decidable.em (execution.state = .requested) with hrequested | hother
    · simp [hrequested]
    · simp [hother]

theorem diagnostic_revives_iff {tenant_id : String}
    (hparse : parse (Stdlib.str execution_id) = some execution_id)
    (task : claim.task_name = "execute_diagnostic_agent")
    (kwargs : claim.kwargs = diagnosticKwargs execution_id tenant_id) (worker_id : String)
    (now : Instant) :
    (takenByAnother parse targets claim = true ∨
        claimsTarget parse runtime targets claim worker_id now = true) ↔
      ∃ execution ∈ executionOf parse targets (diagnosticKwargs execution_id tenant_id),
        execution.state ≠ .deadLettered := by
  unfold takenByAnother claimsTarget executionOf
  rw [if_pos task, if_pos task, kwargs, executionIdOf_diagnostic hparse, Option.bind_some, Option.any_some,
    claims_execution]
  cases targets.executions.executions.get? execution_id with
  | none => simp
  | some execution =>
    simp only [Option.any_some, Option.mem_some_iff, exists_eq_left', Bool.or_eq_true, decide_eq_true_eq]
    cases execution.state <;> simp

omit [DecidableEq Uuid] in
theorem claim_due_reset (outbox : IngressDispatchOutboxRecord Uuid) (worker_id : String) {now : Instant}
    (hdue : claim.replayed_at ≤ now) (hyoung : now < claim.replayed_at + seconds runtime.max_age_seconds) :
    (claim_due_read runtime (reset outbox claim) worker_id now false).isOk = true := by
  have hbudget : should_dead_letter runtime (reset outbox claim) now = false := by
    exact Bool.or_eq_false_iff.mpr
      ⟨decide_eq_false runtime.attempts_pos.not_ge, decide_eq_false (not_le.mpr hyoung)⟩
  unfold claim_due_read
  rw [hbudget]
  simp [reset, not_lt.mpr hdue, Except.isOk, Except.toBool]

/-- The task of a captured message finds its outbox row pending and due, or another run has it. -/
theorem ingress_revives (hread : ReadBack parse outbox_id)
    (task : row.task_name = "dispatch_ingress") (kwargs : row.celery_kwargs = none)
    (target : row.metadata.get? "outbox_id" = some (.str (Stdlib.str outbox_id)))
    (h : claim_and_prepare parse targets row replayed_by replayed_at = .ok (row', claim, targets')) :
    takenByAnother parse targets' claim = true ∨
      ∀ worker_id now, replayed_at ≤ now → now < replayed_at + seconds runtime.max_age_seconds →
        claimsTarget parse runtime targets' claim worker_id now = true := by
  obtain ⟨hclaim, hprepared⟩ := claim_and_prepare_ok h
  obtain ⟨-, hkwargs, queue_name, heq⟩ := claim_dead_letter_replay_ok hclaim
  have htask : claim.task_name = "dispatch_ingress" := (congrArg (·.task_name) heq).trans task
  have hat : claim.replayed_at = replayed_at := congrArg (·.replayed_at) heq
  have hid : outbox_id_from_kwargs parse claim.kwargs = .ok outbox_id := by
    rw [← Except.ok.inj ((replay_kwargs_ingress hread.1 task kwargs target).symm.trans hkwargs)]
    exact outbox_id_ingress hread.2
  have hdiagnostic : claim.task_name ≠ "execute_diagnostic_agent" := by
    rw [htask]
    decide
  unfold takenByAnother claimsTarget outboxRowOf
  rw [if_neg hdiagnostic, if_pos htask, hid]
  unfold prepare_claimed_replay_target at hprepared
  rw [if_neg (not_not.mpr htask), hid] at hprepared
  change (match targets.outboxOf row.tenant_id outbox_id with
    | none => _
    | some outbox => _) = _ at hprepared
  cases houtbox : targets.outboxOf row.tenant_id outbox_id with
  | none =>
    rw [houtbox] at hprepared
    cases hprepared
  | some outbox =>
    rw [houtbox] at hprepared
    have hstored : targets.outbox outbox_id = some outbox := (Option.filter_eq_some_iff.mp houtbox).1
    simp only at hprepared
    split at hprepared
    · rename_i htaken
      obtain rfl := Except.ok.inj hprepared
      left
      simp [Except.toOption, hstored, htaken]
    · obtain rfl := Except.ok.inj hprepared
      right
      intro worker_id now hdue hyoung
      rw [if_neg hdiagnostic, if_pos htask]
      have hreset : (claim_due_read runtime (reset outbox _) worker_id now false).isOk = true :=
        claim_due_reset outbox worker_id (hat.symm ▸ hdue) (hat.symm ▸ hyoung)
      simpa [Except.toOption] using hreset

theorem diagnostic_claimed (task : row.task_name = "execute_diagnostic_agent")
    (queue : row.queue = some "diagnostic.normal")
    (kwargs : row.celery_kwargs = some (diagnosticKwargs execution_id row.tenant_id))
    (hopen : row.replayable = true) (replayed_by : String) (replayed_at : Instant) :
    ∃ row' claim, claim_and_prepare parse targets row replayed_by replayed_at = .ok (row', claim, targets) ∧
      claim.task_name = "execute_diagnostic_agent" ∧
      claim.kwargs = diagnosticKwargs execution_id row.tenant_id := by
  have hqueue : queue_for_row row = .ok "diagnostic.normal" := by
    rw [queue_for_row, queue]
    rfl
  have hprepared : ∀ claim : DeadLetterReplayClaim Uuid, claim.task_name = "execute_diagnostic_agent" →
      prepare_claimed_replay_target parse targets claim row.tenant_id = .ok targets := by
    intro claim htask
    refine if_pos ?_
    rw [htask]
    decide
  let claim : DeadLetterReplayClaim Uuid := {
    dlq_id := row.dead_letter_task_id, queue_name := "diagnostic.normal"
    kwargs := diagnosticKwargs execution_id row.tenant_id, task_name := row.task_name
    replayed_at, replayed_by, claim_id := row.claimId (row.replay_attempt_count + 1) }
  refine ⟨row.claim replayed_by replayed_at, claim, ?_, task, rfl⟩
  unfold claim_and_prepare claim_dead_letter_replay assert_replayable
  rw [if_pos hopen, hqueue, replay_kwargs_diagnostic kwargs]
  exact bind_eq_ok.mpr ⟨(_, claim), rfl, bind_eq_ok.mpr ⟨targets, hprepared claim task, rfl⟩⟩

omit [DecidableEq Uuid] [Stdlib Uuid] in
theorem diagnostic_refused (task : row.task_name = "execute_diagnostic_agent")
    (hstate : row.replay_state = .claimed ∨ row.replay_state = .published)
    (status : Uuid → Option IngressDispatchOutboxStatus) :
    assert_replayable parse status row =
      .error (.already_replayed "dead-letter replay already in progress") := by
  have hclosed : row.replayable = false := by
    unfold DeadLetterTaskRow.replayable
    rcases hstate with hstate | hstate <;> simp [hstate]
  have hother : row.task_name ≠ "dispatch_ingress" := by
    rw [task]
    decide
  unfold assert_replayable is_published_ingress_replay_retryable
  rw [hclosed, if_neg Bool.false_ne_true, if_pos (.inl hother)]
  rfl

omit [DecidableEq Uuid] in
theorem ingress_canBeReplayed (h : Replayed parse row) (hid : ReadBack parse outbox_id)
    (task : row.task_name = "dispatch_ingress") (kwargs : row.celery_kwargs = none)
    (target : row.metadata.get? "outbox_id" = some (.str (Stdlib.str outbox_id))) :
    CanBeReplayed parse row := by
  rcases Decidable.em (row.replay_state = .claimed) with hclaimed | hclaimed
  · exact .inl hclaimed
  rcases Decidable.em (row.replay_state = .published) with hpublished | hpublished
  · -- it is claimed again once its outbox row is dead-lettered again
    refine .inr ⟨fun _ => some .dead_lettered, ?_⟩
    have hreplayed : row.replayed = true := h.published.mpr hpublished
    have hclosed : row.replayable = false := by
      rw [DeadLetterTaskRow.replayable, hreplayed]
      rfl
    have hretryable : is_published_ingress_replay_retryable parse (fun _ => some .dead_lettered) row =
        .ok true := by
      unfold is_published_ingress_replay_retryable
      rw [if_neg (by simp [task, hreplayed, hpublished]), replay_kwargs_ingress hid.1 task kwargs target]
      exact bind_eq_ok.mpr ⟨_, rfl, bind_eq_ok.mpr ⟨_, outbox_id_ingress hid.2, rfl⟩⟩
    unfold assert_replayable
    rw [hclosed, if_neg Bool.false_ne_true, hretryable]
    rfl
  · exact canBeReplayed_of_replayable (h.replayable hclaimed hpublished)

/-- Every replay of a dead letter that the three workers record revives its work exactly if it is no
diagnostic that an earlier replay has published, or whose execution is dead-lettered when it is replayed. -/
theorem replay_revives_iff (parse : String → Option Uuid) (runtime : IngressDispatchOutboxRuntime)
    (targets : Targets Uuid) {row : DeadLetterTaskRow Uuid} (hrow : Replayed parse row)
    (replayed_by : String) (replayed_at settled_at : Instant) :
    (∀ publication, Revives parse runtime replayed_at
        (replay_dead_letter parse targets row replayed_by replayed_at settled_at publication)) ↔
      Revivable parse targets row := by
  cases hrow.recorded with
  | diagnostic execution_id id task queue kwargs =>
    have hrefused (hstate : row.replay_state = .claimed ∨ row.replay_state = .published) :
        claim_and_prepare parse targets row replayed_by replayed_at =
          .error (.already_replayed "dead-letter replay already in progress") := by
      unfold claim_and_prepare claim_dead_letter_replay
      rw [diagnostic_refused task hstate]
      rfl
    rcases Decidable.em (row.replay_state = .claimed) with hclaimed | hclaimed
    · refine iff_of_true (fun publication => revives_of settled_at publication (fun _ _ => .inl hclaimed) ?_)
        fun _ => ⟨fun hpublished => ?_, .inl hclaimed⟩
      · intro _ _ _ h
        cases (hrefused (.inl hclaimed)).symm.trans h
      · cases hclaimed.symm.trans hpublished
    rcases Decidable.em (row.replay_state = .published) with hpublished | hpublished
    · refine iff_of_false (fun h => ?_) fun h => (h task).1 hpublished
      have hraised := h (.returns true)
      unfold replay_dead_letter at hraised
      rw [hrefused (.inr hpublished)] at hraised
      rcases hraised with hclaimed | ⟨status, hstatus⟩
      · cases hpublished.symm.trans hclaimed
      · cases (diagnostic_refused task (.inr hpublished) status).symm.trans hstatus
    · obtain ⟨row', claim, hclaim, htask, hkwargs⟩ := diagnostic_claimed task queue kwargs
        (hrow.replayable hclaimed hpublished) replayed_by replayed_at
      have hiff : ∀ worker_id now, (takenByAnother parse targets claim = true ∨
          claimsTarget parse runtime targets claim worker_id now = true) ↔
            ∃ execution ∈ executionOf parse targets (diagnosticKwargs execution_id row.tenant_id),
              execution.state ≠ .deadLettered :=
        diagnostic_revives_iff id.2 htask hkwargs
      have hstored : Revivable parse targets row ↔
          ∃ execution ∈ executionOf parse targets (diagnosticKwargs execution_id row.tenant_id),
            execution.state ≠ .deadLettered := by
        unfold Revivable
        rw [kwargs, Option.bind_some]
        exact ⟨fun h => ((h task).2).resolve_left hclaimed, fun h _ => ⟨hpublished, .inr h⟩⟩
      rw [hstored]
      constructor
      · intro h
        have hage : 0 < seconds runtime.max_age_seconds := by
          have hpos := runtime.age_pos
          unfold seconds
          omega
        have hreplayed := h (.returns true)
        unfold replay_dead_letter at hreplayed
        rw [hclaim] at hreplayed
        refine (hiff "worker" replayed_at).mp (hreplayed.imp_right fun hclaims => ?_)
        exact hclaims "worker" replayed_at le_rfl (Int.lt_add_of_pos_right replayed_at hage)
      · intro halive publication
        refine revives_of settled_at publication ?_ fun row'' claim'' targets'' hok => ?_
        · intro error herror
          cases hclaim.symm.trans herror
        · cases hclaim.symm.trans hok
          rcases Bool.eq_false_or_eq_true (takenByAnother parse targets claim) with htaken | hfree
          · exact .inl htaken
          · refine .inr fun worker_id now _ _ => ((hiff worker_id now).mpr halive).resolve_left ?_
            rw [hfree]
            exact Bool.false_ne_true
  | ingress outbox_id id channel task queue kwargs target =>
    refine iff_of_true (fun publication => revives_of settled_at publication (fun _ _ => ?_) ?_) fun h => ?_
    · exact ingress_canBeReplayed hrow id task kwargs target
    · exact fun _ _ _ => ingress_revives id task kwargs target
    · rw [task] at h
      exact absurd h (by decide)
  | outbound_send task kwargs hnone =>
    have hunknown := replay_kwargs_outbound_send task kwargs
    have hopen : row.replayable = true := by
      refine hrow.replayable ?_ ?_ <;> rw [hnone] <;> decide
    refine iff_of_true (fun publication => revives_of settled_at publication (fun _ _ => ?_) ?_) fun h => ?_
    · exact canBeReplayed_of_replayable hopen
    · intro _ _ _ h
      have hkwargs := (claim_dead_letter_replay_ok (claim_and_prepare_ok h).1).2.1
      cases hunknown.symm.trans hkwargs
    · rcases task with task | task <;> rw [task] at h <;> exact absurd h (by decide)

end

/-! ## The replay of a dead-lettered diagnostic -/

def deadDiagnostic : DeadLetterTaskRow String where
  dead_letter_task_id := "d"
  tenant_id := "t"
  task_name := "execute_diagnostic_agent"
  queue := some "diagnostic.normal"
  created_at := 0
  celery_kwargs := some (diagnosticKwargs "e" "t")

def storedIn (state : ExecutionState) : Targets String where
  executions := { InMemoryExecutionPersistence.new with
    executions := Dict.ofList [("e", {
      execution_id := "e", kind := .diagnosticAgent, dispatch_id := "m", session_id := "s", tenant_id := "t"
      state, attempt_count := 1, requested_at := 0 })] }
  outbox _ := none

/-- The replay answers `replayed`, and its task finds an execution that no worker claims. -/
theorem dead_diagnostic_is_not_revived :
    ¬ Revives some {} 1
      (replay_dead_letter some (storedIn .deadLettered) deadDiagnostic "o" 1 2 (.returns true)) := by
  have hrun : (replay_dead_letter some (storedIn .deadLettered) deadDiagnostic "o" 1 2
      (.returns true)).replayed.map (fun claim =>
        (takenByAnother some (storedIn .deadLettered) claim,
          claimsTarget some {} (storedIn .deadLettered) claim "w" 1)) = some (false, false) := by
    decide +kernel
  obtain ⟨claim, hclaim, hrun⟩ := Option.map_eq_some_iff.mp hrun
  intro h
  unfold Revives at h
  rw [hclaim] at h
  rcases h with htaken | hclaims
  · cases htaken.symm.trans (congrArg Prod.fst hrun)
  · cases (hclaims "w" 1 le_rfl (by decide)).symm.trans (congrArg Prod.snd hrun)

/-- The replay of a diagnostic whose execution was requested again revives it. -/
theorem requested_diagnostic_is_revived :
    (∀ publication, Revives some {} 1
        (replay_dead_letter some (storedIn .requested) deadDiagnostic "o" 1 2 publication)) ↔
      Revivable some (storedIn .requested) deadDiagnostic :=
  replay_revives_iff some {} (storedIn .requested)
    ⟨.diagnostic "e" ⟨by decide, rfl⟩ rfl rfl rfl, by decide⟩ "o" 1 2

end operious.dead_letters
