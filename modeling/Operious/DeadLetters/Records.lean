-- The dead letters of the workers: the row, the claim of its replay and the marks that settle it, and the
-- sweep that makes failed and stale replays retryable again.
import Mathlib.Data.List.Sort
import Operious.Ingress.DispatchOutbox

namespace operious.dead_letters

open operious.ingress (IngressDispatchOutboxStatus)

/-! ## The row -/

inductive ReplayState
  | none | claimed | published | failed
  deriving DecidableEq, Repr

structure DeadLetterTaskRow (Uuid : Type) where
  dead_letter_task_id : Uuid
  tenant_id : String
  task_name : String
  queue : Option String := none
  created_at : Instant
  replayed : Bool := false
  replay_state : ReplayState := .none
  replay_claim_id : Option Uuid := none
  replay_attempt_count : Nat := 0
  replay_claimed_at : Option Instant := none
  replay_last_error : Option String := none
  replayed_at : Option Instant := none
  replayed_by : Option String := none
  /-- The scalars of the metadata, and its two mappings. -/
  metadata : Metadata := .empty
  celery_kwargs : Option Metadata := none
  task_payload : Metadata := .empty
  deriving DecidableEq

inductive DeadLetterError
  | not_found (text : String)
  | already_replayed (text : String)
  | cannot_replay_unknown_task (text : String)
  deriving DecidableEq, Repr

/-! ## The arguments of the replayed task -/

def metadata_str (metadata : Metadata) (key : String) : Option String :=
  match metadata.get? key with
  | some (.str text) => if text.isEmpty then none else some text
  | _ => none

def first_str (first second : Metadata) (key : String) : Option String :=
  (metadata_str first key).or (metadata_str second key)

/-- The arguments of a task: those that it cannot do without, and those that there are. -/
def extract (read : String → Option String) (required optional : List String) : Option Metadata :=
  let found := required.filterMap fun key => (read key).map fun text => (key, Value.str text)
  if found.length = required.length then
    some (Dict.ofList (found ++ optional.filterMap fun key => (read key).map fun text => (key, .str text)))
  else none

def extract_optional_maintenance_kwargs (keys : List String) (payload metadata : Metadata) : Metadata :=
  Dict.ofList (keys.filterMap fun key =>
    match (payload.get? key).or (metadata.get? key) with
    | some .none | none => none
    | some value => some (key, value))

/-- `_FALLBACK_KWARG_EXTRACTORS`, for the payload of the task and the metadata of the row. -/
def fallbackKwargExtractors (payload metadata : Metadata) : List (String × Option Metadata) :=
  let given := extract (first_str payload metadata)
  let maintenance (keys : List String) := some (extract_optional_maintenance_kwargs keys payload metadata)
  [("execute_diagnostic_agent", extract (metadata_str metadata) ["execution_id", "tenant_id"] []),
   ("dispatch_ingress", extract (metadata_str metadata) ["outbox_id"] []),
   ("create_governance_escalation", given ["governance_decision_id", "tenant_id"] ["session_id"]),
   ("evaluate_session_supervisor", given ["session_id", "tenant_id"] []),
   ("score_supervisor_inspection", given ["inspection_id", "tenant_id"] []),
   ("propose_sop_intelligence_change", given ["session_id", "tenant_id"] ["inspection_id"]),
   ("recover_stale_executions", maintenance ["stale_before", "lease_seconds", "limit", "reason"]),
   ("recover_dead_letter_replays",
    maintenance ["claimed_before", "lease_seconds", "limit", "tenant_id", "reason"]),
   ("reconcile_stale_execution_outbox",
    maintenance ["stale_before", "lease_seconds", "limit", "tenant_id", "reason"]),
   ("reconcile_failed_execution_outbox",
    maintenance ["failed_before", "cooldown_seconds", "max_publish_attempts", "limit", "tenant_id", "reason"]),
   ("reconcile_stale_escalation_outbox", maintenance ["stale_before", "lease_seconds", "limit", "tenant_id"]),
   ("cleanup_expired_webhook_nonces", maintenance ["now", "limit"]),
   ("operious.workers.emit_queue_depth_snapshot", some .empty)]

def taskDefaultQueues : List (String × String) :=
  [("execute_diagnostic_agent", "diagnostic.normal"), ("create_governance_escalation", "escalation"),
   ("evaluate_session_supervisor", "supervisor"), ("score_supervisor_inspection", "qa"),
   ("propose_sop_intelligence_change", "sop_intelligence"),
   ("recover_stale_executions", "webhook_maintenance"),
   ("recover_dead_letter_replays", "webhook_maintenance"),
   ("reconcile_stale_execution_outbox", "webhook_maintenance"),
   ("reconcile_failed_execution_outbox", "webhook_maintenance"),
   ("reconcile_stale_escalation_outbox", "webhook_maintenance"),
   ("cleanup_expired_webhook_nonces", "webhook_maintenance"),
   ("operious.workers.emit_queue_depth_snapshot", "webhook_maintenance")]

section

variable {Uuid : Type}

def replay_kwargs_for_row (row : DeadLetterTaskRow Uuid) : Except DeadLetterError Metadata :=
  match row.celery_kwargs.or
      ((fallbackKwargExtractors row.task_payload row.metadata).lookup row.task_name).join with
  | some kwargs => .ok kwargs
  | none => .error (.cannot_replay_unknown_task "cannot_replay_unknown_task")

def queue_for_row (row : DeadLetterTaskRow Uuid) : Except DeadLetterError String :=
  match orStr row.queue (taskDefaultQueues.lookup row.task_name) with
  | some queue => .ok queue
  | none => .error (.cannot_replay_unknown_task "cannot_replay_unknown_task")

/-- `_outbox_id_from_kwargs`, where `parse` is `uuid.UUID` of a text. -/
def outbox_id_from_kwargs (parse : String → Option Uuid) (kwargs : Metadata) :
    Except DeadLetterError Uuid :=
  match kwargs.get? "outbox_id" with
  | some (.str text) =>
    match parse text with
    | some outbox_id => .ok outbox_id
    | none => .error (.cannot_replay_unknown_task "cannot_replay_invalid_ingress_dispatch_outbox")
  | _ => .error (.cannot_replay_unknown_task "cannot_replay_invalid_ingress_dispatch_outbox")

/-! ## The claim of a replay -/

structure DeadLetterReplayClaim (Uuid : Type) where
  dlq_id : Uuid
  queue_name : String
  kwargs : Metadata
  task_name : String
  replayed_at : Instant
  replayed_by : String
  claim_id : Uuid

def DeadLetterTaskRow.replayable (row : DeadLetterTaskRow Uuid) : Bool :=
  !row.replayed && (row.replay_state = .none || row.replay_state = .failed)

variable [Stdlib Uuid]

/-- The tenants have names and the count starts at 1, so the two checks of the source never raise. -/
def derive_replay_claim_id (dlq_id : Uuid) (tenant_id : String) (replay_attempt_count : Nat) : Uuid :=
  Stdlib.uuid5 (Stdlib.uuid "d71c7001-0001-4001-8001-000000000001")
    (Stdlib.str dlq_id ++ "|" ++ tenant_id ++ "|" ++ replay_attempt_count.repr)

def DeadLetterTaskRow.claim (row : DeadLetterTaskRow Uuid) (replayed_by : String)
    (replayed_at : Instant) : DeadLetterTaskRow Uuid :=
  let claim_id := derive_replay_claim_id row.dead_letter_task_id row.tenant_id (row.replay_attempt_count + 1)
  { row with
    replay_state := .claimed
    replay_claim_id := some claim_id
    replay_attempt_count := row.replay_attempt_count + 1
    replay_claimed_at := some replayed_at
    replay_last_error := none
    replayed := false
    replayed_at := none
    replayed_by := some replayed_by
    metadata := row.metadata.update
      [("replay.claimed_at", .str (Stdlib.isoformat Uuid replayed_at)),
       ("replay.claim_id", .str (Stdlib.str claim_id))] }

/-- `_is_published_ingress_replay_retryable`, where `status` is that of the outbox row of an id. -/
def is_published_ingress_replay_retryable (parse : String → Option Uuid)
    (status : Uuid → Option IngressDispatchOutboxStatus) (row : DeadLetterTaskRow Uuid) :
    Except DeadLetterError Bool :=
  if row.task_name ≠ "dispatch_ingress" ∨ row.replayed = false ∨ row.replay_state ≠ .published then
    .ok false
  else do
    let kwargs ← replay_kwargs_for_row row
    let outbox_id ← outbox_id_from_kwargs parse kwargs
    match status outbox_id with
    | none => .error (.cannot_replay_unknown_task "cannot_replay_missing_ingress_dispatch_outbox")
    | some status => .ok (status = .dead_lettered)

/-- The row can be replayed, for the first time or again. -/
def assert_replayable (parse : String → Option Uuid) (status : Uuid → Option IngressDispatchOutboxStatus)
    (row : DeadLetterTaskRow Uuid) : Except DeadLetterError Unit :=
  if row.replayable then .ok ()
  else do
    let retryable ← is_published_ingress_replay_retryable parse status row
    if retryable then .ok () else .error (.already_replayed "dead-letter replay already in progress")

/-- `_claim_dead_letter_replay` of a row that is not locked by another. The row stands under its lock, so
the update finds it as it was read. -/
def claim_dead_letter_replay (parse : String → Option Uuid)
    (status : Uuid → Option IngressDispatchOutboxStatus) (row : DeadLetterTaskRow Uuid)
    (replayed_by : String) (replayed_at : Instant) :
    Except DeadLetterError (DeadLetterTaskRow Uuid × DeadLetterReplayClaim Uuid) := do
  assert_replayable parse status row
  let queue_name ← queue_for_row row
  let kwargs ← replay_kwargs_for_row row
  return (row.claim replayed_by replayed_at, {
    dlq_id := row.dead_letter_task_id, queue_name, kwargs, task_name := row.task_name, replayed_at,
    replayed_by
    claim_id := derive_replay_claim_id row.dead_letter_task_id row.tenant_id (row.replay_attempt_count + 1) })

/-! ## The marks -/

section

variable [DecidableEq Uuid]

def DeadLetterTaskRow.claimedUnder (row : DeadLetterTaskRow Uuid) (claim : DeadLetterReplayClaim Uuid) :
    Bool :=
  row.dead_letter_task_id = claim.dlq_id && row.replay_state = .claimed &&
    row.replay_claim_id = some claim.claim_id && !row.replayed

/-- `_mark_dead_letter_replay_published` where the task was published, and else
`_mark_dead_letter_replay_failed` with the error of the publisher. -/
def mark_dead_letter_replay (claim : DeadLetterReplayClaim Uuid) (outcome : Except String Unit)
    (settled_at : Instant) (row : DeadLetterTaskRow Uuid) : DeadLetterTaskRow Uuid :=
  if row.claimedUnder claim then
    match outcome with
    | .ok _ => { row with
        replay_state := .published, replayed := true, replayed_at := some settled_at
        replayed_by := some claim.replayed_by, replay_last_error := none
        metadata := row.metadata.update [("replay.published_at", .str (Stdlib.isoformat Uuid settled_at))] }
    | .error error => { row with
        replay_state := .failed, replay_last_error := some error, replayed := false, replayed_at := none
        replayed_by := some claim.replayed_by
        metadata := row.metadata.update
          [("replay.failed_at", .str (Stdlib.isoformat Uuid settled_at)), ("replay.failure", .str error)] }
  else row

end

/-! ## The sweep -/

structure Sweep where
  claimed_before_or_at : Instant
  tenant_id : Option String := none
  limit : Nat
  limit_pos : 0 < limit := by decide

def DeadLetterTaskRow.stale (claimed_before_or_at : Instant) (row : DeadLetterTaskRow Uuid) : Bool :=
  row.replay_state = .claimed && row.replay_claimed_at.any (· ≤ claimed_before_or_at)

def Sweep.selects (sweep : Sweep) (row : DeadLetterTaskRow Uuid) : Bool :=
  sweep.tenant_id.all (· = row.tenant_id) && !row.replayed &&
    (row.replay_state = .failed || row.stale sweep.claimed_before_or_at)

def DeadLetterTaskRow.before (a b : DeadLetterTaskRow Uuid) : Prop :=
  a.created_at < b.created_at ∨
    a.created_at = b.created_at ∧ Stdlib.str a.dead_letter_task_id ≤ Stdlib.str b.dead_letter_task_id

instance : DecidableRel (@DeadLetterTaskRow.before Uuid _) := fun a b =>
  inferInstanceAs (Decidable (a.created_at < b.created_at ∨
    a.created_at = b.created_at ∧ Stdlib.str a.dead_letter_task_id ≤ Stdlib.str b.dead_letter_task_id))

/-- The rows that the sweep gets: the oldest ones, and no more than its limit. -/
def Sweep.window (sweep : Sweep) (rows : List (DeadLetterTaskRow Uuid)) : List Uuid :=
  (((rows.filter sweep.selects).insertionSort DeadLetterTaskRow.before).take sweep.limit).map
    (·.dead_letter_task_id)

/-- The row as the sweep leaves it. -/
def DeadLetterTaskRow.recover (row : DeadLetterTaskRow Uuid) (reason : String) (recovered_at : Instant) :
    DeadLetterTaskRow Uuid :=
  { row with
    replay_state := .failed, replay_claim_id := none, replay_claimed_at := none
    replay_last_error := some reason
    metadata := row.metadata.update
      [("replay_recovery.reason", .str reason),
       ("replay_recovery.recovered_at", .str (Stdlib.isoformat Uuid recovered_at))] }

/-- The row after a sweep that got the rows of the window. -/
def Sweep.sweep [DecidableEq Uuid] (sweep : Sweep) (window : List Uuid) (reason : String)
    (recovered_at : Instant) (row : DeadLetterTaskRow Uuid) : DeadLetterTaskRow Uuid :=
  if sweep.selects row && window.contains row.dead_letter_task_id then row.recover reason recovered_at
  else row

def recover_dead_letter_replays [DecidableEq Uuid] (sweep : Sweep) (reason : String)
    (recovered_at : Instant) (rows : List (DeadLetterTaskRow Uuid)) : List (DeadLetterTaskRow Uuid) :=
  rows.map (sweep.sweep (sweep.window rows) reason recovered_at)

end

end operious.dead_letters
