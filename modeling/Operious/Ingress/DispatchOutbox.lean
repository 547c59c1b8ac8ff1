-- The outbox of captured messages that are to be dispatched: a row, the calls of its store, and the retry
-- budget.
import Operious.Python

namespace operious.ingress

/-! ## The row -/

inductive IngressDispatchOutboxStatus
  | pending | claimed | dispatched | dead_lettered
  deriving DecidableEq, Repr

def IngressDispatchOutboxStatus.value : IngressDispatchOutboxStatus → String
  | pending => "pending"
  | claimed => "claimed"
  | dispatched => "dispatched"
  | dead_lettered => "dead_lettered"

/-- The states in which the life of a row ends. -/
def IngressDispatchOutboxStatus.terminal : IngressDispatchOutboxStatus → Bool
  | dispatched | dead_lettered => true
  | pending | claimed => false

structure IngressDispatchOutboxRecord (Uuid : Type) where
  outbox_id : Uuid
  ingress_id : Uuid
  tenant_id : String
  channel : String
  status : IngressDispatchOutboxStatus
  created_at : Instant
  next_attempt_at : Option Instant := none
  claimed_at : Option Instant := none
  dispatched_at : Option Instant := none
  claim_id : Option Uuid := none
  worker_id : Option String := none
  attempt_count : Nat := 0
  last_error : Option String := none
  metadata : Metadata := .empty

section

variable {Uuid : Type}

/-! ## The calls of the store -/

def IngressDispatchOutboxRecord.claimable (row : IngressDispatchOutboxRecord Uuid)
    (claimed_at : Instant) : Bool :=
  row.status = .pending && !row.next_attempt_at.any (claimed_at < ·)

def claim_ingress_dispatch_outbox (row : IngressDispatchOutboxRecord Uuid) (claim_id : Uuid)
    (worker_id : String) (claimed_at : Instant) : Option (IngressDispatchOutboxRecord Uuid) :=
  if row.claimable claimed_at then some { row with
    status := .claimed
    claim_id := some claim_id
    worker_id := some worker_id
    claimed_at := some claimed_at
    attempt_count := row.attempt_count + 1
    last_error := none }
  else none

section

variable [DecidableEq Uuid]

/-- `_matching_claim_locked`: the row stands under the claim. -/
def IngressDispatchOutboxRecord.claimedUnder (row : IngressDispatchOutboxRecord Uuid)
    (claim_id : Uuid) : Bool :=
  row.status = .claimed && row.claim_id = some claim_id

def mark_ingress_dispatch_outbox_dispatched (row : IngressDispatchOutboxRecord Uuid)
    (claim_id : Uuid) (dispatched_at : Instant) : Option (IngressDispatchOutboxRecord Uuid) :=
  if row.claimedUnder claim_id then some { row with
    status := .dispatched
    dispatched_at := some dispatched_at
    last_error := none }
  else none

variable [Stdlib Uuid]

def reschedule_ingress_dispatch_outbox (row : IngressDispatchOutboxRecord Uuid) (claim_id : Uuid)
    (next_attempt_at : Instant) (error : String) : Option (IngressDispatchOutboxRecord Uuid) :=
  if row.claimedUnder claim_id then some { row with
    status := .pending
    claim_id := none
    worker_id := none
    claimed_at := none
    next_attempt_at := some next_attempt_at
    last_error := some error
    metadata := row.metadata.update
      [("retry.next_attempt_at", .str (Stdlib.isoformat Uuid next_attempt_at)),
       ("retry.last_error", .str error)] }
  else none

def dead_letter_ingress_dispatch_outbox (row : IngressDispatchOutboxRecord Uuid) (claim_id : Uuid)
    (error : String) (dead_lettered_at : Instant) : Option (IngressDispatchOutboxRecord Uuid) :=
  if row.claimedUnder claim_id then some { row with
    status := .dead_lettered
    last_error := some error
    metadata := row.metadata.update
      [("dead_lettered_at", .str (Stdlib.isoformat Uuid dead_lettered_at)),
       ("dead_letter.reason", .str error)] }
  else none

end

/-- The claim of the row is as old as `stale_before`. -/
def IngressDispatchOutboxRecord.stale (row : IngressDispatchOutboxRecord Uuid)
    (stale_before : Instant) : Bool :=
  row.status = .claimed && row.claimed_at.any (· ≤ stale_before)

variable [Stdlib Uuid]

def requeue_stale_ingress_dispatch_outbox (row : IngressDispatchOutboxRecord Uuid)
    (stale_before requeued_at : Instant) (reason : String) :
    Option (IngressDispatchOutboxRecord Uuid) :=
  if row.stale stale_before then some { row with
    status := .pending
    claim_id := none
    worker_id := none
    claimed_at := none
    last_error := some reason
    metadata := row.metadata.update
      [("reconciler.reason", .str reason),
       ("reconciler.requeued_at", .str (Stdlib.isoformat Uuid requeued_at))] }
  else none

/-- The callers pass a worker id that is not empty and count from 1, so the two checks of the source never
raise. -/
def derive_ingress_dispatch_claim_id (outbox_id : Uuid) (worker_id : String) (attempt_count : Nat) :
    Uuid :=
  Stdlib.uuid5 (Stdlib.uuid "ab4ea0b5-a3f6-4ae7-8e51-a42ec5edc8f9")
    (Stdlib.str outbox_id ++ "|" ++ worker_id ++ "|" ++ attempt_count.repr)

/-! ## The runtime -/

/-- `timedelta(seconds=...)`. -/
def seconds (n : Nat) : Int := n * 1000000

def maxRetryDelaySeconds : Nat := 3600

def maxWhatsappMediaWaitReschedules : Nat := 3

def whatsappMediaWaitRetrySeconds : Nat := 30

/-- The settings of the runtime. Others than positive ones raise when it is made. -/
structure IngressDispatchOutboxRuntime where
  max_attempts : Nat := 5
  max_age_seconds : Nat := 24 * 60 * 60
  retry_base_seconds : Nat := 30
  attempts_pos : 0 < max_attempts := by decide
  age_pos : 0 < max_age_seconds := by decide
  base_pos : 0 < retry_base_seconds := by decide

variable (runtime : IngressDispatchOutboxRuntime)

def should_dead_letter (outbox : IngressDispatchOutboxRecord Uuid) (now : Instant) : Bool :=
  runtime.max_attempts ≤ outbox.attempt_count ||
    outbox.created_at + seconds runtime.max_age_seconds ≤ now

def retry_delay_seconds (attempt_count : Nat) : Nat :=
  min (runtime.retry_base_seconds * 2 ^ (attempt_count - 1)) maxRetryDelaySeconds

/-- The read of `claim_due_outbox`: the id of the claim that is to be made, or why there is none. -/
def claim_due_read (current : IngressDispatchOutboxRecord Uuid) (worker_id : String) (now : Instant)
    (allow_exhausted : Bool) : Except String Uuid :=
  if current.status ≠ .pending then .error ("outbox_not_claimable:" ++ current.status.value)
  else if current.next_attempt_at.any (now < ·) then .error "outbox_not_due"
  else if !allow_exhausted && should_dead_letter runtime current now then
    .error "outbox_retry_budget_exhausted"
  else .ok (derive_ingress_dispatch_claim_id current.outbox_id worker_id (current.attempt_count + 1))

/-- What a worker holds after its claim: the row as it claimed it, the claim and its time. -/
structure Held (Uuid : Type) where
  outbox : IngressDispatchOutboxRecord Uuid
  claim_id : Uuid
  now : Instant

variable [DecidableEq Uuid]

/-- `reschedule`, of the row that is there. -/
def reschedule (row : IngressDispatchOutboxRecord Uuid) (held : Held Uuid) (error : String)
    (retry_after_seconds : Option Nat) : Option (IngressDispatchOutboxRecord Uuid) :=
  let delay := (retry_after_seconds.filter (0 < ·)).getD
    (retry_delay_seconds runtime held.outbox.attempt_count)
  reschedule_ingress_dispatch_outbox row held.claim_id (held.now + seconds delay) error

/-- `_reschedule_or_dead_letter`, of the row that is there. -/
def reschedule_or_dead_letter (row : IngressDispatchOutboxRecord Uuid) (held : Held Uuid)
    (error : String) (retry_after_seconds : Option Nat) :
    Option (IngressDispatchOutboxRecord Uuid) :=
  if should_dead_letter runtime held.outbox held.now then
    dead_letter_ingress_dispatch_outbox row held.claim_id error held.now
  else reschedule runtime row held error retry_after_seconds

variable {retry_after_seconds : Option Nat} {held : Held Uuid} {error : String}

theorem reschedule_or_dead_letter_eq_some {row row' : IngressDispatchOutboxRecord Uuid}
    (h : reschedule_or_dead_letter runtime row held error retry_after_seconds = some row') :
    row.claimedUnder held.claim_id = true ∧
      row'.status = if should_dead_letter runtime held.outbox held.now then .dead_lettered
        else .pending := by
  unfold reschedule_or_dead_letter at h
  split at h
  · unfold dead_letter_ingress_dispatch_outbox at h
    split at h <;> cases h
    rename_i hspent hclaim
    exact ⟨hclaim, (if_pos hspent).symm⟩
  · unfold reschedule reschedule_ingress_dispatch_outbox at h
    simp only at h
    split at h <;> cases h
    rename_i hspent hclaim
    exact ⟨hclaim, (if_neg hspent).symm⟩

theorem reschedule_or_dead_letter_eq_none {row : IngressDispatchOutboxRecord Uuid}
    (h : reschedule_or_dead_letter runtime row held error retry_after_seconds = none) :
    row.claimedUnder held.claim_id = false := by
  unfold reschedule_or_dead_letter at h
  split at h
  · unfold dead_letter_ingress_dispatch_outbox at h
    split at h
    · cases h
    · exact Bool.not_eq_true _ ▸ ‹_›
  · unfold reschedule reschedule_ingress_dispatch_outbox at h
    simp only at h
    split at h
    · cases h
    · exact Bool.not_eq_true _ ▸ ‹_›

end

end operious.ingress
