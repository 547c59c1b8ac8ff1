-- The outbox of escalations: its rows, and the calls of the store in memory.
import Operious.Lib.Runs
import Operious.Python

namespace operious.escalation

/-! ## The rows -/

inductive EscalationOutboxStatus
  | pending
  | publishing
  | published
  | failed
  deriving DecidableEq, Repr

/-- The states in which the life of a row ends. -/
def EscalationOutboxStatus.terminal : EscalationOutboxStatus → Bool
  | .published | .failed => true
  | .pending | .publishing => false

structure EscalationOutboxRecord (Uuid : Type) where
  outbox_id : Uuid
  escalation_id : Uuid
  tenant_id : String
  status : EscalationOutboxStatus
  created_at : Instant
  claimed_at : Option Instant := none
  published_at : Option Instant := none
  publisher_id : Option String := none
  claim_id : Option Uuid := none
  republish_count : Nat := 0
  dead_letter : Bool := false
  last_error : Option String := none
  metadata : Metadata := Dict.empty
  deriving DecidableEq

section

variable {Uuid : Type}

/-! ## What a call writes -/

def EscalationOutboxRecord.claimed (record : EscalationOutboxRecord Uuid) (publisher_id : String)
    (claim_id : Uuid) (claimed_at : Instant) : EscalationOutboxRecord Uuid :=
  { record with
    status := .publishing, claimed_at := some claimed_at, publisher_id := some publisher_id
    claim_id := some claim_id, republish_count := record.republish_count + 1, last_error := none }

def EscalationOutboxRecord.publishedAt (record : EscalationOutboxRecord Uuid)
    (published_at : Instant) : EscalationOutboxRecord Uuid :=
  { record with
    status := .published, published_at := some published_at, dead_letter := false
    last_error := none }

section

variable [Stdlib Uuid]

def failureMetadata (Uuid : Type) [Stdlib Uuid] (seen : Metadata) (failed_at : Instant) : Metadata :=
  seen.update [("failed_at", .str (Stdlib.isoformat Uuid failed_at))]

def EscalationOutboxRecord.failedWith (record : EscalationOutboxRecord Uuid) (seen : Metadata)
    (error : String) (failed_at : Instant) (dead_letter : Bool) : EscalationOutboxRecord Uuid :=
  { record with
    status := .failed, dead_letter, last_error := some error
    metadata := failureMetadata Uuid seen failed_at }

def requeueMetadata (Uuid : Type) [Stdlib Uuid] (seen : Metadata) (requeued_at : Instant)
    (reason : String) : Metadata :=
  seen.update
    [("requeued_at", .str (Stdlib.isoformat Uuid requeued_at)), ("requeue_reason", .str reason)]

def EscalationOutboxRecord.requeuedWith (record : EscalationOutboxRecord Uuid) (seen : Metadata)
    (requeued_at : Instant) (reason : String) : EscalationOutboxRecord Uuid :=
  { record with
    status := .pending, claimed_at := none, publisher_id := none, claim_id := none
    last_error := some reason, metadata := requeueMetadata Uuid seen requeued_at reason }

end

/-- The claim is older than `stale_before`. -/
def EscalationOutboxRecord.stale (record : EscalationOutboxRecord Uuid) (stale_before : Instant) :
    Bool :=
  record.status = .publishing && record.claimed_at.any (· < stale_before)

variable [DecidableEq Uuid]

def EscalationOutboxRecord.publishingUnder (record : EscalationOutboxRecord Uuid) (claim_id : Uuid) :
    Bool :=
  record.status = .publishing && record.claim_id = some claim_id

/-! ## The table -/

/-- The rows under their ids, and the row of each escalation. -/
structure OutboxTable (Uuid : Type) [DecidableEq Uuid] where
  outbox : Dict Uuid (EscalationOutboxRecord Uuid)
  outbox_by_escalation : Dict Uuid Uuid
  keyed : ∀ {id record}, outbox.get? id = some record → record.outbox_id = id

namespace OutboxTable

@[ext] theorem ext {t t' : OutboxTable Uuid} (houtbox : t.outbox = t'.outbox)
    (hindex : t.outbox_by_escalation = t'.outbox_by_escalation) : t = t' := by
  cases t
  cases t'
  cases houtbox
  cases hindex
  rfl

/-- The row in place of what its id had. -/
def put (table : OutboxTable Uuid) (record : EscalationOutboxRecord Uuid) : OutboxTable Uuid where
  outbox := table.outbox.set record.outbox_id record
  outbox_by_escalation := table.outbox_by_escalation
  keyed h := by
    rcases Dict.get?_set_cases h with ⟨rfl, rfl⟩ | ⟨-, hold⟩
    · rfl
    · exact table.keyed hold

def get_escalation_outbox (table : OutboxTable Uuid) (outbox_id : Uuid)
    (expected_tenant_id : Option String) : Option (EscalationOutboxRecord Uuid) :=
  (table.outbox.get? outbox_id).filter fun record => expected_tenant_id.all (record.tenant_id = ·)

def get_escalation_outbox_by_escalation (table : OutboxTable Uuid) (escalation_id : Uuid)
    (expected_tenant_id : Option String) : Option (EscalationOutboxRecord Uuid) :=
  (table.outbox_by_escalation.get? escalation_id).bind fun outbox_id =>
    table.get_escalation_outbox outbox_id expected_tenant_id

end OutboxTable

/-! ## The calls -/

inductive OutboxCall (Uuid : Type)
  | claim (escalation_id : Uuid) (publisher_id : String) (claim_id : Uuid) (claimed_at : Instant)
      (expected_tenant_id : Option String)
  | markPublished (outbox_id claim_id : Uuid) (published_at : Instant)
      (expected_tenant_id : Option String)
  | markFailed (outbox_id claim_id : Uuid) (error : String) (failed_at : Instant) (dead_letter : Bool)
      (expected_tenant_id : Option String)
  | requeueStale (outbox_id : Uuid) (stale_before requeued_at : Instant) (reason : String)
      (expected_tenant_id : Option String)

/-- What a call returns, or the text of its `EscalationPersistenceError`. -/
abbrev Answer (Uuid : Type) := Except String (Option (EscalationOutboxRecord Uuid))

section

variable [Stdlib Uuid]

def unknownOutbox (outbox_id : Uuid) : String :=
  "unknown escalation outbox '" ++ Stdlib.str outbox_id ++ "'"

namespace InMemoryEscalationPersistence

def claim_escalation_outbox (table : OutboxTable Uuid) (escalation_id : Uuid) (publisher_id : String)
    (claim_id : Uuid) (claimed_at : Instant) (expected_tenant_id : Option String) :
    Answer Uuid × OutboxTable Uuid :=
  match table.get_escalation_outbox_by_escalation escalation_id expected_tenant_id with
  | none => (.ok none, table)
  | some record =>
    if record.status ≠ .pending then (.ok none, table)
    else
      let claimed := record.claimed publisher_id claim_id claimed_at
      (.ok (some claimed), table.put claimed)

def mark_escalation_outbox_published (table : OutboxTable Uuid) (outbox_id claim_id : Uuid)
    (published_at : Instant) (expected_tenant_id : Option String) : Answer Uuid × OutboxTable Uuid :=
  match table.get_escalation_outbox outbox_id expected_tenant_id with
  | none => (.error (unknownOutbox outbox_id), table)
  | some record =>
    if record.status = .published then
      if record.claim_id = some claim_id then (.ok (some record), table)
      else (.error "escalation outbox publish claim does not match", table)
    else if !record.publishingUnder claim_id then
      (.error "only the active escalation outbox claim can be published", table)
    else
      let updated := record.publishedAt published_at
      (.ok (some updated), table.put updated)

def mark_escalation_outbox_failed (table : OutboxTable Uuid) (outbox_id claim_id : Uuid)
    (error : String) (failed_at : Instant) (dead_letter : Bool) (expected_tenant_id : Option String) :
    Answer Uuid × OutboxTable Uuid :=
  match table.get_escalation_outbox outbox_id expected_tenant_id with
  | none => (.error (unknownOutbox outbox_id), table)
  | some record =>
    if record.status = .failed then
      if record.claim_id = some claim_id then (.ok (some record), table)
      else (.error "escalation outbox failure claim does not match", table)
    else if !record.publishingUnder claim_id then
      (.error "only the active escalation outbox claim can fail publication", table)
    else
      let updated := record.failedWith record.metadata error failed_at dead_letter
      (.ok (some updated), table.put updated)

def requeue_stale_escalation_outbox (table : OutboxTable Uuid) (outbox_id : Uuid)
    (stale_before requeued_at : Instant) (reason : String) (expected_tenant_id : Option String) :
    Answer Uuid × OutboxTable Uuid :=
  match table.get_escalation_outbox outbox_id expected_tenant_id with
  | none => (.ok none, table)
  | some record =>
    if !record.stale stale_before then (.ok none, table)
    else
      let updated := record.requeuedWith record.metadata requeued_at reason
      (.ok (some updated), table.put updated)

def perform (table : OutboxTable Uuid) : OutboxCall Uuid → Answer Uuid × OutboxTable Uuid
  | .claim escalation_id publisher_id claim_id claimed_at expected_tenant_id =>
    claim_escalation_outbox table escalation_id publisher_id claim_id claimed_at expected_tenant_id
  | .markPublished outbox_id claim_id published_at expected_tenant_id =>
    mark_escalation_outbox_published table outbox_id claim_id published_at expected_tenant_id
  | .markFailed outbox_id claim_id error failed_at dead_letter expected_tenant_id =>
    mark_escalation_outbox_failed table outbox_id claim_id error failed_at dead_letter
      expected_tenant_id
  | .requeueStale outbox_id stale_before requeued_at reason expected_tenant_id =>
    requeue_stale_escalation_outbox table outbox_id stale_before requeued_at reason
      expected_tenant_id

end InMemoryEscalationPersistence

end

end

end operious.escalation

-- The outbox of escalations in Postgres. A call reads the row, and updates it later; what others
-- write in between it does not see. The claim is one guarded UPDATE, the requeue one without a guard.
namespace operious.escalation

variable {Uuid : Type} [Stdlib Uuid] [DecidableEq Uuid]

namespace PostgresEscalationPersistence

/-! ## The read -/

/-- What the read of a call gives: its answer, or the metadata with which it goes on to its UPDATE. -/
def read (table : OutboxTable Uuid) : OutboxCall Uuid → Answer Uuid ⊕ Metadata
  | .claim .. => .inr .empty
  | .markPublished outbox_id claim_id _ expected_tenant_id =>
    match table.get_escalation_outbox outbox_id expected_tenant_id with
    | none => .inl (.error (unknownOutbox outbox_id))
    | some current =>
      if current.status = .published then
        if current.claim_id = some claim_id then .inl (.ok (some current))
        else .inl (.error "escalation outbox publish claim does not match")
      else .inr current.metadata
  | .markFailed outbox_id claim_id _ _ _ expected_tenant_id =>
    match table.get_escalation_outbox outbox_id expected_tenant_id with
    | none => .inl (.error (unknownOutbox outbox_id))
    | some record =>
      if record.status = .failed then
        if record.claim_id = some claim_id then .inl (.ok (some record))
        else .inl (.error "escalation outbox failure claim does not match")
      else if !record.publishingUnder claim_id then
        .inl (.error "only the active escalation outbox claim can fail publication")
      else .inr record.metadata
  | .requeueStale outbox_id stale_before _ _ expected_tenant_id =>
    match table.get_escalation_outbox outbox_id expected_tenant_id with
    | none => .inl (.ok none)
    | some record => if !record.stale stale_before then .inl (.ok none) else .inr record.metadata

/-! ## The UPDATE -/

/-- The UPDATE of a call and what it returns: of the row that its WHERE clause finds, with the metadata
that the call has seen. The WHERE clause of a requeue is the id and the tenant. -/
def update (table : OutboxTable Uuid) (seen : Metadata) :
    OutboxCall Uuid → Answer Uuid × OutboxTable Uuid
  | .claim escalation_id publisher_id claim_id claimed_at expected_tenant_id =>
    match (table.get_escalation_outbox_by_escalation escalation_id expected_tenant_id).filter
        (·.status = .pending) with
    | none => (.ok none, table)
    | some record =>
      let claimed := record.claimed publisher_id claim_id claimed_at
      (.ok (some claimed), table.put claimed)
  | .markPublished outbox_id claim_id published_at expected_tenant_id =>
    match (table.get_escalation_outbox outbox_id expected_tenant_id).filter
        (·.publishingUnder claim_id) with
    | none => (.error "only the active escalation outbox claim can be published", table)
    | some record =>
      let updated := record.publishedAt published_at
      (.ok (some updated), table.put updated)
  | .markFailed outbox_id claim_id error failed_at dead_letter expected_tenant_id =>
    match (table.get_escalation_outbox outbox_id expected_tenant_id).filter
        (·.publishingUnder claim_id) with
    | none => (.error (unknownOutbox outbox_id), table)
    | some record =>
      let updated := record.failedWith seen error failed_at dead_letter
      (.ok (some updated), table.put updated)
  | .requeueStale outbox_id _ requeued_at reason expected_tenant_id =>
    match table.get_escalation_outbox outbox_id expected_tenant_id with
    | none => (.ok none, table)
    | some record =>
      let updated := record.requeuedWith seen requeued_at reason
      (.ok (some updated), table.put updated)

end PostgresEscalationPersistence

/-! ## Publishers and reconcilers -/

/-- The committed rows, and the calls that have read and not yet updated, one to a caller. -/
structure World (Uuid : Type) [DecidableEq Uuid] where
  table : OutboxTable Uuid
  calls : List (Nat × OutboxCall Uuid × Metadata)

inductive Act (Uuid : Type)
  | read (caller : Nat) (call : OutboxCall Uuid)
  | update (caller : Nat)

/-- The call that ends in a step, with its answer and the rows after it. A read ends its call where it
answers it. -/
def ending (w : World Uuid) : Act Uuid → Option (OutboxCall Uuid × Answer Uuid × OutboxTable Uuid)
  | .read _ call =>
    match PostgresEscalationPersistence.read w.table call with
    | .inl answer => some (call, answer, w.table)
    | .inr _ => none
  | .update caller => (w.calls.find? (·.1 = caller)).map fun (_, call, seen) =>
    (call, PostgresEscalationPersistence.update w.table seen call)

def step (w : World Uuid) : Act Uuid → Option (World Uuid)
  | .read caller call =>
    match PostgresEscalationPersistence.read w.table call with
    | .inl _ => some w
    | .inr seen => some { w with calls := (caller, call, seen) :: w.calls }
  | .update caller =>
    match w.calls.find? (·.1 = caller) with
    | none => none
    | some (_, call, seen) => some {
        table := (PostgresEscalationPersistence.update w.table seen call).2
        calls := w.calls.filter (·.1 ≠ caller) }

end operious.escalation
