-- The outbox of governed customer replies: its rows, how a row and its ids are made, and the calls
-- of the store. A call of the Postgres store is one guarded UPDATE; where it writes metadata, it
-- writes over what a read before it saw, and the store in memory over what the row has.
import Mathlib.Data.List.Sort
import Operious.Python

namespace operious.outbound

/-! ## The rows -/

inductive OutboundSendOutboxStatus
  | pending
  | claimed
  | sent
  | deadLettered
  /-- A stale claim whose send may have gone out: verify first, never requeued. -/
  | needsReconciliation
  deriving DecidableEq, Repr

def OutboundSendOutboxStatus.value : OutboundSendOutboxStatus → String
  | .pending => "pending"
  | .claimed => "claimed"
  | .sent => "sent"
  | .deadLettered => "dead_lettered"
  | .needsReconciliation => "needs_reconciliation"

/-- The states in which the life of a row ends. -/
def OutboundSendOutboxStatus.terminal : OutboundSendOutboxStatus → Bool
  | .sent | .deadLettered | .needsReconciliation => true
  | .pending | .claimed => false

structure OutboundSendOutboxRecord (Uuid : Type) where
  outbox_id : Uuid
  tenant_id : String
  channel : String
  action : String
  draft_id : Uuid
  proposal_id : Uuid
  session_id : String
  dispatch_id : String
  governance_decision_id : Uuid
  recipient : String
  draft_body_sha256 : String
  status : OutboundSendOutboxStatus
  created_at : Instant
  updated_at : Instant
  next_attempt_at : Option Instant := none
  claimed_at : Option Instant := none
  sent_at : Option Instant := none
  send_attempted_at : Option Instant := none
  claim_id : Option Uuid := none
  worker_id : Option String := none
  attempt_count : Nat := 0
  provider_message_id : Option String := none
  last_error : Option String := none
  metadata : Metadata := Dict.empty
  deriving DecidableEq

/-! ## How a row is made -/

section

variable {Uuid : Type} [Stdlib Uuid]

def outboxNamespace : Uuid := Stdlib.uuid "a4b45608-9bb9-4adf-85d9-1809f9e7bd8e"
def claimNamespace : Uuid := Stdlib.uuid "b94fe9d1-b4f0-47d9-81d8-7c25b0378c58"

/-- `_required_text`. An error is the text of the `ValueError`. -/
def requiredText (name value : String) : Except String String :=
  let text := strip value
  if text.isEmpty then .error (name ++ " must be non-empty") else .ok text

def requiredSha256 (Uuid : Type) [Stdlib Uuid] (value : String) : Except String String := do
  let text := Stdlib.lower Uuid (← requiredText "draft_body_sha256" value)
  if (ascii.chars text).length ≠ 64 ||
      (ascii.chars text).any (!(ascii.chars "0123456789abcdef").contains ·) then
    .error "draft_body_sha256 must be a lowercase sha256 hex digest"
  else .ok text

def deriveOutboundSendOutboxId (tenant_id : String) (draft_id : Uuid)
    (channel recipient action : String) : Except String Uuid := do
  let tenant ← requiredText "tenant_id" tenant_id
  let channel := Stdlib.lower Uuid (← requiredText "channel" channel)
  let recipient ← requiredText "recipient" recipient
  let action ← requiredText "action" action
  .ok (Stdlib.uuid5 outboxNamespace
    (tenant ++ "|" ++ Stdlib.str draft_id ++ "|" ++ channel ++ "|" ++ recipient ++ "|" ++ action))

def deriveOutboundSendClaimId (outbox_id : Uuid) (worker_id : String) (attempt_count : Nat) :
    Except String Uuid :=
  if attempt_count < 1 then .error "attempt_count must be positive"
  else do
    let worker ← requiredText "worker_id" worker_id
    .ok (Stdlib.uuid5 claimNamespace
      (Stdlib.str outbox_id ++ "|" ++ worker ++ "|" ++ attempt_count.repr))

/-- The arguments of `make_outbound_send_outbox_record`, its ids parsed and its clock read. -/
structure SendRequest (Uuid : Type) where
  tenant_id : String
  channel : String
  action : String
  draft_id : Uuid
  proposal_id : Uuid
  session_id : String
  dispatch_id : String
  governance_decision_id : Uuid
  recipient : String
  draft_body_sha256 : String
  created_at : Instant
  metadata : Metadata := Dict.empty

def makeOutboundSendOutboxRecord (r : SendRequest Uuid) :
    Except String (OutboundSendOutboxRecord Uuid) := do
  let tenant ← requiredText "tenant_id" r.tenant_id
  let normalized_channel := Stdlib.lower Uuid (← requiredText "channel" r.channel)
  let normalized_action ← requiredText "action" r.action
  let recipient_text ← requiredText "recipient" r.recipient
  let digest ← requiredSha256 Uuid r.draft_body_sha256
  let outbox_id ← deriveOutboundSendOutboxId tenant r.draft_id normalized_channel recipient_text
    normalized_action
  let session_id ← requiredText "session_id" r.session_id
  let dispatch_id ← requiredText "dispatch_id" r.dispatch_id
  .ok
    { outbox_id, tenant_id := tenant, channel := normalized_channel, action := normalized_action
      draft_id := r.draft_id, proposal_id := r.proposal_id, session_id, dispatch_id
      governance_decision_id := r.governance_decision_id, recipient := recipient_text
      draft_body_sha256 := digest, status := .pending, created_at := r.created_at
      updated_at := r.created_at, metadata := r.metadata }

/-- What a row must be when it enters a store: nobody has claimed it or sent it. -/
structure Fresh (row : OutboundSendOutboxRecord Uuid) : Prop where
  pending : row.status = .pending
  unclaimed : row.claim_id = none ∧ row.worker_id = none ∧ row.claimed_at = none
  uncounted : row.attempt_count = 0
  unattempted : row.send_attempted_at = none
  unsent : row.provider_message_id = none

theorem makeOutboundSendOutboxRecord_fresh {r : SendRequest Uuid}
    {row : OutboundSendOutboxRecord Uuid} (h : makeOutboundSendOutboxRecord r = .ok row) :
    Fresh row := by
  simp only [makeOutboundSendOutboxRecord, bind_eq_ok] at h
  obtain ⟨_, -, _, -, _, -, _, -, _, -, _, -, _, -, _, -, h⟩ := h
  cases h
  exact ⟨rfl, ⟨rfl, rfl, rfl⟩, rfl, rfl, rfl⟩

end

/-! ## The store -/

abbrev UniqueKey (Uuid : Type) := String × Uuid × String × String × String

def OutboundSendOutboxRecord.uniqueKey {Uuid : Type} (record : OutboundSendOutboxRecord Uuid) :
    UniqueKey Uuid :=
  (record.tenant_id, record.draft_id, record.channel, record.recipient, record.action)

structure InMemoryOutboundSendOutboxPersistence (Uuid : Type) where
  records : Dict Uuid (OutboundSendOutboxRecord Uuid)
  by_unique : Dict (UniqueKey Uuid) Uuid

structure OutboundSendOutboxQuery (Uuid : Type) where
  outbox_id : Option Uuid := none
  tenant_id : Option String := none
  draft_id : Option Uuid := none
  proposal_id : Option Uuid := none
  status : Option OutboundSendOutboxStatus := none
  channel : Option String := none
  due_before_or_at : Option Instant := none
  claimed_before_or_at : Option Instant := none
  limit : Nat := 100
  offset : Nat := 0

structure OutboundSendOutboxPage (Uuid : Type) where
  records : List (OutboundSendOutboxRecord Uuid)
  total : Nat
  limit : Nat
  offset : Nat

/-- The filters of a query. A row that is due has no next attempt, or one that has come. -/
def OutboundSendOutboxQuery.admits {Uuid : Type} [DecidableEq Uuid]
    (query : OutboundSendOutboxQuery Uuid) (r : OutboundSendOutboxRecord Uuid) : Bool :=
  query.outbox_id.all (r.outbox_id = ·) && query.tenant_id.all (r.tenant_id = ·) &&
    query.draft_id.all (r.draft_id = ·) && query.proposal_id.all (r.proposal_id = ·) &&
    query.status.all (r.status = ·) && query.channel.all (r.channel = ·) &&
    query.due_before_or_at.all (fun t => r.next_attempt_at.all (· ≤ t)) &&
    query.claimed_before_or_at.all (fun t => r.claimed_at.any (· ≤ t))

/-- What a guarded call gives: the row as it wrote it, or none and the store as it was. -/
abbrev Written (Uuid : Type) :=
  Option (OutboundSendOutboxRecord Uuid) × InMemoryOutboundSendOutboxPersistence Uuid

namespace InMemoryOutboundSendOutboxPersistence

def new {Uuid : Type} : InMemoryOutboundSendOutboxPersistence Uuid := ⟨Dict.empty, Dict.empty⟩

variable {Uuid : Type} [DecidableEq Uuid] [Stdlib Uuid]

def createOutboundSendOutbox (s : InMemoryOutboundSendOutboxPersistence Uuid)
    (record : OutboundSendOutboxRecord Uuid) : Written Uuid :=
  match s.by_unique.get? record.uniqueKey with
  | some existing_id => (s.records.get? existing_id, s)
  | none =>
    (some record,
      { records := s.records.set record.outbox_id record
        by_unique := s.by_unique.set record.uniqueKey record.outbox_id })

def getOutboundSendOutbox (s : InMemoryOutboundSendOutboxPersistence Uuid) (outbox_id : Uuid) :
    Option (OutboundSendOutboxRecord Uuid) :=
  s.records.get? outbox_id

/-- The order of a listing: by the next attempt, or else the creation, then by the creation. -/
def dueBefore (a b : OutboundSendOutboxRecord Uuid) : Prop :=
  a.next_attempt_at.getD a.created_at < b.next_attempt_at.getD b.created_at ∨
    a.next_attempt_at.getD a.created_at = b.next_attempt_at.getD b.created_at ∧
      a.created_at ≤ b.created_at

instance (a b : OutboundSendOutboxRecord Uuid) : Decidable (dueBefore a b) := by
  unfold dueBefore
  infer_instance

def listOutboundSendOutbox (s : InMemoryOutboundSendOutboxPersistence Uuid)
    (query : OutboundSendOutboxQuery Uuid) : OutboundSendOutboxPage Uuid :=
  let records := (s.records.values.filter query.admits).insertionSort dueBefore
  { records := (records.drop query.offset).take query.limit
    total := records.length, limit := query.limit, offset := query.offset }

omit [Stdlib Uuid] in
theorem ids_nodup {s : InMemoryOutboundSendOutboxPersistence Uuid}
    (hkeyed : ∀ id r, s.records.get? id = some r → r.outbox_id = id) :
    (s.records.values.map (·.outbox_id)).Nodup := by
  have hkeys : s.records.values.map (·.outbox_id) = s.records.items.map Prod.fst := by
    rw [Dict.values, List.map_map]
    exact List.map_congr_left fun p hp => hkeyed p.1 p.2 ((Dict.get?_eq_some_iff _ _ _).mpr hp)
  rw [hkeys]
  exact s.records.distinct

/-! ### The guards -/

def duePending (s : InMemoryOutboundSendOutboxPersistence Uuid) (outbox_id : Uuid)
    (claimed_at : Instant) : Option (OutboundSendOutboxRecord Uuid) :=
  (s.records.get? outbox_id).filter fun current =>
    current.status = .pending && current.next_attempt_at.all (· ≤ claimed_at)

def matchingClaim (s : InMemoryOutboundSendOutboxPersistence Uuid) (outbox_id claim_id : Uuid) :
    Option (OutboundSendOutboxRecord Uuid) :=
  (s.records.get? outbox_id).filter fun current =>
    current.status = .claimed && current.claim_id = some claim_id

/-- The row, when its claim is as old as the lease. -/
def staleClaim (s : InMemoryOutboundSendOutboxPersistence Uuid) (outbox_id : Uuid)
    (stale_before : Instant) : Option (OutboundSendOutboxRecord Uuid) :=
  (s.records.get? outbox_id).filter fun current =>
    current.status = .claimed && current.claimed_at.any (· ≤ stale_before)

/-- The shape of every guarded call: the row that passes the guard is written over. -/
def transition (s : InMemoryOutboundSendOutboxPersistence Uuid) (outbox_id : Uuid)
    (found : Option (OutboundSendOutboxRecord Uuid))
    (updated : OutboundSendOutboxRecord Uuid → OutboundSendOutboxRecord Uuid) : Written Uuid :=
  match found with
  | none => (none, s)
  | some current =>
    (some (updated current),
      { s with records := s.records.set outbox_id (updated current) })

/-! ### The guarded calls

`seen` is the metadata that the read before a Postgres statement saw, and none in memory. -/

def claimOutboundSendOutbox (s : InMemoryOutboundSendOutboxPersistence Uuid)
    (outbox_id claim_id : Uuid) (worker_id : String) (claimed_at : Instant) : Written Uuid :=
  s.transition outbox_id (s.duePending outbox_id claimed_at) fun current =>
    { current with
      status := .claimed, claim_id := some claim_id, worker_id := some worker_id
      claimed_at := some claimed_at, updated_at := claimed_at
      attempt_count := current.attempt_count + 1, last_error := none }

def markOutboundSendOutboxSent (s : InMemoryOutboundSendOutboxPersistence Uuid)
    (outbox_id claim_id : Uuid) (provider_message_id : String) (sent_at : Instant) :
    Written Uuid :=
  s.transition outbox_id (s.matchingClaim outbox_id claim_id) fun current =>
    { current with
      status := .sent, sent_at := some sent_at, updated_at := sent_at
      provider_message_id := some provider_message_id, last_error := none }

def rescheduleOutboundSendOutbox (s : InMemoryOutboundSendOutboxPersistence Uuid)
    (outbox_id claim_id : Uuid) (next_attempt_at : Instant) (error : String)
    (seen : Option Metadata) : Written Uuid :=
  s.transition outbox_id (s.matchingClaim outbox_id claim_id) fun current =>
    { current with
      status := .pending, claim_id := none, worker_id := none, claimed_at := none
      updated_at := next_attempt_at, next_attempt_at := some next_attempt_at
      last_error := some error
      metadata := (seen.getD current.metadata).update
        [("retry.next_attempt_at", .str (Stdlib.isoformat Uuid next_attempt_at)),
          ("retry.last_error", .str error)] }

def deadLetterOutboundSendOutbox (s : InMemoryOutboundSendOutboxPersistence Uuid)
    (outbox_id claim_id : Uuid) (error : String) (dead_lettered_at : Instant)
    (seen : Option Metadata) : Written Uuid :=
  s.transition outbox_id (s.matchingClaim outbox_id claim_id) fun current =>
    { current with
      status := .deadLettered, updated_at := dead_lettered_at, last_error := some error
      metadata := (seen.getD current.metadata).update
        [("dead_lettered_at", .str (Stdlib.isoformat Uuid dead_lettered_at)),
          ("dead_letter.reason", .str error)] }

/-- The requeue asks for a stale claim and for nothing else. -/
def requeueStaleOutboundSendOutbox (s : InMemoryOutboundSendOutboxPersistence Uuid)
    (outbox_id : Uuid) (stale_before requeued_at : Instant) (reason : String)
    (seen : Option Metadata) : Written Uuid :=
  s.transition outbox_id (s.staleClaim outbox_id stale_before) fun current =>
    { current with
      status := .pending, claim_id := none, worker_id := none, claimed_at := none
      updated_at := requeued_at, last_error := some reason
      metadata := (seen.getD current.metadata).update
        [("reconciler.reason", .str reason),
          ("reconciler.requeued_at", .str (Stdlib.isoformat Uuid requeued_at))] }

def markOutboundSendOutboxAttempted (s : InMemoryOutboundSendOutboxPersistence Uuid)
    (outbox_id claim_id : Uuid) (attempted_at : Instant) : Written Uuid :=
  s.transition outbox_id (s.matchingClaim outbox_id claim_id) fun current =>
    { current with send_attempted_at := some attempted_at, updated_at := attempted_at }

def recordOutboundSendOutboxProviderMessageId (s : InMemoryOutboundSendOutboxPersistence Uuid)
    (outbox_id claim_id : Uuid) (provider_message_id : String) (recorded_at : Instant) :
    Written Uuid :=
  s.transition outbox_id (s.matchingClaim outbox_id claim_id) fun current =>
    { current with
      provider_message_id := some provider_message_id, updated_at := recorded_at }

def transitionStaleClaimedToSent (s : InMemoryOutboundSendOutboxPersistence Uuid)
    (outbox_id : Uuid) (stale_before sent_at : Instant) : Written Uuid :=
  s.transition outbox_id
    ((s.staleClaim outbox_id stale_before).filter (·.provider_message_id.isSome)) fun current =>
    { current with
      status := .sent, sent_at := some sent_at, updated_at := sent_at, last_error := none }

def transitionStaleClaimedToNeedsReconciliation
    (s : InMemoryOutboundSendOutboxPersistence Uuid) (outbox_id : Uuid)
    (stale_before marked_at : Instant) (reason : String) (seen : Option Metadata) :
    Written Uuid :=
  s.transition outbox_id
    ((s.staleClaim outbox_id stale_before).filter fun current =>
      current.send_attempted_at.isSome && current.provider_message_id.isNone) fun current =>
    { current with
      status := .needsReconciliation, updated_at := marked_at, last_error := some reason
      metadata := (seen.getD current.metadata).update
        [("reconciliation.reason", .str reason),
          ("reconciliation.flagged_at", .str (Stdlib.isoformat Uuid marked_at))] }

end InMemoryOutboundSendOutboxPersistence

end operious.outbound
