-- The guarded calls of the outbound store as values, and what each can do to a row: the facts
-- about one call that the workers, the sweeps and the lifecycle all rest on.
import Operious.Outbound.SendOutbox

namespace operious.outbound

open InMemoryOutboundSendOutboxPersistence

/-- A guarded call with its arguments. -/
inductive StoreCall (Uuid : Type)
  | claim (outbox_id claim_id : Uuid) (worker_id : String) (claimed_at : Instant)
  | markSent (outbox_id claim_id : Uuid) (provider_message_id : String) (sent_at : Instant)
  | reschedule (outbox_id claim_id : Uuid) (next_attempt_at : Instant) (error : String)
  | deadLetter (outbox_id claim_id : Uuid) (error : String) (dead_lettered_at : Instant)
  | requeueStale (outbox_id : Uuid) (stale_before requeued_at : Instant) (reason : String)
  | markAttempted (outbox_id claim_id : Uuid) (attempted_at : Instant)
  | recordProviderMessageId (outbox_id claim_id : Uuid) (provider_message_id : String)
      (recorded_at : Instant)
  | toSent (outbox_id : Uuid) (stale_before sent_at : Instant)
  | toNeedsReconciliation (outbox_id : Uuid) (stale_before marked_at : Instant) (reason : String)

namespace StoreCall

variable {Uuid : Type}

def outbox_id : StoreCall Uuid → Uuid
  | .claim id .. | .markSent id .. | .reschedule id .. | .deadLetter id .. | .requeueStale id ..
  | .markAttempted id .. | .recordProviderMessageId id .. | .toSent id ..
  | .toNeedsReconciliation id .. => id

/-- The token that the guard of a call asks for. The claim and the calls of a sweep have none. -/
def token : StoreCall Uuid → Option Uuid
  | .markSent _ c .. | .reschedule _ c .. | .deadLetter _ c .. | .markAttempted _ c ..
  | .recordProviderMessageId _ c .. => some c
  | .claim .. | .requeueStale .. | .toSent .. | .toNeedsReconciliation .. => none

/-- The state that a call needs the row in. -/
def needs : StoreCall Uuid → OutboundSendOutboxStatus
  | .claim .. => .pending
  | _ => .claimed

/-- The state that a call leaves the row in. The two evidence marks leave it claimed. -/
def leaves : StoreCall Uuid → OutboundSendOutboxStatus
  | .claim .. | .markAttempted .. | .recordProviderMessageId .. => .claimed
  | .markSent .. | .toSent .. => .sent
  | .reschedule .. | .requeueStale .. => .pending
  | .deadLetter .. => .deadLettered
  | .toNeedsReconciliation .. => .needsReconciliation

def counts : StoreCall Uuid → Nat
  | .claim .. => 1
  | _ => 0

def attempt : StoreCall Uuid → Option Instant
  | .markAttempted _ _ t => some t
  | _ => none

def evidence : StoreCall Uuid → Option String
  | .markSent _ _ message _ | .recordProviderMessageId _ _ message _ => some message
  | _ => none

/-- The owner of a row: its token, its worker and when it was claimed. -/
abbrev Owner (Uuid : Type) := Option Uuid × Option String × Option Instant

/-- The owner that a call leaves on a row that had the owner `old`. -/
def owner (old : Owner Uuid) : StoreCall Uuid → Owner Uuid
  | .claim _ c worker t => (some c, some worker, some t)
  | .reschedule .. | .requeueStale .. => (none, none, none)
  | _ => old

variable [DecidableEq Uuid] [Stdlib Uuid]

def perform (seen : Option Metadata) (s : InMemoryOutboundSendOutboxPersistence Uuid) :
    StoreCall Uuid → Written Uuid
  | .claim id c worker t => s.claimOutboundSendOutbox id c worker t
  | .markSent id c message t => s.markOutboundSendOutboxSent id c message t
  | .reschedule id c t error => s.rescheduleOutboundSendOutbox id c t error seen
  | .deadLetter id c error t => s.deadLetterOutboundSendOutbox id c error t seen
  | .requeueStale id before t reason => s.requeueStaleOutboundSendOutbox id before t reason seen
  | .markAttempted id c t => s.markOutboundSendOutboxAttempted id c t
  | .recordProviderMessageId id c message t =>
    s.recordOutboundSendOutboxProviderMessageId id c message t
  | .toSent id before t => s.transitionStaleClaimedToSent id before t
  | .toNeedsReconciliation id before t reason =>
    s.transitionStaleClaimedToNeedsReconciliation id before t reason seen

/-- The row that passes the guard of a call. -/
def found (s : InMemoryOutboundSendOutboxPersistence Uuid) :
    StoreCall Uuid → Option (OutboundSendOutboxRecord Uuid)
  | .claim id _ _ t => s.duePending id t
  | .markSent id c .. | .reschedule id c .. | .deadLetter id c .. | .markAttempted id c ..
  | .recordProviderMessageId id c .. => s.matchingClaim id c
  | .requeueStale id before .. => s.staleClaim id before
  | .toSent id before _ => (s.staleClaim id before).filter (·.provider_message_id.isSome)
  | .toNeedsReconciliation id before .. =>
    (s.staleClaim id before).filter fun current =>
      current.send_attempted_at.isSome && current.provider_message_id.isNone

/-- What one call does to the row it finds. No call takes back an attempt or a provider id. -/
structure Moved (call : StoreCall Uuid) (old new : OutboundSendOutboxRecord Uuid) : Prop where
  guard : old.status = call.needs
  holds : ∀ c ∈ call.token, old.claim_id = some c
  status : new.status = call.leaves
  same_id : new.outbox_id = old.outbox_id
  same_key : new.uniqueKey = old.uniqueKey
  count : new.attempt_count = old.attempt_count + call.counts
  owned : (new.claim_id, new.worker_id, new.claimed_at) =
    call.owner (old.claim_id, old.worker_id, old.claimed_at)
  attempted : new.send_attempted_at = call.attempt.or old.send_attempted_at
  provider : new.provider_message_id = call.evidence.or old.provider_message_id
  confirmed : call.leaves = .sent → new.sent_at.isSome ∧ new.provider_message_id.isSome
  ambiguous : call.leaves = .needsReconciliation →
    old.send_attempted_at.isSome ∧ old.provider_message_id = none

/-! ## Each call against its guard -/

variable {s : InMemoryOutboundSendOutboxPersistence Uuid} {id c : Uuid} {t : Instant}
  {row : OutboundSendOutboxRecord Uuid}

section

omit [Stdlib Uuid]

theorem duePending_eq_some : s.duePending id t = some row ↔
    s.records.get? id = some row ∧ row.status = .pending ∧ ∀ n ∈ row.next_attempt_at, n ≤ t := by
  simp only [duePending, Option.filter_eq_some_iff, Bool.and_eq_true, decide_eq_true_eq]
  cases row.next_attempt_at <;> simp

theorem matchingClaim_eq_some : s.matchingClaim id c = some row ↔
    s.records.get? id = some row ∧ row.status = .claimed ∧ row.claim_id = some c := by
  simp [matchingClaim, Option.filter_eq_some_iff]

theorem staleClaim_eq_some : s.staleClaim id t = some row ↔
    s.records.get? id = some row ∧ row.status = .claimed ∧ ∃ n ∈ row.claimed_at, n ≤ t := by
  simp only [staleClaim, Option.filter_eq_some_iff, Bool.and_eq_true, decide_eq_true_eq]
  cases row.claimed_at <;> simp

inductive Performed (call : StoreCall Uuid) (s : InMemoryOutboundSendOutboxPersistence Uuid) :
    Written Uuid → Prop
  | refused (unfound : call.found s = none) : Performed call s (none, s)
  | moved (old new : OutboundSendOutboxRecord Uuid) (found : call.found s = some old)
      (stored : s.records.get? call.outbox_id = some old) (move : Moved call old new) :
      Performed call s (some new, { s with records := s.records.set call.outbox_id new })

theorem performed_transition {call : StoreCall Uuid}
    {f : OutboundSendOutboxRecord Uuid → OutboundSendOutboxRecord Uuid}
    (hmove : ∀ old, call.found s = some old →
      s.records.get? call.outbox_id = some old ∧ Moved call old (f old)) :
    Performed call s (s.transition call.outbox_id (call.found s) f) := by
  unfold transition
  split
  · rename_i h
    exact .refused h
  · rename_i old h
    obtain ⟨stored, move⟩ := hmove old h
    exact .moved old (f old) h stored move

end

theorem performed (seen : Option Metadata) (s : InMemoryOutboundSendOutboxPersistence Uuid)
    (call : StoreCall Uuid) : Performed call s (call.perform seen s) := by
  cases call with
  | claim id c worker t =>
    refine performed_transition fun old h => ?_
    obtain ⟨stored, status, -⟩ := duePending_eq_some.mp h
    exact ⟨stored, status, by simp [token], rfl, rfl, rfl, rfl, rfl, rfl, rfl, nofun, nofun⟩
  | markSent id c message t =>
    refine performed_transition fun old h => ?_
    obtain ⟨stored, status, held⟩ := matchingClaim_eq_some.mp h
    exact ⟨stored, status, by simp [token, held], rfl, rfl, rfl, rfl, rfl, rfl, rfl,
      fun _ => ⟨rfl, rfl⟩, nofun⟩
  | reschedule | deadLetter =>
    refine performed_transition fun old h => ?_
    obtain ⟨stored, status, held⟩ := matchingClaim_eq_some.mp h
    exact ⟨stored, status, by simp [token, held], rfl, rfl, rfl, rfl, rfl, rfl, rfl, nofun, nofun⟩
  | requeueStale id before t reason =>
    refine performed_transition fun old h => ?_
    obtain ⟨stored, status, -⟩ := staleClaim_eq_some.mp h
    exact ⟨stored, status, by simp [token], rfl, rfl, rfl, rfl, rfl, rfl, rfl, nofun, nofun⟩
  | markAttempted | recordProviderMessageId =>
    refine performed_transition fun old h => ?_
    obtain ⟨stored, status, held⟩ := matchingClaim_eq_some.mp h
    exact ⟨stored, status, by simp [token, held], status, rfl, rfl, rfl, rfl, rfl, rfl,
      nofun, nofun⟩
  | toSent id before t =>
    refine performed_transition fun old h => ?_
    obtain ⟨h, provider⟩ := Option.filter_eq_some_iff.mp h
    obtain ⟨stored, status, -⟩ := staleClaim_eq_some.mp h
    exact ⟨stored, status, by simp [token], rfl, rfl, rfl, rfl, rfl, rfl, rfl,
      fun _ => ⟨rfl, provider⟩, nofun⟩
  | toNeedsReconciliation id before t reason =>
    refine performed_transition fun old h => ?_
    obtain ⟨h, evidence⟩ := Option.filter_eq_some_iff.mp h
    obtain ⟨stored, status, -⟩ := staleClaim_eq_some.mp h
    exact ⟨stored, status, by simp [token], rfl, rfl, rfl, rfl, rfl, rfl, rfl, nofun,
      fun _ => by simpa using evidence⟩

/-! ## What the store holds after a call -/

end StoreCall

end operious.outbound

-- The runtime of the outbound outbox, one operation at a time: the claim with its checks, the
-- retry delays, and the two sweeps of the reconciler.
namespace operious.outbound

open InMemoryOutboundSendOutboxPersistence

/-! ## The budget and the delays -/

/-- The parameters that `OutboundSendOutboxRuntime` is built with. Others raise. -/
structure OutboundSendOutboxRuntime where
  max_attempts : Nat := 5
  max_age_seconds : Nat := 60 * 60
  retry_base_seconds : Nat := 30
  attempts_positive : 1 ≤ max_attempts := by decide
  age_positive : 1 ≤ max_age_seconds := by decide
  base_positive : 1 ≤ retry_base_seconds := by decide

/-- `timedelta(seconds=n)`. -/
def seconds (n : Int) : Int := n * 1000000

def maxRetryDelaySeconds : Nat := 3600

namespace OutboundSendOutboxRuntime

variable {Uuid : Type} [DecidableEq Uuid] [Stdlib Uuid]

def retryDelaySeconds (rt : OutboundSendOutboxRuntime) (attempt_count : Nat) : Nat :=
  min (rt.retry_base_seconds * 2 ^ (attempt_count - 1)) maxRetryDelaySeconds

def shouldDeadLetter (rt : OutboundSendOutboxRuntime) (outbox : OutboundSendOutboxRecord Uuid)
    (now : Instant) : Bool :=
  outbox.attempt_count ≥ rt.max_attempts ||
    outbox.created_at + seconds rt.max_age_seconds ≤ now

/-- The store call of `reschedule`. A delay of the caller counts when it is positive. -/
def rescheduleCall (rt : OutboundSendOutboxRuntime) (outbox : OutboundSendOutboxRecord Uuid)
    (claim_id : Uuid) (error : String) (now : Instant) (retry_after_seconds : Option Int) :
    StoreCall Uuid :=
  let delay := (retry_after_seconds.filter (· > 0)).getD (rt.retryDelaySeconds outbox.attempt_count)
  .reschedule outbox.outbox_id claim_id (now + seconds delay) error

end OutboundSendOutboxRuntime

/-! ## The claim -/

structure OutboundSendOutboxClaimResult (Uuid : Type) where
  claimed : Bool
  outbox : Option (OutboundSendOutboxRecord Uuid)
  reason : Option String := none

/-- The store with a record of the claims that went through, newest first. -/
structure Ledger (Uuid : Type) where
  store : InMemoryOutboundSendOutboxPersistence Uuid
  claims : List Uuid

namespace OutboundSendOutboxRuntime

variable {Uuid : Type} [DecidableEq Uuid] [Stdlib Uuid]

/-- Why a row that was read is not claimed, or none when the store is asked. -/
def claimRefusal (rt : OutboundSendOutboxRuntime) (current : OutboundSendOutboxRecord Uuid)
    (now : Instant) (allow_exhausted : Bool) : Option String :=
  if current.status ≠ .pending then some ("outbox_not_claimable:" ++ current.status.value)
  else if current.next_attempt_at.any (· > now) then some "outbox_not_due"
  else if !allow_exhausted && rt.shouldDeadLetter current now then
    some "outbox_retry_budget_exhausted"
  else none

def claimDueOutbox (rt : OutboundSendOutboxRuntime) (l : Ledger Uuid) (outbox_id : Uuid)
    (worker_id : String) (claimed_at : Instant) (allow_exhausted : Bool) :
    Except String (OutboundSendOutboxClaimResult Uuid × Ledger Uuid) :=
  if worker_id.isEmpty then .error "worker_id must be non-empty"
  else
    match l.store.getOutboundSendOutbox outbox_id with
    | none => .ok ({ claimed := false, outbox := none, reason := some "outbox_not_found" }, l)
    | some current =>
      match rt.claimRefusal current claimed_at allow_exhausted with
      | some reason => .ok ({ claimed := false, outbox := some current, reason := some reason }, l)
      | none => do
        let claim_id ←
          deriveOutboundSendClaimId current.outbox_id worker_id (current.attempt_count + 1)
        match l.store.claimOutboundSendOutbox current.outbox_id claim_id worker_id claimed_at with
        | (some claimed, s) =>
          .ok ({ claimed := true, outbox := some claimed },
            { store := s, claims := current.outbox_id :: l.claims })
        | (none, s) =>
          let refreshed := s.getOutboundSendOutbox current.outbox_id
          .ok
            ({ claimed := false, outbox := refreshed
               reason := some (match refreshed with
                | none => "outbox_not_found"
                | some row => "outbox_not_claimable:" ++ row.status.value) },
              { l with store := s })

end OutboundSendOutboxRuntime

/-! ## The sweeps -/

structure OutboundSendOutboxRequeueResult (Uuid : Type) where
  requeued : Bool
  outbox : Option (OutboundSendOutboxRecord Uuid)
  reason : Option String := none

structure OutboundSendOutboxSweepResult (Uuid : Type) where
  scanned : Nat
  requeued : List (OutboundSendOutboxRequeueResult Uuid) := []
  refused : List (OutboundSendOutboxRequeueResult Uuid) := []
  dead_lettered : List (OutboundSendOutboxRecord Uuid) := []
  sent_from_evidence : List (OutboundSendOutboxRecord Uuid) := []
  needs_reconciliation : List (OutboundSendOutboxRecord Uuid) := []

/-- The arguments of `requeue_stale_claimed`. -/
structure StaleArgs where
  stale_before : Instant
  requeued_at : Instant
  limit : Nat := 100
  tenant_id : Option String := none
  reason : String := "outbound send claim expired"

/-- The arguments of `dead_letter_exhausted_pending`. -/
structure ExhaustedArgs where
  now : Instant
  limit : Nat := 100
  tenant_id : Option String := none
  reason : String := "outbound send retry budget exhausted"

namespace OutboundSendOutboxRuntime

variable {Uuid : Type} [DecidableEq Uuid] [Stdlib Uuid]

def staleQuery (args : StaleArgs) : OutboundSendOutboxQuery Uuid :=
  { tenant_id := args.tenant_id, status := some .claimed
    claimed_before_or_at := some args.stale_before, limit := args.limit }

/-- The store call for one listed row. It is chosen by what the listing showed: a provider id
means sent, no attempt means not sent, and an attempt alone means perhaps. -/
def staleCall (args : StaleArgs) (outbox : OutboundSendOutboxRecord Uuid) : StoreCall Uuid :=
  if outbox.provider_message_id.isSome then
    .toSent outbox.outbox_id args.stale_before args.requeued_at
  else if outbox.send_attempted_at.isNone then
    .requeueStale outbox.outbox_id args.stale_before args.requeued_at args.reason
  else
    .toNeedsReconciliation outbox.outbox_id args.stale_before args.requeued_at args.reason

/-- The report of one listed row. -/
def reportStale (outbox : OutboundSendOutboxRecord Uuid) (w : Written Uuid)
    (result : OutboundSendOutboxSweepResult Uuid) : OutboundSendOutboxSweepResult Uuid :=
  match w.1 with
  | none =>
    { result with
      refused := result.refused ++
        [{ requeued := false, outbox := w.2.getOutboundSendOutbox outbox.outbox_id
           reason := some "outbox_not_stale" }] }
  | some updated =>
    if outbox.provider_message_id.isSome then
      { result with sent_from_evidence := result.sent_from_evidence ++ [updated] }
    else if outbox.send_attempted_at.isNone then
      { result with
        requeued := result.requeued ++ [{ requeued := true, outbox := some updated }] }
    else { result with needs_reconciliation := result.needs_reconciliation ++ [updated] }

def sweepStale (args : StaleArgs) :
    List (OutboundSendOutboxRecord Uuid) →
    OutboundSendOutboxSweepResult Uuid × InMemoryOutboundSendOutboxPersistence Uuid →
    OutboundSendOutboxSweepResult Uuid × InMemoryOutboundSendOutboxPersistence Uuid
  | [], acc => acc
  | outbox :: rest, (result, s) =>
    let w := (staleCall args outbox).perform none s
    sweepStale args rest (reportStale outbox w result, w.2)

def requeueStaleClaimed (s : InMemoryOutboundSendOutboxPersistence Uuid) (args : StaleArgs) :
    OutboundSendOutboxSweepResult Uuid × InMemoryOutboundSendOutboxPersistence Uuid :=
  let page := s.listOutboundSendOutbox (staleQuery args)
  sweepStale args page.records ({ scanned := page.records.length }, s)

def exhaustedQuery (args : ExhaustedArgs) : OutboundSendOutboxQuery Uuid :=
  { tenant_id := args.tenant_id, status := some .pending, due_before_or_at := some args.now
    limit := args.limit }

def deadLetterReconciler : String := "reconciler:outbound-send-dead-letter"

/-- One listed row of `dead_letter_exhausted_pending`: claimed past the budget, and then dead. -/
def deadLetterExhausted (rt : OutboundSendOutboxRuntime) (args : ExhaustedArgs) (l : Ledger Uuid)
    (outbox : OutboundSendOutboxRecord Uuid) :
    Except String (Option (OutboundSendOutboxRecord Uuid) × Ledger Uuid) :=
  if !rt.shouldDeadLetter outbox args.now then .ok (none, l)
  else do
    let (claim, l) ← rt.claimDueOutbox l outbox.outbox_id deadLetterReconciler args.now true
    match claim.claimed, claim.outbox with
    | true, some row =>
      match row.claim_id with
      | none => .ok (none, l)
      | some claim_id =>
        let (updated, s) :=
          l.store.deadLetterOutboundSendOutbox row.outbox_id claim_id args.reason args.now none
        .ok (updated, { l with store := s })
    | _, _ => .ok (none, l)

/-- A claim that raises ends the sweep, and the rows before it stay dead. -/
def sweepExhausted (rt : OutboundSendOutboxRuntime) (args : ExhaustedArgs) :
    List (OutboundSendOutboxRecord Uuid) → OutboundSendOutboxSweepResult Uuid → Ledger Uuid →
    Except String (OutboundSendOutboxSweepResult Uuid) × Ledger Uuid
  | [], result, l => (.ok result, l)
  | outbox :: rest, result, l =>
    match rt.deadLetterExhausted args l outbox with
    | .error e => (.error e, l)
    | .ok (updated, l) =>
      rt.sweepExhausted args rest
        { result with dead_lettered := result.dead_lettered ++ updated.toList } l

def deadLetterExhaustedPending (rt : OutboundSendOutboxRuntime) (l : Ledger Uuid)
    (args : ExhaustedArgs) : Except String (OutboundSendOutboxSweepResult Uuid) × Ledger Uuid :=
  let page := l.store.listOutboundSendOutbox (exhaustedQuery args)
  rt.sweepExhausted args page.records { scanned := page.records.length } l

end OutboundSendOutboxRuntime

/-! ## The operations -/

/-- The operations that can write. The three reads of the runtime are not among them. -/
inductive Operation (Uuid : Type)
  | create (request : SendRequest Uuid)
  | claimDue (outbox_id : Uuid) (worker_id : String) (claimed_at : Instant)
      (allow_exhausted : Bool)
  | markSent (outbox_id claim_id : Uuid) (provider_message_id : String) (sent_at : Instant)
  | markSendAttempted (outbox_id claim_id : Uuid) (attempted_at : Instant)
  | recordProviderMessageId (outbox_id claim_id : Uuid) (provider_message_id : String)
      (recorded_at : Instant)
  | reschedule (outbox : OutboundSendOutboxRecord Uuid) (claim_id : Uuid) (error : String)
      (now : Instant) (retry_after_seconds : Option Int)
  | deadLetter (outbox_id claim_id : Uuid) (error : String) (dead_lettered_at : Instant)
  | requeueStaleClaimed (args : StaleArgs)
  | deadLetterExhaustedPending (args : ExhaustedArgs)

def Ledger.start {Uuid : Type} : Ledger Uuid := ⟨.new, []⟩

namespace OutboundSendOutboxRuntime

variable {Uuid : Type} [DecidableEq Uuid] [Stdlib Uuid]

/-- The store call of an operation that makes one and returns what it gives. -/
def callOf (rt : OutboundSendOutboxRuntime) : Operation Uuid → Option (StoreCall Uuid)
  | .markSent id c message t => some (.markSent id c message t)
  | .markSendAttempted id c t => some (.markAttempted id c t)
  | .recordProviderMessageId id c message t => some (.recordProviderMessageId id c message t)
  | .reschedule outbox c error now retry_after_seconds =>
    some (rt.rescheduleCall outbox c error now retry_after_seconds)
  | .deadLetter id c error t => some (.deadLetter id c error t)
  | .create .. | .claimDue .. | .requeueStaleClaimed .. | .deadLetterExhaustedPending .. => none

/-- The ledger after an operation. One that raises leaves it as it was. -/
def next (rt : OutboundSendOutboxRuntime) (l : Ledger Uuid) (operation : Operation Uuid) :
    Option (Ledger Uuid) :=
  some (match operation with
    | .create request =>
      match makeOutboundSendOutboxRecord request with
      | .error _ => l
      | .ok record => { l with store := (l.store.createOutboundSendOutbox record).2 }
    | .claimDue outbox_id worker_id claimed_at allow_exhausted =>
      match rt.claimDueOutbox l outbox_id worker_id claimed_at allow_exhausted with
      | .error _ => l
      | .ok (_, l') => l'
    | .requeueStaleClaimed args => { l with store := (requeueStaleClaimed l.store args).2 }
    | .deadLetterExhaustedPending args => (rt.deadLetterExhaustedPending l args).2
    | operation =>
      match rt.callOf operation with
      | none => l
      | some call => { l with store := (call.perform none l.store).2 })

end OutboundSendOutboxRuntime

end operious.outbound
