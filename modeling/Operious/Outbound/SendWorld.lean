-- The send workers and the stale sweeps as threads over one store. A thread makes one call at a
-- time, may stop for good between any two, and any call to the store may raise, stored or not.
import Operious.Lib.Runs
import Operious.Outbound.SendRuntime

namespace operious.outbound

namespace SendWorld

open InMemoryOutboundSendOutboxPersistence OutboundSendOutboxRuntime

variable {Uuid : Type}

/-- A run of `process_outbound_send_outbox_runtime` that has claimed its row: the row as the claim
returned it, its token, and the clock of the run. -/
structure SendRun (Uuid : Type) where
  outbox : OutboundSendOutboxRecord Uuid
  claim_id : Uuid
  ts : Instant

inductive Pc (Uuid : Type)
  | idle
  /-- `claim_due_outbox`: the row is read and may be claimed. -/
  | claiming (outbox_id claim_id : Uuid) (worker_id : String) (ts : Instant)
  | marking (run : SendRun Uuid)
  | sending (run : SendRun Uuid)
  | recording (run : SendRun Uuid) (provider_message_id : String)
  | markingSent (run : SendRun Uuid) (provider_message_id : String)
  /-- `_reschedule_or_dead_letter`, `caught` from the except branch. -/
  | settling (run : SendRun Uuid) (error : String) (caught : Bool)
  /-- `requeue_stale_claimed`: the rows of the page that are left. -/
  | sweeping (args : StaleArgs) (rest : List (OutboundSendOutboxRecord Uuid))

def Pc.isSweep : Pc Uuid → Bool
  | .sweeping .. => true
  | _ => false

/-- How a store call ends. One that raises may have been stored. The error is what
`_bounded_error` makes of it. -/
inductive Reply
  | returns
  | raises (stored : Bool) (error : String)

def Reply.stored : Reply → Bool
  | .returns => true
  | .raises stored _ => stored

/-- How `executor.send` ends: `OutboundSendExecutionResult`, or the text of what it raises. -/
inductive SendOutcome
  | sent (provider_message_id : String)
  | alreadySent (provider_message_id : Option String)
  | pending
  | raises (error : String)

/-- The store and the threads, with the rows that were marked as attempted since they were last
claimed. -/
structure World (Uuid : Type) where
  store : InMemoryOutboundSendOutboxPersistence Uuid
  threads : Dict Nat (Pc Uuid)
  attempted : List Uuid

def World.start : World Uuid := ⟨.new, Dict.empty, []⟩

variable [DecidableEq Uuid] [Stdlib Uuid]

/-! ## One call of a thread -/

/-- `_reschedule_or_dead_letter`. -/
def settleCall (rt : OutboundSendOutboxRuntime) (run : SendRun Uuid) (error : String) :
    StoreCall Uuid :=
  if rt.shouldDeadLetter run.outbox run.ts then
    .deadLetter run.outbox.outbox_id run.claim_id error run.ts
  else rt.rescheduleCall run.outbox run.claim_id error run.ts none

/-- The store call that a thread makes next. -/
def Pc.call (rt : OutboundSendOutboxRuntime) : Pc Uuid → Option (StoreCall Uuid)
  | .idle | .sending _ => none
  | .claiming outbox_id claim_id worker_id ts => some (.claim outbox_id claim_id worker_id ts)
  | .marking run => some (.markAttempted run.outbox.outbox_id run.claim_id run.ts)
  | .recording run message =>
    some (.recordProviderMessageId run.outbox.outbox_id run.claim_id message run.ts)
  | .markingSent run message =>
    some (.markSent run.outbox.outbox_id run.claim_id message run.ts)
  | .settling run error _ => some (settleCall rt run error)
  | .sweeping args rest => rest.head?.map (staleCall args)

/-- Where a thread is after its store call, which wrote `written` if it returned. -/
def Pc.after (written : Option (OutboundSendOutboxRecord Uuid)) : Reply → Pc Uuid → Pc Uuid
  | .returns, .claiming _ _ _ ts =>
    match written with
    | none => .idle
    | some outbox =>
      match outbox.claim_id with
      | none => .idle
      | some claim_id => .marking ⟨outbox, claim_id, ts⟩
  -- The two evidence marks are best effort: the run goes on whatever they give.
  | _, .marking run => .sending run
  | _, .recording run message => .markingSent run message
  | .raises _ error, .markingSent run _ => .settling run error true
  -- What raises inside the try block comes to the except branch, and settles again.
  | .raises _ error, .settling run _ false => .settling run error true
  | .returns, .sweeping args rest => .sweeping args rest.tail
  | _, _ => .idle

/-- Where a run is after `executor.send`. -/
def afterSend (run : SendRun Uuid) : SendOutcome → Pc Uuid
  | .sent message => .recording run (if message.isEmpty then "already-sent" else message)
  | .alreadySent message => .recording run ((orStr message none).getD "already-sent")
  | .pending => .settling run "outbound delivery already pending" false
  | .raises error => .settling run error true

/-- The rows marked as attempted after a call that went through: a claim starts afresh. -/
def attemptedAfter (attempted : List Uuid) (written : Option (OutboundSendOutboxRecord Uuid)) :
    StoreCall Uuid → List Uuid
  | .claim outbox_id .. =>
    if written.isSome then attempted.filter (· ≠ outbox_id) else attempted
  | .markAttempted outbox_id .. => if written.isSome then outbox_id :: attempted else attempted
  | _ => attempted

/-! ## The steps of the world -/

inductive Action (Uuid : Type)
  | create (request : SendRequest Uuid)
  /-- A worker starts a run: it reads the row, and checks it. -/
  | process (caller : Nat) (outbox_id : Uuid) (worker_id : String) (now : Instant)
  /-- A sweep lists its page: rows that its query admits, cut and ordered as the store does. -/
  | sweep (caller : Nat) (args : StaleArgs) (page : List (OutboundSendOutboxRecord Uuid))
  /-- A thread makes its next store call. `seen` is the metadata that the call read before. -/
  | call (caller : Nat) (reply : Reply) (seen : Option Metadata)
  /-- A worker calls the provider. -/
  | send (caller : Nat) (outcome : SendOutcome)

/-- The read half of `claim_due_outbox`. -/
def beginProcess (rt : OutboundSendOutboxRuntime) (s : InMemoryOutboundSendOutboxPersistence Uuid)
    (outbox_id : Uuid) (worker_id : String) (now : Instant) : Pc Uuid :=
  if worker_id.isEmpty then .idle
  else
    match s.getOutboundSendOutbox outbox_id with
    | none => .idle
    | some current =>
      match rt.claimRefusal current now false with
      | some _ => .idle
      | none =>
        match deriveOutboundSendClaimId current.outbox_id worker_id (current.attempt_count + 1) with
        | .error _ => .idle
        | .ok claim_id => .claiming current.outbox_id claim_id worker_id now

def storeAfter (s : InMemoryOutboundSendOutboxPersistence Uuid) (call : StoreCall Uuid)
    (reply : Reply) (seen : Option Metadata) : Written Uuid :=
  if reply.stored then call.perform seen s else (none, s)

def next (rt : OutboundSendOutboxRuntime) (w : World Uuid) : Action Uuid → Option (World Uuid)
  | .create request =>
    match makeOutboundSendOutboxRecord request with
    | .error _ => none
    | .ok record =>
      -- A record under an id that is taken is not one of these runs.
      if (w.store.records.get? record.outbox_id).isSome then none
      else some { w with store := (w.store.createOutboundSendOutbox record).2 }
  | .process caller outbox_id worker_id now =>
    some { w with
      threads := w.threads.set caller (beginProcess rt w.store outbox_id worker_id now) }
  | .sweep caller args page =>
    if ∀ row ∈ page, w.store.records.get? row.outbox_id = some row ∧
        (staleQuery args).admits row = true then
      some { w with threads := w.threads.set caller (.sweeping args page) }
    else none
  | .call caller reply seen =>
    match w.threads.get? caller with
    | none => none
    | some pc =>
      match pc.call rt with
      | none => none
      | some call =>
        let (written, s) := storeAfter w.store call reply seen
        some
          { store := s
            threads := w.threads.set caller (pc.after written reply)
            attempted := attemptedAfter w.attempted written call }
  | .send caller outcome =>
    match w.threads.get? caller with
    | some (.sending run) =>
      some { w with threads := w.threads.set caller (afterSend run outcome) }
    | _ => none

/-- The row that a sweep requeues if it makes its next call now. -/
def requeueTarget (w : World Uuid) : Action Uuid → Option (OutboundSendOutboxRecord Uuid)
  | .call caller reply _ =>
    match w.threads.get? caller with
    | some (.sweeping args (outbox :: _)) =>
      match staleCall args outbox with
      | .requeueStale outbox_id stale_before _ _ =>
        if reply.stored then w.store.staleClaim outbox_id stale_before else none
      | _ => none
    | _ => none
  | _ => none

/-! ## What a call of a thread does -/

variable {rt : OutboundSendOutboxRuntime} {w w' : World Uuid}

theorem next_call {caller : Nat} {reply : Reply} {seen : Option Metadata}
    (hs : next rt w (.call caller reply seen) = some w') :
    ∃ pc call, w.threads.get? caller = some pc ∧ pc.call rt = some call ∧
      w' =
        { store := (storeAfter w.store call reply seen).2
          threads := w.threads.set caller
            (pc.after (storeAfter w.store call reply seen).1 reply)
          attempted := attemptedAfter w.attempted (storeAfter w.store call reply seen).1 call } := by
  simp only [next] at hs
  split at hs
  · cases hs
  · rename_i pc hpc
    split at hs
    · cases hs
    · rename_i call hcall
      cases hs
      exact ⟨pc, call, hpc, hcall, rfl⟩

theorem storeAfter_cases (s : InMemoryOutboundSendOutboxPersistence Uuid) (call : StoreCall Uuid)
    (reply : Reply) (seen : Option Metadata) :
    storeAfter s call reply seen = (none, s) ∨
      ∃ old new, reply.stored = true ∧ call.found s = some old ∧
        s.records.get? call.outbox_id = some old ∧ StoreCall.Moved call old new ∧
        storeAfter s call reply seen =
          (some new, { s with records := s.records.set call.outbox_id new }) := by
  unfold storeAfter
  split
  · rename_i hstored
    have hdone := StoreCall.performed seen s call
    generalize call.perform seen s = out at hdone
    cases hdone with
    | refused => exact Or.inl rfl
    | moved old new found stored move =>
      exact Or.inr ⟨old, new, hstored, found, stored, move, rfl⟩
  · exact Or.inl rfl

theorem next_create {request : SendRequest Uuid} (hs : next rt w (.create request) = some w') :
    w' = w ∨ ∃ record, Fresh record ∧ w.store.records.get? record.outbox_id = none ∧
      ∃ by_unique, w' =
        { w with store := ⟨w.store.records.set record.outbox_id record, by_unique⟩ } := by
  simp only [next] at hs
  split at hs
  · cases hs
  · rename_i record hmake
    split_ifs at hs with hfree
    cases hs
    unfold createOutboundSendOutbox
    split
    · exact Or.inl rfl
    · exact Or.inr ⟨record, makeOutboundSendOutboxRecord_fresh hmake, by simpa using hfree, _, rfl⟩

/-! ## A reply over plain texts, to run the world on -/

def replyRequest : SendRequest String where
  tenant_id := "t"
  channel := "email"
  action := "send"
  draft_id := "d"
  proposal_id := "p"
  session_id := "s"
  dispatch_id := "x"
  governance_decision_id := "g"
  recipient := "r"
  draft_body_sha256 := "e3b0c44298fc1c149afbf4c8996fb92427ae41e4649b934ca495991b7852b855"
  created_at := 0

def replyId : String := "t|d|email|r|send"

/-- The row of the reply under its first claim. -/
def claimedReply : OutboundSendOutboxRecord String where
  outbox_id := replyId
  tenant_id := "t"
  channel := "email"
  action := "send"
  draft_id := "d"
  proposal_id := "p"
  session_id := "s"
  dispatch_id := "x"
  governance_decision_id := "g"
  recipient := "r"
  draft_body_sha256 := "e3b0c44298fc1c149afbf4c8996fb92427ae41e4649b934ca495991b7852b855"
  status := .claimed
  created_at := 0
  updated_at := 0
  claimed_at := some 0
  claim_id := some "t~bd~bemail~br~bsend|w|1"
  worker_id := some "w"
  attempt_count := 1

end SendWorld

end operious.outbound

-- No requeue after a send has started. The sweep decides on the row as its page showed it, and the
-- requeue asks for nothing but the lease, so a row that is attempted in between is requeued.
namespace operious.outbound

namespace SendWorld

open InMemoryOutboundSendOutboxPersistence OutboundSendOutboxRuntime

variable {Uuid : Type} [DecidableEq Uuid] [Stdlib Uuid] {rt : OutboundSendOutboxRuntime}
  {w w' : World Uuid}

/-- A step of a sweep leaves each claimed row that was attempted under its claim as it is, or makes
it sent when it has a provider id, or else flags it for reconciliation. -/
def NeverRequeued (w : World Uuid) : Action Uuid → World Uuid → Prop
  | .call caller _ _, w' =>
    (w.threads.get? caller).any Pc.isSweep →
      ∀ id ∈ w.attempted, ∀ row, w.store.records.get? id = some row → row.status = .claimed →
        ∃ row', w'.store.records.get? id = some row' ∧
          (row' = row ∨ row'.status = .sent ∧ row.provider_message_id.isSome ∨
            row'.status = .needsReconciliation)
  | _, _ => True

/-- A requeue goes through only on a row that is not attempted, as the page of the sweep showed. -/
def RequeuesUnattempted (w : World Uuid) (action : Action Uuid) : Prop :=
  ∀ row ∈ requeueTarget w action, row.send_attempted_at = none

instance (w : World Uuid) (action : Action Uuid) : Decidable (RequeuesUnattempted w action) := by
  unfold RequeuesUnattempted
  infer_instance

def AttemptsShow (s : InMemoryOutboundSendOutboxPersistence Uuid) (attempted : List Uuid) : Prop :=
  ∀ id ∈ attempted, ∀ row, s.records.get? id = some row → row.status = .claimed →
    row.send_attempted_at ≠ none

omit [Stdlib Uuid] in
theorem mem_attemptedAfter {attempted : List Uuid} {call : StoreCall Uuid}
    {written : Option (OutboundSendOutboxRecord Uuid)} {id : Uuid}
    (h : id ∈ attemptedAfter attempted written call) (hne : call.outbox_id ≠ id) :
    id ∈ attempted := by
  cases call with
  | claim =>
    simp only [attemptedAfter] at h
    split_ifs at h
    · exact (List.mem_filter.mp h).1
    · exact h
  | markAttempted =>
    simp only [attemptedAfter] at h
    split_ifs at h
    · exact (List.mem_cons.mp h).resolve_left fun heq => hne heq.symm
    · exact h
  | _ => exact h

omit [Stdlib Uuid] in
theorem attemptedAfter_none (attempted : List Uuid) (call : StoreCall Uuid) :
    attemptedAfter attempted none call = attempted := by
  cases call <;> rfl

theorem AttemptsShow.call {s : InMemoryOutboundSendOutboxPersistence Uuid} {attempted : List Uuid}
    (h : AttemptsShow s attempted) (call : StoreCall Uuid) (reply : Reply)
    (seen : Option Metadata) :
    AttemptsShow (storeAfter s call reply seen).2
      (attemptedAfter attempted (storeAfter s call reply seen).1 call) := by
  rcases storeAfter_cases s call reply seen with hsame | ⟨old, new, -, -, stored, move, hmoved⟩
  · rw [hsame, attemptedAfter_none]
    exact h
  · rw [hmoved]
    intro id hid row hrow hclaimed
    rcases Dict.get?_set_cases hrow with ⟨rfl, rfl⟩ | ⟨hne, hrow⟩
    · rw [move.attempted]
      rw [move.status] at hclaimed
      cases call with
      | claim => simp [attemptedAfter, StoreCall.outbox_id] at hid
      | markAttempted => simp [StoreCall.attempt]
      | recordProviderMessageId => exact h _ hid old stored move.guard
      | _ => cases hclaimed
    · exact h id (mem_attemptedAfter hid hne) row hrow hclaimed

theorem attemptsShow_next {action : Action Uuid} (h : AttemptsShow w.store w.attempted)
    (hs : next rt w action = some w') : AttemptsShow w'.store w'.attempted := by
  cases action with
  | create request =>
    rcases next_create hs with rfl | ⟨record, fresh, -, by_unique, rfl⟩
    · exact h
    · intro id hid row hrow hclaimed
      rcases Dict.get?_set_cases hrow with ⟨-, rfl⟩ | ⟨-, hrow⟩
      · rw [fresh.pending] at hclaimed
        cases hclaimed
      · exact h id hid row hrow hclaimed
  | process => cases hs; exact h
  | sweep caller args page =>
    simp only [next] at hs
    split_ifs at hs
    cases hs
    exact h
  | call caller reply seen =>
    obtain ⟨pc, call, -, -, rfl⟩ := next_call hs
    exact h.call call reply seen
  | send caller outcome =>
    simp only [next] at hs
    split at hs
    · cases hs
      exact h
    · cases hs

theorem neverRequeued_next {action : Action Uuid} (h : AttemptsShow w.store w.attempted)
    (hunattempted : RequeuesUnattempted w action) (hs : next rt w action = some w') :
    NeverRequeued w action w' := by
  cases action with
  | call caller reply seen =>
    intro hsweep id hid row hrow hclaimed
    obtain ⟨pc, call, hpc, hcall, rfl⟩ := next_call hs
    rw [hpc] at hsweep
    rcases storeAfter_cases w.store call reply seen with
      hsame | ⟨old, new, hstored, hfound, stored, move, hmoved⟩
    · exact ⟨row, by rw [hsame]; exact hrow, Or.inl rfl⟩
    · rw [hmoved]
      by_cases hne : call.outbox_id = id
      · subst hne
        rw [hrow] at stored
        cases stored
        refine ⟨new, Dict.get?_set_self _ _ _, Or.inr ?_⟩
        cases pc with
        | sweeping args rest =>
          cases rest with
          | nil => cases hcall
          | cons outbox rest =>
            have hshows := h _ hid row hrow hclaimed
            have htarget := fun hrow => hunattempted row hrow
            simp only [requeueTarget, hpc, hstored, if_true] at htarget
            cases hcall
            unfold staleCall at hfound move htarget
            split_ifs at hfound move htarget with hprovider hattempted
            · have hsent := move.confirmed rfl
              rw [move.provider] at hsent
              exact Or.inl ⟨move.status, hsent.2⟩
            · -- The guard of the requeue does not look at the attempt, so the condition has to.
              exact absurd (htarget hfound) hshows
            · exact Or.inr move.status
        | _ => cases hsweep
      · exact ⟨row, (Dict.get?_set_ne _ _ hne).trans hrow, Or.inl rfl⟩
  | _ => trivial

/-- Along every interleaving of workers and sweeps in which a requeue goes through only on a row
that is still not attempted, no row is requeued after its send has started. -/
theorem never_requeued_when_unattempted (rt : OutboundSendOutboxRuntime)
    (actions : List (Action Uuid))
    (hmeets : runs.Meets (next rt) RequeuesUnattempted World.start actions) :
    runs.Along (next rt) NeverRequeued World.start actions := by
  refine runs.along_when (I := fun w => AttemptsShow w.store w.attempted) ?_ ?_ hmeets
  · intro w action w' h hC hs
    exact ⟨attemptsShow_next h hs, neverRequeued_next h hC hs⟩
  · intro id hid
    simp [World.start] at hid

/-! ## Two runs over plain texts -/

/-- A worker claims the reply, and stops before the mark. -/
def claimsReply : List (Action String) :=
  [.create replyRequest, .process 0 replyId "w" 0, .call 0 .returns none]

/-- The worker marks the attempt, and the sweep lists the row only then. -/
def listedLate : List (Action String) :=
  claimsReply ++
    [.call 0 .returns none,
      .sweep 1 { stale_before := 5, requeued_at := 6 }
        [{ claimedReply with send_attempted_at := some 0 }],
      .call 1 .returns none]

theorem an_attempt_on_the_page_is_seen :
    runs.Along (next {}) NeverRequeued World.start listedLate :=
  never_requeued_when_unattempted {} listedLate (by decide +kernel)

/-- The sweep lists the row first, and the worker marks the attempt after that. -/
def listedEarly : List (Action String) :=
  claimsReply ++
    [.sweep 1 { stale_before := 5, requeued_at := 6 } [claimedReply],
      .call 0 .returns none]

theorem an_attempt_after_the_page_is_requeued :
    ¬ runs.Along (next {}) NeverRequeued World.start (listedEarly ++ [.call 1 .returns none]) := by
  intro h
  have hrun : ∀ w ∈ runs.after (next {}) World.start listedEarly,
      ∀ w' ∈ next {} w (.call 1 .returns none),
        (w.threads.get? 1).any Pc.isSweep ∧ replyId ∈ w.attempted ∧
          (w.store.records.get? replyId).any (fun row => row.status = .claimed) ∧
          (w'.store.records.get? replyId).any fun row => row.status = .pending := by
    decide +kernel
  have hlong : (runs.after (next {}) (World.start : World String)
      (listedEarly ++ [.call 1 .returns none])).isSome := by decide +kernel
  rw [runs.after_concat] at hlong
  obtain ⟨w', hlong⟩ := Option.isSome_iff_exists.mp hlong
  obtain ⟨w, hw, hw'⟩ := Option.bind_eq_some_iff.mp hlong
  obtain ⟨hsweep, hattempted, hclaimed, hpending⟩ := hrun w hw w' hw'
  obtain ⟨row, hrow, hclaimed⟩ := (Option.any_eq_true _ _).mp hclaimed
  obtain ⟨row', hrow', hpending⟩ := (Option.any_eq_true _ _).mp hpending
  simp only [decide_eq_true_eq] at hclaimed hpending
  obtain ⟨after, hafter, hcases⟩ :=
    h.last hw hw' hsweep replyId hattempted row hrow hclaimed
  rw [hrow'] at hafter
  cases hafter
  rw [hpending] at hcases
  rcases hcases with rfl | ⟨hsent, -⟩ | hflagged
  · rw [hpending] at hclaimed
    cases hclaimed
  · cases hsent
  · cases hflagged

end SendWorld

end operious.outbound
