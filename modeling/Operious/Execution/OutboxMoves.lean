-- What a call can do to the outbox rows: a claim counts up, a mark needs the claim, a requeue
-- lets go of it, and no call takes a row away or gives it another id.
import Operious.Execution.MemoryLineage
import Operious.Execution.OutboxWorld

namespace operious.execution_runtime

namespace OutboxWorld

open InMemoryExecutionPersistence

variable {Uuid : Type} [DecidableEq Uuid] [Stdlib Uuid] {s s' : InMemoryExecutionPersistence Uuid}

/-! ## The moves of one row -/

def claimedOutbox (row : ExecutionOutboxRecord Uuid) (publisher_id : String) (claim_id : Uuid)
    (claimed_at : Instant) : ExecutionOutboxRecord Uuid :=
  { row with
    state := .publishing, claimed_at := some claimed_at, publisher_id := some publisher_id,
    claim_id := some claim_id, publish_attempt_count := row.publish_attempt_count + 1,
    last_error := none }

/-- The moves that are no claim: two marks under the claim, and two requeues that drop it. The
requeue of a failed row goes by one of the budgets `B`. -/
inductive RowMove (B : Nat → Prop) (row : ExecutionOutboxRecord Uuid) :
    ExecutionOutboxRecord Uuid → Prop
  | published (claim_id : Uuid) (t : Instant) (publishing : row.state = .publishing)
      (mine : row.claim_id = some claim_id) :
      RowMove B row { row with state := .published, published_at := some t, last_error := none }
  | failed (claim_id : Uuid) (message : String) (metadata : Metadata)
      (publishing : row.state = .publishing) (mine : row.claim_id = some claim_id) :
      RowMove B row
        { row with state := .failed, published_at := none, last_error := some message, metadata }
  | requeuedStale (reason : String) (metadata : Metadata) (publishing : row.state = .publishing) :
      RowMove B row
        { row with
          state := .pending, claimed_at := none, publisher_id := none, claim_id := none,
          last_error := some reason, metadata }
  | requeuedFailed (max_publish_attempts : Nat) (used : B max_publish_attempts)
      (reason : String) (metadata : Metadata) (failed : row.state = .failed)
      (budget : row.publish_attempt_count < max_publish_attempts) :
      RowMove B row
        { row with
          state := .pending, claimed_at := none, publisher_id := none, claim_id := none,
          published_at := none, last_error := some reason, metadata }

section

variable {B : Nat → Prop} {row row' : ExecutionOutboxRecord Uuid}

omit [DecidableEq Uuid] [Stdlib Uuid]

theorem RowMove.outbox_id (h : RowMove B row row') : row'.outbox_id = row.outbox_id := by
  cases h <;> rfl

theorem RowMove.execution_id (h : RowMove B row row') : row'.execution_id = row.execution_id := by
  cases h <;> rfl

theorem RowMove.count (h : RowMove B row row') :
    row'.publish_attempt_count = row.publish_attempt_count := by
  cases h <;> rfl

theorem RowMove.claim_id {c : Uuid} (h : RowMove B row row') (hc : row'.claim_id = some c) :
    row.claim_id = some c := by
  cases h with
  | published => exact hc
  | failed => exact hc
  | requeuedStale => cases hc
  | requeuedFailed => cases hc

end

/-- What a call that is no claim does to the rows. -/
inductive Quiet (B : Nat → Prop) (s : InMemoryExecutionPersistence Uuid) :
    InMemoryExecutionPersistence Uuid → Prop
  | same : Quiet B s s
  | moved (id : Uuid) (row row' : ExecutionOutboxRecord Uuid) (stored : s.outbox.get? id = some row)
      (move : RowMove B row row') : Quiet B s { s with outbox := s.outbox.set id row' }

omit [Stdlib Uuid] in
theorem Quiet.weaken {B B' : Nat → Prop} (h : Quiet B s s') (hB : ∀ m, B m → B' m) :
    Quiet B' s s' := by
  cases h with
  | same => exact Quiet.same
  | moved id row row' stored move =>
    refine Quiet.moved id row row' stored ?_
    cases move with
    | published c t publishing mine => exact .published c t publishing mine
    | failed c message metadata publishing mine => exact .failed c message metadata publishing mine
    | requeuedStale reason metadata publishing => exact .requeuedStale reason metadata publishing
    | requeuedFailed m used reason metadata failed budget =>
      exact .requeuedFailed m (hB m used) reason metadata failed budget

variable {row : ExecutionOutboxRecord Uuid}

theorem requireOutbox_eq_ok {id : Uuid} (h : s.requireOutbox id = .ok row) :
    s.outbox.get? id = some row := by
  unfold requireOutbox at h
  split at h
  · cases h
  · rename_i r hr
    cases h
    exact hr

omit [Stdlib Uuid] in
theorem outboxClaimLost_eq_none {id c : Uuid} (h : outboxClaimLost id c row = none) :
    row.state = .publishing ∧ row.claim_id = some c := by
  unfold outboxClaimLost at h
  split_ifs at h with h1 h2 h3
  exact ⟨not_not.mp h2, not_not.mp h3⟩

theorem markOutboxPublished_quiet (B : Nat → Prop) (id c : Uuid) (t : Instant) :
    Quiet B s (Outcome.storeAfter s (s.markOutboxPublished id c t)) := by
  unfold markOutboxPublished
  cases hreq : s.requireOutbox id with
  | error e => exact Quiet.same
  | ok row =>
    simp only
    split_ifs with hdone
    · exact Quiet.same
    · cases hlost : outboxClaimLost id c row with
      | some lost => exact Quiet.same
      | none =>
        obtain ⟨hstate, hmine⟩ := outboxClaimLost_eq_none hlost
        exact Quiet.moved id row _ (requireOutbox_eq_ok hreq) (.published c t hstate hmine)

theorem markOutboxFailed_quiet (B : Nat → Prop) (id c : Uuid) (message : String) (t : Instant) :
    Quiet B s (Outcome.storeAfter s (s.markOutboxFailed id c message t)) := by
  unfold markOutboxFailed
  cases hreq : s.requireOutbox id with
  | error e => exact Quiet.same
  | ok row =>
    simp only
    cases hlost : outboxClaimLost id c row with
    | some lost => exact Quiet.same
    | none =>
      obtain ⟨hstate, hmine⟩ := outboxClaimLost_eq_none hlost
      exact Quiet.moved id row _ (requireOutbox_eq_ok hreq) (.failed c message _ hstate hmine)

omit [Stdlib Uuid] in
theorem requeueStaleOutbox_quiet (B : Nat → Prop) (id : Uuid) (stale_before : Instant)
    (reason : String) : Quiet B s (s.requeueStaleOutbox id stale_before reason).2 := by
  unfold requeueStaleOutbox
  split
  · exact Quiet.same
  · rename_i row hrow
    split_ifs with hstate hstale
    · exact Quiet.same
    · exact Quiet.same
    · exact Quiet.moved id row _ hrow (.requeuedStale reason _ (not_not.mp hstate))

theorem requeueFailedOutbox_quiet (id : Uuid) (failed_before_or_at requeued_at : Instant)
    (reason : String) (max_publish_attempts : Nat) (tenant_id : Option String) :
    Quiet (max_publish_attempts = ·) s (s.requeueFailedOutbox id failed_before_or_at requeued_at reason max_publish_attempts
      tenant_id).2 := by
  unfold requeueFailedOutbox
  split
  · exact Quiet.same
  · rename_i row hrow
    split_ifs with hparent hstate hbudget hfailed
    all_goals first
      | exact Quiet.same
      | exact Quiet.moved id row _ hrow
          (.requeuedFailed max_publish_attempts rfl reason _ (not_not.mp hstate) (by omega))

/-! ## The ids of the rows -/

/-- Every row has the id that its execution derives and lies under it, and every execution that
the outbox names is stored. -/
structure Wired (s : InMemoryExecutionPersistence Uuid) : Prop where
  rows : ∀ id row, s.outbox.get? id = some row →
    row.outbox_id = id ∧ id = deriveOutboxId row.execution_id ∧
      (s.executions.get? row.execution_id).isSome
  index : ∀ e id, s.outbox_by_execution.get? e = some id → id = deriveOutboxId e

theorem Wired.new : Wired (new : InMemoryExecutionPersistence Uuid) where
  rows _ _ h := by simp [InMemoryExecutionPersistence.new] at h
  index _ _ h := by simp [InMemoryExecutionPersistence.new] at h

variable {e : Uuid}

theorem Wired.by_execution (h : Wired s) (hrow : s.getOutboxByExecution e = some row) :
    row.outbox_id = deriveOutboxId e ∧ s.outbox.get? (deriveOutboxId e) = some row := by
  unfold getOutboxByExecution at hrow
  obtain ⟨id, hid, hget⟩ := Option.bind_eq_some_iff.mp hrow
  have := h.index e id hid
  subst this
  exact ⟨(h.rows _ row hget).1, hget⟩

theorem Wired.set_row (h : Wired s) {id : Uuid} {row' : ExecutionOutboxRecord Uuid}
    (stored : s.outbox.get? id = some row) (hid : row'.outbox_id = row.outbox_id)
    (he : row'.execution_id = row.execution_id) :
    Wired { s with outbox := s.outbox.set id row' } where
  rows id' q hq := by
    rcases Dict.get?_set_cases hq with ⟨rfl, rfl⟩ | ⟨-, hq⟩
    · rw [hid, he]
      exact h.rows _ row stored
    · exact h.rows id' q hq
  index := h.index

theorem Wired.quiet {B : Nat → Prop} (h : Wired s) (hq : Quiet B s s') : Wired s' := by
  cases hq with
  | same => exact h
  | moved id row row' stored move => exact h.set_row stored move.outbox_id move.execution_id

theorem claimOutboxForExecution_cases (h : Wired s) (e : Uuid) (publisher_id : String) (c : Uuid)
    (t : Instant) :
    (s.claimOutboxForExecution e publisher_id c t = (none, s) ∧
        ∀ row, s.getOutboxByExecution e = some row → row.state ≠ .pending) ∨
      ∃ row, s.getOutboxByExecution e = some row ∧ row.state = .pending ∧
        s.outbox.get? row.outbox_id = some row ∧
        s.claimOutboxForExecution e publisher_id c t =
          (some (claimedOutbox row publisher_id c t),
            { s with
              outbox := s.outbox.set row.outbox_id (claimedOutbox row publisher_id c t) }) := by
  unfold claimOutboxForExecution
  cases hrow : s.getOutboxByExecution e with
  | none => exact Or.inl ⟨rfl, fun row hr => by cases hr⟩
  | some row =>
    simp only
    split_ifs with hstate
    · refine Or.inl ⟨rfl, fun r hr => ?_⟩
      cases hr
      exact hstate
    · obtain ⟨hid, hget⟩ := h.by_execution hrow
      exact Or.inr ⟨row, rfl, not_not.mp hstate, hid ▸ hget, rfl⟩

/-! ## The calls that move an execution -/

/-- A call that moves an execution stores a fresh unclaimed row, or leaves the outbox alone. -/
inductive Requests (s s' : InMemoryExecutionPersistence Uuid) : Prop
  | alone (outbox : s'.outbox = s.outbox)
      (index : s'.outbox_by_execution = s.outbox_by_execution)
  | fresh (e : Uuid) (row : ExecutionOutboxRecord Uuid) (unknown : s.executions.get? e = none)
      (known : (s'.executions.get? e).isSome) (row_id : row.outbox_id = deriveOutboxId e)
      (row_execution : row.execution_id = e) (unclaimed : row.claim_id = none)
      (outbox : s'.outbox = s.outbox.set row.outbox_id row)
      (index : s'.outbox_by_execution = s.outbox_by_execution.set e row.outbox_id)

theorem requestExecution_requests {execution : ExecutionRecord Uuid}
    {outbox : ExecutionOutboxRecord Uuid} (row_id : outbox.outbox_id = deriveOutboxId execution.execution_id)
    (row_execution : outbox.execution_id = execution.execution_id)
    (unclaimed : outbox.claim_id = none) :
    Requests s (Outcome.storeAfter s (s.requestExecution execution outbox)) := by
  unfold requestExecution
  simp only
  split
  · split <;> exact Requests.alone rfl rfl
  · split_ifs with hdup
    · exact Requests.alone rfl rfl
    · refine Requests.fresh execution.execution_id outbox (by simpa using hdup) ?_ row_id
        row_execution unclaimed rfl ?_
      · simp [Outcome.storeAfter]
      · simp only [Outcome.storeAfter, row_execution]

theorem claimExecution_requests (e : Uuid) (worker_id : String) (t : Instant) :
    Requests s (Outcome.storeAfter s (s.claimExecution e worker_id t)) := by
  unfold InMemoryExecutionPersistence.claimExecution
  split
  · exact Requests.alone rfl rfl
  · split_ifs <;> exact Requests.alone rfl rfl

theorem transition_requests (e : Uuid) (attempt_id : Option Uuid) (worker_id : String)
    (report : Report) :
    Requests s (Outcome.storeAfter s (s.transition e attempt_id worker_id report)) := by
  cases hr : s.executions.get? e with
  | none =>
    rw [transition_missing hr]
    exact Requests.alone rfl rfl
  | some r =>
    rcases transition_cases report hr with ⟨lost, hlost⟩ | ⟨-, -, result, -, -, -, -, -, hresult⟩ | ⟨a, -, hset⟩
    · rw [hlost]
      exact Requests.alone rfl rfl
    · rw [hresult]
      exact Requests.alone rfl rfl
    · rw [hset]
      exact Requests.alone rfl rfl

theorem recoverStaleExecution_requests (e : Uuid) (stale_before recovered_at : Instant)
    (reason : String) :
    Requests s (Outcome.storeAfter s
      (s.recoverStaleExecution e stale_before recovered_at reason)) := by
  unfold InMemoryExecutionPersistence.recoverStaleExecution
  split
  · exact Requests.alone rfl rfl
  · split_ifs
    · exact Requests.alone rfl rfl
    · exact Requests.alone rfl rfl
    · split <;> exact Requests.alone rfl rfl

theorem perform_requests (c : RuntimeCall Uuid) : Requests s (perform s c) := by
  rcases perform_cases s c with hsame | ⟨call, hfrom, hcall⟩
  · rw [hsame]
    exact Requests.alone rfl rfl
  · rw [hcall]
    cases call with
    | request execution outbox =>
      obtain ⟨-, -, hid, he, hunclaimed, -⟩ := hfrom
      exact requestExecution_requests hid he hunclaimed
    | claim e w t => exact claimExecution_requests e w t
    | complete e a result t w category confidence => exact transition_requests e a w _
    | fail e a error t retry_requested w result => exact transition_requests e a w _
    | deadLetter e a error t w result => exact transition_requests e a w _
    | recoverStale e stale_before recovered_at reason =>
      exact recoverStaleExecution_requests e stale_before recovered_at reason

/-! ## What stays through every call -/

theorem Wired.requests (h : Wired s) (hr : Requests s s')
    (hkeeps : ∀ e, (s.executions.get? e).isSome → (s'.executions.get? e).isSome) : Wired s' := by
  cases hr with
  | alone outbox index =>
    refine ⟨fun id row hrow => ?_, fun e id he => h.index e id (index ▸ he)⟩
    rw [outbox] at hrow
    obtain ⟨h1, h2, h3⟩ := h.rows id row hrow
    exact ⟨h1, h2, hkeeps _ h3⟩
  | fresh e row unknown known row_id row_execution unclaimed outbox index =>
    refine ⟨fun id q hq => ?_, fun e' id he => ?_⟩
    · rw [outbox] at hq
      rcases Dict.get?_set_cases hq with ⟨rfl, rfl⟩ | ⟨-, hq⟩
      · exact ⟨rfl, row_execution ▸ row_id, row_execution ▸ known⟩
      · obtain ⟨h1, h2, h3⟩ := h.rows id q hq
        exact ⟨h1, h2, hkeeps _ h3⟩
    · rw [index] at he
      rcases Dict.get?_set_cases he with ⟨rfl, rfl⟩ | ⟨-, he⟩
      · exact row_id
      · exact h.index e' id he

theorem Wired.row_stays [LawfulStdlib Uuid] (h : Wired s) (hr : Requests s s') {id : Uuid}
    (hrow : s.outbox.get? id = some row) : s'.outbox.get? id = some row := by
  cases hr with
  | alone outbox => rw [outbox]; exact hrow
  | fresh e new unknown known row_id row_execution unclaimed outbox =>
    rw [outbox, Dict.get?_set_ne _ _ fun heq => ?_]
    · exact hrow
    · obtain ⟨-, hid, hknown⟩ := h.rows id row hrow
      have he := deriveOutboxId_inj (row_id.symm.trans (heq.trans hid))
      rw [← he, unknown] at hknown
      cases hknown

/-! ## What one step of the world can be -/

/-- The execution, the publisher and the row as it was read, of a thread whose next step is the
store half of a claim. -/
def Pc.intent : Pc Uuid → Option (Uuid × String × ExecutionOutboxRecord Uuid)
  | .claiming execution_id publisher_id current => some (execution_id, publisher_id, current)
  | .claimingStuck outbox current _ =>
    some (outbox.execution_id, stuckPendingReconcilerPublisherId, current)
  | _ => none

/-- Where such a thread is once it holds the claim. -/
def Pc.held : Pc Uuid → ExecutionOutboxRecord Uuid → Pc Uuid
  | .claiming .., claimed => .publishing claimed id
  | .claimingStuck outbox _ args, claimed =>
    if outbox.publish_attempt_count ≥ args.max_publish_attempts then
      .markingFailed claimed "stale_pending_retry_budget_exhausted"
    else .publishing claimed (retryFailure args.reason)
  | _, _ => .idle

/-- The retry budget of the sweep that a thread is in. -/
def Pc.budget : Pc Uuid → Option Nat
  | .checkingParent _ _ args | .requeueingFailed _ args => some args.max_publish_attempts
  | .reclaiming _ args | .claimingStuck _ _ args => some args.max_publish_attempts
  | _ => none

def Pc.publishes : Pc Uuid → Option (ExecutionOutboxRecord Uuid)
  | .publishing claimed _ => some claimed
  | _ => none

/-- A place that a step without a claim leads to: nothing to publish, and what is to be claimed
has just been read. -/
structure Pc.Settled (s : InMemoryExecutionPersistence Uuid) (pc : Pc Uuid) : Prop where
  silent : pc.publishes = none
  read : ∀ e p current, pc.intent = some (e, p, current) → s.getOutboxByExecution e = some current

omit [Stdlib Uuid] in
theorem Pc.Settled.idle : Pc.Settled s .idle := ⟨rfl, fun _ _ _ h => by cases h⟩

omit [Stdlib Uuid] in
theorem settled_of_plain {pc : Pc Uuid} (silent : pc.publishes = none) (plain : pc.intent = none) :
    Pc.Settled s pc :=
  ⟨silent, fun _ _ _ h => by rw [plain] at h; cases h⟩

theorem beginJob_settled (job : Job Uuid) : Pc.Settled s (beginJob s job) := by
  cases job with
  | stale id args =>
    simp only [beginJob]
    split
    · exact Pc.Settled.idle
    · split_ifs
      · exact Pc.Settled.idle
      · exact Pc.Settled.idle
      · exact settled_of_plain rfl rfl
  | failed id args =>
    simp only [beginJob]
    split
    · exact Pc.Settled.idle
    · split_ifs
      · exact Pc.Settled.idle
      · exact Pc.Settled.idle
      · exact Pc.Settled.idle
      · exact settled_of_plain rfl rfl
  | stuck outbox args =>
    simp only [beginJob]
    split_ifs
    · exact settled_of_plain rfl rfl
    · exact Pc.Settled.idle

section

omit [Stdlib Uuid]

theorem readForClaim_eq_some (h : readForClaim s e = some row) :
    s.getOutboxByExecution e = some row :=
  (Option.filter_eq_some_iff.mp h).1

theorem readForClaim_pending (named : s.getOutboxByExecution e = some row)
    (pending : row.state = .pending) : readForClaim s e = some row := by
  rw [readForClaim, named, Option.filter_some]
  simp [pending]

theorem claimThread_settled (e : Uuid) (publisher_id : String) :
    Pc.Settled s (claimThread s e publisher_id).pc := by
  unfold claimThread
  split_ifs
  · exact Pc.Settled.idle
  · split
    · exact Pc.Settled.idle
    · rename_i current hread
      refine ⟨rfl, fun e' p' current' h => ?_⟩
      cases h
      exact readForClaim_eq_some hread

end

/-- The store after a claim that went through. -/
def storeClaimed (s : InMemoryExecutionPersistence Uuid) (row : ExecutionOutboxRecord Uuid)
    (publisher_id : String) (current : ExecutionOutboxRecord Uuid) (t : Instant) :
    InMemoryExecutionPersistence Uuid :=
  { s with
    outbox := s.outbox.set row.outbox_id
      (claimedOutbox row publisher_id (claimIdFor publisher_id current) t) }

/-- Everything one step of a thread can be. -/
inductive Stepped (s : InMemoryExecutionPersistence Uuid) (thread : Thread Uuid) (t : Instant) :
    Effect Uuid × List (Job Uuid) → Prop
  | claimed (e : Uuid) (p : String) (current row : ExecutionOutboxRecord Uuid)
      (intent : thread.pc.intent = some (e, p, current))
      (named : s.getOutboxByExecution e = some row) (pending : row.state = .pending)
      (stored : s.outbox.get? row.outbox_id = some row) :
      Stepped s thread t
        ({ store := storeClaimed s row p current t
           pc := thread.pc.held (claimedOutbox row p (claimIdFor p current) t)
           claim := some
            ⟨row.outbox_id, p, current.publish_attempt_count, claimIdFor p current⟩ }, thread.rest)
  | published (claimed : ExecutionOutboxRecord Uuid) (pc : Pc Uuid)
      (held : thread.pc.publishes = some claimed) (settled : pc.Settled s) :
      Stepped s thread t
        ({ store := s, pc, publish := some (claimed.outbox_id, claimed.publish_attempt_count) },
          thread.rest)
  | quiet (s' : InMemoryExecutionPersistence Uuid) (pc : Pc Uuid) (rest : List (Job Uuid))
      (quiet : Quiet (thread.pc.budget = some ·) s s') (settled : pc.Settled s) :
      Stepped s thread t ({ store := s', pc }, rest)

theorem claimStep_stepped (h : Wired s) (thread : Thread Uuid) {p : String}
    {current : ExecutionOutboxRecord Uuid} (t : Instant)
    (intent : thread.pc.intent = some (e, p, current)) :
    Stepped s thread t (claimStep s e p current t thread.pc.held, thread.rest) := by
  unfold claimStep
  rcases claimOutboxForExecution_cases h e p (claimIdFor p current) t with
    ⟨hnone, -⟩ | ⟨row, named, pending, stored, hsome⟩
  · rw [hnone]
    exact Stepped.quiet s _ _ Quiet.same Pc.Settled.idle
  · rw [hsome]
    exact Stepped.claimed e p current row intent named pending stored

theorem thread_stepped (h : Wired s) (thread : Thread Uuid) (t : Instant)
    (error : Option String) : Stepped s thread t (thread.step s t error) := by
  obtain ⟨pc, rest⟩ := thread
  cases pc with
  | idle =>
    cases rest with
    | nil => exact Stepped.quiet s _ _ Quiet.same Pc.Settled.idle
    | cons job rest =>
      exact Stepped.quiet s _ _ Quiet.same (beginJob_settled job)
  | claiming e p current =>
    exact claimStep_stepped h ⟨.claiming e p current, rest⟩ t rfl
  | requeueingStale id args =>
    exact Stepped.quiet _ _ _ (requeueStaleOutbox_quiet _ id _ _) Pc.Settled.idle
  | checkingParent current id args =>
    refine Stepped.quiet s _ _ Quiet.same ?_
    split_ifs
    · exact settled_of_plain rfl rfl
    · exact Pc.Settled.idle
  | requeueingFailed id args =>
    refine Stepped.quiet _ _ _ ?_ Pc.Settled.idle
    exact (requeueFailedOutbox_quiet id _ _ _ _ _).weaken fun m hm => by simp [Pc.budget, hm]
  | reclaiming outbox args =>
    refine Stepped.quiet s _ _ Quiet.same ?_
    cases hread : readForClaim s outbox.execution_id with
    | none => exact Pc.Settled.idle
    | some current =>
      refine ⟨rfl, fun e' p' current' hi => ?_⟩
      cases hi
      exact readForClaim_eq_some hread
  | claimingStuck outbox current args =>
    exact claimStep_stepped h ⟨.claimingStuck outbox current args, rest⟩ t rfl
  | publishing claimed failure =>
    refine Stepped.published claimed _ rfl ?_
    cases error with
    | none => exact settled_of_plain rfl rfl
    | some message => exact settled_of_plain rfl rfl
  | markingPublished claimed =>
    refine Stepped.quiet _ _ _ ?_ Pc.Settled.idle
    cases claimed.claim_id with
    | none => exact Quiet.same
    | some c => exact markOutboxPublished_quiet _ _ c t
  | markingFailed claimed message =>
    refine Stepped.quiet _ _ _ ?_ Pc.Settled.idle
    cases claimed.claim_id with
    | none => exact Quiet.same
    | some c => exact markOutboxFailed_quiet _ _ c message t

/-- The store is good, and the outbox rows are under their ids. -/
structure Sound (s : InMemoryExecutionPersistence Uuid) : Prop where
  good : Good s
  wired : Wired s

theorem Sound.new : Sound (new : InMemoryExecutionPersistence Uuid) := ⟨Good.new, Wired.new⟩

theorem Good.set_outbox (h : Good s) (outbox : Dict Uuid (ExecutionOutboxRecord Uuid)) :
    Good { s with outbox } := ⟨h.kept, h.listed, h.unlisted⟩

theorem Sound.quiet {B : Nat → Prop} (h : Sound s) (hq : Quiet B s s') : Sound s' := by
  refine ⟨?_, h.wired.quiet hq⟩
  cases hq with
  | same => exact h.good
  | moved => exact Good.set_outbox h.good _

theorem Sound.claimed (h : Sound s) (stored : s.outbox.get? row.outbox_id = some row) (p : String)
    (current : ExecutionOutboxRecord Uuid) (t : Instant) : Sound (storeClaimed s row p current t) :=
  ⟨Good.set_outbox h.good _, h.wired.set_row stored rfl rfl⟩

inductive WorldStep (w : World Uuid) : Action Uuid → World Uuid → Prop
  | claimed (caller : Nat) (thread : Thread Uuid) (t : Instant) (error : Option String) (e : Uuid)
      (p : String) (current row : ExecutionOutboxRecord Uuid) (running : w.threads.get? caller = some thread)
      (intent : thread.pc.intent = some (e, p, current))
      (named : w.store.getOutboxByExecution e = some row) (pending : row.state = .pending)
      (stored : w.store.outbox.get? row.outbox_id = some row) :
      WorldStep w (.step caller t error)
        { store := storeClaimed w.store row p current t
          threads := w.threads.set caller
            ⟨thread.pc.held (claimedOutbox row p (claimIdFor p current) t), thread.rest⟩
          claims := ⟨row.outbox_id, p, current.publish_attempt_count, claimIdFor p current⟩ ::
            w.claims
          publishes := w.publishes }
  | published (caller : Nat) (thread : Thread Uuid) (t : Instant) (error : Option String)
      (claimed : ExecutionOutboxRecord Uuid) (pc : Pc Uuid)
      (running : w.threads.get? caller = some thread)
      (held : thread.pc.publishes = some claimed) (settled : pc.Settled w.store) :
      WorldStep w (.step caller t error)
        { w with
          threads := w.threads.set caller ⟨pc, thread.rest⟩
          publishes := (claimed.outbox_id, claimed.publish_attempt_count) :: w.publishes }
  | quiet (action : Action Uuid) (s' : InMemoryExecutionPersistence Uuid) (caller : Nat)
      (thread : Thread Uuid)
      (quiet : Quiet (fun m => ∃ old, w.threads.get? caller = some old ∧ old.pc.budget = some m)
        w.store s') (settled : thread.pc.Settled w.store) :
      WorldStep w action { w with store := s', threads := w.threads.set caller thread }
  | marked (action : Action Uuid) (s' : InMemoryExecutionPersistence Uuid)
      (quiet : Quiet (fun _ => False) w.store s') : WorldStep w action { w with store := s' }
  | requested (action : Action Uuid) (s' : InMemoryExecutionPersistence Uuid)
      (requests : Requests w.store s') (sound : Sound s') :
      WorldStep w action { w with store := s' }

theorem Sound.performed [LawfulStdlib Uuid] (h : Sound s) (c : RuntimeCall Uuid) :
    Sound (perform s c) := by
  obtain ⟨hchange, hgood⟩ := perform_moved h.good c
  exact ⟨hgood, h.wired.requests (perform_requests c) fun _ he => hchange.keeps_execution he⟩

theorem next_worldStep [LawfulStdlib Uuid] {w w' : World Uuid} {action : Action Uuid}
    (h : Sound w.store) (hs : next w action = some w') : WorldStep w action w' := by
  cases action with
  | runtime call =>
    cases hs
    exact WorldStep.requested _ _ (perform_requests call) (h.performed call)
  | claim caller e p =>
    cases hs
    exact WorldStep.quiet _ _ caller _ Quiet.same (claimThread_settled e p)
  | mark id c t error =>
    cases hs
    refine WorldStep.marked _ _ ?_
    cases error with
    | none => exact markOutboxPublished_quiet _ id c t
    | some message => exact markOutboxFailed_quiet _ id c message t
  | staleSweep | failedSweep | stuckSweep | reconcile =>
    cases hs
    exact WorldStep.quiet _ _ _ _ Quiet.same Pc.Settled.idle
  | step caller t error =>
    simp only [next] at hs
    cases hthread : w.threads.get? caller with
    | none => simp [hthread] at hs
    | some thread =>
      simp only [hthread] at hs
      have hstep := thread_stepped h.wired thread t error
      generalize thread.step w.store t error = out at hs hstep
      cases hs
      cases hstep with
      | claimed e p current row intent named pending stored =>
        exact WorldStep.claimed caller thread t error e p current row hthread intent named pending stored
      | published claimed pc held settled =>
        exact WorldStep.published caller thread t error claimed pc hthread held settled
      | quiet s' pc rest quiet settled =>
        refine WorldStep.quiet _ s' caller ⟨pc, rest⟩ ?_ settled
        exact quiet.weaken fun m hm => ⟨thread, hthread, hm⟩

theorem WorldStep.sound {w w' : World Uuid} {action : Action Uuid} (h : Sound w.store)
    (hs : WorldStep w action w') : Sound w'.store := by
  cases hs with
  | claimed caller thread t error e p current row running intent named pending stored =>
    exact h.claimed stored p current t
  | published => exact h
  | quiet _ s' caller thread quiet => exact h.quiet quiet
  | marked _ s' quiet => exact h.quiet quiet
  | requested _ s' requests sound => exact sound

end OutboxWorld

end operious.execution_runtime
