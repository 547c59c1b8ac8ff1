-- The requeue of a failed outbox row in the Postgres store: it reads the row, and then updates it under a
-- guard that looks at neither the instant of the failure nor the metadata that it overwrites.
import Operious.Execution.Outbox

namespace operious.execution_runtime

open InMemoryExecutionPersistence (outboxFailedAt metadataInt retryMetadata retryCountKey)
open runs

namespace failed_requeues

section

variable {ι Uuid : Type} [DecidableEq ι] [DecidableEq Uuid] [Stdlib Uuid]

/-! ## The two calls that read before they update -/

inductive Call (Uuid : Type)
  | requeue_failed_outbox (failed_before_or_at requeued_at : Instant) (reason : String)
      (max_publish_attempts : Nat)
  | mark_outbox_failed (claim_id : Uuid) (error : String) (failed_at : Instant)

/-- The call goes on to its update from the row that it has read. -/
def Call.proceeds (existing : ExecutionOutboxRecord Uuid) : Call Uuid → Bool
  | requeue_failed_outbox failed_before_or_at _ _ max_publish_attempts =>
    existing.state = .failed && existing.publish_attempt_count < max_publish_attempts &&
      (outboxFailedAt existing).any (· ≤ failed_before_or_at)
  | mark_outbox_failed .. => existing.state = .publishing

/-- The guard of the update, on the row as it is then. The parent of the row may be retried or not. -/
def Call.guard (row : ExecutionOutboxRecord Uuid) (retryable : Bool) : Call Uuid → Bool
  | requeue_failed_outbox _ _ _ max_publish_attempts =>
    row.state = .failed && row.publish_attempt_count < max_publish_attempts && retryable
  | mark_outbox_failed claim_id _ _ => row.state = .publishing && row.claim_id = some claim_id

def Call.update (existing row : ExecutionOutboxRecord Uuid) : Call Uuid → ExecutionOutboxRecord Uuid
  | requeue_failed_outbox _ requeued_at reason _ =>
    { row with
      state := .pending, claimed_at := none, publisher_id := none, claim_id := none,
      published_at := none, last_error := some reason,
      metadata := retryMetadata existing requeued_at reason }
  | mark_outbox_failed _ error failed_at =>
    { row with
      state := .failed, published_at := none, last_error := some error,
      metadata := existing.metadata.set "failed_at" (.str (Stdlib.isoformat Uuid failed_at)) }

def Call.requeues : Call Uuid → Nat
  | requeue_failed_outbox .. => 1
  | mark_outbox_failed .. => 0

/-- The row, what each caller that is to update has read, and how many requeues succeeded. -/
structure System (ι Uuid : Type) where
  row : ExecutionOutboxRecord Uuid
  callers : ι → Option (Call Uuid × ExecutionOutboxRecord Uuid)
  requeues : Nat

inductive Event (ι Uuid : Type)
  | claim_outbox_for_execution (publisher_id : String) (claim_id : Uuid) (claimed_at : Instant)
  | read (i : ι) (call : Call Uuid)
  | update (i : ι) (retryable : Bool)
  /-- The caller dies, or its update is rolled back. -/
  | stop (i : ι)

variable (s : System ι Uuid)

def System.place (i : ι) (caller : Option (Call Uuid × ExecutionOutboxRecord Uuid)) : System ι Uuid :=
  { s with callers := Function.update s.callers i caller }

def Event.next (s : System ι Uuid) : Event ι Uuid → Option (System ι Uuid)
  | claim_outbox_for_execution publisher_id claim_id claimed_at =>
    if s.row.state = .pending then
      some { s with row := { s.row with
        state := .publishing, claimed_at := some claimed_at, publisher_id := some publisher_id,
        claim_id := some claim_id, publish_attempt_count := s.row.publish_attempt_count + 1,
        last_error := none } }
    else some s
  | read i call => some (s.place i (if call.proceeds s.row then some (call, s.row) else none))
  | update i retryable =>
    match s.callers i with
    | some (call, existing) =>
      if call.guard s.row retryable then
        some { s.place i none with
          row := call.update existing s.row, requeues := s.requeues + call.requeues }
      else some (s.place i none)
    | none => none
  | stop i => some (s.place i none)

/-- The row as `request_execution` stores it. -/
def System.start (outbox_id execution_id : Uuid) (created_at : Instant) (metadata : Metadata) :
    System ι Uuid where
  row := { outbox_id, execution_id, state := .pending, created_at, metadata }
  callers _ := none
  requeues := 0

/-! ## The law -/

/-- `metadata["failed_recovery.retry_attempt_count"]`. -/
def retryCount (row : ExecutionOutboxRecord Uuid) : Int :=
  metadataInt Uuid (row.metadata.get? retryCountKey)

/-- A requeue that succeeds finds the last failure of the row far enough back, and the row always counts
the requeues that succeeded. -/
structure Requeued (before : System ι Uuid) (event : Event ι Uuid) (after : System ι Uuid) : Prop where
  cooled : ∀ i retryable failed_before_or_at requeued_at reason max_publish_attempts existing,
    event = .update i retryable →
    before.callers i =
      some (.requeue_failed_outbox failed_before_or_at requeued_at reason max_publish_attempts, existing) →
    after.requeues ≠ before.requeues →
      (outboxFailedAt before.row).any (· ≤ failed_before_or_at) = true
  counted : retryCount after.row = after.requeues

/-- An update that passes its guard is of a row that was not claimed again since the caller has read it. -/
def Current (s : System ι Uuid) : Event ι Uuid → Prop
  | .update i retryable =>
    match s.callers i with
    | some (call, existing) =>
      call.guard s.row retryable = true → existing.publish_attempt_count = s.row.publish_attempt_count
    | none => True
  | _ => True

/-- What a caller has read is the row of this claim or of one before it, and no later stage of it. -/
structure Seen (row : ExecutionOutboxRecord Uuid) (call : Call Uuid)
    (existing : ExecutionOutboxRecord Uuid) : Prop where
  proceeds : call.proceeds existing = true
  counted : retryCount existing + 1 = existing.publish_attempt_count
  claimed : existing.publish_attempt_count ≤ row.publish_attempt_count
  stage : existing.publish_attempt_count = row.publish_attempt_count →
    existing.state = row.state ∧ existing.metadata = row.metadata ∨
      existing.state = .publishing ∧ row.state = .failed ∨ row.state = .pending

/-- What holds between the events of every run in which no update is stale. -/
structure Sound (s : System ι Uuid) : Prop where
  counted : retryCount s.row = s.requeues
  claims : s.row.publish_attempt_count = s.requeues + if s.row.state = .pending then 0 else 1
  callers : ∀ i call existing, s.callers i = some (call, existing) → Seen s.row call existing

variable {s s' : System ι Uuid}

omit [DecidableEq Uuid] in
theorem retryCount_update (existing row : ExecutionOutboxRecord Uuid) (call : Call Uuid) :
    retryCount (call.update existing row) = retryCount existing + call.requeues := by
  cases call with
  | requeue_failed_outbox failed_before_or_at requeued_at reason max_publish_attempts =>
    have hget : (retryMetadata existing requeued_at reason).get? retryCountKey =
        some (.int (metadataInt Uuid (existing.metadata.get? retryCountKey) + 1)) := by
      rw [retryMetadata, Dict.get?_update _ (by simp [retryCountKey])]
      simp [Dict.find, retryCountKey]
    exact congrArg (metadataInt Uuid) hget
  | mark_outbox_failed claim_id error failed_at =>
    have hget : (existing.metadata.set "failed_at" (.str (Stdlib.isoformat Uuid failed_at))).get?
        retryCountKey = existing.metadata.get? retryCountKey :=
      Dict.get?_set_ne _ _ (by decide)
    exact (congrArg (metadataInt Uuid) hget).trans (add_zero _).symm

variable {existing : ExecutionOutboxRecord Uuid} {retryable : Bool}

theorem Seen.after_update {row other : ExecutionOutboxRecord Uuid} {call call' : Call Uuid}
    (h : Seen row call existing) (hguard : call'.guard row retryable = true) :
    Seen (call'.update other row) call existing := by
  refine ⟨h.proceeds, h.counted, ?_, fun hsame => ?_⟩
  · cases call' <;> exact h.claimed
  · cases call' with
    | requeue_failed_outbox => exact .inr (.inr rfl)
    | mark_outbox_failed =>
      obtain ⟨hpublishing, -⟩ := Bool.and_eq_true_iff.mp hguard
      have hpublishing : row.state = .publishing := of_decide_eq_true hpublishing
      rcases h.stage hsame with ⟨hstate, -⟩ | ⟨-, hfailed⟩ | hpending
      · exact .inr (.inl ⟨hstate.trans hpublishing, rfl⟩)
      · rw [hpublishing] at hfailed
        cases hfailed
      · rw [hpublishing] at hpending
        cases hpending

variable {call : Call Uuid}

omit [Stdlib Uuid] in
theorem Call.guard_claimed {row : ExecutionOutboxRecord Uuid}
    (hguard : call.guard row retryable = true) : row.state ≠ .pending := by
  intro hpending
  cases call <;> simp [Call.guard, hpending] at hguard

theorem Seen.metadata {row existing : ExecutionOutboxRecord Uuid} (h : Seen row call existing)
    (hguard : call.guard row retryable = true)
    (hsame : existing.publish_attempt_count = row.publish_attempt_count) :
    existing.metadata = row.metadata := by
  rcases h.stage hsame with ⟨-, hmetadata⟩ | ⟨hpublishing, hfailed⟩ | hpending
  · exact hmetadata
  · have hproceeds := h.proceeds
    cases call <;> simp [Call.proceeds, Call.guard, hpublishing, hfailed] at hproceeds hguard
  · exact absurd hpending (Call.guard_claimed hguard)

omit [DecidableEq Uuid] in
theorem Sound.place (h : Sound s) (i : ι) {caller : Option (Call Uuid × ExecutionOutboxRecord Uuid)}
    (hcaller : ∀ call existing, caller = some (call, existing) → Seen s.row call existing) :
    Sound (s.place i caller) := by
  refine ⟨h.counted, h.claims, fun j call existing hj => ?_⟩
  have hj : Function.update s.callers i caller j = some (call, existing) := hj
  rcases eq_or_ne j i with rfl | hne
  · rw [Function.update_self] at hj
    exact hcaller call existing hj
  · rw [Function.update_of_ne hne] at hj
    exact h.callers j call existing hj

omit [DecidableEq Uuid] in
theorem Sound.released (h : Sound s) {i : ι} : Sound (s.place i none) :=
  h.place i fun _ _ hcaller => nomatch hcaller

omit [DecidableEq ι] in
theorem Sound.counted_iff (h : Sound s) {i : ι} (hcaller : s.callers i = some (call, existing))
    (hguard : call.guard s.row retryable = true) :
    retryCount (call.update existing s.row) = ((s.requeues + call.requeues : Nat) : Int) ↔
      existing.publish_attempt_count = s.row.publish_attempt_count := by
  have hseen := (h.callers i call existing hcaller).counted
  have hclaims := h.claims
  rw [if_neg (Call.guard_claimed hguard)] at hclaims
  rw [retryCount_update]
  omega

theorem Sound.update (h : Sound s) {i : ι} (hcaller : s.callers i = some (call, existing))
    (hguard : call.guard s.row retryable = true)
    (hsame : existing.publish_attempt_count = s.row.publish_attempt_count) :
    Sound { s.place i none with
      row := call.update existing s.row, requeues := s.requeues + call.requeues } := by
  have hclaims := h.claims
  rw [if_neg (Call.guard_claimed hguard)] at hclaims
  refine ⟨(h.counted_iff hcaller hguard).mpr hsame, ?_, fun j call' existing' hj => ?_⟩
  · cases call <;> exact hclaims
  · have hplaced : Seen (s.place i none).row call' existing' := h.released.callers j call' existing' hj
    exact hplaced.after_update hguard

theorem Sound.claimed (h : Sound s) {publisher_id : String} {claim_id : Uuid} {claimed_at : Instant}
    (hnext : (Event.claim_outbox_for_execution publisher_id claim_id claimed_at).next s = some s') :
    Sound s' := by
  rw [Event.next] at hnext
  split at hnext
  · rename_i hpending
    have hclaims := h.claims
    rw [if_pos hpending] at hclaims
    obtain rfl := Option.some.inj hnext
    refine ⟨h.counted, congrArg (· + 1) hclaims, fun i call existing hi => ?_⟩
    have hseen := h.callers i call existing hi
    have hlt : existing.publish_attempt_count < s.row.publish_attempt_count + 1 :=
      Nat.lt_succ_of_le hseen.claimed
    exact ⟨hseen.proceeds, hseen.counted, hlt.le, fun hsame => absurd hsame hlt.ne⟩
  · obtain rfl := Option.some.inj hnext
    exact h

omit [DecidableEq ι] [DecidableEq Uuid] in
theorem Sound.read (h : Sound s) (hproceeds : call.proceeds s.row = true) :
    Seen s.row call s.row := by
  have hclaims := h.claims
  have hcounted := h.counted
  have hclaimed : s.row.state ≠ .pending := by
    intro hpending
    cases call <;> simp [Call.proceeds, hpending] at hproceeds
  rw [if_neg hclaimed] at hclaims
  refine ⟨hproceeds, ?_, le_rfl, fun _ => .inl ⟨rfl, rfl⟩⟩
  rw [hcounted, hclaims]
  rfl

theorem Sound.next (h : Sound s) {event : Event ι Uuid} (hnext : event.next s = some s') :
    (Current s event → Sound s') ∧ (Requeued s event s' ↔ Current s event) := by
  have hquiet (hsound : Sound s') (hevent : ∀ i retryable, event ≠ .update i retryable)
      (hcurrent : Current s event) :
      (Current s event → Sound s') ∧ (Requeued s event s' ↔ Current s event) :=
    ⟨fun _ => hsound, iff_of_true ⟨fun i retryable _ _ _ _ _ he => absurd he (hevent i retryable),
      hsound.counted⟩ hcurrent⟩
  cases event with
  | claim_outbox_for_execution =>
    exact hquiet (h.claimed hnext) (fun _ _ he => nomatch he) trivial
  | read i call =>
    obtain rfl := Option.some.inj hnext
    refine hquiet (h.place i fun call' existing hcaller => ?_) (fun _ _ he => nomatch he) trivial
    split at hcaller
    · rename_i hproceeds
      obtain ⟨rfl, rfl⟩ := Prod.mk.inj (Option.some.inj hcaller)
      exact h.read hproceeds
    · cases hcaller
  | stop i =>
    obtain rfl := Option.some.inj hnext
    exact hquiet h.released (fun _ _ he => nomatch he) trivial
  | update i retryable =>
    rw [Event.next] at hnext
    split at hnext
    · rename_i call existing hcaller
      have hcurrent : Current s (.update i retryable) ↔ (call.guard s.row retryable = true →
          existing.publish_attempt_count = s.row.publish_attempt_count) := by
        simp only [Current, hcaller]
      rw [hcurrent]
      split at hnext
      · rename_i hguard
        obtain rfl := Option.some.inj hnext
        refine ⟨fun hsame => h.update hcaller hguard (hsame hguard), fun hrequeued _ => ?_, fun hsame => ?_⟩
        · exact (h.counted_iff hcaller hguard).mp hrequeued.counted
        · refine ⟨?_, (h.counted_iff hcaller hguard).mpr (hsame hguard)⟩
          intro j retryable' failed_before_or_at requeued_at reason max_publish_attempts existing' he hj _
          obtain ⟨rfl, rfl⟩ := Event.update.inj he
          obtain ⟨rfl, rfl⟩ := Prod.mk.inj (Option.some.inj (hcaller.symm.trans hj))
          -- the cooldown was checked on the failure that the row still has
          have hseen := h.callers i _ existing hcaller
          have hproceeds := hseen.proceeds
          obtain ⟨-, hcooled⟩ := Bool.and_eq_true_iff.mp hproceeds
          rwa [outboxFailedAt, hseen.metadata hguard (hsame hguard)] at hcooled
      · rename_i hguard
        obtain rfl := Option.some.inj hnext
        have hsound : Sound (s.place i none) := h.released
        exact ⟨fun _ => hsound, iff_of_true ⟨fun _ _ _ _ _ _ _ _ _ hne => absurd rfl hne, hsound.counted⟩
          fun hpass => absurd hpass hguard⟩
    · cases hnext

/-- Whatever callers run side by side, the cooldown and the count are kept exactly where no update takes
effect on a row that was claimed again since the caller has read it. -/
theorem requeues_kept_iff (outbox_id execution_id : Uuid) (created_at : Instant) (metadata : Metadata)
    (hnew : metadata.get? retryCountKey = none) (events : List (Event ι Uuid)) :
    Along Event.next Requeued (.start outbox_id execution_id created_at metadata) events ↔
      Meets Event.next Current (.start outbox_id execution_id created_at metadata) events := by
  refine along_iff_meets (I := Sound) ?_ ?_ ⟨?_, rfl, fun _ _ _ h => nomatch h⟩
  · exact fun _ _ _ h hcurrent hnext => (h.next hnext).1 hcurrent
  · exact fun _ _ _ h hnext => (h.next hnext).2
  · exact congrArg (metadataInt Uuid) hnew

end

/-! ## Two sweeps on one failure -/

/-- Two sweeps read the same failure; the first requeues it, and the row is claimed and fails again. -/
def secondFailure : List (Event Nat String) :=
  [.claim_outbox_for_execution "p" "c1" 1, .read 0 (.mark_outbox_failed "c1" "e" 2), .update 0 true,
   .read 1 (.requeue_failed_outbox 5 6 "r" 9), .read 2 (.requeue_failed_outbox 5 6 "r" 9), .update 1 true,
   .claim_outbox_for_execution "p" "c2" 7, .read 0 (.mark_outbox_failed "c2" "e" 8), .update 0 true]

/-- The second sweep requeues the new failure, which has not cooled down, and the count stays at one. -/
theorem stale_requeue_loses_the_count :
    ¬ Along Event.next Requeued (.start "o" "e" 0 Dict.empty : System Nat String)
      (secondFailure ++ [.update 2 true]) := by
  intro h
  have hrun : ((after Event.next (.start "o" "e" 0 Dict.empty : System Nat String) secondFailure).bind
      fun s => (Event.next s (.update 2 true)).map fun s' =>
        (outboxFailedAt s.row, retryCount s'.row, s'.requeues)) = some (some 8, 1, 2) := by
    decide +kernel
  obtain ⟨s, hs, hrun⟩ := Option.bind_eq_some_iff.mp hrun
  obtain ⟨s', hnext, hrun⟩ := Option.map_eq_some_iff.mp hrun
  have hcounted := (h.last hs hnext).counted
  rw [show retryCount s'.row = 1 from congrArg (·.2.1) hrun,
    show s'.requeues = 2 from congrArg (·.2.2) hrun] at hcounted
  exact absurd hcounted (by decide)

/-- One sweep on one failure. -/
theorem one_sweep_is_kept :
    Along Event.next Requeued (.start "o" "e" 0 Dict.empty : System Nat String) (secondFailure.take 4) ↔
      Meets Event.next Current (.start "o" "e" 0 Dict.empty : System Nat String) (secondFailure.take 4) :=
  requeues_kept_iff "o" "e" 0 Dict.empty rfl _

end failed_requeues

end operious.execution_runtime
