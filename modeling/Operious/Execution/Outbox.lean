-- The outbox calls of the in-memory store: claims of a transport intent, the marks of its
-- publisher, the two requeues, and the pages that the sweeps list.
import Operious.Execution.Memory
import Operious.Lib.Pages

namespace operious.execution_runtime

namespace InMemoryExecutionPersistence

variable {Uuid : Type} [DecidableEq Uuid] [Stdlib Uuid]

def getOutboxByExecution (s : InMemoryExecutionPersistence Uuid) (execution_id : Uuid) :
    Option (ExecutionOutboxRecord Uuid) :=
  (s.outbox_by_execution.get? execution_id).bind s.outbox.get?

def requireOutbox (s : InMemoryExecutionPersistence Uuid) (outbox_id : Uuid) :
    Except ExecutionError (ExecutionOutboxRecord Uuid) :=
  match s.outbox.get? outbox_id with
  | none => .error (.persistence ("outbox not found: " ++ Stdlib.str outbox_id))
  | some record => .ok record

/-! ## The claim and the marks -/

def claimOutboxForExecution (s : InMemoryExecutionPersistence Uuid) (execution_id : Uuid)
    (publisher_id : String) (claim_id : Uuid) (claimed_at : Instant) :
    Option (ExecutionOutboxRecord Uuid) × InMemoryExecutionPersistence Uuid :=
  match s.getOutboxByExecution execution_id with
  | none => (none, s)
  | some outbox =>
    if outbox.state ≠ .pending then (none, s)
    else
      let updated :=
        { outbox with
          state := .publishing, claimed_at := some claimed_at, publisher_id := some publisher_id,
          claim_id := some claim_id, publish_attempt_count := outbox.publish_attempt_count + 1,
          last_error := none }
      (some updated, { s with outbox := s.outbox.set outbox.outbox_id updated })

/-- Why a publisher may not mark the row, or none when it holds the claim. -/
def outboxClaimLost (outbox_id claim_id : Uuid) (outbox : ExecutionOutboxRecord Uuid) :
    Option (ExecutionOutboxClaimLost Uuid) :=
  let lost (reason : String) : ExecutionOutboxClaimLost Uuid :=
    { outbox_id, claim_id, reason, current := some outbox }
  if outbox.state = .published then some (lost "outbox_already_published")
  else if outbox.state ≠ .publishing then
    some (lost ("outbox_not_publishable:" ++ outbox.state.value))
  else if outbox.claim_id ≠ some claim_id then some (lost "outbox_claim_lost")
  else none

def markOutboxPublished (s : InMemoryExecutionPersistence Uuid) (outbox_id claim_id : Uuid)
    (published_at : Instant) : Outcome Uuid (ExecutionOutboxTransitionResult Uuid) :=
  match s.requireOutbox outbox_id with
  | .error e => .error e
  | .ok outbox =>
    if outbox.state = .published ∧ outbox.claim_id = some claim_id then .ok (.record outbox, s)
    else
      match outboxClaimLost outbox_id claim_id outbox with
      | some lost => .ok (.lost lost, s)
      | none =>
        let updated :=
          { outbox with
            state := .published, published_at := some published_at, last_error := none }
        .ok (.record updated, { s with outbox := s.outbox.set outbox_id updated })

def markOutboxFailed (s : InMemoryExecutionPersistence Uuid) (outbox_id claim_id : Uuid)
    (error : String) (failed_at : Instant) :
    Outcome Uuid (ExecutionOutboxTransitionResult Uuid) :=
  match s.requireOutbox outbox_id with
  | .error e => .error e
  | .ok outbox =>
    match outboxClaimLost outbox_id claim_id outbox with
    | some lost => .ok (.lost lost, s)
    | none =>
      let updated :=
        { outbox with
          state := .failed, published_at := none, last_error := some error,
          metadata := outbox.metadata.set "failed_at" (.str (Stdlib.isoformat Uuid failed_at)) }
      .ok (.record updated, { s with outbox := s.outbox.set outbox_id updated })

/-! ## The requeues -/

def requeueStaleOutbox (s : InMemoryExecutionPersistence Uuid) (outbox_id : Uuid)
    (stale_before : Instant) (reason : String) :
    Option (ExecutionOutboxRecord Uuid) × InMemoryExecutionPersistence Uuid :=
  match s.outbox.get? outbox_id with
  | none => (none, s)
  | some outbox =>
    if outbox.state ≠ .publishing then (none, s)
    else if outbox.claimed_at.all (· > stale_before) then (none, s)
    else
      let updated :=
        { outbox with
          state := .pending, claimed_at := none, publisher_id := none, claim_id := none,
          last_error := some reason,
          metadata := outbox.metadata.set "reconciler.reason" (.str reason) }
      (some updated, { s with outbox := s.outbox.set outbox_id updated })

/-- `_outbox_failed_at`: the instant of the last failure, when the metadata has a usable one. -/
def outboxFailedAt (outbox : ExecutionOutboxRecord Uuid) : Option Instant :=
  match outbox.metadata.get? "failed_at" with
  | some (.str text) => Stdlib.fromisoformat Uuid text
  | _ => none

def metadataInt (Uuid : Type) [Stdlib Uuid] : Option Value → Int
  | some (.int i) => i
  | some (.bool b) => if b then 1 else 0
  | some (.str text) => (Stdlib.parseInt Uuid text).getD 0
  | _ => 0

/-- The mark of a failed row that was requeued. The stuck-pending page lists only rows that
have it. -/
def retryCountKey : String := "failed_recovery.retry_attempt_count"

def retryMetadata (outbox : ExecutionOutboxRecord Uuid) (requeued_at : Instant)
    (reason : String) : Metadata :=
  outbox.metadata.update
    [("failed_recovery.previous_failure_reason", .ofOptStr outbox.last_error),
      (retryCountKey, .int (metadataInt Uuid (outbox.metadata.get? retryCountKey) + 1)),
      ("failed_recovery.last_recovered_at", .str (Stdlib.isoformat Uuid requeued_at)),
      ("failed_recovery.reason", .str reason)]

/-- The parent of a row, when it may still be retried for this tenant. -/
def retryableParent (s : InMemoryExecutionPersistence Uuid) (execution_id : Uuid)
    (tenant_id : Option String) : Bool :=
  match s.executions.get? execution_id with
  | none => false
  | some execution => tenant_id.all (· = execution.tenant_id) && !execution.state.terminal

def requeueFailedOutbox (s : InMemoryExecutionPersistence Uuid) (outbox_id : Uuid)
    (failed_before_or_at requeued_at : Instant) (reason : String) (max_publish_attempts : Nat)
    (expected_tenant_id : Option String) :
    Option (ExecutionOutboxRecord Uuid) × InMemoryExecutionPersistence Uuid :=
  match s.outbox.get? outbox_id with
  | none => (none, s)
  | some outbox =>
    if !s.retryableParent outbox.execution_id expected_tenant_id then (none, s)
    else if outbox.state ≠ .failed then (none, s)
    else if outbox.publish_attempt_count ≥ max_publish_attempts then (none, s)
    else if (outboxFailedAt outbox).all (· > failed_before_or_at) then (none, s)
    else
      let updated :=
        { outbox with
          state := .pending, claimed_at := none, publisher_id := none, claim_id := none,
          published_at := none, last_error := some reason,
          metadata := retryMetadata outbox requeued_at reason }
      (some updated, { s with outbox := s.outbox.set outbox_id updated })

/-! ## The pages -/

/-- Rows in the order of their creation, then of the text of their id, and no more than fit. -/
def outboxPage (rows : List (ExecutionOutboxRecord Uuid)) (limit : Nat) :
    List (ExecutionOutboxRecord Uuid) :=
  (rows.insertionSort fun a b =>
    a.created_at < b.created_at ∨
      a.created_at = b.created_at ∧ Stdlib.str a.outbox_id ≤ Stdlib.str b.outbox_id).take limit

/-- `list_outbox` with a state and perhaps a tenant, from the start. -/
def listOutbox (s : InMemoryExecutionPersistence Uuid) (tenant_id : Option String)
    (state : ExecutionOutboxState) (limit : Nat) : List (ExecutionOutboxRecord Uuid) :=
  outboxPage (s.outbox.values.filter fun row =>
    tenant_id.all (fun t => (s.executions.get? row.execution_id).any (·.tenant_id = t)) &&
      row.state = state) limit

def listRetryableFailedOutboxRecords (s : InMemoryExecutionPersistence Uuid)
    (tenant_id : Option String) (failed_before_or_at : Instant) (max_publish_attempts limit : Nat) :
    List (ExecutionOutboxRecord Uuid) :=
  outboxPage (s.outbox.values.filter fun row =>
    s.retryableParent row.execution_id tenant_id && row.state = .failed &&
      row.publish_attempt_count < max_publish_attempts &&
      (outboxFailedAt row).any (· ≤ failed_before_or_at)) limit

def listStuckPendingOutboxRecords (s : InMemoryExecutionPersistence Uuid)
    (tenant_id : Option String) (stale_before : Instant) (limit : Nat) :
    List (ExecutionOutboxRecord Uuid) :=
  outboxPage (s.outbox.values.filter fun row =>
    s.retryableParent row.execution_id tenant_id && row.state = .pending &&
      (row.metadata.get? retryCountKey).isSome && row.created_at ≤ stale_before) limit

end InMemoryExecutionPersistence

end operious.execution_runtime

-- The page of failed outbox rows that may be retried. The store in memory filters all rows and cuts the
-- page; the Postgres store cuts a window of four pages first, and looks at the failures in the window only.
namespace operious.execution_runtime

namespace retry_pages

open InMemoryExecutionPersistence (outboxFailedAt outboxPage)
open pages

variable {Uuid : Type}

/-- The order of both pages. -/
def createdFirst [Stdlib Uuid] (a b : ExecutionOutboxRecord Uuid) : Prop :=
  a.created_at < b.created_at ∨
    a.created_at = b.created_at ∧ Stdlib.str a.outbox_id ≤ Stdlib.str b.outbox_id

instance [Stdlib Uuid] : DecidableRel (@createdFirst Uuid _) := fun a b =>
  inferInstanceAs (Decidable (a.created_at < b.created_at ∨
    a.created_at = b.created_at ∧ Stdlib.str a.outbox_id ≤ Stdlib.str b.outbox_id))

instance [Stdlib Uuid] : IsTrans (ExecutionOutboxRecord Uuid) createdFirst where
  trans a b c hab hbc := by
    rcases hab with hab | ⟨hab, hle⟩ <;> rcases hbc with hbc | ⟨hbc, hle'⟩
    · exact .inl (hab.trans hbc)
    · exact .inl (hbc ▸ hab)
    · exact .inl (hab ▸ hbc)
    · exact .inr ⟨hab.trans hbc, String.le_trans hle hle'⟩

instance [Stdlib Uuid] : Std.Total (@createdFirst Uuid _) where
  total a b := by
    rcases lt_trichotomy a.created_at b.created_at with hlt | heq | hgt
    · exact .inl (.inl hlt)
    · exact (String.le_total _ _).imp (fun h => .inr ⟨heq, h⟩) fun h => .inr ⟨heq.symm, h⟩
    · exact .inr (.inl hgt)

variable [DecidableEq Uuid] [Stdlib Uuid]

/-- A failure that has cooled down. A row without a usable instant of its failure never has. -/
def cooled (failed_before_or_at : Instant) (row : ExecutionOutboxRecord Uuid) : Bool :=
  (outboxFailedAt row).any (· ≤ failed_before_or_at)

/-! ## The Postgres page -/

/-- The join with the execution, the `WHERE` and the `ORDER BY`. -/
def retryQueue (executions : Dict Uuid (ExecutionRecord Uuid))
    (outbox : Dict Uuid (ExecutionOutboxRecord Uuid)) (tenant_id : Option String)
    (max_publish_attempts : Nat) : List (ExecutionOutboxRecord Uuid) :=
  (outbox.values.filter fun row =>
    (executions.get? row.execution_id).any (fun execution =>
      tenant_id.all (· = execution.tenant_id) && !execution.state.terminal) &&
      row.state = .failed && row.publish_attempt_count < max_publish_attempts).insertionSort createdFirst

/-- The loop over the rows of the window: it stops once the page is full. -/
def collect (failed_before_or_at : Instant) (limit : Nat) :
    List (ExecutionOutboxRecord Uuid) → List (ExecutionOutboxRecord Uuid) →
      List (ExecutionOutboxRecord Uuid)
  | records, [] => records
  | records, row :: rows =>
    if cooled failed_before_or_at row then
      if limit ≤ (records ++ [row]).length then records ++ [row]
      else collect failed_before_or_at limit (records ++ [row]) rows
    else collect failed_before_or_at limit records rows

/-- `PostgresExecutionPersistence.list_retryable_failed_outbox_records`. -/
def listRetryableFailedOutboxRecords (executions : Dict Uuid (ExecutionRecord Uuid))
    (outbox : Dict Uuid (ExecutionOutboxRecord Uuid)) (tenant_id : Option String)
    (failed_before_or_at : Instant) (max_publish_attempts limit : Nat) :
    List (ExecutionOutboxRecord Uuid) :=
  collect failed_before_or_at limit []
    ((retryQueue executions outbox tenant_id max_publish_attempts).take (max (limit * 4) limit))

variable {failed_before_or_at : Instant} {limit : Nat}

omit [DecidableEq Uuid] in
theorem collect_eq (rows records : List (ExecutionOutboxRecord Uuid)) (hroom : records.length < limit) :
    collect failed_before_or_at limit records rows =
      records ++ (rows.filter (cooled failed_before_or_at)).take (limit - records.length) := by
  induction rows generalizing records with
  | nil => simp [collect]
  | cons row rows ih =>
    rw [collect]
    have hlength : (records ++ [row]).length = records.length + 1 := by simp
    split
    · rename_i hcooled
      obtain ⟨left, hleft⟩ : ∃ left, limit - records.length = left + 1 :=
        Nat.exists_eq_add_one.mpr (Nat.sub_pos_of_lt hroom)
      rw [List.filter_cons_of_pos hcooled, hleft, List.take_succ_cons]
      split
      · have hzero : left = 0 := by omega
        rw [hzero, List.take_zero]
      · rename_i hopen
        have hrest : limit - (records ++ [row]).length = left := by omega
        rw [ih _ (Nat.lt_of_not_le hopen), hrest, List.append_assoc, List.singleton_append]
    · rename_i hwarm
      rw [List.filter_cons_of_neg hwarm, ih records hroom]

variable (s : InMemoryExecutionPersistence Uuid) (tenant_id : Option String) (max_publish_attempts : Nat)

theorem memory_page_eq :
    s.listRetryableFailedOutboxRecords tenant_id failed_before_or_at max_publish_attempts limit =
      ((retryQueue s.executions s.outbox tenant_id max_publish_attempts).filter
        (cooled failed_before_or_at)).take limit := by
  rw [retryQueue, filter_insertionSort, List.filter_filter]
  have hrows : (s.outbox.values.filter fun row =>
      s.retryableParent row.execution_id tenant_id && row.state = .failed &&
        row.publish_attempt_count < max_publish_attempts &&
        (outboxFailedAt row).any (· ≤ failed_before_or_at)) =
      s.outbox.values.filter fun row => cooled failed_before_or_at row &&
        ((s.executions.get? row.execution_id).any (fun execution =>
          tenant_id.all (· = execution.tenant_id) && !execution.state.terminal) &&
          row.state = .failed && row.publish_attempt_count < max_publish_attempts) := by
    refine List.filter_congr fun row _ => ?_
    rw [InMemoryExecutionPersistence.retryableParent, Bool.and_comm, cooled]
    cases s.executions.get? row.execution_id <;> rfl
  rw [InMemoryExecutionPersistence.listRetryableFailedOutboxRecords, hrows]
  rfl

/-! ## When the pages agree -/

/-- The window of four pages holds a full page of failures that have cooled down, or all of them. -/
def Reached (queue : List (ExecutionOutboxRecord Uuid)) (failed_before_or_at : Instant) (limit : Nat) : Prop :=
  limit ≤ (queue.take (4 * limit)).countP (cooled failed_before_or_at) ∨
    ∀ row ∈ queue.drop (4 * limit), cooled failed_before_or_at row = false

/-- For all rows, the two stores list the same failures to retry, and some where there are any, exactly when
the window of the Postgres store reaches them. -/
theorem retryable_pages_agree_iff (hlimit : 1 ≤ limit) :
    (listRetryableFailedOutboxRecords s.executions s.outbox tenant_id failed_before_or_at
          max_publish_attempts limit =
        s.listRetryableFailedOutboxRecords tenant_id failed_before_or_at max_publish_attempts limit ∧
      ((∃ row ∈ retryQueue s.executions s.outbox tenant_id max_publish_attempts,
          cooled failed_before_or_at row = true) →
        listRetryableFailedOutboxRecords s.executions s.outbox tenant_id failed_before_or_at
          max_publish_attempts limit ≠ [])) ↔
      Reached (retryQueue s.executions s.outbox tenant_id max_publish_attempts) failed_before_or_at
        limit := by
  have hwindow : max (limit * 4) limit = 4 * limit := by omega
  rw [memory_page_eq, listRetryableFailedOutboxRecords, hwindow, collect_eq _ _ hlimit, List.nil_append,
    List.length_nil, Nat.sub_zero]
  generalize retryQueue s.executions s.outbox tenant_id max_publish_attempts = queue
  have hreached : Reached queue failed_before_or_at limit ↔
      limit ≤ ((queue.take (4 * limit)).filter (cooled failed_before_or_at)).length ∨
        (queue.drop (4 * limit)).filter (cooled failed_before_or_at) = [] := by
    rw [Reached, List.countP_eq_length_filter, List.filter_eq_nil_iff]
    simp only [Bool.not_eq_true]
  rw [hreached, ← take_filter_take_eq_iff, and_iff_left_iff_imp]
  -- a page of all failures that have cooled down is empty only where there are none
  rintro hagree ⟨row, hrow, hcooled⟩ hempty
  have hmem : row ∈ queue.filter (cooled failed_before_or_at) := List.mem_filter.mpr ⟨hrow, hcooled⟩
  rcases List.take_eq_nil_iff.mp (hagree.symm.trans hempty) with hzero | hnone
  · omega
  · rw [hnone] at hmem
    cases hmem

/-! ## A starved row -/

/-- Four failures of this moment, and behind them one that has long cooled down. -/
def crowded : InMemoryExecutionPersistence String :=
  let execution : ExecutionRecord String :=
    { execution_id := "e", kind := .diagnosticAgent, dispatch_id := "d", session_id := "s", tenant_id := "t",
      state := .requested, attempt_count := 0, requested_at := 0 }
  let failed (outbox_id : String) (created_at failed_at : Instant) : String × ExecutionOutboxRecord String :=
    (outbox_id,
      { outbox_id, execution_id := "e", state := .failed, created_at, publish_attempt_count := 1,
        metadata := Dict.ofList [("failed_at", .str (Stdlib.isoformat String failed_at))] })
  { InMemoryExecutionPersistence.new with
    executions := Dict.ofList [("e", execution)]
    outbox := Dict.ofList
      [failed "a" 1 90, failed "b" 2 90, failed "c" 3 90, failed "d" 4 90, failed "f" 5 10] }

theorem a_cooled_row_is_starved :
    ¬ (listRetryableFailedOutboxRecords crowded.executions crowded.outbox none 20 3 1 =
          crowded.listRetryableFailedOutboxRecords none 20 3 1 ∧
        ((∃ row ∈ retryQueue crowded.executions crowded.outbox none 3, cooled 20 row = true) →
          listRetryableFailedOutboxRecords crowded.executions crowded.outbox none 20 3 1 ≠ [])) := by
  rintro ⟨hagree, -⟩
  have hpages : listRetryableFailedOutboxRecords crowded.executions crowded.outbox none 20 3 1 = [] ∧
      (crowded.listRetryableFailedOutboxRecords none 20 3 1).length = 1 := by decide +kernel
  rw [← hagree, hpages.1] at hpages
  exact absurd hpages.2 (by decide)

/-- A page of two has a window that reaches the last row. -/
theorem two_at_a_time_reach_it :
    (listRetryableFailedOutboxRecords crowded.executions crowded.outbox none 20 3 2 =
          crowded.listRetryableFailedOutboxRecords none 20 3 2 ∧
        ((∃ row ∈ retryQueue crowded.executions crowded.outbox none 3, cooled 20 row = true) →
          listRetryableFailedOutboxRecords crowded.executions crowded.outbox none 20 3 2 ≠ [])) ↔
      Reached (retryQueue crowded.executions crowded.outbox none 3) 20 2 :=
  retryable_pages_agree_iff crowded none 3 (by decide)

end retry_pages

end operious.execution_runtime
