-- Stale workers are fenced, however the store calls of the workers and of the recovery sweeps
-- interleave: what is terminal stays, and a worker whose attempt is not the running one of the
-- execution changes nothing.
import Operious.Execution.MemoryLineage

namespace operious.execution_runtime

open InMemoryExecutionPersistence

variable {Uuid : Type} [DecidableEq Uuid] [Stdlib Uuid]

def NamesCurrentAttempt (s : InMemoryExecutionPersistence Uuid) (execution_id : Uuid)
    (attempt_id : Option Uuid) (worker_id : String) : Prop :=
  ∃ r id a, s.executions.get? execution_id = some r ∧ attempt_id = some id ∧
    s.attempts.get? id = some a ∧ a.execution_id = execution_id ∧ a.worker_id = worker_id ∧
    a.attempt_number = r.attempt_count ∧ a.state = .running

/-- The attempt that the call names is the one that completed the execution `r`, and the worker
owns it. -/
def NamesCompletedAttempt (s : InMemoryExecutionPersistence Uuid) (execution_id : Uuid)
    (attempt_id : Option Uuid) (worker_id : String) (r : ExecutionRecord Uuid) : Prop :=
  ∃ id a, s.executions.get? execution_id = some r ∧ r.state = .completed ∧
    attempt_id = some id ∧ s.attempts.get? id = some a ∧ a.execution_id = execution_id ∧
    a.worker_id = worker_id ∧ a.state = .completed

/-- The call returns a lost claim and leaves the store as it found it. -/
def Lost (s : InMemoryExecutionPersistence Uuid)
    (outcome : Outcome Uuid (ExecutionTransitionResult Uuid)) : Prop :=
  ∃ lost, outcome = .ok (.lost lost, s)

/-- The error of a call that names no execution of the store. An error changes nothing. -/
def notFound (execution_id : Uuid) : Outcome Uuid (ExecutionTransitionResult Uuid) :=
  .error (.persistence ("execution not found: " ++ Stdlib.str execution_id))

variable {a : ExecutionAttemptRecord Uuid}

section

variable {s : InMemoryExecutionPersistence Uuid} {execution_id : Uuid} {attempt_id : Option Uuid}
  {worker_id : String} {r : ExecutionRecord Uuid}

omit [Stdlib Uuid] in
theorem InMemoryExecutionPersistence.Holds.names
    (h : Holds s execution_id attempt_id worker_id r a) :
    NamesCurrentAttempt s execution_id attempt_id worker_id := by
  obtain ⟨id, hid, hget⟩ := h.named
  exact ⟨r, id, a, h.stored, hid, hget, h.mine, h.attempt_worker, h.current, h.running⟩

theorem stale_transition_is_lost {report : Report} (hr : s.executions.get? execution_id = some r)
    (hshort : report.shortcut execution_id attempt_id worker_id = fun _ _ => none)
    (hstale : ¬NamesCurrentAttempt s execution_id attempt_id worker_id) :
    Lost s (s.transition execution_id attempt_id worker_id report) := by
  rcases transition_cases _ hr with hlost | ⟨_, _, _, -, -, -, -, hsc, -⟩ | ⟨a, hold, -⟩
  · exact hlost
  · rw [hshort] at hsc
    cases hsc
  · exact absurd hold.names hstale

variable (result : ExecutionResultEnvelope) (t : Instant) (category : Option String)
  (confidence : Option Rat)

theorem stale_completion_is_lost (hr : s.executions.get? execution_id = some r)
    (hstale : ¬NamesCurrentAttempt s execution_id attempt_id worker_id)
    (hrepeat : ¬NamesCompletedAttempt s execution_id attempt_id worker_id r) :
    Lost s (s.completeExecution execution_id attempt_id result t worker_id category
      confidence) := by
  unfold InMemoryExecutionPersistence.completeExecution
  rcases transition_cases _ hr with hlost | ⟨id, a, answer, hid, ha, hmine, hw, hsc, hok⟩ | ⟨a, hold, -⟩
  · exact hlost
  · rw [hok]
    simp only [Report.shortcut, completedShortcut] at hsc
    split_ifs at hsc with hdone hadone
    · exact absurd ⟨id, a, hr, hdone, hid, ha, hmine, hw, hadone⟩ hrepeat
    · cases hsc
      exact ⟨_, rfl⟩
  · exact absurd hold.names hstale

theorem repeated_completion_returns_the_record
    (h : NamesCompletedAttempt s execution_id attempt_id worker_id r) :
    s.completeExecution execution_id attempt_id result t worker_id category confidence =
      .ok (.record r, s) := by
  obtain ⟨id, a, hr, hdone, rfl, ha, hmine, hw, hadone⟩ := h
  simp [InMemoryExecutionPersistence.completeExecution, transition, require_eq_ok hr,
    loadAttemptForTransition, ha, hmine, hw, Report.shortcut, completedShortcut, hdone,
    hadone]

end

/-! ## What is terminal stays -/

section

variable [LawfulStdlib Uuid] {s s' : InMemoryExecutionPersistence Uuid} {e : Uuid}
  {r : ExecutionRecord Uuid}

theorem good_after_store_calls (h : runs.Reaches nextStoreCall .new s) : Good s :=
  runs.invariant (fun _ _ _ hg hs => (nextStoreCall_moved hg hs).2) Good.new h

/-- An execution in a terminal state, its index and its attempts are as they were in `s`. -/
structure Frozen (s : InMemoryExecutionPersistence Uuid) (e : Uuid) (r : ExecutionRecord Uuid)
    (s' : InMemoryExecutionPersistence Uuid) : Prop where
  execution : s'.executions.get? e = some r
  index : s'.attemptIds e = s.attemptIds e
  attempts : ∀ id a, a.execution_id = e →
    (s'.attempts.get? id = some a ↔ s.attempts.get? id = some a)

theorem terminal_executions_are_frozen (h : Good s) (hr : s.executions.get? e = some r)
    (hterminal : r.state.terminal = true) (hrun : runs.Reaches nextStoreCall s s') :
    Frozen s e r s' := by
  refine (runs.invariant (I := fun t => Good t ∧ Frozen s e r t) (fun t c u ht hs => ?_)
    ⟨h, hr, rfl, fun _ _ _ => Iff.rfl⟩ hrun).2
  obtain ⟨hgood, hex, hidx, hatt⟩ := ht
  obtain ⟨hc, hgood'⟩ := nextStoreCall_moved hgood hs
  have hex' : u.executions.get? e = some r := hc.execution_stays hex hterminal
  refine ⟨hgood', hex', ?_, fun id a ha => ?_⟩
  · rw [hgood'.listed e r hex', ← hidx, hgood.listed e r hex]
  · subst ha
    exact (hgood.kept.attempts_stay hc hex hterminal).trans (hatt id a rfl)

theorem completed_attempts_stay (h : Good s) {id : Uuid} (ha : s.attempts.get? id = some a)
    (hdone : a.state = .completed) (hrun : runs.Reaches nextStoreCall s s') :
    Good s' ∧ s'.attempts.get? id = some a := by
  refine runs.invariant (I := fun t => Good t ∧ t.attempts.get? id = some a)
    (fun t c u ht hs => ?_) ⟨h, ha⟩ hrun
  obtain ⟨hc, hgood⟩ := nextStoreCall_moved ht.1 hs
  exact ⟨hgood, ht.1.kept.attempt_stays hc ht.2 (by rw [hdone]; decide)⟩

omit [LawfulStdlib Uuid] in
theorem one_completed_attempt (h : Good s) {id id' : Uuid} {a' : ExecutionAttemptRecord Uuid}
    (ha : s.attempts.get? id = some a) (ha' : s.attempts.get? id' = some a')
    (hsame : a.execution_id = a'.execution_id) (hdone : a.state = .completed)
    (hdone' : a'.state = .completed) : id = id' := by
  have hlast : ∀ (id : Uuid) (a : ExecutionAttemptRecord Uuid) (r : ExecutionRecord Uuid),
      s.attempts.get? id = some a → s.executions.get? a.execution_id = some r →
      a.state = .completed → id = deriveAttemptId a.execution_id r.attempt_count := by
    intro id a r ha hr hdone
    obtain ⟨hid, -, hn, -, hret, -⟩ := h.kept.row_of ha hr
    rcases Nat.lt_or_eq_of_le hn with hlt | he
    · have := (hret hlt).1
      rw [hdone] at this
      cases this
    · rw [hid, he]
  obtain ⟨r, hr, -⟩ := h.kept.owned id a ha
  rw [hlast id a r ha hr hdone, hlast id' a' r ha' (hsame ▸ hr) hdone', hsame]

/-- Fencing, in every store that any interleaving of store calls can make: one attempt of an
execution completes at most, what is terminal never changes, and a worker that does not name
its own running current attempt loses its claim and changes nothing. Of an execution that is not
there, nobody can report anything. -/
theorem stale_workers_are_fenced (h : runs.Reaches nextStoreCall .new s) :
    (∀ s', runs.Reaches nextStoreCall s s' → ∀ id a id' a', s.attempts.get? id = some a →
      s'.attempts.get? id' = some a' → a.execution_id = a'.execution_id →
      a.state = .completed → a'.state = .completed → id = id' ∧ a = a') ∧
    (∀ e r, s.executions.get? e = some r → r.state.terminal = true →
      ∀ s', runs.Reaches nextStoreCall s s' → Frozen s e r s') ∧
    (∀ e r attempt_id worker_id, s.executions.get? e = some r →
      ¬NamesCurrentAttempt s e attempt_id worker_id →
      (∀ error t retry_requested result,
        Lost s (s.failExecution e attempt_id error t retry_requested worker_id result)) ∧
      (∀ error t result, Lost s (s.deadLetterExecution e attempt_id error t worker_id result)) ∧
      (∀ result t category confidence,
        (NamesCompletedAttempt s e attempt_id worker_id r →
          s.completeExecution e attempt_id result t worker_id category confidence =
            .ok (.record r, s)) ∧
        (¬NamesCompletedAttempt s e attempt_id worker_id r →
          Lost s (s.completeExecution e attempt_id result t worker_id category confidence)))) ∧
    (∀ e attempt_id worker_id, s.executions.get? e = none →
      (∀ error t retry_requested result,
        s.failExecution e attempt_id error t retry_requested worker_id result = notFound e) ∧
      (∀ error t result,
        s.deadLetterExecution e attempt_id error t worker_id result = notFound e) ∧
      (∀ result t category confidence,
        s.completeExecution e attempt_id result t worker_id category confidence =
          notFound e)) := by
  have hgood := good_after_store_calls h
  refine ⟨?_, ?_, ?_, ?_⟩
  · intro s' hrun id a id' a' ha ha' hsame hdone hdone'
    obtain ⟨hgood', hstays⟩ := completed_attempts_stay hgood ha hdone hrun
    have hid := one_completed_attempt hgood' hstays ha' hsame hdone hdone'
    subst hid
    exact ⟨rfl, Option.some.inj (hstays.symm.trans ha')⟩
  · intro e r hr hterminal s' hrun
    exact terminal_executions_are_frozen hgood hr hterminal hrun
  · intro e r attempt_id worker_id hr hstale
    refine ⟨fun error t retry_requested result => stale_transition_is_lost hr rfl hstale,
      fun error t result => stale_transition_is_lost hr rfl hstale,
      fun result t category confidence => ⟨fun hdone => ?_, fun hdone => ?_⟩⟩
    · exact repeated_completion_returns_the_record result t category confidence hdone
    · exact stale_completion_is_lost result t category confidence hr hstale hdone
  · intro e attempt_id worker_id hnone
    exact ⟨fun _ _ _ _ => transition_missing hnone, fun _ _ _ => transition_missing hnone,
      fun _ _ _ _ => transition_missing hnone⟩

end

/-- Two claims of one execution by the same worker, with a recovery between them. -/
def recoveredCalls : List (StoreCall String) :=
  [.request
      { execution_id := "e", kind := .diagnosticAgent, dispatch_id := "d", session_id := "s",
        tenant_id := "t", state := .requested, attempt_count := 0, requested_at := 0 }
      { outbox_id := "o", execution_id := "e", state := .pending, created_at := 0 },
    .claim "e" "w" 1, .recoverStale "e" 1 2 "stale", .claim "e" "w" 3]

def recoveredStore : InMemoryExecutionPersistence String :=
  recoveredCalls.foldl applyCall .new

/-- The first attempt, reported by the worker that holds the second one by now. -/
theorem the_recovered_attempt_is_fenced :
    Lost recoveredStore
      (recoveredStore.deadLetterExecution "e" (some (deriveAttemptId "e" 1)) "boom" 4 "w" {}) := by
  have hfailed : ∀ a ∈ recoveredStore.attempts.get? (deriveAttemptId "e" 1), a.state ≠ .running := by
    decide
  have hstale : ¬NamesCurrentAttempt recoveredStore "e" (some (deriveAttemptId "e" 1)) "w" := by
    rintro ⟨r, id, a, -, hid, ha, -, -, -, hrun⟩
    cases hid
    exact hfailed a ha hrun
  exact ((stale_workers_are_fenced ⟨recoveredCalls, rfl⟩).2.2.1 "e" _ _ _ rfl hstale).2.1 _ _ _

end operious.execution_runtime
