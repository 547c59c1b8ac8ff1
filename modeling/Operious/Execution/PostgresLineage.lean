-- What the Postgres store keeps under concurrency. Every guarded update is one of the changes
-- that keep the lineage, except that of a recovery whose execution was claimed again since it
-- was read: that one strands a running attempt.
import Operious.Execution.Lineage

namespace operious.execution_runtime

namespace PostgresExecutionPersistence

variable {Uuid : Type} [DecidableEq Uuid] [Stdlib Uuid] {db : ExecutionTables Uuid}

/-! ## Each update is a change -/

variable {e : Uuid}

theorem latestAttemptId_eq (h : Kept db) {r : ExecutionRecord Uuid}
    (hr : db.executions.get? e = some r) :
    latestAttemptId db e = precedingId e r.attempt_count := by
  have hrow : ∀ a ∈ db.attempts.values.filter fun a => a.execution_id = e,
      a.attempt_id = deriveAttemptId e a.attempt_number ∧ 1 ≤ a.attempt_number ∧
        a.attempt_number ≤ r.attempt_count := by
    intro a ha
    simp only [List.mem_filter, Dict.mem_values_iff, decide_eq_true_eq] at ha
    obtain ⟨⟨id, hid⟩, rfl⟩ := ha
    obtain ⟨-, h1, hn, hnum, -⟩ := h.row_of hid hr
    exact ⟨hnum.attempt_id, h1, hn⟩
  have he : r.execution_id = e := h.keyed e r hr
  unfold latestAttemptId
  cases hcount : r.attempt_count with
  | zero =>
    have hnil : (db.attempts.values.filter fun a => a.execution_id = e) = [] := by
      rw [List.eq_nil_iff_forall_not_mem]
      intro a ha
      have := hrow a ha
      omega
    rw [hnil]
    rfl
  | succ n =>
    obtain ⟨a, ha, hnum, -⟩ := (h.lineage e r hr).stored (n + 1) (by omega) (by omega)
    have hmem : a ∈ db.attempts.values.filter fun a => a.execution_id = e := by
      simp only [List.mem_filter, Dict.mem_values_iff, decide_eq_true_eq]
      exact ⟨⟨_, ha⟩, hnum.execution_id.trans he⟩
    cases hmax : (db.attempts.values.filter fun a => a.execution_id = e).argmax
        (·.attempt_number) with
    | none =>
      rw [List.argmax_eq_none] at hmax
      rw [hmax] at hmem
      cases hmem
    | some m =>
      have hle := List.le_of_mem_argmax hmem hmax
      obtain ⟨hid, -, hn⟩ := hrow m (List.argmax_mem hmax)
      have hlast : m.attempt_number = n + 1 := by
        have := hnum.attempt_number
        omega
      rw [Option.map_some, hid, hlast, precedingId]

theorem requestExecution_change {execution : ExecutionRecord Uuid}
    (state : execution.state = .requested) (count : execution.attempt_count = 0) :
    Change db (requestExecution db execution) := by
  unfold requestExecution
  split_ifs with hdup
  · exact Change.same
  · have fresh : db.executions.get? execution.execution_id = none := by
      simpa using (not_or.mp hdup).1
    exact Change.requested execution fresh state count

theorem claimExecution_change (h : Kept db) (e : Uuid) (worker_id : String)
    (claimed_at : Instant) : Change db (claimExecution db e worker_id claimed_at) := by
  unfold claimExecution
  split
  · exact Change.same
  · rename_i r hr
    have he : r.execution_id = e := h.keyed e r hr
    subst he
    simp only
    split_ifs with hstate htaken
    · exact Change.same
    · exact Change.same
    · rw [latestAttemptId_eq h hr]
      exact Change.claimed r worker_id claimed_at hr (not_not.mp hstate)

theorem commitReport_change (h : Kept db) (e : Uuid) (worker_id : String) (report : Report)
    (seen : ExecutionAttemptRecord Uuid) : Change db (commitReport db e worker_id report seen) := by
  unfold commitReport
  split
  · exact Change.same
  · rename_i r hr
    split_ifs with hguard
    · split
      · exact Change.same
      · rename_i a ha
        split_ifs with hguard'
        · obtain ⟨hclaimed, hcount, -⟩ := hguard
          obtain ⟨hmine, hrun, hnum, -⟩ := hguard'
          have he : r.execution_id = e := h.keyed e r hr
          have hid : a.attempt_id = seen.attempt_id := h.attempt_id_eq ha
          subst he
          rw [← hid]
          refine Change.settled r _ a _ hr (hid ▸ ha) ?_
          exact report.settles hclaimed hrun hmine (hnum.trans hcount.symm)
        · exact Change.same
    · exact Change.same

/-- What a recovery knows of the attempt that it read. -/
structure Resolved (e : Uuid) (existing : ExecutionRecord Uuid)
    (attempt : ExecutionAttemptRecord Uuid) : Prop where
  attempt_id : attempt.attempt_id = deriveAttemptId e existing.attempt_count
  counted : 1 ≤ existing.attempt_count

variable {attempt : ExecutionAttemptRecord Uuid} {stale_before recovered_at : Instant}
  {reason : String} {existing : ExecutionRecord Uuid}

theorem commitRecovery_change (h : Kept db) (hres : Resolved e existing attempt)
    (hsame : ∀ row, db.executions.get? e = some row → recoverGuard row stale_before →
      row.attempt_count = existing.attempt_count) :
    Change db (commitRecovery db e stale_before recovered_at reason existing attempt) := by
  unfold commitRecovery
  split
  · exact Change.same
  · rename_i r hr
    split_ifs with hguard
    · have he : r.execution_id = e := h.keyed e r hr
      have hcount := hsame r hr hguard
      obtain ⟨a, ha, hnum, -, hagr⟩ := (h.lineage e r hr).stored r.attempt_count
        (hcount ▸ hres.counted) (le_refl _)
      have hid : a.attempt_id = attempt.attempt_id := by
        rw [hnum.attempt_id, hres.attempt_id, he, hcount]
      have hget : db.attempts.get? attempt.attempt_id = some a := by
        rw [← hid, hnum.attempt_id]
        exact ha
      simp only [hget]
      subst he
      rw [← hid]
      refine Change.settled r _ a _ hr (hid ▸ hget) ?_
      exact recovery_settles reason recovered_at hguard.1 ((hagr rfl).running_iff.mpr hguard.1)
        hnum.execution_id hnum.attempt_number
    · exact Change.same

/-! ## The law of the tables -/

def RunningAttempt (db : ExecutionTables Uuid) (execution_id id : Uuid) : Prop :=
  ∃ a, db.attempts.get? id = some a ∧ a.execution_id = execution_id ∧ a.state = .running

structure ClaimLaw (db : ExecutionTables Uuid) : Prop where
  claimed_iff : ∀ e r, db.executions.get? e = some r →
    (r.state = .claimed ↔ ∃! id, RunningAttempt db e id)
  running : ∀ e r id a, db.executions.get? e = some r → db.attempts.get? id = some a →
    a.execution_id = e → a.state = .running →
    a.attempt_number = r.attempt_count ∧ r.worker_id = some a.worker_id

def Final (a : ExecutionAttemptRecord Uuid) : Prop :=
  a.state = .completed ∨ a.state = .deadLettered ∨ a.state = .failed ∧ a.retry_requested = false

omit [DecidableEq Uuid] [Stdlib Uuid] in
theorem Final.not_running {a : ExecutionAttemptRecord Uuid} (h : Final a) : a.state ≠ .running := by
  rcases h with h | h | ⟨h, -⟩ <;> rw [h] <;> decide

theorem claimLaw_of_kept (h : Kept db) : ClaimLaw db where
  claimed_iff e r hr := by
    have he : r.execution_id = e := h.keyed e r hr
    constructor
    · intro hclaimed
      have hcount : 1 ≤ r.attempt_count := by
        by_contra h0
        rw [(h.lineage e r hr).unstarted (by omega)] at hclaimed
        cases hclaimed
      obtain ⟨a, ha, hnum, -, hagr⟩ := (h.lineage e r hr).stored r.attempt_count hcount (le_refl _)
      refine ⟨deriveAttemptId r.execution_id r.attempt_count,
        ⟨a, ha, hnum.execution_id.trans he, (hagr rfl).running_iff.mpr hclaimed⟩, ?_⟩
      rintro id ⟨b, hb, rfl, hrun⟩
      obtain ⟨hid, -⟩ := h.row_of hb hr
      rw [hid, (h.running_row hb hr hrun).2.1, he]
    · rintro ⟨id, ⟨a, ha, rfl, hrun⟩, -⟩
      exact (h.running_row ha hr hrun).1
  running e r id a hr ha hmine hrun := by
    subst hmine
    exact (h.running_row ha hr hrun).2

/-! ## Runs -/

/-- The tables keep the lineage, and every recovery that is ready knows its attempt. -/
structure Sound (w : World Uuid) : Prop where
  kept : Kept w.db
  resolved : ∀ caller e stale_before recovered_at reason existing attempt,
    w.calls.get? caller =
      some (.resolved e stale_before recovered_at reason existing attempt) →
    Resolved e existing attempt

/-- If a recovery is about to commit and its guard holds, the execution still has the count that
the recovery read. -/
def RecoversWhatItRead (w : World Uuid) : Action Uuid → Prop
  | .proceed caller =>
    match w.calls.get? caller with
    | some (.resolved e stale_before _ _ existing _) =>
      match w.db.executions.get? e with
      | some row => recoverGuard row stale_before → row.attempt_count = existing.attempt_count
      | none => True
    | _ => True
  | _ => True

instance (w : World Uuid) (action : Action Uuid) : Decidable (RecoversWhatItRead w action) := by
  unfold RecoversWhatItRead
  split
  · split
    · split <;> infer_instance
    · infer_instance
  · infer_instance

/-- After the step the tables keep the law, and the step rewrote no final attempt. -/
def StepKeepsLineage (w : World Uuid) (_ : Action Uuid) (w' : World Uuid) : Prop :=
  ClaimLaw w'.db ∧
    ∀ id a, w.db.attempts.get? id = some a → Final a → w'.db.attempts.get? id = some a

theorem Sound.start : Sound (World.start : World Uuid) where
  kept := Kept.empty
  resolved _ _ _ _ _ _ _ h := by simp [World.start] at h

theorem proceed_resolved (h : Kept db) {flight : Flight Uuid}
    (hf : (flight.proceed db).2 = .resolved e stale_before recovered_at reason existing attempt) :
    Resolved e existing attempt := by
  cases flight with
  | reporting e' id w report existing' =>
    simp only [Flight.proceed] at hf
    split at hf
    · cases hf
    · split at hf
      · cases hf
      · split at hf <;> cases hf
  | reported => cases hf
  | recovering => cases hf
  | resolving e' sb ra reason' existing' latest =>
    simp only [Flight.proceed] at hf
    split at hf
    · cases hf
    · rename_i a ha
      cases hf
      obtain ⟨id, -, hget, hmine, -, hcount⟩ := resolveRunningAttempt_eq_ok ha
      obtain ⟨r, hr, hid, h1, -⟩ := h.owned id attempt hget
      have hid' := h.attempt_id_eq hget
      rw [hmine, hcount] at hid
      exact ⟨hid'.trans hid, hcount ▸ h1⟩
  | resolved => cases hf
  | ended => cases hf

theorem Sound.set_flight {w : World Uuid} (h : Sound w) {db' : ExecutionTables Uuid}
    (kept : Kept db') (caller : Nat) {flight : Flight Uuid}
    (hf : ∀ e stale_before recovered_at reason existing attempt,
      flight = .resolved e stale_before recovered_at reason existing attempt →
      Resolved e existing attempt) : Sound ⟨db', w.calls.set caller flight⟩ where
  kept := kept
  resolved caller' e sb ra reason existing attempt hget := by
    rcases Dict.get?_set_cases hget with ⟨-, he⟩ | ⟨-, hget⟩
    · exact hf e sb ra reason existing attempt he.symm
    · exact h.resolved caller' e sb ra reason existing attempt hget

variable {w w' : World Uuid} {action : Action Uuid}

theorem next_change (h : Sound w) (hc : RecoversWhatItRead w action)
    (hs : next w action = some w') : Change w.db w'.db := by
  cases action with
  | request execution =>
    simp only [next] at hs
    split_ifs at hs with hfresh
    cases hs
    exact requestExecution_change hfresh.1 hfresh.2
  | claim e worker_id claimed_at =>
    cases hs
    exact claimExecution_change h.kept e worker_id claimed_at
  | report => cases hs; exact Change.same
  | recover => cases hs; exact Change.same
  | proceed caller =>
    simp only [next] at hs
    cases hcall : w.calls.get? caller with
    | none => simp [hcall] at hs
    | some flight =>
      simp only [hcall] at hs
      cases hs
      cases flight with
      | reporting e id worker report existing =>
        simp only [Flight.proceed]
        split
        · exact Change.same
        · split
          · exact Change.same
          · split <;> exact Change.same
      | reported e worker report attempt => exact commitReport_change h.kept e worker report attempt
      | recovering => exact Change.same
      | resolving =>
        simp only [Flight.proceed]
        split <;> exact Change.same
      | resolved e sb ra reason existing attempt =>
        refine commitRecovery_change h.kept (h.resolved _ _ _ _ _ _ _ hcall) fun row hrow => ?_
        simpa only [RecoversWhatItRead, hcall, hrow] using hc
      | ended => exact Change.same

theorem next_sound (h : Sound w) (hs : next w action = some w') (kept : Kept w'.db) : Sound w' := by
  cases action with
  | request execution =>
    simp only [next] at hs
    split_ifs at hs
    cases hs
    exact ⟨kept, h.resolved⟩
  | claim => cases hs; exact ⟨kept, h.resolved⟩
  | report caller e id worker report =>
    cases hs
    refine h.set_flight kept caller fun _ _ _ _ _ _ hf => ?_
    unfold beginReport at hf
    split at hf <;> cases hf
  | recover caller e sb ra reason =>
    cases hs
    refine h.set_flight kept caller fun _ _ _ _ _ _ hf => ?_
    unfold beginRecovery at hf
    split at hf
    · cases hf
    · split_ifs at hf
  | proceed caller =>
    simp only [next] at hs
    split at hs
    · cases hs
    · cases hs
      exact h.set_flight kept caller fun _ _ _ _ _ _ hf => proceed_resolved h.kept hf

variable [LawfulStdlib Uuid]

/-- A recovery that commits over a later claim leaves that claim's attempt running. -/
theorem late_recovery_breaks_the_law (h : Kept db) {existing row : ExecutionRecord Uuid}
    (hres : Resolved e existing attempt) (hrow : db.executions.get? e = some row)
    (hguard : recoverGuard row stale_before) (hlate : row.attempt_count ≠ existing.attempt_count) :
    ¬ClaimLaw (commitRecovery db e stale_before recovered_at reason existing attempt) := by
  intro hlaw
  have he : row.execution_id = e := h.keyed e row hrow
  subst he
  have hcount : 1 ≤ row.attempt_count := by
    by_contra h0
    have := (h.lineage _ row hrow).unstarted (by omega)
    rw [hguard.1] at this
    cases this
  obtain ⟨a, ha, hnum, -, hagr⟩ :=
    (h.lineage _ row hrow).stored row.attempt_count hcount (le_refl _)
  have hrun : a.state = .running := (hagr rfl).running_iff.mpr hguard.1
  have hne : attempt.attempt_id ≠ deriveAttemptId row.execution_id row.attempt_count := by
    rw [hres.attempt_id]
    exact fun heq => hlate (deriveAttemptId_inj heq).2.symm
  have hafter : ∃ attempts', commitRecovery db row.execution_id stale_before recovered_at reason
      existing attempt = ⟨db.executions.set row.execution_id
        (recoveredExecution reason recovered_at attempt existing row), attempts'⟩ ∧
      attempts'.get? (deriveAttemptId row.execution_id row.attempt_count) = some a := by
    simp only [commitRecovery, hrow, if_pos hguard]
    refine ⟨_, rfl, ?_⟩
    split
    · exact ha
    · rw [Dict.get?_set_ne _ _ hne]
      exact ha
  obtain ⟨attempts', heq, hget⟩ := hafter
  rw [heq] at hlaw
  -- The row says requested, and the attempt of its count is running still.
  have hstate := (hlaw.running _ _ _ a (Dict.get?_set_self _ _ _) hget hnum.execution_id hrun).2
  cases hstate

theorem step_keeps_lineage_iff (h : Sound w) (hs : next w action = some w') :
    StepKeepsLineage w action w' ↔ RecoversWhatItRead w action := by
  constructor
  · rintro ⟨hlaw, -⟩
    cases action with
    | proceed caller =>
      unfold RecoversWhatItRead
      simp only
      split
      · rename_i e sb ra reason existing attempt hcall
        split
        · rename_i row hrow
          intro hguard
          by_contra hlate
          simp only [next, hcall] at hs
          cases hs
          exact late_recovery_breaks_the_law h.kept (h.resolved _ _ _ _ _ _ _ hcall) hrow hguard
            hlate hlaw
        · trivial
      · trivial
    | request => trivial
    | claim => trivial
    | report => trivial
    | recover => trivial
  · intro hc
    have hchange := next_change h hc hs
    refine ⟨claimLaw_of_kept (h.kept.change hchange), fun id a ha hfinal => ?_⟩
    exact h.kept.attempt_stays hchange ha hfinal.not_running

/-- Along every interleaving, the tables keep the law and no final attempt is rewritten exactly
if every recovery that commits finds the count that it has read. -/
theorem lineage_kept_iff_recoveries_are_current (actions : List (Action Uuid)) :
    runs.Along next StepKeepsLineage World.start actions ↔
      runs.Meets next RecoversWhatItRead World.start actions :=
  runs.along_iff_meets
    (fun _ _ _ h hc hs => next_sound h hs (h.kept.change (next_change h hc hs)))
    (fun _ _ _ h hs => step_keeps_lineage_iff h hs) Sound.start

/-! ## Two runs over plain texts -/

/-- A request and a first claim; a recovery finds the claim stale and reads its attempt. -/
def recoveryInFlight : List (Action String) :=
  [.request
      { execution_id := "e", kind := .diagnosticAgent, dispatch_id := "d", session_id := "s",
        tenant_id := "t", state := .requested, attempt_count := 0, requested_at := 0 },
    .claim "e" "w1" 10,
    .recover 1 "e" 10 12 "stale_execution_claim", .proceed 1, .proceed 1]

/-- Before the recovery commits, the worker fails its attempt for retry, and a worker on a host
whose clock is behind claims the execution again. -/
def skewedRun : List (Action String) :=
  recoveryInFlight ++
    [.report 2 "e" (some (deriveAttemptId "e" 1)) "w1" (.fail "boom" 11 true {}),
      .proceed 2, .proceed 2, .claim "e" "w2" 9, .proceed 1]

/-- The execution is back at requested, and its second attempt is running. -/
theorem a_late_recovery_strands_an_attempt :
    ∃ w, runs.after next World.start skewedRun = some w ∧
      (w.db.executions.get? "e").map (·.state) = some .requested ∧
      (w.db.attempts.get? (deriveAttemptId "e" 2)).map (·.state) = some .running ∧
      ¬ClaimLaw w.db := by
  obtain ⟨w, hw⟩ : ∃ w, runs.after next World.start skewedRun = some w :=
    Option.isSome_iff_exists.mp (by decide +kernel)
  have hrow : ∀ v ∈ runs.after next World.start skewedRun, ∃ r ∈ v.db.executions.get? "e",
      r.state = .requested ∧ r.worker_id = none := by decide +kernel
  have hattempt : ∀ v ∈ runs.after next World.start skewedRun,
      ∃ a ∈ v.db.attempts.get? (deriveAttemptId "e" 2), a.execution_id = "e" ∧ a.state = .running := by
    decide +kernel
  obtain ⟨r, hr, hrequested, hfree⟩ := hrow w hw
  obtain ⟨a, ha, hmine, hrun⟩ := hattempt w hw
  refine ⟨w, hw, ?_, ?_, fun hlaw => ?_⟩
  · rw [Option.mem_def.mp hr, Option.map_some, hrequested]
  · rw [Option.mem_def.mp ha, Option.map_some, hrun]
  · have hworker := (hlaw.running "e" r _ a hr ha hmine hrun).2
    rw [hfree] at hworker
    cases hworker

/-- With nothing in between, the same recovery commits and the lineage is kept. -/
theorem a_current_recovery_keeps_the_lineage :
    runs.Along next StepKeepsLineage World.start (recoveryInFlight ++ [.proceed 1]) :=
  (lineage_kept_iff_recoveries_are_current _).mpr (by decide +kernel)

end PostgresExecutionPersistence

end operious.execution_runtime
