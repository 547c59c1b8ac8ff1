-- The in-memory store keeps the lineage. Every call of it changes the two tables in one of the
-- four allowed ways and keeps the index of the attempt ids, so every run of the runtime does.
import Operious.Execution.Lineage
import Operious.Execution.Runtime

namespace operious.execution_runtime

variable {Uuid : Type} [DecidableEq Uuid] [Stdlib Uuid]

namespace InMemoryExecutionPersistence

/-! ## What one transition does -/

/-- The attempt that a worker names is the running current attempt of the execution, and the
worker holds both rows. -/
structure Holds (s : InMemoryExecutionPersistence Uuid) (execution_id : Uuid)
    (attempt_id : Option Uuid) (worker_id : String) (r : ExecutionRecord Uuid)
    (a : ExecutionAttemptRecord Uuid) : Prop where
  stored : s.executions.get? execution_id = some r
  named : ∃ id, attempt_id = some id ∧ s.attempts.get? id = some a
  mine : a.execution_id = execution_id
  attempt_worker : a.worker_id = worker_id
  claimed : r.state = .claimed
  worker : r.worker_id = some worker_id
  current : a.attempt_number = r.attempt_count
  running : a.state = .running

variable {s : InMemoryExecutionPersistence Uuid} {execution_id : Uuid} {attempt_id : Option Uuid}
  {worker_id : String} {report : Report}

variable {r : ExecutionRecord Uuid}

theorem require_eq_ok (h : s.executions.get? execution_id = some r) :
    s.require execution_id = .ok r := by
  rw [require, h]

theorem transition_missing
    (h : s.executions.get? execution_id = none) :
    s.transition execution_id attempt_id worker_id report =
      .error (.persistence ("execution not found: " ++ Stdlib.str execution_id)) := by
  rw [transition, require, h]

/-- Everything a transition of a stored execution can do: the attempt is lost, the shortcut
answers, or the worker holds the attempt and both rows are written. -/
theorem transition_cases (report : Report) (hr : s.executions.get? execution_id = some r) :
    (∃ lost, s.transition execution_id attempt_id worker_id report =
        .ok (.lost lost, s)) ∨
      (∃ id a result, attempt_id = some id ∧ s.attempts.get? id = some a ∧
        a.execution_id = execution_id ∧ a.worker_id = worker_id ∧ report.shortcut execution_id attempt_id worker_id r a = some result ∧
        s.transition execution_id attempt_id worker_id report =
          .ok (result, s)) ∨
      (∃ a, Holds s execution_id attempt_id worker_id r a ∧
        s.transition execution_id attempt_id worker_id report =
          .ok (.record (report.onExecution r),
            { s with
              attempts := s.attempts.set a.attempt_id (report.onAttempt a)
              executions := s.executions.set execution_id (report.onExecution r) })) := by
  unfold transition
  rw [require_eq_ok hr]
  simp only
  cases hload : loadAttemptForTransition s.attempts execution_id attempt_id worker_id r with
  | error lost => exact Or.inl ⟨lost, rfl⟩
  | ok a =>
    obtain ⟨⟨id, hid, hnamed⟩, hmine, hworker⟩ := loadAttemptForTransition_eq_ok hload
    simp only
    cases hsc : report.shortcut execution_id attempt_id worker_id r a with
    | some result => exact Or.inr (Or.inl ⟨id, a, result, hid, hnamed, hmine, hworker, hsc, rfl⟩)
    | none =>
      simp only
      cases hlost : transitionClaimLost execution_id attempt_id worker_id r a with
      | some lost => exact Or.inl ⟨lost, rfl⟩
      | none =>
        obtain ⟨h1, h2, h3, h4⟩ := transitionClaimLost_eq_none hlost
        exact Or.inr (Or.inr ⟨a, ⟨hr, ⟨id, hid, hnamed⟩, hmine, hworker, h1, h2, h3, h4⟩, rfl⟩)

/-! ## The invariant of the store -/

/-- The two tables of the store. -/
def tables (s : InMemoryExecutionPersistence Uuid) : ExecutionTables Uuid :=
  ⟨s.executions, s.attempts⟩

/-- The tables keep the lineage, and the index lists the attempts of each execution in order. -/
structure Good (s : InMemoryExecutionPersistence Uuid) : Prop where
  kept : Kept s.tables
  listed : ∀ e r, s.executions.get? e = some r → s.attemptIds e = firstIds e r.attempt_count
  unlisted : ∀ e, s.executions.get? e = none → s.attemptIds e = []

theorem Good.new : Good (new : InMemoryExecutionPersistence Uuid) where
  kept := Kept.empty
  listed _ _ h := by simp [InMemoryExecutionPersistence.new] at h
  unlisted _ _ := rfl

theorem Good.set_execution {s' : InMemoryExecutionPersistence Uuid} (h : Good s)
    (kept : Kept s'.tables) {e : Uuid} (hex : s'.executions = s.executions.set e r)
    (hids : ∀ e', e ≠ e' → s'.attemptIds e' = s.attemptIds e')
    (hid : s'.attemptIds e = firstIds e r.attempt_count) : Good s' where
  kept := kept
  listed e' q hq := by
    rw [hex] at hq
    rcases Dict.get?_set_cases hq with ⟨rfl, rfl⟩ | ⟨hne, hq⟩
    · exact hid
    · rw [hids e' hne]
      exact h.listed e' q hq
  unlisted e' hq := by
    rw [hex, Dict.get?_set] at hq
    split at hq
    · cases hq
    · rename_i hne
      rw [hids e' hne]
      exact h.unlisted e' hq

/-- What a call did: the tables changed in an allowed way, and the store is good. -/
def Moved (s s' : InMemoryExecutionPersistence Uuid) : Prop :=
  Change s.tables s'.tables ∧ Good s'

theorem Good.stays (h : Good s) : Moved s s := ⟨Change.same, h⟩

variable [LawfulStdlib Uuid]

theorem Good.settled (h : Good s) {r' : ExecutionRecord Uuid} {a a' : ExecutionAttemptRecord Uuid}
    (stored : s.executions.get? execution_id = some r) (named : ∃ id, s.attempts.get? id = some a)
    (settles : Settles r r' a a') :
    Change s.tables ⟨s.executions.set execution_id r', s.attempts.set a.attempt_id a'⟩ ∧
      Good { s with
        attempts := s.attempts.set a.attempt_id a'
        executions := s.executions.set execution_id r' } := by
  obtain ⟨id, ha⟩ := named
  have hid : a.attempt_id = id := h.kept.attempt_id_eq ha
  have he : r.execution_id = execution_id := h.kept.keyed _ r stored
  subst hid he
  have hc : Change s.tables ⟨s.executions.set r.execution_id r', s.attempts.set a.attempt_id a'⟩ :=
    Change.settled r r' a a' stored ha settles
  refine ⟨hc, h.set_execution (h.kept.change hc) rfl (fun _ _ => rfl) ?_⟩
  rw [settles.attempt_count]
  exact h.listed _ r stored

theorem requestExecution_moved (h : Good s) {execution : ExecutionRecord Uuid}
    (outbox : ExecutionOutboxRecord Uuid) (state : execution.state = .requested)
    (count : execution.attempt_count = 0) :
    Moved s (Outcome.storeAfter s (s.requestExecution execution outbox)) := by
  unfold requestExecution
  simp only
  split
  · split <;> exact h.stays
  · split_ifs with hdup
    · exact h.stays
    · have fresh : s.executions.get? execution.execution_id = none := by simpa using hdup
      have hc : Change s.tables ⟨s.executions.set execution.execution_id execution, s.attempts⟩ :=
        Change.requested execution fresh state count
      refine ⟨hc, h.set_execution (h.kept.change hc) rfl (fun _ _ => rfl) ?_⟩
      rw [count]
      exact h.unlisted _ fresh

theorem claimExecution_moved (h : Good s) (execution_id : Uuid) (worker_id : String)
    (claimed_at : Instant) :
    Moved s (Outcome.storeAfter s (s.claimExecution execution_id worker_id claimed_at)) := by
  unfold claimExecution
  split
  · exact h.stays
  · rename_i r hr
    split_ifs with hstate
    · exact h.stays
    · have he : r.execution_id = execution_id := h.kept.keyed _ r hr
      subst he
      have hlatest : s.latestAttemptId r.execution_id = precedingId r.execution_id r.attempt_count := by
        rw [latestAttemptId, h.listed _ r hr, getLast?_firstIds]
      have hc : Change s.tables _ := Change.claimed r worker_id claimed_at hr (not_not.mp hstate)
      simp only [Outcome.storeAfter, hlatest]
      refine ⟨hc, h.set_execution (h.kept.change hc) rfl (fun e' hne => ?_) ?_⟩
      · simp only [attemptIds, Dict.get?_set_ne _ _ hne]
      · simp only [attemptIds, Dict.get?_set_self, Option.getD_some]
        rw [firstIds_succ]
        congr 1
        exact h.listed _ r hr

theorem transition_moved (h : Good s) :
    Moved s (Outcome.storeAfter s (s.transition execution_id attempt_id worker_id report)) := by
  cases hr : s.executions.get? execution_id with
  | none =>
    rw [transition_missing hr]
    exact h.stays
  | some r =>
    rcases transition_cases report hr with
      ⟨lost, hlost⟩ | ⟨-, -, result, -, -, -, -, -, hresult⟩ | ⟨a, ha, hset⟩
    · rw [hlost]
      exact h.stays
    · rw [hresult]
      exact h.stays
    · rw [hset]
      obtain ⟨id, -, hid⟩ := ha.named
      have hmine := ha.mine.trans (h.kept.keyed _ r hr).symm
      exact h.settled hr ⟨id, hid⟩ (report.settles ha.claimed ha.running hmine ha.current)

theorem recoverStaleExecution_moved (h : Good s) (execution_id : Uuid) (stale_before recovered_at : Instant)
    (reason : String) :
    Moved s (Outcome.storeAfter s
      (s.recoverStaleExecution execution_id stale_before recovered_at reason)) := by
  unfold recoverStaleExecution
  split
  · exact h.stays
  · rename_i r hr
    split_ifs with hstate hstale
    · exact h.stays
    · exact h.stays
    · cases hres : resolveRunningAttempt s.attempts execution_id (s.latestAttemptId execution_id)
          r.worker_id (some r) with
      | error e => exact h.stays
      | ok a =>
        obtain ⟨id, -, ha, hmine, hrun, hcur⟩ := resolveRunningAttempt_eq_ok hres
        have he := h.kept.keyed _ r hr
        exact h.settled hr ⟨id, ha⟩
          (recovery_settles reason recovered_at (not_not.mp hstate) hrun (hmine.trans he.symm) hcur)

end InMemoryExecutionPersistence

/-! ## Runs -/

open InMemoryExecutionPersistence

variable [LawfulStdlib Uuid] {s s' : InMemoryExecutionPersistence Uuid}

variable {c : StoreCall Uuid}

theorem applyCall_moved (h : Good s) (hc : c.Admitted) : Moved s (applyCall s c) := by
  cases c with
  | request execution outbox => exact requestExecution_moved h outbox hc.1 hc.2
  | claim e w t => exact claimExecution_moved h e w t
  | complete e a result t w category confidence =>
    exact transition_moved h
  | fail e a error t retry_requested w result => exact transition_moved h
  | deadLetter e a error t w result => exact transition_moved h
  | recoverStale e stale_before recovered_at reason =>
    exact recoverStaleExecution_moved h e stale_before recovered_at reason

theorem nextStoreCall_moved (h : Good s) (hs : nextStoreCall s c = some s') : Moved s s' := by
  unfold nextStoreCall at hs
  split_ifs at hs with hc
  cases hs
  exact applyCall_moved h hc

theorem perform_moved (h : Good s) (c : RuntimeCall Uuid) : Moved s (perform s c) := by
  rcases perform_cases s c with hsame | ⟨call, hfrom, hcall⟩
  · rw [hsame]
    exact h.stays
  · rw [hcall]
    refine applyCall_moved h ?_
    cases call with
    | request execution outbox => exact ⟨hfrom.1, hfrom.2.1⟩
    | claim | complete | fail | deadLetter | recoverStale => trivial

theorem Reachable.good (h : Reachable s) : Good s :=
  runs.invariant (fun _ c _ hg hs => by cases hs; exact (perform_moved hg c).2) Good.new h

/-! ## The lineage law -/

def AttemptOf (s : InMemoryExecutionPersistence Uuid) (r : ExecutionRecord Uuid)
    (a : ExecutionAttemptRecord Uuid) : Prop :=
  ∃ id ∈ s.attemptIds r.execution_id, s.attempts.get? id = some a

structure LineageLaw (s : InMemoryExecutionPersistence Uuid) (r : ExecutionRecord Uuid) :
    Prop where
  /-- The ids are those of the numbers from 1 to the count, in that order. -/
  listed : s.attemptIds r.execution_id =
    (List.range r.attempt_count).map fun i => deriveAttemptId r.execution_id (i + 1)
  /-- Each number has its row, which points at the row before it. -/
  stored : ∀ i < r.attempt_count, ∃ a,
    s.attempts.get? (deriveAttemptId r.execution_id (i + 1)) = some a ∧
      a.attempt_id = deriveAttemptId r.execution_id (i + 1) ∧ a.execution_id = r.execution_id ∧
      a.attempt_number = i + 1 ∧
      a.previous_attempt_id =
        if i = 0 then none else some (deriveAttemptId r.execution_id i)
  /-- No other row belongs to the execution. -/
  only : ∀ id a, s.attempts.get? id = some a → a.execution_id = r.execution_id →
    id ∈ s.attemptIds r.execution_id
  running_iff : (∃ a, AttemptOf s r a ∧ a.state = .running) ↔ r.state = .claimed
  running_last : ∀ a, AttemptOf s r a → a.state = .running →
    a.attempt_number = r.attempt_count ∧ r.worker_id = some a.worker_id
  running_unique : ∀ a b, AttemptOf s r a → AttemptOf s r b → a.state = .running →
    b.state = .running → a = b
  earlier : ∀ a, AttemptOf s r a → a.attempt_number ≠ r.attempt_count →
    a.state = .failed ∧ a.retry_requested = true
  completed : ∀ a, AttemptOf s r a → a.attempt_number = r.attempt_count →
    (a.state = .completed ↔ r.state = .completed)
  dead_lettered : ∀ a, AttemptOf s r a → a.attempt_number = r.attempt_count →
    (a.state = .deadLettered ↔ r.state = .deadLettered)
  failed : ∀ a, AttemptOf s r a → a.attempt_number = r.attempt_count →
    (a.state = .failed ∧ a.retry_requested = false ↔ r.state = .failed)
  requested : r.state = .requested ↔ r.attempt_count = 0 ∨
    ∃ a, AttemptOf s r a ∧ a.attempt_number = r.attempt_count ∧ a.state = .failed ∧
      a.retry_requested = true

section

omit [LawfulStdlib Uuid]

variable {r : ExecutionRecord Uuid} {a : ExecutionAttemptRecord Uuid}

theorem AttemptOf.row (h : Good s) (hr : s.executions.get? r.execution_id = some r)
    (ha : AttemptOf s r a) :
    s.executions.get? a.execution_id = some r ∧ ∃ id, s.attempts.get? id = some a := by
  obtain ⟨id, hid, hget⟩ := ha
  rw [h.listed _ r hr] at hid
  obtain ⟨n, h1, hn, rfl⟩ := mem_firstIds.mp hid
  obtain ⟨b, hb, hnum, -, -⟩ := (h.kept.lineage _ r hr).stored n h1 hn
  have hab : some a = some b := hget.symm.trans hb
  cases hab
  rw [hnum.execution_id]
  exact ⟨hr, _, hget⟩

theorem AttemptOf.tie (h : Good s) (hr : s.executions.get? r.execution_id = some r)
    (ha : AttemptOf s r a) :
    (a.attempt_number ≠ r.attempt_count → Retried a) ∧
      (a.attempt_number = r.attempt_count → Agrees r a) := by
  obtain ⟨hrow, id, hget⟩ := ha.row h hr
  obtain ⟨-, -, hn, -, hret, hagr⟩ := h.kept.row_of hget hrow
  exact ⟨fun hne => hret (by omega), hagr⟩

theorem InMemoryExecutionPersistence.Good.last_attempt (h : Good s) (hr : s.executions.get? r.execution_id = some r)
    (h0 : r.attempt_count ≠ 0) : ∃ a, AttemptOf s r a ∧ a.attempt_number = r.attempt_count := by
  have h1 : 1 ≤ r.attempt_count := Nat.one_le_iff_ne_zero.mpr h0
  obtain ⟨a, ha, hnum, -, -⟩ := (h.kept.lineage _ r hr).stored r.attempt_count h1 (le_refl _)
  refine ⟨a, ⟨_, ?_, ha⟩, hnum.attempt_number⟩
  rw [h.listed _ r hr]
  exact mem_firstIds.mpr ⟨_, h1, le_refl _, rfl⟩

theorem InMemoryExecutionPersistence.Good.lineageLaw (h : Good s) (hr : s.executions.get? r.execution_id = some r) :
    LineageLaw s r where
  listed := h.listed _ r hr
  stored i hi := by
    obtain ⟨a, ha, hnum, -, -⟩ := (h.kept.lineage _ r hr).stored (i + 1) (by omega) hi
    refine ⟨a, ha, hnum.attempt_id, hnum.execution_id, hnum.attempt_number, ?_⟩
    rw [hnum.previous]
    cases i <;> rfl
  only id a ha he := by
    obtain ⟨hid, h1, hn, -⟩ := h.kept.row_of ha (he ▸ hr)
    rw [h.listed _ r hr, mem_firstIds]
    exact ⟨a.attempt_number, h1, hn, he ▸ hid⟩
  running_iff := by
    constructor
    · rintro ⟨a, ha, hrun⟩
      obtain ⟨hrow, id, hget⟩ := ha.row h hr
      exact (h.kept.running_row hget hrow hrun).1
    · intro hclaimed
      have h0 : r.attempt_count ≠ 0 := fun h0 => by
        rw [(h.kept.lineage _ r hr).unstarted h0] at hclaimed
        cases hclaimed
      obtain ⟨a, ha, hlast⟩ := h.last_attempt hr h0
      exact ⟨a, ha, ((ha.tie h hr).2 hlast).running_iff.mpr hclaimed⟩
  running_last a ha hrun := by
    obtain ⟨hrow, id, hget⟩ := ha.row h hr
    exact (h.kept.running_row hget hrow hrun).2
  running_unique a b ha hb harun hbrun := by
    obtain ⟨harow, ida, hgeta⟩ := ha.row h hr
    obtain ⟨hbrow, idb, hgetb⟩ := hb.row h hr
    have hida := (h.kept.row_of hgeta harow).1
    have hidb := (h.kept.row_of hgetb hbrow).1
    rw [(h.kept.running_row hgeta harow harun).2.1, ← h.kept.keyed _ r harow,
      h.kept.keyed _ r hr] at hida
    rw [(h.kept.running_row hgetb hbrow hbrun).2.1, ← h.kept.keyed _ r hbrow,
      h.kept.keyed _ r hr] at hidb
    rw [hida, ← hidb, hgetb] at hgeta
    exact (Option.some.inj hgeta).symm
  earlier a ha hne := (ha.tie h hr).1 hne
  completed a ha hlast := ((ha.tie h hr).2 hlast).completed_iff
  dead_lettered a ha hlast := ((ha.tie h hr).2 hlast).deadLettered_iff
  failed a ha hlast := ((ha.tie h hr).2 hlast).failed_iff
  requested := by
    constructor
    · intro hreq
      by_cases h0 : r.attempt_count = 0
      · exact Or.inl h0
      · obtain ⟨a, ha, hlast⟩ := h.last_attempt hr h0
        exact Or.inr ⟨a, ha, hlast, ((ha.tie h hr).2 hlast).retried_iff.mpr hreq⟩
    · rintro (h0 | ⟨a, ha, hlast, hret⟩)
      · exact (h.kept.lineage _ r hr).unstarted h0
      · exact ((ha.tie h hr).2 hlast).retried_iff.mp hret

end

/-- In every store that runtime calls can make, every execution keeps the lineage law. -/
theorem every_execution_keeps_its_lineage (h : Reachable s) :
    ∀ e r, s.executions.get? e = some r → r.execution_id = e ∧ LineageLaw s r := by
  intro e r hr
  have he := h.good.kept.keyed e r hr
  exact ⟨he, h.good.lineageLaw (he ▸ hr)⟩

/-- A run over plain texts: requested, claimed, failed for retry, claimed again. -/
def retriedRun : List (RuntimeCall String) :=
  let execution_id := Stdlib.uuid5 executionNamespace "diagnostic_agent|t|d|s"
  [.request "d" "s" "t"
      (some { governance_decision_id := "g", execution_governance_evaluation_id := "v",
              admitted_at := 0, tenant_id := "t" }) 0 Dict.empty,
    .claim execution_id "w" 1,
    .fail execution_id (some (deriveAttemptId execution_id 1)) "w" "boom" 2 true none,
    .claim execution_id "w" 3]

theorem a_retried_execution_keeps_its_lineage :
    (retriedRun.foldl perform .new).attempts.values.map (·.state) = [.failed, .running] ∧
      ∀ e r, (retriedRun.foldl perform .new).executions.get? e = some r → r.execution_id = e ∧
        LineageLaw (retriedRun.foldl perform .new) r :=
  ⟨by decide +kernel, every_execution_keeps_its_lineage ⟨retriedRun, after_nextCall _ _⟩⟩

end operious.execution_runtime
