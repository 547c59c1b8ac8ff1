-- The publish budget of one outbox row. The sweeps share a budget of `M` publishes; the
-- stuck-pending sweep checks it on the row as its page showed it, so a row that was claimed since
-- can be published once too often.
import Operious.Execution.OutboxMoves

namespace operious.execution_runtime

namespace OutboxWorld

open InMemoryExecutionPersistence

variable {Uuid : Type} [DecidableEq Uuid] [Stdlib Uuid] {w w' : World Uuid}

/-! ## The sweeps and their budget -/

def Job.budget : Job Uuid → Option Nat
  | .failed _ args => some args.max_publish_attempts
  | .stuck _ args => some args.max_publish_attempts
  | .stale .. => none

/-- Every sweep uses the budget `M`, and a publisher outside of the sweeps claims a row that was
never claimed: the claim that the row starts with. -/
def SweepsOnly (M : Nat) (w : World Uuid) : Action Uuid → Prop
  | .failedSweep _ args _ => args.max_publish_attempts = M
  | .stuckSweep _ args _ => args.max_publish_attempts = M
  | .reconcile _ job => ∀ m ∈ job.budget, m = M
  | .step caller _ _ =>
    match w.threads.get? caller with
    | some ⟨.claiming e _ _, _⟩ =>
      match readForClaim w.store e with
      | some row => row.publish_attempt_count = 0
      | none => True
    | _ => True
  | _ => True

/-- The row that a publisher outside of the sweeps is about to claim. -/
def World.plainClaim (w : World Uuid) (caller : Nat) : Option (ExecutionOutboxRecord Uuid) :=
  match w.threads.get? caller with
  | some ⟨.claiming e _ _, _⟩ => readForClaim w.store e
  | _ => none

variable {error : Option String} {t : Instant}

variable {caller : Nat}

omit [Stdlib Uuid] in
theorem sweepsOnly_step {M : Nat} :
    (∀ row ∈ w.plainClaim caller, row.publish_attempt_count = 0) ↔
      SweepsOnly M w (.step caller t error) := by
  unfold SweepsOnly World.plainClaim
  dsimp only
  split
  · split <;> simp [*]
  · simp

instance (M : Nat) (w : World Uuid) (action : Action Uuid) : Decidable (SweepsOnly M w action) :=
  match action with
  | .failedSweep _ args _ => inferInstanceAs (Decidable (args.max_publish_attempts = M))
  | .stuckSweep _ args _ => inferInstanceAs (Decidable (args.max_publish_attempts = M))
  | .reconcile _ job => inferInstanceAs (Decidable (∀ m ∈ job.budget, m = M))
  | .step _ _ _ => decidable_of_iff _ sweepsOnly_step
  | .runtime _ | .claim .. | .mark .. | .staleSweep .. => .isTrue trivial

/-- The world under the sweeps of budget `M`. -/
def nextSweep (M : Nat) (w : World Uuid) (action : Action Uuid) : Option (World Uuid) :=
  if SweepsOnly M w action then next w action else none

/-- No row is published more than `M` times, and the step left alone each failed row whose count
is `M` or more. -/
def BudgetKept (M : Nat) (w : World Uuid) (_ : Action Uuid) (w' : World Uuid) : Prop :=
  (∀ id, (w'.publishes.filter fun q => q.1 = id).length ≤ M) ∧
    ∀ id row, w.store.outbox.get? id = some row → row.state = .failed →
      M ≤ row.publish_attempt_count → w'.store.outbox.get? id = some row

/-- If the step is the claim of a stuck-pending sweep and will go through on a row whose count
is `M` or more, the page of the sweep showed that already. -/
def SeesTheBudget (M : Nat) (w : World Uuid) : Action Uuid → Prop
  | .step caller _ _ =>
    match w.threads.get? caller with
    | some ⟨.claimingStuck outbox _ _, _⟩ =>
      match readForClaim w.store outbox.execution_id with
      | some row => M ≤ row.publish_attempt_count → M ≤ outbox.publish_attempt_count
      | none => True
    | _ => True
  | _ => True

/-- The row that a stuck-pending sweep is about to claim: as its page showed it, and as it is. -/
def World.stuckClaim (w : World Uuid) (caller : Nat) :
    Option (ExecutionOutboxRecord Uuid × ExecutionOutboxRecord Uuid) :=
  match w.threads.get? caller with
  | some ⟨.claimingStuck outbox _ _, _⟩ => (readForClaim w.store outbox.execution_id).map (outbox, ·)
  | _ => none

omit [Stdlib Uuid] in
theorem seesTheBudget_step {M : Nat} :
    (∀ q ∈ w.stuckClaim caller,
      M ≤ q.2.publish_attempt_count → M ≤ q.1.publish_attempt_count) ↔
      SeesTheBudget M w (.step caller t error) := by
  unfold SeesTheBudget World.stuckClaim
  dsimp only
  split
  · split <;> simp [*]
  · simp

instance (M : Nat) (w : World Uuid) (action : Action Uuid) :
    Decidable (SeesTheBudget M w action) :=
  match action with
  | .step _ _ _ => decidable_of_iff _ seesTheBudget_step
  | .runtime _ | .claim .. | .mark .. | .staleSweep .. | .failedSweep .. | .stuckSweep ..
  | .reconcile .. => .isTrue trivial

/-! ## Every thread uses the budget -/

variable {M : Nat}

theorem budget_of_none {budget : Option Nat} (h : budget = none) : ∀ m ∈ budget, m = M := by
  rw [h]
  simp

/-- The sweeps in flight all have the budget `M`. -/
def UsesBudget (M : Nat) (w : World Uuid) : Prop :=
  ∀ caller thread, w.threads.get? caller = some thread →
    (∀ m ∈ thread.pc.budget, m = M) ∧ ∀ job ∈ thread.rest, ∀ m ∈ job.budget, m = M

variable {thread : Thread Uuid}

omit [DecidableEq Uuid] [Stdlib Uuid] in
theorem usesBudget_set (h : UsesBudget M w) (hpc : ∀ m ∈ thread.pc.budget, m = M)
    (hrest : ∀ job ∈ thread.rest, ∀ m ∈ job.budget, m = M) (w' : World Uuid)
    (hthreads : w'.threads = w.threads.set caller thread) : UsesBudget M w' := by
  intro caller' thread' hget
  rw [hthreads] at hget
  rcases Dict.get?_set_cases hget with ⟨-, rfl⟩ | ⟨-, hget⟩
  · exact ⟨hpc, hrest⟩
  · exact h caller' thread' hget

variable {s : InMemoryExecutionPersistence Uuid}

theorem beginJob_budget {job : Job Uuid} {m : Nat} (h : m ∈ (beginJob s job).budget) :
    m ∈ job.budget := by
  cases job with
  | stale id args =>
    simp only [beginJob] at h
    split at h
    · cases h
    · split_ifs at h <;> cases h
  | failed id args =>
    simp only [beginJob] at h
    split at h
    · cases h
    · split_ifs at h <;> first | exact h | cases h
  | stuck outbox args =>
    simp only [beginJob] at h
    split_ifs at h
    · exact h
    · cases h

omit [DecidableEq Uuid] [Stdlib Uuid] in
theorem held_budget (pc : Pc Uuid) (claimed : ExecutionOutboxRecord Uuid) :
    (pc.held claimed).budget = none := by
  cases pc with
  | claimingStuck outbox current args =>
    simp only [Pc.held]
    split_ifs <;> rfl
  | _ => rfl

variable {p : String}

theorem claimStep_budget {e : Uuid} {current : ExecutionOutboxRecord Uuid}
    {held : ExecutionOutboxRecord Uuid → Pc Uuid}
    (hheld : ∀ claimed, (held claimed).budget = none) :
    (claimStep s e p current t held).pc.budget = none := by
  unfold claimStep
  split
  · rfl
  · exact hheld _

omit [Stdlib Uuid] in
theorem claimThread_plain (e : Uuid) (p : String) :
    (claimThread s e p).pc.budget = none ∧ (claimThread s e p).rest = [] := by
  unfold claimThread
  split_ifs
  · exact ⟨rfl, rfl⟩
  · split <;> exact ⟨rfl, rfl⟩

theorem thread_budget (hpc : ∀ m ∈ thread.pc.budget, m = M)
    (hrest : ∀ job ∈ thread.rest, ∀ m ∈ job.budget, m = M) (t : Instant) (error : Option String) :
    (∀ m ∈ (thread.step s t error).1.pc.budget, m = M) ∧
      ∀ job ∈ (thread.step s t error).2, ∀ m ∈ job.budget, m = M := by
  obtain ⟨pc, rest⟩ := thread
  cases pc with
  | idle =>
    cases rest with
    | nil => exact ⟨budget_of_none rfl, hrest⟩
    | cons job rest =>
      exact ⟨fun m hm => hrest job List.mem_cons_self m (beginJob_budget hm),
        fun job' hj => hrest job' (List.mem_cons_of_mem _ hj)⟩
  | claiming e p current =>
    refine ⟨budget_of_none ?_, hrest⟩
    exact claimStep_budget (held_budget (.claiming e p current))
  | requeueingStale => exact ⟨budget_of_none rfl, hrest⟩
  | checkingParent current id args =>
    refine ⟨fun m hm => ?_, hrest⟩
    simp only [Thread.step, Pc.step] at hm
    split_ifs at hm
    · exact hpc m hm
    · cases hm
  | requeueingFailed => exact ⟨budget_of_none rfl, hrest⟩
  | reclaiming outbox args =>
    refine ⟨fun m hm => ?_, hrest⟩
    simp only [Thread.step, Pc.step] at hm
    split at hm
    · cases hm
    · exact hpc m hm
  | claimingStuck outbox current args =>
    refine ⟨budget_of_none ?_, hrest⟩
    exact claimStep_budget (held_budget (.claimingStuck outbox current args))
  | publishing claimed failure =>
    refine ⟨budget_of_none ?_, hrest⟩
    cases error <;> rfl
  | markingPublished => exact ⟨budget_of_none rfl, hrest⟩
  | markingFailed => exact ⟨budget_of_none rfl, hrest⟩

variable {action : Action Uuid}

theorem usesBudget_next (h : UsesBudget M w) (hs : nextSweep M w action = some w') :
    UsesBudget M w' := by
  unfold nextSweep at hs
  split_ifs at hs with hsweep
  cases action with
  | runtime call => cases hs; exact h
  | mark => cases hs; exact h
  | claim caller e p =>
    cases hs
    obtain ⟨hpc, hrest⟩ := claimThread_plain (s := w.store) e p
    exact usesBudget_set h (budget_of_none hpc) (by simp [hrest]) _ rfl
  | staleSweep caller args limit =>
    cases hs
    refine usesBudget_set h (budget_of_none rfl) (fun job hj m hm => ?_) _ rfl
    simp only [staleJobs] at hj
    split_ifs at hj
    · cases hj
    · obtain ⟨row, -, rfl⟩ := List.mem_map.mp hj
      cases hm
  | failedSweep caller args limit =>
    cases hs
    refine usesBudget_set h (budget_of_none rfl) (fun job hj m hm => ?_) _ rfl
    simp only [failedJobs] at hj
    split_ifs at hj
    · cases hj
    · obtain ⟨row, -, rfl⟩ := List.mem_map.mp hj
      cases hm
      exact hsweep
  | stuckSweep caller args limit =>
    cases hs
    refine usesBudget_set h (budget_of_none rfl) (fun job hj m hm => ?_) _ rfl
    simp only [stuckJobs] at hj
    split_ifs at hj
    · cases hj
    · obtain ⟨row, -, rfl⟩ := List.mem_map.mp hj
      cases hm
      exact hsweep
  | reconcile caller job =>
    cases hs
    refine usesBudget_set h (budget_of_none rfl) (fun job' hj m hm => ?_) _ rfl
    cases job with
    | stale id args =>
      simp only [reconcileJobs] at hj
      split_ifs at hj
      · cases hj
      · cases List.mem_singleton.mp hj
        cases hm
    | failed id args =>
      simp only [reconcileJobs] at hj
      split_ifs at hj
      · cases hj
      · cases List.mem_singleton.mp hj
        exact hsweep m hm
    | stuck => cases hj
  | step caller t error =>
    simp only [next] at hs
    cases hthread : w.threads.get? caller with
    | none => simp [hthread] at hs
    | some thread =>
      simp only [hthread] at hs
      obtain ⟨hpc, hrest⟩ := h caller thread hthread
      obtain ⟨hpc', hrest'⟩ := thread_budget (s := w.store) hpc hrest t error
      generalize thread.step w.store t error = out at hs hpc' hrest'
      cases hs
      exact usesBudget_set h hpc' hrest' _ rfl

/-! ## The claims that are published -/

/-- Each publish, made or about to be made, has the number of its claim: no more than the count of
the row, no more than `M`, and no other publish has it. -/
structure Counted (M : Nat) (w : World Uuid) : Prop where
  sound : Sound w.store
  uses : UsesBudget M w
  held : ∀ caller thread claimed, w.threads.get? caller = some thread →
    thread.pc.publishes = some claimed →
    (∃ row, w.store.outbox.get? claimed.outbox_id = some row ∧
      claimed.publish_attempt_count ≤ row.publish_attempt_count) ∧
    1 ≤ claimed.publish_attempt_count ∧ claimed.publish_attempt_count ≤ M ∧
    (claimed.outbox_id, claimed.publish_attempt_count) ∉ w.publishes
  apart : ∀ caller caller' thread thread' claimed claimed',
    w.threads.get? caller = some thread → w.threads.get? caller' = some thread' →
    thread.pc.publishes = some claimed → thread'.pc.publishes = some claimed' →
    claimed.outbox_id = claimed'.outbox_id →
    claimed.publish_attempt_count = claimed'.publish_attempt_count → caller = caller'
  logged : ∀ q ∈ w.publishes, 1 ≤ q.2 ∧ q.2 ≤ M ∧
    ∃ row, w.store.outbox.get? q.1 = some row ∧ q.2 ≤ row.publish_attempt_count
  once : w.publishes.Nodup

theorem Counted.start (M : Nat) : Counted M (World.start : World Uuid) where
  sound := Sound.new
  uses _ _ h := by simp [World.start] at h
  held _ _ _ h := by simp [World.start] at h
  apart _ _ _ _ _ _ h := by simp [World.start] at h
  logged _ h := by simp [World.start] at h
  once := List.nodup_nil

theorem Counted.within (h : Counted M w) (id : Uuid) :
    (w.publishes.filter fun q => q.1 = id).length ≤ M := by
  have hnodup : ((w.publishes.filter fun q => q.1 = id).map Prod.snd).Nodup := by
    refine (h.once.filter _).map_on fun q hq q' hq' hsnd => Prod.ext ?_ hsnd
    have h1 := (List.mem_filter.mp hq).2
    have h2 := (List.mem_filter.mp hq').2
    simp only [decide_eq_true_eq] at h1 h2
    rw [h1, h2]
  have hsubset : (w.publishes.filter fun q => q.1 = id).map Prod.snd ⊆ List.range' 1 M := by
    intro k hk
    obtain ⟨q, hq, rfl⟩ := List.mem_map.mp hk
    obtain ⟨h1, hM, -⟩ := h.logged q (List.mem_filter.mp hq).1
    exact List.mem_range'_1.mpr ⟨h1, by omega⟩
  have hle := (List.subperm_of_subset hnodup hsubset).length_le
  simpa using hle

variable {row : ExecutionOutboxRecord Uuid}

variable {id : Uuid}

theorem WorldStep.count_le [LawfulStdlib Uuid] (h : Sound w.store) (hs : WorldStep w action w')
    (hrow : w.store.outbox.get? id = some row) :
    ∃ row', w'.store.outbox.get? id = some row' ∧
      row.publish_attempt_count ≤ row'.publish_attempt_count := by
  have hquiet : ∀ (B : Nat → Prop) (s' : InMemoryExecutionPersistence Uuid), Quiet B w.store s' →
      ∃ row', s'.outbox.get? id = some row' ∧
        row.publish_attempt_count ≤ row'.publish_attempt_count := by
    intro B s' hq
    cases hq with
    | same => exact ⟨row, hrow, le_refl _⟩
    | moved id' old new stored move =>
      by_cases hid : id' = id
      · subst hid
        rw [hrow] at stored
        cases stored
        exact ⟨new, Dict.get?_set_self _ _ _, le_of_eq move.count.symm⟩
      · exact ⟨row, (Dict.get?_set_ne _ _ hid).trans hrow, le_refl _⟩
  cases hs with
  | claimed caller thread t error e p current old running intent named pending stored =>
    by_cases hid : old.outbox_id = id
    · subst hid
      rw [hrow] at stored
      cases stored
      exact ⟨_, Dict.get?_set_self _ _ _, Nat.le_succ _⟩
    · exact ⟨row, (Dict.get?_set_ne _ _ hid).trans hrow, le_refl _⟩
  | published => exact ⟨row, hrow, le_refl _⟩
  | quiet _ s' caller thread quiet => exact hquiet _ s' quiet
  | marked _ s' quiet => exact hquiet _ s' quiet
  | requested _ s' requests => exact ⟨row, h.wired.row_stays requests hrow, le_refl _⟩

/-- A failed row whose count is `M` or more stays as it is. -/
theorem exhausted_stays [LawfulStdlib Uuid] (h : Sound w.store) (uses : UsesBudget M w)
    (hs : WorldStep w action w') (hrow : w.store.outbox.get? id = some row)
    (hfailed : row.state = .failed) (hspent : M ≤ row.publish_attempt_count) :
    w'.store.outbox.get? id = some row := by
  have hquiet : ∀ (B : Nat → Prop) (s' : InMemoryExecutionPersistence Uuid), (∀ m, B m → m = M) →
      Quiet B w.store s' → s'.outbox.get? id = some row := by
    intro B s' hB hq
    cases hq with
    | same => exact hrow
    | moved id' old new stored move =>
      by_cases hid : id' = id
      · subst hid
        rw [hrow] at stored
        cases stored
        cases move with
        | published c t publishing => rw [hfailed] at publishing; cases publishing
        | failed c message metadata publishing => rw [hfailed] at publishing; cases publishing
        | requeuedStale reason metadata publishing => rw [hfailed] at publishing; cases publishing
        | requeuedFailed m used reason metadata failed budget =>
          have := hB m used
          omega
      · exact (Dict.get?_set_ne _ _ hid).trans hrow
  cases hs with
  | claimed caller thread t error e p current old running intent named pending stored =>
    by_cases hid : old.outbox_id = id
    · subst hid
      rw [hrow] at stored
      cases stored
      rw [hfailed] at pending
      cases pending
    · exact (Dict.get?_set_ne _ _ hid).trans hrow
  | published => exact hrow
  | quiet _ s' caller thread quiet =>
    refine hquiet _ s' (fun m hm => ?_) quiet
    obtain ⟨old, hold, hbudget⟩ := hm
    exact (uses caller old hold).1 m hbudget
  | marked _ s' quiet => exact hquiet _ s' (fun m hm => hm.elim) quiet
  | requested _ s' requests => exact h.wired.row_stays requests hrow

/-! ## A step keeps the numbers apart -/

omit [Stdlib Uuid] in
theorem claim_within (hM : 1 ≤ M) {e : Uuid} {current row : ExecutionOutboxRecord Uuid}
    (uses : UsesBudget M w) (hsweep : SweepsOnly M w (.step caller t error))
    (hsees : SeesTheBudget M w (.step caller t error))
    (running : w.threads.get? caller = some thread)
    (intent : thread.pc.intent = some (e, p, current))
    (named : w.store.getOutboxByExecution e = some row) (pending : row.state = .pending)
    (claimed : ExecutionOutboxRecord Uuid) (held : ExecutionOutboxRecord Uuid)
    (publishes : (thread.pc.held claimed).publishes = some held) :
    held = claimed ∧ row.publish_attempt_count + 1 ≤ M := by
  have hread : readForClaim w.store e = some row := readForClaim_pending named pending
  have hbudget := (uses caller thread running).1
  obtain ⟨pc, rest⟩ := thread
  cases pc with
  | claiming e' p' current' =>
    cases intent
    cases publishes
    simp only [SweepsOnly, running, hread] at hsweep
    exact ⟨rfl, by omega⟩
  | claimingStuck outbox current' args =>
    cases intent
    simp only [SeesTheBudget, running, hread] at hsees
    have hmax : args.max_publish_attempts = M := hbudget _ rfl
    simp only [Pc.held] at publishes
    split_ifs at publishes with hspent
    · cases publishes
    · cases publishes
      exact ⟨rfl, by omega⟩
  | _ => cases intent

omit [DecidableEq Uuid] [Stdlib Uuid] in
theorem publishes_of_settled (silent : thread.pc.publishes = none) {caller' : Nat}
    {thread' : Thread Uuid} {claimed : ExecutionOutboxRecord Uuid}
    (hget : (w.threads.set caller thread).get? caller' = some thread')
    (hpub : thread'.pc.publishes = some claimed) :
    caller ≠ caller' ∧ w.threads.get? caller' = some thread' := by
  rcases Dict.get?_set_cases hget with ⟨rfl, rfl⟩ | h
  · rw [silent] at hpub
    cases hpub
  · exact h

theorem Counted.step [LawfulStdlib Uuid] (hM : 1 ≤ M) (h : Counted M w) (uses' : UsesBudget M w')
    (hsweep : SweepsOnly M w action) (hsees : SeesTheBudget M w action)
    (hs : WorldStep w action w') : Counted M w' := by
  have sound := hs.sound h.sound
  have hgrows : ∀ id k, (∃ row, w.store.outbox.get? id = some row ∧
      k ≤ row.publish_attempt_count) → ∃ row, w'.store.outbox.get? id = some row ∧
      k ≤ row.publish_attempt_count := by
    rintro id k ⟨row, hrow, hk⟩
    obtain ⟨row', hrow', hle⟩ := hs.count_le h.sound hrow
    exact ⟨row', hrow', hk.trans hle⟩
  have hlogged : ∀ q ∈ w.publishes, 1 ≤ q.2 ∧ q.2 ≤ M ∧
      ∃ row, w'.store.outbox.get? q.1 = some row ∧ q.2 ≤ row.publish_attempt_count := by
    intro q hq
    obtain ⟨h1, h2, h3⟩ := h.logged q hq
    exact ⟨h1, h2, hgrows _ _ h3⟩
  cases hs with
  | claimed caller thread t error e p current row running intent named pending stored =>
    have hwithin := claim_within hM h.uses hsweep hsees running intent named pending
      (claimedOutbox row p (claimIdFor p current) t)
    -- The number of the new claim is past every number given out for the row.
    have hnew : ∀ caller' thread' claimed, w.threads.get? caller' = some thread' →
        thread'.pc.publishes = some claimed → claimed.outbox_id = row.outbox_id →
        claimed.publish_attempt_count ≤ row.publish_attempt_count := by
      intro caller' thread' claimed hget hpub hid
      obtain ⟨⟨row', hrow', hle⟩, -⟩ := h.held caller' thread' claimed hget hpub
      rw [hid, stored] at hrow'
      cases hrow'
      exact hle
    refine ⟨sound, uses', ?_, ?_, hlogged, h.once⟩
    · intro caller' thread' claimed hget hpub
      rcases Dict.get?_set_cases hget with ⟨-, rfl⟩ | ⟨-, hget⟩
      · obtain ⟨rfl, hle⟩ := hwithin _ hpub
        refine ⟨⟨_, Dict.get?_set_self _ _ _, le_refl _⟩, Nat.le_add_left _ _, hle, fun hmem => ?_⟩
        obtain ⟨-, -, row', hrow', hle'⟩ := h.logged _ hmem
        have hsame : row' = row := Option.some.inj (hrow'.symm.trans stored)
        subst hsame
        exact absurd hle' (Nat.not_succ_le_self _)
      · obtain ⟨hrow, hrest⟩ := h.held caller' thread' claimed hget hpub
        exact ⟨hgrows _ _ hrow, hrest⟩
    · intro c c' th th' cl cl' hget hget' hpub hpub' hid hk
      rcases Dict.get?_set_cases hget with ⟨rfl, rfl⟩ | ⟨-, hold⟩
      · rcases Dict.get?_set_cases hget' with ⟨rfl, rfl⟩ | ⟨-, hold'⟩
        · rfl
        · obtain ⟨rfl, -⟩ := hwithin _ hpub
          have hle := hnew c' th' cl' hold' hpub' hid.symm
          rw [← hk] at hle
          exact absurd hle (Nat.not_succ_le_self _)
      · rcases Dict.get?_set_cases hget' with ⟨rfl, rfl⟩ | ⟨-, hold'⟩
        · obtain ⟨rfl, -⟩ := hwithin _ hpub'
          have hle := hnew c th cl hold hpub hid
          rw [hk] at hle
          exact absurd hle (Nat.not_succ_le_self _)
        · exact h.apart c c' th th' cl cl' hold hold' hpub hpub' hid hk
  | published caller thread t error claimed pc running held settled =>
    obtain ⟨hrow, h1, hle, hfresh⟩ := h.held caller thread claimed running held
    refine ⟨sound, uses', ?_, ?_, ?_, List.nodup_cons.mpr ⟨hfresh, h.once⟩⟩
    · intro caller' thread' claimed' hget hpub
      obtain ⟨hne, hget⟩ := publishes_of_settled settled.silent hget hpub
      obtain ⟨hrow', h1', hle', hfresh'⟩ := h.held caller' thread' claimed' hget hpub
      refine ⟨hrow', h1', hle', fun hmem => ?_⟩
      rcases List.mem_cons.mp hmem with heq | hmem
      · simp only [Prod.mk.injEq] at heq
        exact hne (h.apart caller caller' thread thread' claimed claimed' running hget held hpub
          heq.1.symm heq.2.symm)
      · exact hfresh' hmem
    · intro c c' th th' cl cl' hget hget' hpub hpub' hid hk
      exact h.apart c c' th th' cl cl' (publishes_of_settled settled.silent hget hpub).2
        (publishes_of_settled settled.silent hget' hpub').2 hpub hpub' hid hk
    · intro q hq
      rcases List.mem_cons.mp hq with rfl | hq
      · exact ⟨h1, hle, hrow⟩
      · exact hlogged q hq
  | quiet _ s' caller thread quiet settled =>
    refine ⟨sound, uses', ?_, ?_, hlogged, h.once⟩
    · intro caller' thread' claimed hget hpub
      obtain ⟨hrow, hrest⟩ := h.held caller' thread' claimed
        (publishes_of_settled settled.silent hget hpub).2 hpub
      exact ⟨hgrows _ _ hrow, hrest⟩
    · intro c c' th th' cl cl' hget hget' hpub hpub' hid hk
      exact h.apart c c' th th' cl cl' (publishes_of_settled settled.silent hget hpub).2
        (publishes_of_settled settled.silent hget' hpub').2 hpub hpub' hid hk
  | marked | requested =>
    refine ⟨sound, uses', fun caller' thread' claimed hget hpub => ?_, h.apart, hlogged, h.once⟩
    obtain ⟨hrow, hrest⟩ := h.held caller' thread' claimed hget hpub
    exact ⟨hgrows _ _ hrow, hrest⟩

/-- Along every interleaving of the sweeps in which no stuck-pending claim goes through on a
count of `M` or more that its page did not show, each row is published `M` times at most, and a
failed row that has used up the budget stays failed. -/
theorem budget_kept_when_pages_show_it [LawfulStdlib Uuid] (M : Nat) (hM : 1 ≤ M)
    (actions : List (Action Uuid))
    (hsees : runs.Meets (nextSweep M) (SeesTheBudget M) World.start actions) :
    runs.Along (nextSweep M) (BudgetKept M) World.start actions := by
  refine runs.along_when (I := Counted M) ?_ (Counted.start M) hsees
  intro w action w' h hC hs
  have uses' := usesBudget_next h.uses hs
  unfold nextSweep at hs
  split_ifs at hs with hsweep
  have hstep := next_worldStep h.sound hs
  have hcounted := h.step hM uses' hsweep hC hstep
  refine ⟨hcounted, hcounted.within, fun id row hrow hfailed hspent => ?_⟩
  exact exhausted_stays h.sound h.uses hstep hrow hfailed hspent

/-! ## Two runs over plain texts, with a budget of two -/

/-- The id that the request of the runs gets. -/
def publishedRowId : String :=
  deriveOutboxId (Stdlib.uuid5 executionNamespace "diagnostic_agent|t|d|s")

/-- The first publish fails and the row is requeued. Two stuck-pending sweeps list it; the first
claims it and publishes, and stops there. -/
def publishedTwice : List (Action String) :=
  [.runtime (.request "d" "s" "t"
      (some { governance_decision_id := "g", execution_governance_evaluation_id := "v",
              admitted_at := 0, tenant_id := "t" }) 0 Dict.empty),
    .claim 0 (Stdlib.uuid5 executionNamespace "diagnostic_agent|t|d|s") "publisher",
    .step 0 1 none, .step 0 1 (some "boom"), .step 0 2 none,
    .failedSweep 1 { failed_before_or_at := 5, requeued_at := 6, max_publish_attempts := 2 } 10,
    .step 1 6 none, .step 1 6 none, .step 1 6 none,
    .stuckSweep 2 { stale_before := 10, max_publish_attempts := 2 } 10,
    .stuckSweep 3 { stale_before := 10, max_publish_attempts := 2 } 10,
    .step 2 11 none, .step 2 11 none, .step 2 11 none, .step 2 11 none]

/-- The lease sweep requeues the claim, and the second sweep claims the row and publishes it: its
page showed a count of one. -/
def publishedThrice : List (Action String) :=
  publishedTwice ++
    [.staleSweep 4 { stale_before := 20 } 10, .step 4 20 none, .step 4 20 none,
      .step 3 21 none, .step 3 21 none, .step 3 21 none, .step 3 21 none]

theorem a_stale_page_overspends_the_budget :
    ∃ w, runs.after (nextSweep 2) World.start publishedThrice = some w ∧
      (w.publishes.filter fun q => q.1 = publishedRowId).length = 3 := by
  have hrun : ∀ v ∈ runs.after (nextSweep 2) World.start publishedThrice,
      (v.publishes.filter fun q => q.1 = publishedRowId).length = 3 := by
    decide +kernel
  obtain ⟨w, hw⟩ : ∃ w, runs.after (nextSweep 2) World.start publishedThrice = some w :=
    Option.isSome_iff_exists.mp (by decide +kernel)
  exact ⟨w, hw, hrun w hw⟩

theorem two_publishes_keep_the_budget :
    runs.Along (nextSweep 2) (BudgetKept 2) World.start publishedTwice :=
  budget_kept_when_pages_show_it 2 (by decide) publishedTwice (by decide +kernel)

end OutboxWorld

end operious.execution_runtime
