-- The quotas of a tenant under concurrency. A dispatch is admitted by what it has counted, and creates
-- its execution later; others may create theirs in between.
import Operious.Runtime.ExecutionGovernance

namespace operious.execution_governance

open operious.execution_runtime

section

variable {Uuid : Type} [Stdlib Uuid] [DecidableEq Uuid]

/-! ## Dispatches -/

/-- The dispatches of a tenant between their steps: those that were admitted, each with the store that it
looked at, have not created their execution yet. The clock does not go back. -/
structure Pool (Uuid : Type) where
  now : Instant
  executions : InMemoryExecutionPersistence Uuid
  breakers : Dict Uuid (TenantExecutionCircuitBreakerRecord Uuid)
  admitted : List (Nat × ExecutionGovernanceEvaluation Uuid × InMemoryExecutionPersistence Uuid)

/-- No execution yet. -/
def Pool.start (now : Instant) : Pool Uuid := ⟨now, .new, .empty, []⟩

/-- The steps of a dispatch, each at its time: the evaluation, and later the creation of the execution. -/
inductive Act (Uuid : Type)
  | evaluate (dispatch : Nat) (time : Instant) (readings : Readings Uuid)
  | create (dispatch : Nat) (time : Instant) (dispatch_id session_id : String)
      (governance_decision_id : Uuid) (metadata : Metadata)

variable (config : TenantExecutionGovernanceConfigurationRecord Uuid) (tenant_id : String)

def step (pool : Pool Uuid) : Act Uuid → Option (Pool Uuid)
  | .evaluate dispatch time readings =>
    if time < pool.now then none
    else
      let (evaluation, breakers) :=
        evaluate (some config) readings pool.executions pool.breakers tenant_id time
      some { pool with
        now := time
        breakers
        admitted := if evaluation.allowed then (dispatch, evaluation, pool.executions) :: pool.admitted
          else pool.admitted }
  | .create dispatch time dispatch_id session_id governance_decision_id metadata =>
    if time < pool.now then none
    else
      match pool.admitted.find? (·.1 = dispatch) with
      | none => none
      | some (_, evaluation, _) =>
        match requestDiagnosticExecution pool.executions dispatch_id session_id tenant_id
            (some (evaluation.token governance_decision_id tenant_id)) time metadata with
        | .error _ => none
        | .ok (_, executions) => some { pool with
            now := time
            executions
            admitted := pool.admitted.filter (·.1 ≠ dispatch) }

/-! ## The limits -/

def windowCount (s : InMemoryExecutionPersistence Uuid) (finish : Instant) : Nat :=
  (s.executions.values.filter fun r => r.tenant_id = tenant_id &&
    (finish - minutes config.throughput_window_minutes ≤ r.requested_at && r.requested_at ≤ finish)).length

def WithinLimits (s : InMemoryExecutionPersistence Uuid) : Prop :=
  executionCount s tenant_id ≤ config.execution_quota ∧
    ∀ finish, windowCount config tenant_id s finish ≤ config.throughput_limit

/-- The dispatch has an execution already, which a creation only finds again. -/
def hasExecution (s : InMemoryExecutionPersistence Uuid) (dispatch_id : String) : Bool :=
  (s.by_dispatch.get? (tenant_id, dispatch_id, .diagnosticAgent)).isSome

/-- A new execution is created only where the tests of the evaluation would still pass. -/
def RoomLeft (pool : Pool Uuid) : Act Uuid → Prop
  | .evaluate .. => True
  | .create _ time dispatch_id .. =>
    hasExecution tenant_id pool.executions dispatch_id = false →
      quotaFree config pool.executions tenant_id = true ∧
        throughputFree config pool.executions tenant_id time = true

/-- A dispatch creates its execution before any other one is created since it was evaluated. -/
def Undisturbed (pool : Pool Uuid) : Act Uuid → Prop
  | .evaluate .. => True
  | .create dispatch .. => ∀ entry, pool.admitted.find? (·.1 = dispatch) = some entry →
      entry.2.2 = pool.executions

/-! ## What a creation changes -/

variable {config tenant_id}

variable {s : InMemoryExecutionPersistence Uuid}

omit [Stdlib Uuid] [DecidableEq Uuid] in
theorem executionCount_eq :
    executionCount s tenant_id =
      (s.executions.values.filter fun r => r.tenant_id = tenant_id).length := by
  unfold executionCount list_executions_total
  congr 2
  funext r
  simp [ExecutionQuery.keeps]

omit [Stdlib Uuid] [DecidableEq Uuid] in
theorem throughputCount_eq {start : Instant} :
    throughputCount s tenant_id start =
      (s.executions.values.filter fun r => r.tenant_id = tenant_id && start ≤ r.requested_at).length := by
  unfold throughputCount list_executions_total
  congr 2
  funext r
  simp [ExecutionQuery.keeps]

variable {row : ExecutionRecord Uuid} {dispatch_id session_id : String} {time : Instant}

variable {metadata : Metadata}

theorem request_ok {s s' : InMemoryExecutionPersistence Uuid}
    {token : Option (GovernanceAdmissionToken Uuid)}
    (h : requestDiagnosticExecution s dispatch_id session_id tenant_id token time metadata =
      .ok (row, s')) :
    (hasExecution tenant_id s dispatch_id = true ∧ s' = s) ∨
      (hasExecution tenant_id s dispatch_id = false ∧ row.tenant_id = tenant_id ∧
        row.requested_at = time ∧ s'.executions.values = s.executions.values ++ [row]) := by
  unfold requestDiagnosticExecution at h
  split at h
  · cases h
  · split at h
    · cases h
    · split at h
      · cases h
      · simp only at h
        split at h
        · cases h
        · unfold InMemoryExecutionPersistence.requestExecution at h
          simp only at h
          split at h
          · rename_i hkey
            split at h
            · cases h
            · cases h
              exact Or.inl ⟨by simp [hasExecution, hkey], rfl⟩
          · rename_i hkey
            split at h
            · cases h
            · rename_i hfresh
              cases h
              refine Or.inr ⟨by simp [hasExecution, hkey], rfl, rfl, ?_⟩
              exact Dict.values_set_fresh
                (Option.not_isSome_iff_eq_none.mp hfresh) _

/-- The window that ends at `finish` holds a request of that time. -/
def inWindow (config : TenantExecutionGovernanceConfigurationRecord Uuid) (finish time : Instant) : Bool :=
  finish - minutes config.throughput_window_minutes ≤ time && time ≤ finish

omit [Stdlib Uuid] [DecidableEq Uuid] in
theorem windowCount_append {s s' : InMemoryExecutionPersistence Uuid}
    (htenant : row.tenant_id = tenant_id)
    (hvalues : s'.executions.values = s.executions.values ++ [row]) (finish : Instant) :
    windowCount config tenant_id s' finish =
      windowCount config tenant_id s finish + (inWindow config finish row.requested_at).toNat := by
  unfold windowCount
  rw [hvalues, List.filter_append, List.length_append]
  congr 1
  change ([row].filter fun r => decide (r.tenant_id = tenant_id) && inWindow config finish r.requested_at).length
    = _
  cases hin : inWindow config finish row.requested_at with
  | false => simp [hin]
  | true => simp [hin, htenant]

variable {now : Instant}

section

omit [Stdlib Uuid] [DecidableEq Uuid]

theorem windowCount_now (hpast : ∀ r ∈ s.executions.values, r.requested_at ≤ now) :
    windowCount config tenant_id s now =
      throughputCount s tenant_id (now - minutes config.throughput_window_minutes) := by
  rw [throughputCount_eq, windowCount]
  refine congrArg List.length (List.filter_congr fun r hr => ?_)
  simp [hpast r hr]

theorem throughputCount_le {start later : Instant} (h : start ≤ later) :
    throughputCount s tenant_id later ≤ throughputCount s tenant_id start := by
  rw [throughputCount_eq, throughputCount_eq]
  refine (List.monotone_filter_right _ fun r hr => ?_).length_le
  simp only [Bool.and_eq_true, decide_eq_true_eq] at hr ⊢
  exact ⟨hr.1, h.trans hr.2⟩

theorem windowCount_le {finish : Instant} (hpast : ∀ r ∈ s.executions.values, r.requested_at ≤ now)
    (hlater : now ≤ finish) :
    windowCount config tenant_id s finish ≤ windowCount config tenant_id s now := by
  rw [windowCount_now hpast, windowCount_now fun r hr => (hpast r hr).trans hlater]
  exact throughputCount_le (Int.sub_le_sub_right hlater _)

theorem inWindow_self (now : Instant) : inWindow config now now = true := by
  have hminutes : 0 ≤ minutes config.throughput_window_minutes :=
    Int.mul_nonneg (Int.natCast_nonneg _) (by decide)
  unfold inWindow
  rw [decide_eq_true (Int.sub_le_self now hminutes), decide_eq_true (Int.le_refl now)]
  rfl

theorem withinLimits_append {s s' : InMemoryExecutionPersistence Uuid}
    (hpast : ∀ r ∈ s.executions.values, r.requested_at ≤ row.requested_at)
    (htenant : row.tenant_id = tenant_id)
    (hvalues : s'.executions.values = s.executions.values ++ [row])
    (hwithin : WithinLimits config tenant_id s) :
    WithinLimits config tenant_id s' ↔ quotaFree config s tenant_id = true ∧
      throughputFree config s tenant_id row.requested_at = true := by
  have hcount : executionCount s' tenant_id = executionCount s tenant_id + 1 := by
    simp [executionCount_eq, hvalues, htenant]
  have hwindow (finish : Instant) : windowCount config tenant_id s' finish =
      windowCount config tenant_id s finish + (inWindow config finish row.requested_at).toNat :=
    windowCount_append htenant hvalues finish
  unfold quotaFree throughputFree WithinLimits
  rw [decide_eq_true_eq, decide_eq_true_eq, hcount, ← windowCount_now hpast]
  constructor
  · rintro ⟨hquota, hwindows⟩
    have hnow := hwindows row.requested_at
    rw [hwindow, inWindow_self] at hnow
    exact ⟨hquota, hnow⟩
  · rintro ⟨hquota, hthroughput⟩
    refine ⟨hquota, fun finish => ?_⟩
    rw [hwindow]
    cases hin : inWindow config finish row.requested_at with
    | false => exact hwithin.2 finish
    | true =>
      have hlater : row.requested_at ≤ finish := of_decide_eq_true (Bool.and_eq_true_iff.mp hin).2
      exact (Nat.succ_le_succ (windowCount_le hpast hlater)).trans hthroughput

end

/-! ## Runs -/

/-- What every step keeps: the limits hold, every execution was requested by now, and what was admitted
was under the limits of the store that it looked at. -/
structure Sound (config : TenantExecutionGovernanceConfigurationRecord Uuid) (tenant_id : String)
    (pool : Pool Uuid) : Prop where
  within : WithinLimits config tenant_id pool.executions
  past : ∀ r ∈ pool.executions.executions.values, r.requested_at ≤ pool.now
  admitted : ∀ entry ∈ pool.admitted, entry.2.1.evaluated_at ≤ pool.now ∧
    quotaFree config entry.2.2 tenant_id = true ∧
    throughputFree config entry.2.2 tenant_id entry.2.1.evaluated_at = true

variable {readings : Readings Uuid}

theorem evaluate_at {breakers : Dict Uuid (TenantExecutionCircuitBreakerRecord Uuid)} :
    (evaluate (some config) readings s breakers tenant_id now).1.evaluated_at = now := by
  unfold evaluate
  simp only
  repeat' split
  all_goals rfl

variable {pool pool' : Pool Uuid}

variable {dispatch : Nat}

theorem evaluated (hsound : Sound config tenant_id pool)
    (h : step config tenant_id pool (.evaluate dispatch time readings) = some pool') :
    Sound config tenant_id pool' ∧ pool'.executions = pool.executions := by
  rw [step] at h
  split at h
  · cases h
  · rename_i hclock
    have hnow : pool.now ≤ time := Int.not_lt.mp hclock
    have hold : ∀ entry ∈ pool.admitted, entry.2.1.evaluated_at ≤ time ∧
        quotaFree config entry.2.2 tenant_id = true ∧
        throughputFree config entry.2.2 tenant_id entry.2.1.evaluated_at = true :=
      fun entry hentry => (hsound.admitted entry hentry).imp_left (·.trans hnow)
    cases hevaluation : evaluate (some config) readings pool.executions pool.breakers tenant_id time with
    | mk evaluation breakers =>
      have hat : evaluation.evaluated_at = time :=
        (congrArg (·.1.evaluated_at) hevaluation).symm.trans evaluate_at
      rw [hevaluation] at h
      cases h
      refine ⟨⟨hsound.within, fun r hr => (hsound.past r hr).trans hnow, ?_⟩, rfl⟩
      cases hallowed : evaluation.allowed with
      | false => exact fun entry hentry => hold entry (by simpa [hallowed] using hentry)
      | true =>
        obtain ⟨active, hactive, hquota, hthroughput⟩ :=
          free_of_allowed ((congrArg (·.1.allowed) hevaluation).trans hallowed)
        cases hactive
        intro entry hentry
        simp only [if_true] at hentry
        rcases List.mem_cons.mp hentry with rfl | hentry
        · exact ⟨hat.le, hquota, hat ▸ hthroughput⟩
        · exact hold entry hentry

theorem created {governance_decision_id : Uuid}
    (h : step config tenant_id pool
      (.create dispatch time dispatch_id session_id governance_decision_id metadata) = some pool') :
    pool.now ≤ time ∧ pool'.now = time ∧ (∀ entry ∈ pool'.admitted, entry ∈ pool.admitted) ∧
      (∃ entry ∈ pool.admitted, pool.admitted.find? (·.1 = dispatch) = some entry) ∧
      ((hasExecution tenant_id pool.executions dispatch_id = true ∧
          pool'.executions = pool.executions) ∨
        hasExecution tenant_id pool.executions dispatch_id = false ∧
          ∃ row : ExecutionRecord Uuid, row.tenant_id = tenant_id ∧ row.requested_at = time ∧
            pool'.executions.executions.values = pool.executions.executions.values ++ [row]) := by
  rw [step] at h
  split at h
  · cases h
  · rename_i hclock
    split at h
    · cases h
    · rename_i number evaluation seen hfind
      split at h
      · cases h
      · rename_i row executions hrequest
        cases h
        refine ⟨Int.not_lt.mp hclock, rfl, fun entry hentry => List.mem_of_mem_filter hentry,
          ⟨_, List.mem_of_find?_eq_some hfind, hfind⟩, ?_⟩
        rcases request_ok hrequest with ⟨hhas, hsame⟩ | ⟨hhas, htenant, htime, hvalues⟩
        · exact Or.inl ⟨hhas, hsame⟩
        · exact Or.inr ⟨hhas, row, htenant, htime, hvalues⟩

variable {act : Act Uuid}

theorem step_within (hsound : Sound config tenant_id pool)
    (h : step config tenant_id pool act = some pool') :
    WithinLimits config tenant_id pool'.executions ↔ RoomLeft config tenant_id pool act := by
  cases act with
  | evaluate dispatch time readings =>
    rw [(evaluated hsound h).2]
    exact iff_of_true hsound.within trivial
  | create dispatch time dispatch_id session_id governance_decision_id metadata =>
    obtain ⟨hclock, -, -, -, hcreated⟩ := created h
    rw [RoomLeft]
    rcases hcreated with ⟨hhas, hsame⟩ | ⟨hhas, row, htenant, htime, hvalues⟩
    · rw [hsame, hhas]
      exact iff_of_true hsound.within (fun hnone => by cases hnone)
    · have hpast : ∀ r ∈ pool.executions.executions.values, r.requested_at ≤ row.requested_at :=
        fun r hr => htime ▸ (hsound.past r hr).trans hclock
      rw [withinLimits_append hpast htenant hvalues hsound.within, htime]
      exact ⟨fun hroom _ => hroom, fun hroom => hroom hhas⟩

theorem step_sound (hsound : Sound config tenant_id pool)
    (hroom : RoomLeft config tenant_id pool act) (h : step config tenant_id pool act = some pool') :
    Sound config tenant_id pool' := by
  have hwithin : WithinLimits config tenant_id pool'.executions := (step_within hsound h).mpr hroom
  cases act with
  | evaluate dispatch time readings => exact (evaluated hsound h).1
  | create dispatch time dispatch_id session_id governance_decision_id metadata =>
    obtain ⟨hclock, hnow, hadmitted, -, hcreated⟩ := created h
    have hpast : ∀ r ∈ pool'.executions.executions.values, r.requested_at ≤ pool'.now := by
      rw [hnow]
      intro r hr
      rcases hcreated with ⟨-, hsame⟩ | ⟨-, row, -, htime, hvalues⟩
      · rw [hsame] at hr
        exact (hsound.past r hr).trans hclock
      · rw [hvalues] at hr
        rcases List.mem_append.mp hr with hold | hlast
        · exact (hsound.past r hold).trans hclock
        · cases List.mem_singleton.mp hlast
          exact htime.le
    refine ⟨hwithin, hpast, fun entry hentry => ?_⟩
    rw [hnow]
    exact (hsound.admitted entry (hadmitted entry hentry)).imp_left (·.trans hclock)

theorem room_of_undisturbed (hsound : Sound config tenant_id pool)
    (h : step config tenant_id pool act = some pool') (hundisturbed : Undisturbed pool act) :
    RoomLeft config tenant_id pool act := by
  cases act with
  | evaluate dispatch time readings => trivial
  | create dispatch time dispatch_id session_id governance_decision_id metadata =>
    obtain ⟨hclock, -, -, ⟨entry, hentry, hfind⟩, -⟩ := created h
    obtain ⟨hevaluated, hquota, hthroughput⟩ := hsound.admitted entry hentry
    rw [hundisturbed entry hfind] at hquota hthroughput
    refine fun _ => ⟨hquota, decide_eq_true ?_⟩
    have hstart : entry.2.1.evaluated_at - minutes config.throughput_window_minutes ≤
        time - minutes config.throughput_window_minutes :=
      Int.sub_le_sub_right (hevaluated.trans hclock) _
    exact (throughputCount_le hstart).trans_lt (of_decide_eq_true hthroughput)

omit [Stdlib Uuid] [DecidableEq Uuid] in
theorem sound_start (now : Instant) : Sound config tenant_id (Pool.start now) :=
  ⟨⟨Nat.zero_le _, fun _ => Nat.zero_le _⟩, fun _ hr => (nomatch hr), fun _ hentry => (nomatch hentry)⟩

/-- The limits hold after every step of a run exactly where every new execution has room when it is
created. They do where nothing was created between the evaluation of a dispatch and its own creation. -/
theorem limits_hold_iff (now : Instant) (acts : List (Act Uuid)) :
    (runs.Along (step config tenant_id)
        (fun _ _ pool => WithinLimits config tenant_id pool.executions) (.start now) acts ↔
      runs.Meets (step config tenant_id) (RoomLeft config tenant_id) (.start now) acts) ∧
    (runs.Meets (step config tenant_id) Undisturbed (.start now) acts →
      runs.Meets (step config tenant_id) (RoomLeft config tenant_id) (.start now) acts) := by
  constructor
  · exact runs.along_iff_meets (I := Sound config tenant_id)
      (fun _ _ _ hsound hroom h => step_sound hsound hroom h)
      (fun _ _ _ hsound h => step_within hsound h) (sound_start now)
  · intro hundisturbed
    refine runs.along_when (I := Sound config tenant_id) (C := Undisturbed) ?_ (sound_start now)
      hundisturbed
    intro pool act pool' hsound hact h
    have hroom : RoomLeft config tenant_id pool act := room_of_undisturbed hsound h hact
    exact ⟨step_sound hsound hroom h, hroom⟩

end

def oneConfig : TenantExecutionGovernanceConfigurationRecord String where
  config_id := "config"
  execution_quota := 1
  throughput_limit := 1
  throughput_window_minutes := 60
  governance_budget_limit := 100
  governance_budget_window_minutes := 60
  circuit_failure_threshold := 5
  circuit_window_minutes := 60
  circuit_cooldown_minutes := 5
  version := 1
  content_sha256 := "sha"

/-- Two dispatches that are both evaluated before one of them creates its execution. -/
def race : List (Act String) :=
  [.evaluate 1 1 {}, .evaluate 2 2 {}, .create 1 3 "first" "session" "decision" .empty,
    .create 2 4 "second" "session" "decision" .empty]

/-- Both find room for one, and there are two. -/
theorem race_exceeds : ∃ pool, runs.after (step oneConfig "acme") (.start 0) race = some pool ∧
    oneConfig.execution_quota < executionCount pool.executions "acme" ∧
    oneConfig.throughput_limit < windowCount oneConfig "acme" pool.executions 4 := by
  have hrun : (runs.after (step oneConfig "acme") (.start 0) race).map (fun pool =>
      (executionCount pool.executions "acme", windowCount oneConfig "acme" pool.executions 4)) =
      some (2, 2) := by decide +kernel
  obtain ⟨pool, hpool, hcounts⟩ := Option.map_eq_some_iff.mp hrun
  obtain ⟨hcount, hwindow⟩ := Prod.mk.inj hcounts
  exact ⟨pool, hpool, by rw [hcount]; decide, by rw [hwindow]; decide⟩

end operious.execution_governance
