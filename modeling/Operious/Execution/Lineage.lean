-- The lineage of the attempts: what ties the row of an execution to the rows of its attempts,
-- what a call may do to the two tables, and that each such change keeps the tie. Nothing here
-- is about one backend.
import Operious.Execution.Transitions

namespace operious.execution_runtime

section

variable {Uuid : Type}

/-! ## The tie between an execution and its attempts -/

def Retried (a : ExecutionAttemptRecord Uuid) : Prop :=
  a.state = .failed ∧ a.retry_requested = true

/-- The state of the last attempt and the state of the execution say the same thing. -/
def Agrees (r : ExecutionRecord Uuid) (a : ExecutionAttemptRecord Uuid) : Prop :=
  match r.state with
  | .requested => Retried a
  | .claimed => a.state = .running ∧ r.worker_id = some a.worker_id
  | .completed => a.state = .completed
  | .failed => a.state = .failed ∧ a.retry_requested = false
  | .deadLettered => a.state = .deadLettered

variable {r : ExecutionRecord Uuid} {a : ExecutionAttemptRecord Uuid}

theorem Agrees.running_iff (h : Agrees r a) : a.state = .running ↔ r.state = .claimed := by
  cases hs : r.state <;> simp_all [Agrees, Retried]

theorem Agrees.completed_iff (h : Agrees r a) : a.state = .completed ↔ r.state = .completed := by
  cases hs : r.state <;> simp_all [Agrees, Retried]

theorem Agrees.deadLettered_iff (h : Agrees r a) :
    a.state = .deadLettered ↔ r.state = .deadLettered := by
  cases hs : r.state <;> simp_all [Agrees, Retried]

theorem Agrees.failed_iff (h : Agrees r a) :
    a.state = .failed ∧ a.retry_requested = false ↔ r.state = .failed := by
  cases hs : r.state <;> simp_all [Agrees, Retried]

theorem Agrees.retried_iff (h : Agrees r a) : Retried a ↔ r.state = .requested := by
  cases hs : r.state <;> simp_all [Agrees, Retried]

/-! ## The end of a claim -/

/-- The end of a claim: a running current attempt and its claimed execution, before and after.
The lineage fields stay, and the new states agree. -/
structure Settles (r r' : ExecutionRecord Uuid) (a a' : ExecutionAttemptRecord Uuid) : Prop where
  claimed : r.state = .claimed
  running : a.state = .running
  mine : a.execution_id = r.execution_id
  current : a.attempt_number = r.attempt_count
  execution_id : r'.execution_id = r.execution_id
  attempt_count : r'.attempt_count = r.attempt_count
  released : r'.state ≠ .claimed
  attempt_id : a'.attempt_id = a.attempt_id
  execution_id' : a'.execution_id = a.execution_id
  attempt_number : a'.attempt_number = a.attempt_number
  previous : a'.previous_attempt_id = a.previous_attempt_id
  agrees : Agrees r' a'

theorem Report.settles (report : Report) (claimed : r.state = .claimed)
    (running : a.state = .running) (mine : a.execution_id = r.execution_id)
    (current : a.attempt_number = r.attempt_count) :
    Settles r (report.onExecution r) a (report.onAttempt a) := by
  cases report with
  | complete result t category confidence =>
    exact ⟨claimed, running, mine, current, rfl, rfl, by simp [Report.onExecution], rfl, rfl, rfl,
      rfl, rfl⟩
  | fail error t retry_requested result =>
    refine ⟨claimed, running, mine, current, rfl, rfl, ?_, rfl, rfl, rfl, rfl, ?_⟩
    · cases retry_requested <;> simp [Report.onExecution]
    · cases retry_requested <;> exact ⟨rfl, rfl⟩
  | deadLetter error t result =>
    exact ⟨claimed, running, mine, current, rfl, rfl, by simp [Report.onExecution], rfl, rfl, rfl,
      rfl, rfl⟩

variable [Stdlib Uuid]

theorem recovery_settles (reason : String) (t : Instant) {r seen : ExecutionRecord Uuid}
    {a seen_attempt : ExecutionAttemptRecord Uuid} (claimed : r.state = .claimed)
    (running : a.state = .running) (mine : a.execution_id = r.execution_id)
    (current : a.attempt_number = r.attempt_count) :
    Settles r (recoveredExecution reason t seen_attempt seen r) a
      (recoveredAttempt reason t seen_attempt a) :=
  ⟨claimed, running, mine, current, rfl, rfl, by simp [recoveredExecution], rfl, rfl, rfl, rfl,
    ⟨rfl, rfl⟩⟩

/-! ## The ids of the attempts -/

/-- The id of attempt number `n`, or none before the first. -/
def precedingId (execution_id : Uuid) : Nat → Option Uuid
  | 0 => none
  | n + 1 => some (deriveAttemptId execution_id (n + 1))

/-- The ids of the first `n` attempts, oldest first. -/
def firstIds (execution_id : Uuid) (n : Nat) : List Uuid :=
  (List.range n).map fun i => deriveAttemptId execution_id (i + 1)

theorem firstIds_succ (e : Uuid) (n : Nat) :
    firstIds e (n + 1) = firstIds e n ++ [deriveAttemptId e (n + 1)] := by
  simp [firstIds, List.range_succ]

theorem getLast?_firstIds (e : Uuid) (n : Nat) : (firstIds e n).getLast? = precedingId e n := by
  cases n with
  | zero => rfl
  | succ n => rw [firstIds_succ, List.getLast?_concat, precedingId]

theorem mem_firstIds {e id : Uuid} {n : Nat} :
    id ∈ firstIds e n ↔ ∃ k, 1 ≤ k ∧ k ≤ n ∧ id = deriveAttemptId e k := by
  simp only [firstIds, List.mem_map, List.mem_range]
  constructor
  · rintro ⟨i, hi, rfl⟩
    exact ⟨i + 1, by omega, by omega, rfl⟩
  · rintro ⟨k, hk, hkn, rfl⟩
    exact ⟨k - 1, by omega, by rw [Nat.sub_add_cancel hk]⟩

structure Numbered (e : Uuid) (n : Nat) (a : ExecutionAttemptRecord Uuid) : Prop where
  attempt_id : a.attempt_id = deriveAttemptId e n
  execution_id : a.execution_id = e
  attempt_number : a.attempt_number = n
  previous : a.previous_attempt_id = precedingId e (n - 1)

variable [DecidableEq Uuid]

/-- The attempts of one execution are numbered without a gap, all but the last are retried, and
the last one agrees with the execution. -/
structure Lineage (attempts : Dict Uuid (ExecutionAttemptRecord Uuid))
    (r : ExecutionRecord Uuid) : Prop where
  unstarted : r.attempt_count = 0 → r.state = .requested
  stored : ∀ n, 1 ≤ n → n ≤ r.attempt_count →
    ∃ a, attempts.get? (deriveAttemptId r.execution_id n) = some a ∧
      Numbered r.execution_id n a ∧ (n < r.attempt_count → Retried a) ∧
      (n = r.attempt_count → Agrees r a)

structure Kept (T : ExecutionTables Uuid) : Prop where
  keyed : ∀ e r, T.executions.get? e = some r → r.execution_id = e
  lineage : ∀ e r, T.executions.get? e = some r → Lineage T.attempts r
  owned : ∀ id a, T.attempts.get? id = some a →
    ∃ r, T.executions.get? a.execution_id = some r ∧
      id = deriveAttemptId a.execution_id a.attempt_number ∧
      1 ≤ a.attempt_number ∧ a.attempt_number ≤ r.attempt_count

/-! ## What a call may do to the tables -/

def claimedRow (r : ExecutionRecord Uuid) (worker_id : String) (claimed_at : Instant) :
    ExecutionRecord Uuid :=
  { r with
    state := .claimed, attempt_count := r.attempt_count + 1, claimed_at := some claimed_at,
    worker_id := some worker_id }

def claimedAttempt (r : ExecutionRecord Uuid) (worker_id : String) (claimed_at : Instant) :
    ExecutionAttemptRecord Uuid :=
  { attempt_id := deriveAttemptId r.execution_id (r.attempt_count + 1),
    execution_id := r.execution_id, attempt_number := r.attempt_count + 1, state := .running,
    worker_id, started_at := claimed_at,
    previous_attempt_id := precedingId r.execution_id r.attempt_count }

/-- Everything that a call can do to the tables. -/
inductive Change (T : ExecutionTables Uuid) : ExecutionTables Uuid → Prop
  | same : Change T T
  | requested (r : ExecutionRecord Uuid) (fresh : T.executions.get? r.execution_id = none)
      (state : r.state = .requested) (count : r.attempt_count = 0) :
      Change T ⟨T.executions.set r.execution_id r, T.attempts⟩
  | claimed (r : ExecutionRecord Uuid) (worker_id : String) (claimed_at : Instant)
      (stored : T.executions.get? r.execution_id = some r) (state : r.state = .requested) :
      Change T
        ⟨T.executions.set r.execution_id (claimedRow r worker_id claimed_at),
          T.attempts.set (deriveAttemptId r.execution_id (r.attempt_count + 1))
            (claimedAttempt r worker_id claimed_at)⟩
  | settled (r r' : ExecutionRecord Uuid) (a a' : ExecutionAttemptRecord Uuid)
      (stored : T.executions.get? r.execution_id = some r)
      (named : T.attempts.get? a.attempt_id = some a) (settles : Settles r r' a a') :
      Change T ⟨T.executions.set r.execution_id r', T.attempts.set a.attempt_id a'⟩

/-! ## A change keeps the lineage -/

variable {T T' : ExecutionTables Uuid}

theorem Kept.empty : Kept (⟨Dict.empty, Dict.empty⟩ : ExecutionTables Uuid) where
  keyed _ _ h := by simp at h
  lineage _ _ h := by simp at h
  owned _ _ h := by simp at h

theorem Lineage.of_agree {attempts attempts' : Dict Uuid (ExecutionAttemptRecord Uuid)}
    (h : Lineage attempts r)
    (hsame : ∀ n, 1 ≤ n → n ≤ r.attempt_count →
      attempts'.get? (deriveAttemptId r.execution_id n) =
        attempts.get? (deriveAttemptId r.execution_id n)) : Lineage attempts' r where
  unstarted := h.unstarted
  stored n h1 hn := by
    rw [hsame n h1 hn]
    exact h.stored n h1 hn

theorem Kept.requested (h : Kept T) (fresh : T.executions.get? r.execution_id = none)
    (state : r.state = .requested) (count : r.attempt_count = 0) :
    Kept ⟨T.executions.set r.execution_id r, T.attempts⟩ where
  keyed e q hq := by
    rcases Dict.get?_set_cases hq with ⟨rfl, rfl⟩ | ⟨-, hq⟩
    · rfl
    · exact h.keyed e q hq
  lineage e q hq := by
    rcases Dict.get?_set_cases hq with ⟨rfl, rfl⟩ | ⟨-, hq⟩
    · exact ⟨fun _ => state, fun n h1 hn => by omega⟩
    · exact h.lineage e q hq
  owned id a ha := by
    obtain ⟨q, hq, hrest⟩ := h.owned id a ha
    refine ⟨q, ?_, hrest⟩
    rw [Dict.get?_set_ne _ _ fun he => ?_]
    · exact hq
    · rw [he, hq] at fresh
      cases fresh

theorem Kept.current_id (h : Kept T) {r r' : ExecutionRecord Uuid}
    {a a' : ExecutionAttemptRecord Uuid} (named : T.attempts.get? a.attempt_id = some a)
    (settles : Settles r r' a a') :
    a.attempt_id = deriveAttemptId r.execution_id r.attempt_count := by
  obtain ⟨-, -, hid, -, -⟩ := h.owned _ a named
  rw [hid, settles.mine, settles.current]

theorem Change.execution_stays (hc : Change T T') {e : Uuid} (hr : T.executions.get? e = some r)
    (hterminal : r.state.terminal = true) : T'.executions.get? e = some r := by
  cases hc with
  | same => exact hr
  | requested q fresh =>
    refine (Dict.get?_set_ne _ _ fun he => ?_).trans hr
    rw [← he, fresh] at hr
    cases hr
  | claimed q worker_id claimed_at stored state =>
    refine (Dict.get?_set_ne _ _ fun he => ?_).trans hr
    rw [← he, stored] at hr
    cases hr
    rw [state] at hterminal
    cases hterminal
  | settled q q' b b' stored named settles =>
    refine (Dict.get?_set_ne _ _ fun he => ?_).trans hr
    rw [← he, stored] at hr
    cases hr
    rw [settles.claimed] at hterminal
    cases hterminal

variable {id : Uuid}

theorem Kept.row_of (h : Kept T) (ha : T.attempts.get? id = some a)
    (hr : T.executions.get? a.execution_id = some r) :
    id = deriveAttemptId a.execution_id a.attempt_number ∧
      1 ≤ a.attempt_number ∧ a.attempt_number ≤ r.attempt_count ∧
      Numbered a.execution_id a.attempt_number a ∧
      (a.attempt_number < r.attempt_count → Retried a) ∧
      (a.attempt_number = r.attempt_count → Agrees r a) := by
  obtain ⟨q, hq, hid, h1, hn⟩ := h.owned id a ha
  rw [hr] at hq
  cases hq
  obtain ⟨b, hb, hrow⟩ := (h.lineage _ r hr).stored a.attempt_number h1 hn
  rw [h.keyed _ r hr, ← hid, ha] at hb
  cases hb
  rw [h.keyed _ r hr] at hrow
  exact ⟨hid, h1, hn, hrow⟩

theorem Kept.attempt_id_eq (h : Kept T) (ha : T.attempts.get? id = some a) : a.attempt_id = id := by
  obtain ⟨r, hr, -⟩ := h.owned id a ha
  obtain ⟨hid, -, -, hnum, -⟩ := h.row_of ha hr
  rw [hnum.attempt_id, ← hid]

theorem Kept.running_row (h : Kept T) (ha : T.attempts.get? id = some a)
    (hr : T.executions.get? a.execution_id = some r) (hrun : a.state = .running) :
    r.state = .claimed ∧ a.attempt_number = r.attempt_count ∧ r.worker_id = some a.worker_id := by
  obtain ⟨-, -, hn, -, hret, hagr⟩ := h.row_of ha hr
  have hlast : a.attempt_number = r.attempt_count := by
    rcases Nat.lt_or_eq_of_le hn with hlt | he
    · have hf := (hret hlt).1
      rw [hrun] at hf
      cases hf
    · exact he
  have hclaimed := (hagr hlast).running_iff.mp hrun
  have hag := hagr hlast
  rw [Agrees, hclaimed] at hag
  exact ⟨hclaimed, hlast, hag.2⟩

theorem Change.keeps_execution {T T' : ExecutionTables Uuid} (hc : Change T T') {e : Uuid}
    (h : (T.executions.get? e).isSome) : (T'.executions.get? e).isSome := by
  have hset : ∀ (k : Uuid) (r : ExecutionRecord Uuid),
      ((T.executions.set k r).get? e).isSome := by
    intro k r
    rw [Dict.get?_set]
    split
    · rfl
    · exact h
  cases hc with
  | same => exact h
  | requested => exact hset _ _
  | claimed => exact hset _ _
  | settled => exact hset _ _

variable [LawfulStdlib Uuid]

theorem Kept.next_fresh (h : Kept T) (hr : T.executions.get? r.execution_id = some r) :
    T.attempts.get? (deriveAttemptId r.execution_id (r.attempt_count + 1)) = none := by
  rw [Option.eq_none_iff_forall_ne_some]
  intro a ha
  obtain ⟨r', hr', hid, h1, hn⟩ := h.owned _ a ha
  obtain ⟨he, hnum⟩ := deriveAttemptId_inj hid
  rw [← he, hr] at hr'
  cases hr'
  omega

variable {attempts : Dict Uuid (ExecutionAttemptRecord Uuid)}

theorem Lineage.set_other (h : Lineage attempts r) {e : Uuid} {n : Nat} (hne : e ≠ r.execution_id) :
    Lineage (attempts.set (deriveAttemptId e n) a) r :=
  h.of_agree fun _ _ _ => Dict.get?_set_ne _ _ fun he => hne (deriveAttemptId_inj he).1

theorem Lineage.claimed (h : Lineage attempts r) (state : r.state = .requested) (worker_id : String)
    (claimed_at : Instant) :
    Lineage (attempts.set (deriveAttemptId r.execution_id (r.attempt_count + 1))
      (claimedAttempt r worker_id claimed_at)) (claimedRow r worker_id claimed_at) where
  unstarted h0 := by simp [claimedRow] at h0
  stored n h1 hn := by
    rcases Nat.lt_or_eq_of_le hn with hlt | rfl
    · have hle : n ≤ r.attempt_count := Nat.lt_succ_iff.mp hlt
      obtain ⟨a, ha, hnum, hret, hagr⟩ := h.stored n h1 hle
      refine ⟨a, ?_, hnum, fun _ => ?_, fun he => absurd he (by omega)⟩
      · rw [Dict.get?_set_ne _ _ fun he => ?_]
        · exact ha
        · have := (deriveAttemptId_inj he).2
          omega
      · -- The last attempt of a requested execution was retried too.
        rcases Nat.lt_or_eq_of_le hle with hl | he
        · exact hret hl
        · have := hagr he
          rwa [Agrees, state] at this
    · refine ⟨claimedAttempt r worker_id claimed_at, Dict.get?_set_self _ _ _, ⟨rfl, rfl, rfl, rfl⟩,
        fun hlt => absurd hlt (lt_irrefl _), fun _ => ⟨rfl, rfl⟩⟩

theorem Kept.claimed (h : Kept T) (stored : T.executions.get? r.execution_id = some r)
    (state : r.state = .requested) (worker_id : String) (claimed_at : Instant) :
    Kept ⟨T.executions.set r.execution_id (claimedRow r worker_id claimed_at),
      T.attempts.set (deriveAttemptId r.execution_id (r.attempt_count + 1))
        (claimedAttempt r worker_id claimed_at)⟩ where
  keyed e q hq := by
    rcases Dict.get?_set_cases hq with ⟨rfl, rfl⟩ | ⟨-, hq⟩
    · rfl
    · exact h.keyed e q hq
  lineage e q hq := by
    rcases Dict.get?_set_cases hq with ⟨rfl, rfl⟩ | ⟨hne, hq⟩
    · exact (h.lineage _ r stored).claimed state worker_id claimed_at
    · exact (h.lineage e q hq).set_other fun he => hne (he.trans (h.keyed e q hq))
  owned id a ha := by
    rcases Dict.get?_set_cases ha with ⟨rfl, rfl⟩ | ⟨-, ha⟩
    · exact ⟨_, Dict.get?_set_self _ _ _, rfl, Nat.le_add_left _ _, le_refl _⟩
    · obtain ⟨q, hq, hid, h1, hn⟩ := h.owned id a ha
      by_cases he : r.execution_id = a.execution_id
      · rw [← he, stored] at hq
        cases hq
        exact ⟨_, by rw [he]; exact Dict.get?_set_self _ _ _, hid, h1,
          Nat.le_succ_of_le hn⟩
      · exact ⟨q, by rw [Dict.get?_set_ne _ _ he]; exact hq, hid, h1, hn⟩

theorem Lineage.settled {r r' : ExecutionRecord Uuid} {a a' : ExecutionAttemptRecord Uuid}
    (h : Lineage attempts r) (hid : a.attempt_id = deriveAttemptId r.execution_id r.attempt_count)
    (named : attempts.get? a.attempt_id = some a) (settles : Settles r r' a a') :
    Lineage (attempts.set a.attempt_id a') r' where
  unstarted h0 := by
    rw [settles.attempt_count] at h0
    have := h.unstarted h0
    rw [settles.claimed] at this
    cases this
  stored n h1 hn := by
    rw [settles.attempt_count] at hn
    rw [settles.execution_id, settles.attempt_count, hid]
    obtain ⟨b, hb, hnum, hret, -⟩ := h.stored n h1 hn
    rcases Nat.lt_or_eq_of_le hn with hlt | rfl
    · refine ⟨b, ?_, hnum, hret, fun he => absurd he (by omega)⟩
      rw [Dict.get?_set_ne _ _ fun he => ?_]
      · exact hb
      · have := (deriveAttemptId_inj he).2
        omega
    · rw [← hid, named] at hb
      cases hb
      refine ⟨a', Dict.get?_set_self _ _ _, ?_, fun hlt => absurd hlt (lt_irrefl _),
        fun _ => settles.agrees⟩
      exact ⟨settles.attempt_id.trans hnum.attempt_id, settles.execution_id'.trans hnum.execution_id,
        settles.attempt_number.trans hnum.attempt_number, settles.previous.trans hnum.previous⟩

theorem Kept.settled (h : Kept T) {r r' : ExecutionRecord Uuid}
    {a a' : ExecutionAttemptRecord Uuid} (stored : T.executions.get? r.execution_id = some r)
    (named : T.attempts.get? a.attempt_id = some a) (settles : Settles r r' a a') :
    Kept ⟨T.executions.set r.execution_id r', T.attempts.set a.attempt_id a'⟩ where
  keyed e q hq := by
    rcases Dict.get?_set_cases hq with ⟨rfl, rfl⟩ | ⟨-, hq⟩
    · exact settles.execution_id
    · exact h.keyed e q hq
  lineage e q hq := by
    have hid := h.current_id named settles
    rcases Dict.get?_set_cases hq with ⟨rfl, rfl⟩ | ⟨hne, hq⟩
    · exact (h.lineage _ r stored).settled hid named settles
    · simp only [hid]
      exact (h.lineage e q hq).set_other fun he => hne (he.trans (h.keyed e q hq))
  owned id b hb := by
    have hrow : ∀ e, ∀ q, T.executions.get? e = some q →
        ∃ q', (T.executions.set r.execution_id r').get? e = some q' ∧
          q'.attempt_count = q.attempt_count := by
      intro e q hq
      by_cases he : r.execution_id = e
      · subst he
        rw [stored] at hq
        cases hq
        exact ⟨r', Dict.get?_set_self _ _ _, settles.attempt_count⟩
      · exact ⟨q, by rw [Dict.get?_set_ne _ _ he]; exact hq, rfl⟩
    rcases Dict.get?_set_cases hb with ⟨rfl, rfl⟩ | ⟨-, hb⟩
    · obtain ⟨q, hq, hid, h1, hn⟩ := h.owned _ a named
      obtain ⟨q', hq', hcount⟩ := hrow _ q hq
      refine ⟨q', ?_, ?_, ?_, ?_⟩
      · rw [settles.execution_id']; exact hq'
      · rw [settles.execution_id', settles.attempt_number]; exact hid
      · rw [settles.attempt_number]; exact h1
      · rw [settles.attempt_number, hcount]; exact hn
    · obtain ⟨q, hq, hid, h1, hn⟩ := h.owned id b hb
      obtain ⟨q', hq', hcount⟩ := hrow _ q hq
      exact ⟨q', hq', hid, h1, hcount ▸ hn⟩

theorem Kept.change (h : Kept T) (hc : Change T T') : Kept T' := by
  cases hc with
  | same => exact h
  | requested r fresh state count => exact h.requested fresh state count
  | claimed r worker_id claimed_at stored state => exact h.claimed stored state worker_id claimed_at
  | settled r r' a a' stored named settles => exact h.settled stored named settles

/-! ## What a change leaves alone -/

theorem Kept.attempt_stays (h : Kept T) (hc : Change T T') (ha : T.attempts.get? id = some a)
    (hdone : a.state ≠ .running) : T'.attempts.get? id = some a := by
  cases hc with
  | same => exact ha
  | requested => exact ha
  | claimed r worker_id claimed_at stored =>
    refine (Dict.get?_set_ne _ _ fun he => ?_).trans ha
    rw [← he, h.next_fresh stored] at ha
    cases ha
  | settled r r' b b' stored named settles =>
    refine (Dict.get?_set_ne _ _ fun he => ?_).trans ha
    rw [← he, named] at ha
    cases ha
    exact hdone settles.running

theorem Kept.attempts_stay (h : Kept T) (hc : Change T T')
    (hr : T.executions.get? a.execution_id = some r) (hterminal : r.state.terminal = true) :
    T'.attempts.get? id = some a ↔ T.attempts.get? id = some a := by
  have hstate : r.state ≠ .claimed := by
    intro hs
    rw [hs] at hterminal
    cases hterminal
  constructor
  · intro ha
    cases hc with
    | same => exact ha
    | requested => exact ha
    | claimed q worker_id claimed_at stored state =>
      rcases Dict.get?_set_cases ha with ⟨-, rfl⟩ | ⟨-, ha⟩
      · have hrq : some q = some r := stored.symm.trans hr
        cases hrq
        rw [state] at hterminal
        cases hterminal
      · exact ha
    | settled q q' b b' stored named settles =>
      rcases Dict.get?_set_cases ha with ⟨-, rfl⟩ | ⟨-, ha⟩
      · rw [settles.execution_id', settles.mine, stored] at hr
        cases hr
        exact absurd settles.claimed hstate
      · exact ha
  · intro ha
    exact h.attempt_stays hc ha fun hrun => hstate (h.running_row ha hr hrun).1

end

end operious.execution_runtime
