-- Workers that share the row of one circuit. Each of their calls reads the row and later writes it whole,
-- so a write may be of a row that is no longer there.
import Operious.Lib.Runs
import Operious.Runtime.ProviderCircuitBreaker

namespace operious.provider_circuit

open awaits runs ProviderCircuitBreaker

variable {Uuid : Type}

/-! ## The calls of the workers -/

inductive WorkerCall
  | before_request (now : Instant)
  | record_success (now : Instant)
  | record_http_status (self : ProviderCircuitBreaker) (status_code : Int)
      (retry_after : Option String) (now : Instant)
  | record_transient_failure (self : ProviderCircuitBreaker) (reason : String) (now : Instant)

section

variable (tenant_id provider_name : String) [Stdlib Uuid] [MailDates]

def WorkerCall.coroutine : WorkerCall → Coroutine Uuid (ProviderCircuitSnapshot Uuid)
  | before_request now => ProviderCircuitBreaker.before_request tenant_id provider_name now
  | record_success now => ProviderCircuitBreaker.record_success tenant_id provider_name now
  | record_http_status self status_code retry_after now =>
    self.record_http_status tenant_id provider_name now status_code retry_after
  | record_transient_failure self reason now =>
    self.record_transient_failure tenant_id provider_name now reason

end

def WorkerCall.isRequest : WorkerCall → Bool
  | before_request _ => true
  | _ => false

/-! ## Their runs -/

/-- A call in flight, what is left of it, and what it has last read of the row, or written. -/
structure Worker (Uuid : Type) where
  call : WorkerCall
  task : Task (Call Uuid) Call.Answer (Except BreakerException (ProviderCircuitSnapshot Uuid))
  read : Option (ProviderCircuitSnapshot Uuid)

/-- The two counts of a row, zero before there is a row. -/
structure Counts where
  consecutive_failures : Nat
  retry_count : Nat
  deriving DecidableEq

def counts : Option (ProviderCircuitSnapshot Uuid) → Counts
  | none => ⟨0, 0⟩
  | some s => ⟨s.consecutive_failures, s.retry_count⟩

/-- What a write that had read `read` and writes `written` makes of a count that stands at `count`: an
increment is one here too, and any other number replaces it. -/
def advance (read written count : Nat) : Nat :=
  if written = read + 1 then count + 1 else if written = read then count else written

def Counts.advance (read written count : Counts) : Counts :=
  ⟨provider_circuit.advance read.consecutive_failures written.consecutive_failures
      count.consecutive_failures,
    provider_circuit.advance read.retry_count written.retry_count count.retry_count⟩

/-- The shared rows and the calls in flight. Of the run so far it is kept how many trials were admitted
since the circuit last became half open, and the counts as they are when no increment is lost. -/
structure Workers (Uuid : Type) where
  memory : Memory Uuid
  workers : Nat → Option (Worker Uuid)
  trials : Nat
  tally : Counts

def Workers.new : Workers Uuid := ⟨Dict.empty, fun _ => none, 0, ⟨0, 0⟩⟩

inductive WorkerAction
  | start (i : Nat) (call : WorkerCall)
  | resume (i : Nat)

def isHalfOpen (row : Option (ProviderCircuitSnapshot Uuid)) : Bool :=
  row.any fun s => s.state = .halfOpen

def admitsTrial (call : WorkerCall) :
    Task (Call Uuid) Call.Answer (Except BreakerException (ProviderCircuitSnapshot Uuid)) → Bool
  | .done (.ok s) => call.isRequest && s.state = .halfOpen
  | _ => false

/-- What a call has last read or written once it was answered. -/
def readAfter : (c : Call Uuid) → c.Answer → Option (ProviderCircuitSnapshot Uuid)
  | .load _ _, r => r
  | .save s, _ => some s

/-- The counts after a call of a worker that had read `read`. -/
def tallyAfter (read : Option (ProviderCircuitSnapshot Uuid)) (tally : Counts) : Call Uuid → Counts
  | .load _ _ => tally
  | .save s => (counts read).advance (counts (some s)) tally

section

variable (tenant_id provider_name : String)

def Workers.row (p : Workers Uuid) : Option (ProviderCircuitSnapshot Uuid) :=
  p.memory.get? (tenant_id, provider_name)

/-- What the answer to a call of worker `i` makes of the run. -/
def Workers.answered (p : Workers Uuid) (i : Nat) (call : WorkerCall)
    (read : Option (ProviderCircuitSnapshot Uuid)) (c : Call Uuid)
    (k : c.Answer → Task (Call Uuid) Call.Answer
      (Except BreakerException (ProviderCircuitSnapshot Uuid))) : Workers Uuid :=
  let (r, memory) := perform c p.memory
  let entered := isHalfOpen (memory.get? (tenant_id, provider_name)) &&
    !isHalfOpen (p.memory.get? (tenant_id, provider_name))
  { memory := memory
    workers := Function.update p.workers i (some ⟨call, k r, readAfter c r⟩)
    trials := (if entered then 0 else p.trials) + (if admitsTrial call (k r) then 1 else 0)
    tally := tallyAfter read p.tally c }

variable [Stdlib Uuid] [MailDates]

def Workers.next (p : Workers Uuid) : WorkerAction → Option (Workers Uuid)
  | .start i call =>
    match p.workers i with
    | none =>
      some { p with
        workers := Function.update p.workers i
          (some ⟨call, (call.coroutine tenant_id provider_name).run, none⟩) }
    | some _ => none
  | .resume i =>
    match p.workers i with
    | some ⟨call, .await c k, read⟩ => some (p.answered tenant_id provider_name i call read c k)
    | _ => none

/-- At most one trial of the half open circuit, and every increment is in the row. -/
structure Workers.Sound (p : Workers Uuid) : Prop where
  one_trial : p.trials ≤ 1
  counted : counts (p.row tenant_id provider_name) = p.tally

/-- What decides about admission, and the counts. -/
def decisive (s : ProviderCircuitSnapshot Uuid) :
    ProviderCircuitState × Option Instant × Nat × Nat :=
  (s.state, s.half_open_trial_started_at, s.consecutive_failures, s.retry_count)

/-- A worker that writes the row finds it as it has last read or written it. -/
def Workers.writesWhatItRead (p : Workers Uuid) : WorkerAction → Bool
  | .start _ _ => true
  | .resume i =>
    match p.workers i with
    | some ⟨_, .await (.save _) _, read⟩ =>
      (p.row tenant_id provider_name).map decisive = read.map decisive
    | _ => true

end

/-! ## What each call writes -/

section

variable (tenant_id provider_name : String)

/-- A write of a call that had read `read`: a half open circuit is entered without a trial, and a trial of
one is kept or is its first. -/
structure Written (read : Option (ProviderCircuitSnapshot Uuid))
    (s : ProviderCircuitSnapshot Uuid) : Prop where
  tenant : s.tenant_id = tenant_id
  provider : s.provider_name = provider_name
  trial : s.state = .halfOpen →
    (isHalfOpen read = false ∧ s.half_open_trial_started_at = none) ∨
      ∃ b, read = some b ∧ b.state = .halfOpen ∧
        (s.half_open_trial_started_at = b.half_open_trial_started_at ∨
          b.half_open_trial_started_at = none)

def tries (read : Option (ProviderCircuitSnapshot Uuid)) : Call Uuid → Bool
  | .load _ _ => false
  | .save s => read.any (fun b => b.state = .halfOpen ∧ b.half_open_trial_started_at = none) &&
      s.state = .halfOpen && s.half_open_trial_started_at.isSome

/-- What a call may do after `read`. -/
def May (at_ : Option (ProviderCircuitSnapshot Uuid) × Bool) : Call Uuid → Prop
  | .load tenant provider => tenant = tenant_id ∧ provider = provider_name
  | .save s => Written tenant_id provider_name at_.1 s

/-- A row is filed under its own key. -/
def Fits (_ : Option (ProviderCircuitSnapshot Uuid) × Bool) : (c : Call Uuid) → c.Answer → Prop
  | .load _ _, r => ∀ s, r = some s → s.tenant_id = tenant_id ∧ s.provider_name = provider_name
  | .save _, _ => True

end

/-- What the call has read or written, and whether its last step was a first trial. -/
def Moved (at_ : Option (ProviderCircuitSnapshot Uuid) × Bool) (c : Call Uuid) (r : c.Answer) :
    Option (ProviderCircuitSnapshot Uuid) × Bool :=
  (readAfter c r, tries at_.1 c)

variable {s : ProviderCircuitSnapshot Uuid}

section

variable {tenant_id provider_name : String} {now : Instant} {α : Type}
  {at_ : Option (ProviderCircuitSnapshot Uuid) × Bool}

variable (tenant_id provider_name) in
/-- The calls of a coroutine that has read what `at_` says, with `Q` for what it returns. -/
abbrev Keeps (Q : α → Option (ProviderCircuitSnapshot Uuid) × Bool → Prop) (x : Coroutine Uuid α)
    (at_ : Option (ProviderCircuitSnapshot Uuid) × Bool) : Prop :=
  Makes (May tenant_id provider_name) (Fits tenant_id provider_name) Moved Q x at_

variable (tenant_id provider_name) in
/-- The snapshot is what the call has last read or written. -/
structure Reads (a : ProviderCircuitSnapshot Uuid)
    (at_ : Option (ProviderCircuitSnapshot Uuid) × Bool) : Prop where
  read : at_.1 = some a
  tenant : a.tenant_id = tenant_id
  provider : a.provider_name = provider_name

theorem keeps_save
    {Q : ProviderCircuitSnapshot Uuid → Option (ProviderCircuitSnapshot Uuid) × Bool → Prop}
    (h : Written tenant_id provider_name at_.1 s) (hQ : Q s (some s, tries at_.1 (.save s))) :
    Keeps tenant_id provider_name Q (save s) at_ := by
  unfold save
  apply Makes.bind
  refine Makes.call (Call.save s) h fun _ _ => ?_
  exact Makes.pure hQ

theorem keeps_load {Q : Option (ProviderCircuitSnapshot Uuid) →
      Option (ProviderCircuitSnapshot Uuid) × Bool → Prop}
    (hQ : ∀ r : Option (ProviderCircuitSnapshot Uuid),
      (∀ s, r = some s → s.tenant_id = tenant_id ∧ s.provider_name = provider_name) →
        Q r (r, false)) : Keeps tenant_id provider_name Q (load tenant_id provider_name) at_ := by
  have hmay : May tenant_id provider_name at_ (.load tenant_id provider_name) := ⟨rfl, rfl⟩
  exact Makes.call (Call.load tenant_id provider_name) hmay hQ

variable [Stdlib Uuid]

theorem keeps_get_state :
    Keeps tenant_id provider_name (Reads tenant_id provider_name)
      (get_state tenant_id provider_name now) at_ := by
  unfold get_state
  apply Makes.bind
  refine Makes.compute fun _ _ => Makes.bind ?_
  refine keeps_load fun r hr => ?_
  cases r with
  | some existing =>
    obtain ⟨ht, hp⟩ := hr existing rfl
    exact Makes.pure (Reads.mk rfl ht hp)
  | none =>
    refine keeps_save ⟨rfl, rfl, fun h => ?_⟩ ⟨rfl, rfl, rfl⟩
    cases h

variable {state : ProviderCircuitState}

variable {changes : Changes}

omit [Stdlib Uuid] in
theorem keeps_transition (h : Reads tenant_id provider_name s at_)
    (htrial : state = .halfOpen →
      (s.state ≠ .halfOpen ∧ changes.half_open_trial_started_at = some none) ∨
        (s.state = .halfOpen ∧ s.half_open_trial_started_at = none)) :
    Keeps tenant_id provider_name
      (fun a u => Reads tenant_id provider_name a u ∧ a.state = state ∧
        (s.state = .halfOpen → s.half_open_trial_started_at = none → state = .halfOpen →
          (∃ t, changes.half_open_trial_started_at = some (some t)) → u.2 = true))
      (transition s state now changes) at_ := by
  unfold transition
  refine keeps_save ⟨h.tenant, h.provider, fun hstate => ?_⟩
    ⟨⟨rfl, h.tenant, h.provider⟩, rfl, ?_⟩
  · rcases htrial hstate with ⟨hne, hchanges⟩ | ⟨hhalf, hnone⟩
    · refine Or.inl ⟨?_, ?_⟩
      · rw [h.read]
        simpa [isHalfOpen] using hne
      · unfold replace
        rw [hchanges]
        rfl
    · exact Or.inr ⟨s, h.read, hhalf, Or.inr hnone⟩
  · rintro hhalf hnone rfl ⟨t, hchanges⟩
    unfold tries
    rw [h.read]
    simp [hhalf, hnone, replace, hchanges]

omit [Stdlib Uuid] in
theorem keeps_close (h : Reads tenant_id provider_name s at_) (hstate : state ≠ .halfOpen) :
    Keeps tenant_id provider_name (fun _ _ => True) (transition s state now changes) at_ :=
  Makes.weaken (keeps_transition h fun hhalf => absurd hhalf hstate) fun _ _ _ => trivial

theorem keeps_record_success :
    Keeps tenant_id provider_name (fun _ _ => True)
      (record_success tenant_id provider_name now) at_ := by
  unfold record_success
  apply Makes.bind
  exact Makes.weaken keeps_get_state fun a u h => keeps_close h (by simp)

variable {self : ProviderCircuitBreaker}

variable {reason : String}

variable {metadata : Metadata}

theorem keeps_open_circuit {open_until : Option Instant} :
    Keeps tenant_id provider_name (fun _ _ => True)
      (self.open_circuit tenant_id provider_name now reason open_until metadata) at_ := by
  unfold open_circuit
  apply Makes.bind
  refine Makes.weaken keeps_get_state fun a u h => Makes.bind ?_
  exact Makes.compute fun _ _ => keeps_close h (by simp)

theorem keeps_record_failure {opens : Bool} :
    Keeps tenant_id provider_name (fun _ _ => True)
      (self.record_failure tenant_id provider_name now reason opens metadata) at_ := by
  unfold record_failure
  apply Makes.bind
  refine Makes.weaken keeps_get_state fun a u h => ?_
  dsimp only
  split
  · apply Makes.bind
    exact Makes.compute fun _ _ => keeps_open_circuit
  · exact keeps_close h (by simp)

theorem keeps_consume_retry_budget :
    Keeps tenant_id provider_name (fun _ _ => True)
      (self.consume_retry_budget tenant_id provider_name now) at_ := by
  unfold consume_retry_budget
  apply Makes.bind
  refine Makes.weaken keeps_get_state fun a u h => Makes.bind ?_
  refine Makes.compute ?_
  rintro ⟨window_start, retries⟩ -
  dsimp only
  apply Makes.bind
  refine keeps_save ⟨h.tenant, h.provider, fun hhalf => ?_⟩ ?_
  · exact Or.inr ⟨a, h.read, hhalf, Or.inl rfl⟩
  · split
    · apply Makes.bind
      exact Makes.compute fun _ _ => keeps_open_circuit
    · exact Makes.pure trivial

theorem keeps_record_transient_failure :
    Keeps tenant_id provider_name (fun _ _ => True)
      (self.record_transient_failure tenant_id provider_name now reason) at_ := by
  unfold record_transient_failure
  apply Makes.bind
  exact Makes.weaken keeps_consume_retry_budget fun _ _ _ => keeps_record_failure

theorem keeps_record_http_status [MailDates] {status_code : Int} {retry_after : Option String} :
    Keeps tenant_id provider_name (fun _ _ => True)
      (self.record_http_status tenant_id provider_name now status_code retry_after) at_ := by
  unfold record_http_status
  split
  · apply Makes.bind
    exact Makes.compute fun _ _ => keeps_open_circuit
  split
  · exact keeps_record_failure
  split
  · exact keeps_record_failure
  · exact Makes.weaken keeps_get_state fun _ _ _ => trivial

omit [Stdlib Uuid] in
theorem keeps_cool_down (h : Reads tenant_id provider_name s at_) :
    Keeps tenant_id provider_name (Reads tenant_id provider_name)
      (cool_down tenant_id provider_name now s) at_ := by
  unfold cool_down
  split
  · rename_i hopen
    split
    · refine Makes.weaken (keeps_transition h fun _ => Or.inl ⟨by rw [hopen]; simp, rfl⟩) ?_
      exact fun _ _ h' => h'.1
    · exact Makes.throw
  · exact Makes.pure h

theorem keeps_before_request :
    Keeps tenant_id provider_name (fun a u => a.state = .halfOpen → u.2 = true)
      (before_request tenant_id provider_name now) at_ := by
  unfold before_request
  apply Makes.bind
  refine Makes.weaken keeps_get_state fun a u h => Makes.bind ?_
  refine Makes.weaken (keeps_cool_down h) fun s u hs => ?_
  unfold start_trial
  split
  · rename_i hhalf
    split
    · exact Makes.throw
    · rename_i htrial
      have hnone : s.half_open_trial_started_at = none := not_not.mp htrial
      refine Makes.weaken (keeps_transition hs fun _ => Or.inr ⟨hhalf, hnone⟩) ?_
      rintro a u ⟨-, -, htried⟩ -
      exact htried hhalf hnone rfl ⟨now, rfl⟩
  · rename_i hhalf
    exact Makes.pure fun h => absurd h hhalf

end

/-! ## Every run -/

section

variable (tenant_id provider_name : String)

/-- What is left of a call, from what it has read on: a request that returns admitted from a half open
circuit returns from its first trial. -/
def InHand (call : WorkerCall)
    (task : Task (Call Uuid) Call.Answer (Except BreakerException (ProviderCircuitSnapshot Uuid)))
    (at_ : Option (ProviderCircuitSnapshot Uuid) × Bool) : Prop :=
  Does (May tenant_id provider_name) (Fits tenant_id provider_name) Moved
    (fun r u => call.isRequest = true → ∀ s, r = .ok s → s.state = .halfOpen → u.2 = true) task at_

structure Workers.Good (p : Workers Uuid) : Prop where
  filed : ∀ s, p.row tenant_id provider_name = some s →
    s.tenant_id = tenant_id ∧ s.provider_name = provider_name
  inHand : ∀ i call task read, p.workers i = some ⟨call, task, read⟩ →
    ∃ tried, InHand tenant_id provider_name call task (read, tried)
  untried : ∀ s, p.row tenant_id provider_name = some s → s.state = .halfOpen →
    s.half_open_trial_started_at = none → p.trials = 0
  sound : p.Sound tenant_id provider_name

end

section

variable {tenant_id provider_name : String} {p q : Workers Uuid} {call : WorkerCall}

theorem good_new : (Workers.new : Workers Uuid).Good tenant_id provider_name where
  filed _ hs := nomatch hs
  inHand _ _ _ _ h := nomatch h
  untried _ hs := nomatch hs
  sound := ⟨Nat.zero_le _, rfl⟩

variable {c : Call Uuid}

theorem tries_of_admitsTrial {r : c.Answer}
    {task : Task (Call Uuid) Call.Answer (Except BreakerException (ProviderCircuitSnapshot Uuid))}
    {at_ : Option (ProviderCircuitSnapshot Uuid) × Bool}
    (h : InHand tenant_id provider_name call task (Moved at_ c r))
    (hadmits : admitsTrial call task = true) : tries at_.1 c = true := by
  unfold admitsTrial at hadmits
  split at hadmits
  · rename_i s
    simp only [Bool.and_eq_true, decide_eq_true_eq] at hadmits
    exact h hadmits.1 s rfl hadmits.2
  · cases hadmits

variable [Stdlib Uuid] [MailDates]

theorem inHand_start (call : WorkerCall) :
    InHand tenant_id provider_name call (call.coroutine tenant_id provider_name).run
      ((none, false) : Option (ProviderCircuitSnapshot Uuid) × Bool) := by
  have hquiet {x : Coroutine Uuid (ProviderCircuitSnapshot Uuid)} (hcall : call.isRequest = false)
      (h : Keeps tenant_id provider_name (fun _ _ => True) x (none, false)) :
      InHand tenant_id provider_name call x.run (none, false) := by
    refine Does.weaken (makes_iff.mp h) fun r u _ hrequest => ?_
    rw [hcall] at hrequest
    cases hrequest
  cases call with
  | before_request now =>
    exact Does.weaken (makes_iff.mp keeps_before_request) fun r u h _ s hs hhalf => h s hs hhalf
  | record_success now => exact hquiet rfl keeps_record_success
  | record_http_status self status_code retry_after now => exact hquiet rfl keeps_record_http_status
  | record_transient_failure self reason now => exact hquiet rfl keeps_record_transient_failure

variable {read : Option (ProviderCircuitSnapshot Uuid)}

variable {tried : Bool} {i : Nat}

section

omit [Stdlib Uuid] [MailDates]

theorem good_workers (h : p.Good tenant_id provider_name)
    {k : c.Answer → Task (Call Uuid) Call.Answer
      (Except BreakerException (ProviderCircuitSnapshot Uuid))}
    (hk : InHand tenant_id provider_name call (k (perform c p.memory).1)
      (Moved (read, tried) c (perform c p.memory).1)) :
    ∀ j call' task read', (p.answered tenant_id provider_name i call read c k).workers j =
        some ⟨call', task, read'⟩ →
      ∃ tried, InHand tenant_id provider_name call' task (read', tried) := by
  intro j call' task read' hj
  rcases of_update_eq_some hj with ⟨-, heq⟩ | ⟨-, hj⟩
  · cases heq
    exact ⟨_, hk⟩
  · exact h.inHand j call' task read' hj

theorem good_load (h : p.Good tenant_id provider_name)
    {k : Option (ProviderCircuitSnapshot Uuid) → Task (Call Uuid) Call.Answer
      (Except BreakerException (ProviderCircuitSnapshot Uuid))}
    (hinHand : InHand tenant_id provider_name call (.await (.load tenant_id provider_name) k)
      (read, tried)) :
    (p.answered tenant_id provider_name i call read (.load tenant_id provider_name) k).Good
      tenant_id provider_name := by
  have hk : InHand tenant_id provider_name call (k (p.row tenant_id provider_name))
      (Moved (read, tried) (.load tenant_id provider_name) (p.row tenant_id provider_name)) :=
    hinHand.2 (p.row tenant_id provider_name) h.filed
  have hnot : admitsTrial call (k (p.row tenant_id provider_name)) = false := by
    by_contra hne
    have htries := tries_of_admitsTrial hk (by simpa using hne)
    cases htries
  have htrials : (p.answered tenant_id provider_name i call read
      (.load tenant_id provider_name) k).trials = p.trials := by
    unfold Workers.answered perform
    dsimp only
    rw [show p.memory.get? (tenant_id, provider_name) = p.row tenant_id provider_name from rfl,
      hnot]
    simp
  refine ⟨h.filed, good_workers h hk, ?_, ?_⟩
  · intro s hs hhalf hnone
    rw [htrials]
    exact h.untried s hs hhalf hnone
  · refine ⟨?_, h.sound.counted⟩
    rw [htrials]
    exact h.sound.one_trial

theorem counts_advance_self (read written : Counts) : read.advance written read = written := by
  have hadvance (m n : Nat) : advance m n m = n := by
    unfold advance
    split
    · omega
    split
    · omega
    · rfl
  unfold Counts.advance
  rw [hadvance, hadvance]

theorem counts_of_decisive {a b : Option (ProviderCircuitSnapshot Uuid)}
    (h : a.map decisive = b.map decisive) : counts a = counts b := by
  cases a with
  | none =>
    cases b with
    | none => rfl
    | some b => cases h
  | some a =>
    cases b with
    | none => cases h
    | some b =>
      simp only [Option.map_some, Option.some.injEq, decisive, Prod.mk.injEq] at h
      obtain ⟨-, -, hfailures, hretries⟩ := h
      simp [counts, hfailures, hretries]

theorem isHalfOpen_of_decisive {a b : Option (ProviderCircuitSnapshot Uuid)}
    (h : a.map decisive = b.map decisive) : isHalfOpen a = isHalfOpen b := by
  cases a with
  | none =>
    cases b with
    | none => rfl
    | some b => cases h
  | some a =>
    cases b with
    | none => cases h
    | some b =>
      simp only [Option.map_some, Option.some.injEq, decisive, Prod.mk.injEq] at h
      simp [isHalfOpen, h.1]

theorem row_of_read {row : Option (ProviderCircuitSnapshot Uuid)} {b : ProviderCircuitSnapshot Uuid}
    (h : row.map decisive = (some b).map decisive) : ∃ s, row = some s ∧ s.state = b.state ∧
      s.half_open_trial_started_at = b.half_open_trial_started_at := by
  cases row with
  | none => cases h
  | some s =>
    simp only [Option.map_some, Option.some.injEq, decisive, Prod.mk.injEq] at h
    exact ⟨s, rfl, h.1, h.2.1⟩

theorem good_save (h : p.Good tenant_id provider_name)
    {k : Unit → Task (Call Uuid) Call.Answer
      (Except BreakerException (ProviderCircuitSnapshot Uuid))}
    (hinHand : InHand tenant_id provider_name call (.await (.save s) k) (read, tried))
    (hread : (p.row tenant_id provider_name).map decisive = read.map decisive) :
    (p.answered tenant_id provider_name i call read (.save s) k).Good
      tenant_id provider_name := by
  have hwritten : Written tenant_id provider_name read s := hinHand.1
  have hk : InHand tenant_id provider_name call (k ()) (Moved (read, tried) (.save s) ()) :=
    hinHand.2 () trivial
  have hrow : (p.answered tenant_id provider_name i call read (.save s) k).row
      tenant_id provider_name = some s := by
    unfold Workers.answered Workers.row perform
    dsimp only
    rw [hwritten.tenant, hwritten.provider, Dict.get?_set_self]
  have htrials : (p.answered tenant_id provider_name i call read (.save s) k).trials =
      (if decide (s.state = .halfOpen) && !isHalfOpen (p.row tenant_id provider_name) then 0
        else p.trials) + (if admitsTrial call (k ()) then 1 else 0) := by
    have hget : (perform (.save s) p.memory).2.get? (tenant_id, provider_name) = some s := hrow
    unfold Workers.answered
    dsimp only
    rw [hget]
    rfl
  have hhalf := isHalfOpen_of_decisive hread
  refine ⟨?_, good_workers h hk, ?_, ?_, ?_⟩
  · intro s' hs'
    rw [hrow] at hs'
    cases hs'
    exact ⟨hwritten.tenant, hwritten.provider⟩
  · -- a half open circuit without a trial was entered just now, or has not had one
    intro s' hs' hstate hnone
    rw [hrow] at hs'
    cases hs'
    have hnot : admitsTrial call (k ()) = false := by
      by_contra hne
      have htries := tries_of_admitsTrial hk (by simpa using hne)
      simp [tries, hnone] at htries
    rw [htrials, hnot]
    rcases hwritten.trial hstate with ⟨hread', -⟩ | ⟨b, rfl, hb, htrial⟩
    · rw [hhalf, hread', hstate]
      rfl
    · obtain ⟨row, hprow, hrowstate, hrowtrial⟩ := row_of_read hread
      have hzero : p.trials = 0 := by
        refine h.untried row hprow (hrowstate.trans hb) ?_
        rw [hrowtrial]
        rcases htrial with htrial | htrial
        · rw [← htrial]
          exact hnone
        · exact htrial
      rw [hzero]
      simp
  · rw [htrials]
    cases hadmits : admitsTrial call (k ()) with
    | false =>
      have hone := h.sound.one_trial
      split
      · simp
      · simpa using hone
    | true =>
      -- the circuit was half open and had not had a trial
      have htries := tries_of_admitsTrial hk hadmits
      simp only [tries, Bool.and_eq_true, decide_eq_true_eq] at htries
      obtain ⟨⟨hany, -⟩, -⟩ := htries
      obtain ⟨b, rfl, hb⟩ := (Option.any_eq_true _ _).mp hany
      obtain ⟨hb, hbnone⟩ := of_decide_eq_true hb
      obtain ⟨row, hprow, hrowstate, hrowtrial⟩ := row_of_read hread
      have hzero := h.untried row hprow (hrowstate.trans hb) (hrowtrial.trans hbnone)
      rw [hzero]
      simp
  · rw [hrow]
    change counts (some s) = (counts read).advance (counts (some s)) p.tally
    rw [← h.sound.counted, counts_of_decisive hread, counts_advance_self]

end

/-- In every run in which each write finds the row as its call has read it, the half open circuit admits at
most one trial and no increment is lost. -/
theorem one_trial_and_no_lost_increment {run : List WorkerAction}
    (h : Meets (Workers.next tenant_id provider_name)
      (fun p a => p.writesWhatItRead tenant_id provider_name a = true)
      (Workers.new : Workers Uuid) run) :
    Along (Workers.next tenant_id provider_name) (fun _ _ q => q.Sound tenant_id provider_name)
      (Workers.new : Workers Uuid) run := by
  refine along_when (I := Workers.Good tenant_id provider_name) ?_ good_new h
  intro p a q hgood hwrites hnext
  suffices hq : q.Good tenant_id provider_name from ⟨hq, hq.sound⟩
  cases a with
  | start i call =>
    simp only [Workers.next] at hnext
    split at hnext
    swap
    · cases hnext
    cases hnext
    refine ⟨hgood.filed, ?_, hgood.untried, ⟨hgood.sound.one_trial, hgood.sound.counted⟩⟩
    intro j call' task read hj
    rcases of_update_eq_some hj with ⟨-, heq⟩ | ⟨-, hj⟩
    · cases heq
      exact ⟨false, inHand_start call⟩
    · exact hgood.inHand j call' task read hj
  | resume i =>
    simp only [Workers.next] at hnext
    split at hnext
    swap
    · cases hnext
    rename_i call c k read hworker
    cases hnext
    obtain ⟨tried, hinHand⟩ := hgood.inHand i call _ read hworker
    cases c with
    | load tenant provider =>
      obtain ⟨rfl, rfl⟩ : tenant = tenant_id ∧ provider = provider_name := hinHand.1
      exact good_load hgood hinHand
    | save s =>
      simp only [Workers.writesWhatItRead, hworker, decide_eq_true_eq] at hwrites
      exact good_save hgood hinHand hwrites

end

/-! ## Workers that take turns, and workers that do not -/

instance (p : Workers Uuid) : Decidable (p.Sound tenant_id provider_name) :=
  decidable_of_iff (p.trials ≤ 1 ∧ counts (p.row tenant_id provider_name) = p.tally)
    ⟨fun h => ⟨h.1, h.2⟩, fun h => ⟨h.one_trial, h.counted⟩⟩

/-- A failure of a worker, with all its reads and writes. -/
def failureOf (i : Nat) : List WorkerAction :=
  [.start i (.record_http_status .default 503 none 1), .resume i, .resume i]

theorem a_failure_after_the_other_counts :
    Along (Workers.next "acme" "anthropic") (fun _ _ q => q.Sound "acme" "anthropic")
      (Workers.new : Workers String)
      ([.start 0 (.record_success 0), .resume 0, .resume 0, .resume 0] ++ failureOf 1 ++
        failureOf 2) :=
  one_trial_and_no_lost_increment (by decide +kernel)

/-- The circuit has opened for five seconds, and two workers read that these are over. -/
def twoTrials : List WorkerAction :=
  [.start 0 (.record_http_status .default 429 (some "5") 0), .resume 0, .resume 0, .resume 0,
    .start 1 (.before_request 6000000), .start 2 (.before_request 6000001), .resume 1, .resume 2,
    .resume 1, .resume 1, .resume 2, .resume 2]

/-- Two workers read a row without failures, and each writes its own as the first. -/
def twoFailures : List WorkerAction :=
  [.start 0 (.record_success 0), .resume 0, .resume 0, .resume 0,
    .start 1 (.record_http_status .default 503 none 1),
    .start 2 (.record_http_status .default 503 none 2), .resume 1, .resume 2, .resume 1, .resume 2]

theorem two_trials_and_a_lost_failure :
    (¬ ∀ run, Along (Workers.next "acme" "anthropic") (fun _ _ q => q.trials ≤ 1)
        (Workers.new : Workers String) run) ∧
      ¬ ∀ run, Along (Workers.next "acme" "anthropic")
        (fun _ _ q => counts (q.row "acme" "anthropic") = q.tally)
        (Workers.new : Workers String) run := by
  constructor
  · intro h
    exact absurd (h twoTrials) (by decide +kernel)
  · intro h
    exact absurd (h twoFailures) (by decide +kernel)

end operious.provider_circuit
