-- A call of a runtime that runs alone: what it returns and the store it leaves, by what its copy of the
-- session and the store are like when it starts.
import Operious.Session.Copies

namespace operious.session

open awaits InMemorySessionPersistence

variable {Uuid : Type} [DecidableEq Uuid] [Stdlib Uuid] {α β : Type}

/-! ## Coroutines that run alone -/

/-- What a coroutine returns or raises, and the world after it. -/
def exec (x : Coroutine Uuid α) (w : World Uuid) : Except SessionException α × World Uuid :=
  run perform x.run w

section

variable {x : Coroutine Uuid α} {w w' : World Uuid} {a : α} {e : SessionException}

@[simp] theorem exec_pure (a : α) (w : World Uuid) :
    exec (pure a : Coroutine Uuid α) w = (.ok a, w) := rfl

@[simp] theorem exec_throw (e : SessionException) (w : World Uuid) :
    exec (throw e : Coroutine Uuid α) w = (.error e, w) := rfl

@[simp] theorem exec_compute (r : Except SessionException α) (w : World Uuid) :
    exec (compute r) w = (r, w) := rfl

@[simp] theorem exec_await (c : Call Uuid) (w : World Uuid) : exec (await c) w = perform c w := rfl

theorem exec_bind_ok (h : exec x w = (.ok a, w')) (f : α → Coroutine Uuid β) :
    exec (x >>= f) w = exec (f a) w' := by
  unfold exec at h ⊢
  rw [ExceptT.run_bind, run_bind, h]

theorem exec_bind_error (h : exec x w = (.error e, w')) (f : α → Coroutine Uuid β) :
    exec (x >>= f) w = (.error e, w') := by
  unfold exec at h ⊢
  rw [ExceptT.run_bind, run_bind, h]
  rfl

theorem exec_tryCatch_ok (h : exec x w = (.ok a, w'))
    (handler : SessionException → Coroutine Uuid α) :
    exec (tryCatch x handler) w = (.ok a, w') := by
  unfold exec at h ⊢
  change run perform (x.run >>= _) w = _
  rw [run_bind, h]
  rfl

theorem exec_tryCatch_error (h : exec x w = (.error e, w'))
    (handler : SessionException → Coroutine Uuid α) :
    exec (tryCatch x handler) w = exec (handler e) w' := by
  unfold exec at h ⊢
  change run perform (x.run >>= _) w = _
  rw [run_bind, h]
  rfl

theorem exec_swallow (x : Coroutine Uuid Unit) (w : World Uuid) :
    exec (swallow x) w = (.ok (), (exec x w).2) := by
  unfold swallow
  rcases hx : exec x w with ⟨r, w'⟩
  cases r with
  | ok a => rw [exec_tryCatch_ok hx]
  | error e => rw [exec_tryCatch_error hx, exec_pure]

theorem exec_compute_bind_ok (a : α) (f : α → Coroutine Uuid β) (w : World Uuid) :
    exec (compute (.ok a) >>= f) w = exec (f a) w := exec_bind_ok rfl f

theorem exec_compute_bind_error (e : SessionException) (f : α → Coroutine Uuid β)
    (w : World Uuid) : exec (compute (.error e) >>= f) w = (.error e, w) := exec_bind_error rfl f

end

/-! ## The calls that add an event to a session -/

inductive UpdateCall (Uuid : Type)
  | append_event (request : AppendEventRequest Uuid)
  | record_lifecycle (request : RecordLifecycleRequest Uuid)
  | record_context (request : RecordContextRequest Uuid)
  | record_correlation (request : RecordCorrelationRequest Uuid)

/-- What a call writes: its event, the session after it, and its correlation. -/
structure Proposal (Uuid : Type) where
  event : SessionTimelineEvent Uuid
  updated : OperationalSession Uuid
  correlation : Option (SessionCorrelation Uuid)

namespace UpdateCall

def session_id : UpdateCall Uuid → Uuid
  | append_event request => request.session_id
  | record_lifecycle request => request.session_id
  | record_context request => request.session_id
  | record_correlation request => request.session_id

def key : UpdateCall Uuid → Option String
  | append_event request => request.idempotency_key
  | _ => none

def on (runtime : SessionRuntime) (started_at : Instant) : UpdateCall Uuid → RuntimeCall Uuid
  | append_event request => .append_event runtime request started_at
  | record_lifecycle request => .record_lifecycle runtime request started_at
  | record_context request => .record_context runtime request started_at
  | record_correlation request => .record_correlation runtime request started_at

/-- What the call makes of the copy that its runtime has, between its reads and its writes. -/
def propose (started_at : Instant) (session : OperationalSession Uuid) :
    UpdateCall Uuid → Except SessionException (Proposal Uuid)
  | append_event request => do
    let correlation_id ← SessionRuntime.request_correlation request
    reject_terminal session
    let event ← build_next_event session request.kind request.occurred_at (.utc started_at)
      request.continuity_mode (append_payload request) request.annotation correlation_id
      request.idempotency_key
    pure ⟨event, session.advanced event.sequence, none⟩
  | record_lifecycle request =>
    let current := session.lifecycle.phase
    if is_terminal current ∧ request.phase ≠ current then
      .error (.lifecycle_error ("cannot reclassify terminal session (" ++ current.value ++ " → " ++
        request.phase.value ++ ")"))
    else do
      let recorded_at := request.recorded_at.getD (.utc started_at)
      let event ← build_next_event session (next_phase_classification current request.phase)
        recorded_at (.utc started_at) .synchronous
        (lifecycle_payload current request.phase request.reason) request.reason none none
      pure ⟨event,
        { session.advanced event.sequence with
          lifecycle := ⟨request.phase, recorded_at, request.reason⟩ }, none⟩
  | record_context request => do
    reject_terminal session
    let recorded_at := request.recorded_at.getD (.utc started_at)
    let event ← build_next_event session .context_attached recorded_at (.utc started_at)
      .synchronous (context_payload request.context) none none none
    pure ⟨event, { session.advanced event.sequence with context := some request.context }, none⟩
  | record_correlation request => do
    reject_terminal session
    let recorded_at := request.recorded_at.getD (.utc started_at)
    let correlation ← build_correlation request recorded_at
    let event ← build_next_event session .correlation_recorded recorded_at (.utc started_at)
      .synchronous (correlation_payload request) request.annotation
      (some correlation.correlation_id) none
    pure ⟨event, session.advanced event.sequence, some correlation⟩

end UpdateCall

def write_correlation : Option (SessionCorrelation Uuid) → Coroutine Uuid Unit
  | none => pure ()
  | some correlation => save_correlation (correlation_to_record correlation)

def SessionRuntime.write (self : SessionRuntime) (proposal : Proposal Uuid) :
    Coroutine Uuid (SessionResult Uuid) := do
  write_correlation proposal.correlation
  self.persist_session_update proposal.updated proposal.event
  pure ⟨proposal.updated, some proposal.event, proposal.correlation, false⟩

omit [DecidableEq Uuid] [Stdlib Uuid] in
theorem compute_bind (r : Except SessionException α) (f : α → Except SessionException β) :
    (compute (r >>= f) : Coroutine Uuid β) = compute r >>= fun a => compute (f a) := by
  cases r with
  | error e => rfl
  | ok a => rfl

omit [DecidableEq Uuid] [Stdlib Uuid] in
theorem compute_pure (a : α) (f : α → Coroutine Uuid β) : compute (pure a) >>= f = f a := rfl

def SessionRuntime.record (self : SessionRuntime) (started_at : Instant) (call : UpdateCall Uuid) :
    Coroutine Uuid (SessionResult Uuid) := do
  let session ← self.load_session call.session_id none
  let proposal ← compute (call.propose started_at session)
  self.write proposal

def SessionRuntime.append (self : SessionRuntime) (started_at : Instant)
    (request : AppendEventRequest Uuid) : Coroutine Uuid (SessionResult Uuid) := do
  let session ← self.load_session request.session_id none
  match ← SessionRuntime.find_replay request.session_id request.idempotency_key with
  | some record =>
    let event ← compute (event_record_to_model record)
    pure ⟨session, some event, none, true⟩
  | none =>
    let proposal ← compute ((UpdateCall.append_event request).propose started_at session)
    tryCatch (self.write proposal)
      (self.replay_refused request.session_id request.idempotency_key session)

omit [DecidableEq Uuid] in
theorem request_correlation_ok (request : AppendEventRequest Uuid) :
    ∃ id, SessionRuntime.request_correlation request = .ok id := by
  unfold SessionRuntime.request_correlation
  cases request.correlation_id with
  | none => exact ⟨none, rfl⟩
  | some correlation =>
    by_cases h : correlation = ""
    · exact ⟨none, if_pos h⟩
    · dsimp only
      unfold derive_correlation_id
      rw [if_neg h, if_neg (by simp [h])]
      exact ⟨_, rfl⟩

section

variable (runtime : SessionRuntime) (started_at : Instant)

theorem append_event_eq (request : AppendEventRequest Uuid) :
    runtime.append_event request started_at = runtime.append started_at request := by
  obtain ⟨correlation_id, hcorrelation⟩ := request_correlation_ok request
  unfold SessionRuntime.append_event SessionRuntime.append SessionRuntime.append_generic
  rw [hcorrelation, compute_ok_bind]
  congr 1
  funext session
  congr 1
  funext found
  cases found with
  | some record => rfl
  | none =>
    unfold UpdateCall.propose SessionRuntime.write
    simp only [hcorrelation, compute_bind, bind_assoc, compute_pure, write_correlation, pure_bind]
    rfl

theorem record_lifecycle_eq (request : RecordLifecycleRequest Uuid) :
    runtime.record_lifecycle request started_at =
      runtime.record started_at (.record_lifecycle request) := by
  unfold SessionRuntime.record_lifecycle SessionRuntime.record SessionRuntime.write
    UpdateCall.propose
  congr 1
  funext session
  dsimp only
  split
  · rfl
  · simp only [compute_bind, bind_assoc, compute_pure, write_correlation, pure_bind]

theorem record_context_eq (request : RecordContextRequest Uuid) :
    runtime.record_context request started_at =
      runtime.record started_at (.record_context request) := by
  unfold SessionRuntime.record_context SessionRuntime.record SessionRuntime.write
    UpdateCall.propose
  simp only [compute_bind, bind_assoc, compute_pure, write_correlation, pure_bind,
    UpdateCall.session_id]

theorem record_correlation_eq (request : RecordCorrelationRequest Uuid) :
    runtime.record_correlation request started_at =
      runtime.record started_at (.record_correlation request) := by
  unfold SessionRuntime.record_correlation SessionRuntime.record SessionRuntime.write
    UpdateCall.propose
  simp only [compute_bind, bind_assoc, compute_pure, write_correlation, UpdateCall.session_id]

end

/-! ## Reads -/

variable (s : InMemorySessionPersistence Uuid)

section

variable {runtime : SessionRuntime} {w : World Uuid} {id : Uuid} {c : OperationalSession Uuid}
  {e : SessionException}

def SessionRuntime.copy (self : SessionRuntime) (w : World Uuid) (id : Uuid) :
    Except SessionException (OperationalSession Uuid) :=
  match (w.registries self.registry).get? id with
  | some cached => .ok cached
  | none =>
    match w.store.row id with
    | none => .error (SessionRuntime.not_found id)
    | some record => record_to_session record

omit [Stdlib Uuid] in
theorem get_session_none (id : Uuid) :
    s.get_session id none = s.row id := by
  unfold InMemorySessionPersistence.get_session InMemorySessionPersistence.row
  cases s.sessions.get? id with
  | none => rfl
  | some record => rfl

theorem exec_load_error (h : runtime.copy w id = .error e) :
    exec (runtime.load_session id none) w = (.error e, w) := by
  unfold SessionRuntime.copy at h
  unfold SessionRuntime.load_session SessionRuntime.registry_get
  split at h
  · cases h
  rename_i hcached
  rw [exec_bind_ok (a := none) (by rw [exec_await, perform, hcached])]
  unfold operious.session.get_session
  cases hrow : w.store.row id with
  | none =>
    rw [hrow] at h
    cases h
    rw [exec_bind_ok (a := none) (by rw [exec_await, perform, get_session_none, hrow]), exec_throw]
  | some record =>
    rw [hrow] at h
    have hload : record_to_session record = .error e := h
    rw [exec_bind_ok (a := some record) (by rw [exec_await, perform, get_session_none, hrow])]
    exact exec_bind_error (by rw [exec_compute, hload]) _

theorem exec_load_ok (hown : ∀ c, (w.registries runtime.registry).get? id = some c →
      c.identity.session_id = id) (hrows : ∀ r, w.store.row id = some r → r.session_id = id)
    (h : runtime.copy w id = .ok c) :
    c.identity.session_id = id ∧
      ∃ w', exec (runtime.load_session id none) w = (.ok c, w') ∧ w'.store = w.store ∧
        (w'.registries runtime.registry).get? id = some c := by
  unfold SessionRuntime.copy at h
  unfold SessionRuntime.load_session SessionRuntime.registry_get
  split at h
  · rename_i cached hcached
    cases h
    refine ⟨hown c hcached, w, ?_, rfl, hcached⟩
    rw [exec_bind_ok (a := some c) (by rw [exec_await, perform, hcached])]
    rfl
  rename_i hcached
  rw [exec_bind_ok (a := none) (by rw [exec_await, perform, hcached])]
  unfold operious.session.get_session
  cases hrow : w.store.row id with
  | none =>
    rw [hrow] at h
    cases h
  | some record =>
    rw [hrow] at h
    have hload : record_to_session record = .ok c := h
    rw [exec_bind_ok (a := some record) (by rw [exec_await, perform, get_session_none, hrow])]
    have hid : c.identity.session_id = id := by
      have hcopy := congrArg SessionRecord.session_id (session_to_record_of_record_to_session hload)
      exact hcopy.trans (hrows record hrow)
    refine ⟨hid, w.setRegistry runtime.registry
      ((w.registries runtime.registry).set c.identity.session_id c), ?_, rfl, ?_⟩
    · dsimp only
      rw [hload, exec_compute_bind_ok, exec_bind_ok (exec_swallow _ _), exec_pure]
      unfold SessionRuntime.registry_register
      rw [exec_await]
      simp only [perform, SessionRegistry.register, hid, hcached, Option.isSome_none,
        Bool.false_eq_true, if_false]
    · rw [hid]
      simp [World.setRegistry]

def UpdateCall.keyed (call : UpdateCall Uuid) (w : World Uuid) :
    Option (SessionEventRecord Uuid) :=
  call.key.bind (w.store.get_event_by_idempotency_key call.session_id)

theorem exec_find_replay (id : Uuid) (key : Option String) (w : World Uuid) :
    exec (SessionRuntime.find_replay id key) w =
      (.ok (key.bind (w.store.get_event_by_idempotency_key id)), w) := by
  cases key with
  | none => rfl
  | some key => rfl

end

/-! ## Writes -/

section

variable {runtime : SessionRuntime} {w : World Uuid} {event : SessionTimelineEvent Uuid}
  {updated : OperationalSession Uuid}

/-- The store with the correlation of a call, if it has one. -/
def with_correlation (s : InMemorySessionPersistence Uuid) :
    Option (SessionCorrelation Uuid) → InMemorySessionPersistence Uuid
  | none => s
  | some correlation =>
    { s with correlations :=
      s.correlations.set correlation.correlation_id (correlation_to_record correlation) }

/-- The id of the correlation of a call is not taken. -/
def CorrelationFree (s : InMemorySessionPersistence Uuid) (proposal : Proposal Uuid) : Prop :=
  ∀ correlation, proposal.correlation = some correlation →
    s.correlations.get? correlation.correlation_id = none

/-- How the writes of a call end, and the store after them. -/
inductive Written (s : InMemorySessionPersistence Uuid) (proposal : Proposal Uuid) :
    Except SessionException (SessionResult Uuid) → InMemorySessionPersistence Uuid → Prop
  | taken (message : String) (h : ¬ CorrelationFree s proposal) :
      Written s proposal (.error (.persistence_error message)) s
  /-- The event does not follow the stored ones. The correlation stays. -/
  | refused (message : String) (t : InMemorySessionPersistence Uuid)
      (free : CorrelationFree s proposal) (h : ¬ s.Accepts (event_to_record proposal.event))
      (same : Same (with_correlation s proposal.correlation) t) :
      Written s proposal (.error (.persistence_error message)) t
  /-- The row was saved since the session was read. The event stays. -/
  | half (message : String) (free : CorrelationFree s proposal)
      (accepts : s.Accepts (event_to_record proposal.event))
      (stale : ¬ s.Newer (session_to_record proposal.updated)) :
      Written s proposal (.error (.persistence_error message))
        ((with_correlation s proposal.correlation).stored (event_to_record proposal.event))
  | done (free : CorrelationFree s proposal)
      (accepts : s.Accepts (event_to_record proposal.event))
      (newer : s.Newer (session_to_record proposal.updated)) :
      Written s proposal
        (.ok ⟨proposal.updated, some proposal.event, proposal.correlation, false⟩)
        (((with_correlation s proposal.correlation).stored
          (event_to_record proposal.event)).saved (session_to_record proposal.updated))

variable (runtime w updated) in
theorem exec_persist_refused (h : ¬ w.store.Accepts (event_to_record event)) :
    ∃ message t, exec (runtime.persist_session_update updated event) w =
      (.error (.persistence_error message), ⟨t, w.registries⟩) ∧ Same w.store t := by
  obtain ⟨message, t, herror, hsame⟩ := perform_save_event_error h
  exact ⟨message, t, exec_bind_error (by exact herror) _, hsame⟩

variable (runtime w) in
theorem exec_persist_half (h : w.store.Accepts (event_to_record event))
    (hstale : ¬ w.store.Newer (session_to_record updated)) :
    ∃ message, exec (runtime.persist_session_update updated event) w =
      (.error (.persistence_error message),
        ⟨w.store.stored (event_to_record event), w.registries⟩) := by
  let stored : World Uuid := ⟨w.store.stored (event_to_record event), w.registries⟩
  have hstale' : ¬ stored.store.Newer (session_to_record updated) := hstale
  obtain ⟨message, herror⟩ := perform_save_session_error hstale'
  refine ⟨message, ?_⟩
  unfold SessionRuntime.persist_session_update
  rw [exec_bind_ok (show exec (save_event (event_to_record event)) w = _ from
    perform_save_event_ok h)]
  exact exec_bind_error (by exact herror) _

variable (runtime w) in
theorem exec_persist_done {c : OperationalSession Uuid}
    (h : w.store.Accepts (event_to_record event))
    (hnewer : w.store.Newer (session_to_record updated))
    (hcached : (w.registries runtime.registry).get? updated.identity.session_id = some c)
    (hrevision : c.revision < updated.revision) :
    ∃ w', exec (runtime.persist_session_update updated event) w = (.ok (), w') ∧
      w'.store = (w.store.stored (event_to_record event)).saved (session_to_record updated) := by
  unfold SessionRuntime.persist_session_update SessionRuntime.registry_update
  rw [exec_bind_ok (show exec (save_event (event_to_record event)) w = _ from
    perform_save_event_ok h)]
  have hsave : exec (save_session (session_to_record updated))
      ⟨w.store.stored (event_to_record event), w.registries⟩ = _ :=
    perform_save_session_ok hnewer
  rw [exec_bind_ok hsave]
  refine ⟨_, Prod.ext ?_ rfl, ?_⟩
  · rw [exec_await]
    simp only [perform, SessionRegistry.update, hcached, if_neg (not_le.mpr hrevision)]
  · rw [exec_await]
    rfl

omit [Stdlib Uuid] in
theorem with_correlation_accepts
    (correlation : Option (SessionCorrelation Uuid)) (e : SessionEventRecord Uuid) :
    (with_correlation s correlation).Accepts e ↔ s.Accepts e := by
  cases correlation with
  | none => rfl
  | some correlation => exact ⟨fun h => ⟨h.1, h.2, h.3⟩, fun h => ⟨h.1, h.2, h.3⟩⟩

omit [Stdlib Uuid] in
theorem with_correlation_newer
    (correlation : Option (SessionCorrelation Uuid)) (r : SessionRecord Uuid) :
    (with_correlation s correlation).Newer r ↔ s.Newer r := by
  cases correlation with
  | none => rfl
  | some correlation => exact Iff.rfl

variable (runtime) in
/-- The writes of a call end in one of the four ways. -/
theorem exec_write {c : OperationalSession Uuid} (proposal : Proposal Uuid)
    (hcached : (w.registries runtime.registry).get? proposal.updated.identity.session_id = some c)
    (hrevision : c.revision < proposal.updated.revision) :
    Written w.store proposal (exec (runtime.write proposal) w).1
      (exec (runtime.write proposal) w).2.store := by
  obtain ⟨event, updated, correlation⟩ := proposal
  unfold SessionRuntime.write
  by_cases hfree : CorrelationFree w.store ⟨event, updated, correlation⟩
  swap
  · unfold CorrelationFree at hfree
    simp only [not_forall] at hfree
    obtain ⟨taken, rfl, htaken⟩ := hfree
    obtain ⟨record, hrecord⟩ := Option.ne_none_iff_exists'.mp htaken
    have hsave : exec (write_correlation (some taken)) w =
        (.error (.persistence_error
          ("duplicate correlation id: " ++ Stdlib.str taken.correlation_id)), w) := by
      change perform (.save_correlation (correlation_to_record taken)) w = _
      simp only [perform, InMemorySessionPersistence.save_correlation,
        show w.store.correlations.get? (correlation_to_record taken).correlation_id = some record
          from hrecord, Option.isSome_some, if_true]
      rfl
    rw [exec_bind_error hsave]
    exact Written.taken _ (fun h => htaken (h taken rfl))
  have hsave : exec (write_correlation correlation) w =
      (.ok (), ⟨with_correlation w.store correlation, w.registries⟩) := by
    cases correlation with
    | none => rfl
    | some correlation =>
      have hnone := hfree correlation rfl
      change perform (.save_correlation (correlation_to_record correlation)) w = _
      simp only [perform, InMemorySessionPersistence.save_correlation,
        show w.store.correlations.get? (correlation_to_record correlation).correlation_id = none
          from hnone, Option.isSome_none, Bool.false_eq_true, if_false]
      rfl
  rw [exec_bind_ok hsave]
  by_cases haccepts : w.store.Accepts (event_to_record event)
  · have haccepts' := (with_correlation_accepts w.store correlation _).mpr haccepts
    by_cases hnewer : w.store.Newer (session_to_record updated)
    · obtain ⟨w', hexec, hstore⟩ := exec_persist_done runtime
        ⟨with_correlation w.store correlation, w.registries⟩ haccepts'
        ((with_correlation_newer w.store correlation _).mpr hnewer) hcached hrevision
      rw [exec_bind_ok hexec, exec_pure, hstore]
      exact Written.done hfree haccepts hnewer
    · obtain ⟨message, hexec⟩ := exec_persist_half runtime
        ⟨with_correlation w.store correlation, w.registries⟩ haccepts'
        (fun h => hnewer ((with_correlation_newer w.store correlation _).mp h))
      rw [exec_bind_error hexec]
      exact Written.half message hfree haccepts hnewer
  · obtain ⟨message, t, hexec, hsame⟩ := exec_persist_refused runtime
      ⟨with_correlation w.store correlation, w.registries⟩
      updated (fun h => haccepts ((with_correlation_accepts w.store correlation _).mp h))
    rw [exec_bind_error hexec]
    exact Written.refused message t hfree haccepts hsame

end

/-! ## Whole calls -/

section

variable {runtime : SessionRuntime} {started_at : Instant} {call : UpdateCall Uuid}
  {w : World Uuid} {c : OperationalSession Uuid} {p : Proposal Uuid}

omit [DecidableEq Uuid] in
theorem propose_extends (h : call.propose started_at c = .ok p) :
    Extends c p.event p.updated ∧ p.event.idempotency_key = call.key := by
  cases call with
  | append_event request =>
    obtain ⟨correlation_id, -, h⟩ := bind_eq_ok.mp h
    obtain ⟨_, hopen, h⟩ := bind_eq_ok.mp h
    obtain ⟨event, hevent, h⟩ := bind_eq_ok.mp h
    cases h
    have hfollows := build_next_event_follows hevent
    exact ⟨extends_advanced hfollows (reject_terminal_eq_ok hopen)
      (Or.inl (isAppended_of_follows hfollows)), hfollows.key_eq⟩
  | record_lifecycle request =>
    unfold UpdateCall.propose at h
    dsimp only at h
    split at h
    · cases h
    rename_i hallowed
    obtain ⟨event, hevent, h⟩ := bind_eq_ok.mp h
    cases h
    have hfollows := build_next_event_follows hevent
    exact ⟨extends_lifecycle hfollows hallowed, hfollows.key_eq⟩
  | record_context request =>
    obtain ⟨_, hopen, h⟩ := bind_eq_ok.mp h
    obtain ⟨event, hevent, h⟩ := bind_eq_ok.mp h
    cases h
    have hfollows := build_next_event_follows hevent
    exact ⟨extends_context hfollows (reject_terminal_eq_ok hopen), hfollows.key_eq⟩
  | record_correlation request =>
    obtain ⟨_, hopen, h⟩ := bind_eq_ok.mp h
    obtain ⟨correlation, -, h⟩ := bind_eq_ok.mp h
    obtain ⟨event, hevent, h⟩ := bind_eq_ok.mp h
    cases h
    have hfollows := build_next_event_follows hevent
    exact ⟨extends_advanced hfollows (reject_terminal_eq_ok hopen) (Or.inr rfl), hfollows.key_eq⟩

omit [DecidableEq Uuid] in
theorem propose_append_correlation {request : AppendEventRequest Uuid}
    (h : UpdateCall.propose started_at c (.append_event request) = .ok p) :
    p.correlation = none := by
  obtain ⟨correlation_id, -, h⟩ := bind_eq_ok.mp h
  obtain ⟨_, -, h⟩ := bind_eq_ok.mp h
  obtain ⟨event, -, h⟩ := bind_eq_ok.mp h
  cases h
  rfl

variable (runtime started_at call w) in
/-- How a call that runs alone ends, and the store after it. -/
inductive Ran : SessionEnvelope Uuid → InMemorySessionPersistence Uuid → Prop
  /-- It stops at a check, before any write. -/
  | stopped (e : SessionException)
      (h : ∀ c, runtime.copy w call.session_id = .ok c → call.keyed w = none ∧
        ∀ p, call.propose started_at c ≠ .ok p) : Ran (.error e) w.store
  /-- Its key names an event that is there. -/
  | replayed (c : OperationalSession Uuid) (event : SessionTimelineEvent Uuid)
      (copy : runtime.copy w call.session_id = .ok c)
      (keyed : call.keyed w = some (event_to_record event)) :
      Ran (.ok ⟨c, some event, none, true⟩) w.store
  | wrote (c : OperationalSession Uuid) (p : Proposal Uuid) (envelope : SessionEnvelope Uuid)
      (t : InMemorySessionPersistence Uuid) (copy : runtime.copy w call.session_id = .ok c)
      (keyed : call.keyed w = none) (proposed : call.propose started_at c = .ok p)
      (written : Written w.store p envelope t) : Ran envelope t
  /-- Its row was refused, and it takes its own event for one that was there. -/
  | recovered (c session : OperationalSession Uuid) (p : Proposal Uuid)
      (copy : runtime.copy w call.session_id = .ok c) (keyed : call.keyed w = none)
      (proposed : call.propose started_at c = .ok p)
      (accepts : w.store.Accepts (event_to_record p.event))
      (stale : ¬ w.store.Newer (session_to_record p.updated)) (key : call.key ≠ none) :
      Ran (.ok ⟨session, some p.event, none, true⟩)
        (w.store.stored (event_to_record p.event))

variable {id : Uuid}

theorem exec_loaded (hsane : Sane w) (h : runtime.copy w id = .ok c) :
    c.identity.session_id = id ∧
      ∃ w', exec (runtime.load_session id none) w = (.ok c, w') ∧ w'.store = w.store ∧
        (w'.registries runtime.registry).get? id = some c :=
  exec_load_ok (fun _ hc => (hsane.copies _ _ _ hc).own)
    (fun r hr => hsane.indexed.rows id r hr) h

theorem ran_record (hsane : Sane w) (hkeyed : call.keyed w = none) :
    Ran runtime started_at call w (exec (runtime.record started_at call) w).1
      (exec (runtime.record started_at call) w).2.store := by
  unfold SessionRuntime.record
  cases hcopy : runtime.copy w call.session_id with
  | error e =>
    rw [exec_bind_error (exec_load_error hcopy)]
    exact Ran.stopped e fun c hc => absurd (hcopy.symm.trans hc) (by simp)
  | ok c =>
    obtain ⟨hid, w', hload, hstore, hcached⟩ := exec_loaded hsane hcopy
    rw [exec_bind_ok hload]
    cases hpropose : call.propose started_at c with
    | error e =>
      rw [exec_compute_bind_error, hstore]
      refine Ran.stopped e fun c' hc' => ⟨hkeyed, fun p hp => ?_⟩
      cases hcopy.symm.trans hc'
      cases hpropose.symm.trans hp
    | ok p =>
      rw [exec_compute_bind_ok]
      have hextends := (propose_extends hpropose).1
      have hwritten := exec_write runtime p
        (by rw [hextends.identity, hid]; exact hcached)
        (by rw [hextends.revision]; omega)
      rw [hstore] at hwritten
      exact Ran.wrote c p _ _ hcopy hkeyed hpropose hwritten

variable (runtime c w) in
theorem exec_replay_refused {key : Option String} {event : SessionTimelineEvent Uuid}
    (message : String) (hvalid : ∀ record, w.store.row id = some record → record.Valid)
    (hkeyed : key.bind (w.store.get_event_by_idempotency_key id) = some (event_to_record event)) :
    ∃ session w', exec (runtime.replay_refused id key c (.persistence_error message)) w =
      (.ok ⟨session, some event, none, true⟩, w') ∧ w'.store = w.store := by
  unfold SessionRuntime.replay_refused
  dsimp only
  rw [exec_bind_ok (exec_find_replay id key w), hkeyed]
  dsimp only
  rw [event_record_to_model_to_record, exec_compute_bind_ok]
  have hget : exec (operious.session.get_session id none) w = (.ok (w.store.row id), w) := by
    unfold operious.session.get_session
    rw [exec_await, perform, get_session_none]
  cases hrow : w.store.row id with
  | none =>
    rw [hrow] at hget
    have hload : exec (runtime.load_persisted_session id c) w = (.ok c, w) := exec_bind_ok hget _
    rw [exec_bind_ok hload]
    exact ⟨c, w, rfl, rfl⟩
  | some record =>
    rw [hrow] at hget
    have hvalid := hvalid record hrow
    have hload : exec (runtime.load_persisted_session id c) w =
        (.ok (record.load hvalid),
          (exec (runtime.registry_update (record.load hvalid)) w).2) := by
      unfold SessionRuntime.load_persisted_session
      rw [exec_bind_ok hget]
      dsimp only
      rw [record_to_session_valid hvalid, exec_compute_bind_ok, exec_bind_ok (exec_swallow _ _),
        exec_pure]
    rw [exec_bind_ok hload]
    exact ⟨_, _, rfl, rfl⟩

theorem keyed_of_half (hextends : Extends c p.event p.updated)
    (hid : c.identity.session_id = call.session_id)
    (hkey : p.event.idempotency_key = call.key) :
    call.key.bind ((w.store.stored (event_to_record p.event)).get_event_by_idempotency_key
      call.session_id) = call.key.map fun _ => event_to_record p.event := by
  cases h : call.key with
  | none => rfl
  | some key =>
    rw [h] at hkey
    have hsession : (event_to_record p.event).session_id = call.session_id :=
      hextends.session_id.trans hid
    change (w.store.stored (event_to_record p.event)).events_by_idempotency_key.get?
      (call.session_id, key) = _
    unfold InMemorySessionPersistence.stored
    rw [show (event_to_record p.event).idempotency_key = some key from hkey, hsession]
    exact Dict.get?_set_self _ _ _

theorem exec_replay_refused_none {key : Option String} (message : String)
    (hkeyed : key.bind (w.store.get_event_by_idempotency_key id) = none) :
    exec (runtime.replay_refused id key c (.persistence_error message)) w =
      (.error (.persistence_error message), w) := by
  unfold SessionRuntime.replay_refused
  dsimp only
  rw [exec_bind_ok (exec_find_replay id key w), hkeyed]
  rfl

/-- The writes of an append end in one of the four ways, and a refusal may be taken back. -/
theorem ran_append_writes (hsane : Sane w) {w' : World Uuid} (hstore : w'.store = w.store)
    (hcached : (w'.registries runtime.registry).get? call.session_id = some c)
    (hcopy : runtime.copy w call.session_id = .ok c) (hid : c.identity.session_id = call.session_id)
    (hkeyed : call.keyed w = none) (hpropose : call.propose started_at c = .ok p)
    (hcorrelation : p.correlation = none) :
    Ran runtime started_at call w
      (exec (tryCatch (runtime.write p) (runtime.replay_refused call.session_id call.key c)) w').1
      (exec (tryCatch (runtime.write p)
        (runtime.replay_refused call.session_id call.key c)) w').2.store := by
  obtain ⟨event, updated, correlation⟩ := p
  cases hcorrelation
  obtain ⟨hextends, hkey⟩ := propose_extends hpropose
  have hwritten := exec_write runtime ⟨event, updated, none⟩
    (by rw [hextends.identity, hid]; exact hcached) (by rw [hextends.revision]; omega)
  rw [hstore] at hwritten
  rcases hexec : exec (runtime.write ⟨event, updated, none⟩) w' with ⟨envelope, t, registries⟩
  rw [hexec] at hwritten
  dsimp only at hwritten
  cases hwritten with
  | taken message h => exact absurd (fun _ hsome => nomatch hsome) h
  | refused message t free h same =>
    have hnone : call.key.bind (t.get_event_by_idempotency_key call.session_id) = none := by
      unfold InMemorySessionPersistence.get_event_by_idempotency_key
      rw [same.keyed]
      exact hkeyed
    rw [exec_tryCatch_error hexec, exec_replay_refused_none message hnone]
    exact Ran.wrote c _ _ _ hcopy hkeyed hpropose (Written.refused message t free h same)
  | half message free accepts stale =>
    have hfound := keyed_of_half (w := w) hextends hid hkey
    rw [exec_tryCatch_error hexec]
    cases hcall : call.key with
    | none =>
      rw [exec_replay_refused_none message rfl]
      exact Ran.wrote c _ _ _ hcopy hkeyed hpropose (Written.half message free accepts stale)
    | some key =>
      rw [hcall] at hfound
      obtain ⟨session, w3, hreplay, hstore3⟩ := exec_replay_refused runtime
        ⟨w.store.stored (event_to_record event), registries⟩ c message
        (fun record hrow => (hsane.rows _ record hrow).valid) hfound
      dsimp only [with_correlation] at hreplay ⊢
      rw [hreplay, hstore3]
      exact Ran.recovered c session _ hcopy hkeyed hpropose accepts stale (by simp [hcall])
  | done free accepts newer =>
    rw [exec_tryCatch_ok hexec]
    exact Ran.wrote c _ _ _ hcopy hkeyed hpropose (Written.done free accepts newer)

theorem ran_append (hsane : Sane w) (request : AppendEventRequest Uuid) :
    Ran runtime started_at (.append_event request) w
      (exec (runtime.append started_at request) w).1
      (exec (runtime.append started_at request) w).2.store := by
  unfold SessionRuntime.append
  cases hcopy : runtime.copy w request.session_id with
  | error e =>
    rw [exec_bind_error (exec_load_error hcopy)]
    exact Ran.stopped e fun c hc => absurd (hcopy.symm.trans hc) (by simp)
  | ok c =>
    obtain ⟨hid, w', hload, hstore, hcached⟩ := exec_loaded hsane hcopy
    rw [exec_bind_ok hload, exec_bind_ok (exec_find_replay _ _ w'), hstore]
    cases hkeyed : UpdateCall.keyed (.append_event request) w with
    | some record =>
      obtain ⟨key, hkey, hget⟩ := Option.bind_eq_some_iff.mp hkeyed
      obtain ⟨event, rfl⟩ := hsane.models request.session_id record
        ((hsane.indexed.keyed _ _ _).mp hget).1
      rw [show request.idempotency_key.bind (w.store.get_event_by_idempotency_key
        request.session_id) = _ from hkeyed]
      dsimp only
      rw [event_record_to_model_to_record, exec_compute_bind_ok, exec_pure, hstore]
      exact Ran.replayed c event hcopy hkeyed
    | none =>
      rw [show request.idempotency_key.bind (w.store.get_event_by_idempotency_key
        request.session_id) = _ from hkeyed]
      dsimp only
      cases hpropose : UpdateCall.propose started_at c (.append_event request) with
      | error e =>
        rw [exec_compute_bind_error, hstore]
        refine Ran.stopped e fun c' hc' => ⟨hkeyed, fun p hp => ?_⟩
        cases hcopy.symm.trans hc'
        cases hpropose.symm.trans hp
      | ok p =>
        rw [exec_compute_bind_ok]
        exact ran_append_writes hsane hstore hcached hcopy hid hkeyed hpropose
          (propose_append_correlation hpropose)

theorem ran_update (hsane : Sane w) (runtime : SessionRuntime) (started_at : Instant)
    (call : UpdateCall Uuid) :
    Ran runtime started_at call w (run perform (call.on runtime started_at).task w).1
      (run perform (call.on runtime started_at).task w).2.store := by
  cases call with
  | append_event request =>
    rw [show (UpdateCall.on runtime started_at (.append_event request)).task =
      (runtime.append_event request started_at).run from rfl, append_event_eq]
    exact ran_append hsane request
  | record_lifecycle request =>
    rw [show (UpdateCall.on runtime started_at (.record_lifecycle request)).task =
      (runtime.record_lifecycle request started_at).run from rfl, record_lifecycle_eq]
    exact ran_record hsane rfl
  | record_context request =>
    rw [show (UpdateCall.on runtime started_at (.record_context request)).task =
      (runtime.record_context request started_at).run from rfl, record_context_eq]
    exact ran_record hsane rfl
  | record_correlation request =>
    rw [show (UpdateCall.on runtime started_at (.record_correlation request)).task =
      (runtime.record_correlation request started_at).run from rfl, record_correlation_eq]
    exact ran_record hsane rfl

end

end operious.session
