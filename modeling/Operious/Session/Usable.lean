-- The ledgers that runtimes and merges share: what makes a ledger usable, which calls keep it so, and
-- the runs of such calls.
import Operious.Session.MergeRuns

namespace operious.session

open awaits runs InMemorySessionPersistence

variable {Uuid : Type} [DecidableEq Uuid] [Stdlib Uuid]

/-! ## The invariant -/

structure Usable (s : InMemorySessionPersistence Uuid) : Prop where
  ids : ∀ id, ∀ e ∈ s.log id, e.event_id = derive_event_id id e.sequence
  heads : ∀ id row, s.row id = some row → row.sequence_head + 1 = ((s.log id).length : Int)
  correlations : ∀ id r, s.correlations.get? id = some r → r.external_id ≠ ""

theorem usable_new : Usable (World.new : World Uuid).store where
  ids _ _ he := nomatch he
  heads _ _ h := nomatch h
  correlations _ _ h := nomatch h

variable {s : InMemorySessionPersistence Uuid}

variable {t : InMemorySessionPersistence Uuid}

theorem Usable.kept (h : Usable s) (hst : HeadsKept s t) : Usable t := by
  refine ⟨?_, ?_, ?_⟩
  · intro id e he
    rw [hst.log] at he
    exact h.ids id e he
  · intro id row hrow
    have hheads := hst.heads id
    rw [hrow] at hheads
    obtain ⟨row', hrow', heq⟩ := Option.map_eq_some_iff.mp hheads.symm
    rw [hst.log, ← heq]
    exact h.heads id row' hrow'
  · intro id r hr
    rw [hst.correlations] at hr
    exact h.correlations id r hr

theorem Usable.with_correlation {s : InMemorySessionPersistence Uuid} (h : Usable s)
    (correlation : Option (SessionCorrelation Uuid)) : Usable (with_correlation s correlation) := by
  cases correlation with
  | none => exact h
  | some correlation =>
    refine ⟨h.ids, h.heads, fun id r hr => ?_⟩
    unfold operious.session.with_correlation at hr
    rw [Dict.get?_set] at hr
    split at hr
    · cases hr
      exact correlation.external_nonempty
    · exact h.correlations id r hr

theorem Usable.extended (h : Usable s) {e : SessionEventRecord Uuid} {r : SessionRecord Uuid}
    (hown : r.session_id = e.session_id)
    (hid : e.event_id = derive_event_id e.session_id e.sequence)
    (hhead : r.sequence_head = e.sequence) (hnext : e.sequence = (s.log e.session_id).length) :
    Usable ((s.stored e).saved r) := by
  refine ⟨?_, ?_, h.correlations⟩
  · intro id e' he'
    change e' ∈ (s.stored e).log id at he'
    rw [log_stored] at he'
    split at he'
    · rename_i hsession
      subst hsession
      rcases List.mem_append.mp he' with hmem | hmem
      · exact h.ids _ e' hmem
      · rw [List.mem_singleton.mp hmem]
        exact hid
    · exact h.ids id e' he'
  · intro id row hrow
    change row.sequence_head + 1 = (((s.stored e).log id).length : Int)
    rw [log_stored]
    by_cases hsession : e.session_id = id
    · subst hsession
      rw [← hown, row_saved_self] at hrow
      cases hrow
      rw [if_pos rfl, List.length_append, List.length_singleton, hhead, hnext]
      rfl
    · rw [row_saved_ne _ (fun hne => hsession (hown.symm.trans hne.symm))] at hrow
      rw [if_neg hsession]
      exact h.heads id row hrow

theorem Usable.id_free [LawfulStdlib Uuid] (h : Usable s) (hindexed : s.Indexed) (id : Uuid) :
    s.events.get? (derive_event_id id (s.log id).length) = none := by
  cases hget : s.events.get? (derive_event_id id (s.log id).length) with
  | none => rfl
  | some e =>
    obtain ⟨hmem, heid⟩ := (hindexed.events _ _).mp hget
    have hderived := h.ids _ e hmem
    obtain ⟨hsession, hsequence⟩ := derive_event_id_inj (hderived.symm.trans heid)
    have hlt := hindexed.sequence_lt hmem
    rw [hsession] at hlt
    omega

/-! ## Calls that keep it -/

variable {c : OperationalSession Uuid}

section

variable {w : World Uuid} {runtime : SessionRuntime} {started_at : Instant}
  {call : UpdateCall Uuid}

/-- A call that would write its event has the row too: no one saved the row since its copy was read. -/
def Unraced (runtime : SessionRuntime) (started_at : Instant) (call : UpdateCall Uuid)
    (w : World Uuid) : Prop :=
  ∀ c p, runtime.copy w call.session_id = .ok c → call.keyed w = none →
    call.propose started_at c = .ok p → CorrelationFree w.store p → AtHead w.store c →
      Current w.store c

theorem usable_written {p : Proposal Uuid} (hsane : Sane w) (h : Usable w.store)
    (hcopy : runtime.copy w call.session_id = .ok c) (hkeyed : call.keyed w = none)
    (hpropose : call.propose started_at c = .ok p)
    (hcurrent : CorrelationFree w.store p → AtHead w.store c → Current w.store c)
    {envelope : SessionEnvelope Uuid} (hwritten : Written w.store p envelope t) : Usable t := by
  have hseen := copy_seen hsane hcopy
  have haccepts := accepts_iff hsane hseen hkeyed hpropose
  have hnewer := newer_iff hseen hpropose
  cases hwritten with
  | taken message htaken => exact h
  | refused message _ free hrefused same =>
    exact (h.with_correlation p.correlation).kept (HeadsKept.of_same same)
  | half message free accepts stale =>
    exact absurd (hnewer.mpr (hcurrent free (haccepts.mp accepts))) stale
  | done free accepts newer =>
    have hextends := (propose_extends hpropose).1
    have hhead := (haccepts.mp accepts).head
    have hsequence := hextends.sequence
    have hsession : p.event.session_id = c.identity.session_id := hextends.session_id
    refine (h.with_correlation p.correlation).extended ?_ hextends.event_id hextends.head ?_
    · exact (congrArg SessionIdentity.session_id hextends.identity).trans hsession.symm
    · change p.event.sequence = ((with_correlation w.store p.correlation).log
        p.event.session_id).length
      rw [log_with_correlation, hsession]
      omega

theorem usable_update (hsane : Sane w) (h : Usable w.store) (call : UpdateCall Uuid)
    (hunraced : Unraced runtime started_at call w) :
    Usable (run perform (call.on runtime started_at).task w).2.store := by
  have hran := ran_update hsane runtime started_at call
  generalize (run perform (call.on runtime started_at).task w).1 = envelope at hran
  generalize (run perform (call.on runtime started_at).task w).2.store = t at hran ⊢
  cases hran with
  | stopped e hstop => exact h
  | replayed c event copy keyed => exact h
  | wrote c p _ _ copy keyed proposed written =>
    exact usable_written hsane h copy keyed proposed
      (fun free => hunraced c p copy keyed proposed free) written
  | recovered c session p copy keyed proposed accepts stale key =>
    have hseen := copy_seen hsane copy
    have hhead := (accepts_iff hsane hseen keyed proposed).mp accepts
    have hfree : CorrelationFree w.store p := by
      intro correlation hcorrelation
      cases call with
      | append_event request =>
        rw [propose_append_correlation proposed] at hcorrelation
        cases hcorrelation
      | record_lifecycle request => exact absurd rfl key
      | record_context request => exact absurd rfl key
      | record_correlation request => exact absurd rfl key
    have hcurrent := hunraced c p copy keyed proposed hfree hhead
    exact absurd ((newer_iff hseen proposed).mpr hcurrent) stale

/-! ### Sessions that are opened -/

variable (runtime) in
theorem load_session_store (hsane : Sane w) (id : Uuid) :
    (exec (runtime.load_session id none) w).2.store = w.store := by
  cases hcopy : runtime.copy w id with
  | error e => rw [exec_load_error hcopy]
  | ok c =>
    obtain ⟨-, w', hload, hstore, -⟩ := exec_loaded hsane hcopy
    rw [hload]
    exact hstore

variable (runtime) in
theorem build_lineage_store (hsane : Sane w) (id : Uuid) (parent : Option Uuid) :
    (exec (runtime.build_lineage id parent) w).2.store = w.store := by
  cases parent with
  | none => rfl
  | some parent =>
    have hload := load_session_store runtime hsane parent
    unfold SessionRuntime.build_lineage
    rcases h : exec (runtime.load_session parent none) w with ⟨r, w'⟩
    rw [h] at hload
    cases r with
    | error e =>
      rw [exec_bind_error h]
      exact hload
    | ok c =>
      rw [exec_bind_ok h]
      exact hload

variable {session : OperationalSession Uuid}

omit [Stdlib Uuid] in
theorem log_of_newer (hsane : Sane w) (hrevision : session.revision = 1)
    (hnewer : w.store.Newer (session_to_record session)) :
    w.store.log session.identity.session_id = [] := by
  by_contra hne
  obtain ⟨row, hrow⟩ := hsane.owned _ hne
  have hlt : row.revision < session.revision := hnewer row hrow
  have hle := (hsane.rows _ row hrow).revision
  omega

theorem exec_register_store (session : OperationalSession Uuid) (result : SessionResult Uuid)
    (w : World Uuid) :
    (exec (do runtime.registry_register session; pure result) w).2.store = w.store := by
  unfold SessionRuntime.registry_register
  rcases h : exec (await (.registry_register runtime.registry session)) w with ⟨r, w'⟩
  have hstore : w'.store = w.store := by
    rw [exec_await, perform] at h
    cases h
    rfl
  cases r with
  | error e =>
    rw [exec_bind_error h]
    exact hstore
  | ok _ =>
    rw [exec_bind_ok h]
    exact hstore

/-- The row of a session that is not there yet, and its first event. -/
theorem usable_open_ledger [LawfulStdlib Uuid] {w' : World Uuid} (hsane : Sane w)
    (hstore : w'.store = w.store) (h : Usable w.store) {event : SessionTimelineEvent Uuid}
    (ho : Opens session event) : Usable (exec (runtime.open_ledger session event) w').2.store := by
  obtain ⟨store, registries⟩ := w'
  subst hstore
  unfold SessionRuntime.open_ledger
  by_cases hnewer : w.store.Newer (session_to_record session)
  swap
  · obtain ⟨message, herror⟩ := perform_save_session_error
      (show ¬ (⟨w.store, registries⟩ : World Uuid).store.Newer _ from hnewer)
    have hsave : exec (save_session (session_to_record session)) ⟨w.store, registries⟩ = _ := herror
    rw [exec_bind_error hsave]
    exact h
  have hsave : exec (save_session (session_to_record session)) ⟨w.store, registries⟩ = _ :=
    perform_save_session_ok hnewer
  rw [exec_bind_ok hsave, record_to_session_valid (session_to_record_valid session),
    exec_compute_bind_ok]
  have hlog := log_of_newer hsane ho.revision hnewer
  have hfree : w.store.events.get? event.event_id = none := by
    have hfree := h.id_free hsane.indexed session.identity.session_id
    rw [hlog, List.length_nil, ← ho.session_id, ← ho.event_id] at hfree
    exact hfree
  have haccepts : (w.store.saved (session_to_record session)).Accepts (event_to_record event) := by
    refine ⟨hfree, ?_, ?_⟩
    · intro key hsome
      rw [show (event_to_record event).idempotency_key = none from ho.key] at hsome
      cases hsome
    · change event.sequence = next_sequence (w.store.log event.session_id)
      rw [ho.session_id, hlog, ho.sequence]
      rfl
  have hget (tenant : Option String) : exec (operious.session.get_event event.event_id tenant)
      ⟨w.store.saved (session_to_record session), registries⟩ =
        (.ok none, ⟨w.store.saved (session_to_record session), registries⟩) := by
    unfold operious.session.get_event
    rw [exec_await, perform]
    unfold InMemorySessionPersistence.get_event
    rw [show (w.store.saved (session_to_record session)).events.get? event.event_id = none
      from hfree]
    rfl
  rw [exec_bind_ok (hget _)]
  have hsave_event : exec (save_event (event_to_record event))
      ⟨w.store.saved (session_to_record session), registries⟩ = _ :=
    perform_save_event_ok haccepts
  dsimp only
  rw [exec_bind_ok hsave_event, exec_register_store]
  change Usable ((w.store.stored (event_to_record event)).saved (session_to_record session))
  refine h.extended ho.session_id.symm ?_ ?_ ?_
  · rw [show (event_to_record event).sequence = 0 from ho.sequence]
    exact ho.event_id
  · rw [show (event_to_record event).sequence = 0 from ho.sequence]
    exact ho.head
  · change event.sequence = (w.store.log event.session_id).length
    rw [ho.session_id, hlog, ho.sequence]
    rfl

theorem usable_compute_bind {α β : Type} {r : Except SessionException α}
    {f : α → Coroutine Uuid β} (h : Usable w.store)
    (hf : ∀ a, r = .ok a → Usable (exec (f a) w).2.store) :
    Usable (exec (compute r >>= f) w).2.store := by
  cases r with
  | error e =>
    rw [exec_compute_bind_error]
    exact h
  | ok a =>
    rw [exec_compute_bind_ok]
    exact hf a rfl

theorem usable_open_session [LawfulStdlib Uuid] (hsane : Sane w) (h : Usable w.store)
    (request : OpenSessionRequest Uuid) (started_at : Instant) (generated : Uuid)
    (gate : CapabilityGateOutcome Uuid) :
    Usable (exec (runtime.open_session request started_at generated gate) w).2.store := by
  unfold SessionRuntime.open_session
  cases gate.denial with
  | some reason => exact h
  | none =>
    refine usable_compute_bind h fun session_id _ => ?_
    dsimp only
    split
    · exact h
    refine usable_compute_bind h fun identity hidentity => ?_
    have hlineage := build_lineage_store runtime hsane session_id
      request.parent_session_id
    rcases hexec : exec (runtime.build_lineage session_id request.parent_session_id) w with ⟨r, w'⟩
    rw [hexec] at hlineage
    cases r with
    | error e =>
      rw [exec_bind_error hexec, hlineage]
      exact h
    | ok lineage =>
      rw [exec_bind_ok hexec]
      have h' : Usable w'.store := by
        rw [hlineage]
        exact h
      refine usable_compute_bind h' fun session hsession => ?_
      refine usable_compute_bind h' fun event hevent => ?_
      have hid : identity.session_id = session_id := by
        unfold SessionIdentity.new at hidentity
        split at hidentity
        · cases hidentity
        cases hidentity
        rfl
      rw [← hid] at hevent
      exact usable_open_ledger hsane hlineage h (opens_of_new hsession hevent)

end

/-! ## Runs of calls -/

section

variable [Builtins Uuid] {w : World Uuid}

/-- A call that runs from its start to its end. -/
def next (w : World Uuid) (call : SessionCall Uuid) : Option (World Uuid) :=
  some (run perform call.task w).2

/-- The call moves no head without its event and no event without its head. -/
def Harmless (w : World Uuid) : SessionCall Uuid → Prop
  | .runtime (.open_session _ _ _ _ _) => True
  | .runtime (.append_event runtime request started_at) =>
    Unraced runtime started_at (.append_event request) w
  | .runtime (.record_lifecycle runtime request started_at) =>
    Unraced runtime started_at (.record_lifecycle request) w
  | .runtime (.record_context runtime request started_at) =>
    Unraced runtime started_at (.record_context request) w
  | .runtime (.record_correlation runtime request started_at) =>
    Unraced runtime started_at (.record_correlation request) w
  | .merge call => ∀ r write, w.store.row call.session_id = some r →
    call.writes r = some write → Blocked w.store write call.stamp
  | .amend _ _ => True

theorem sane_after (hsane : Sane w) (call : SessionCall Uuid) :
    Sane (run perform call.task w).2 := by
  have hidle : Sound copiesProtocol answers (fun _ _ _ => True)
      (Pool.idle w : SharedPool Uuid) () :=
    Sound.idle hsane fun _ => trivial
  have hleads : Pool.Leads (fun _ t => ∃ call : SessionCall Uuid, t = call.task) answers
      (Pool.idle w : SharedPool Uuid) (SharedPool.alone (Pool.idle w) 0 call) :=
    Pool.leads_alone rfl ⟨call, rfl⟩
  obtain ⟨g, -, hsound⟩ := hidle.leads
    (by
      rintro i t x ⟨call, rfl⟩ hsane -
      exact Sat.weaken (keeps_session_call call hsane) fun _ _ _ _ => trivial) hleads
  exact hsound.inv

theorem runtime_call_store (call : RuntimeCall Uuid) :
    (run perform (SessionCall.runtime call).task w).2 = (run perform call.task w).2 := by
  change (exec (call.coroutine >>= fun _ => pure ()) w).2 = (exec call.coroutine w).2
  rcases h : exec call.coroutine w with ⟨r, w'⟩
  cases r with
  | error e => rw [exec_bind_error h]
  | ok a => rw [exec_bind_ok h, exec_pure]

omit [Builtins Uuid] in
theorem calm_amend (hsane : Sane w) (session_id : Uuid)
    (amendment : SessionRecord Uuid → Amendment Uuid) : Calm (amend session_id amendment) w := by
  refine Calm.bind (Calm.get_session _ _) ?_
  intro found w' hfound
  obtain ⟨rfl, rfl⟩ := exec_get_session hfound
  rw [get_session_none]
  cases hrow : w'.store.row session_id with
  | none => exact Calm.pure _ _
  | some record =>
    refine Calm.bind (Calm.save_session ?_) fun _ _ _ => Calm.pure _ _
    change (w'.store.row record.session_id).map SessionRecord.sequence_head =
      some record.sequence_head
    rw [hsane.indexed.rows _ _ hrow, hrow]
    rfl

theorem usable_after [LawfulStdlib Uuid] (hsane : Sane w) (h : Usable w.store)
    {call : SessionCall Uuid} (hharmless : Harmless w call) :
    Usable (run perform call.task w).2.store := by
  cases call with
  | runtime call =>
    rw [runtime_call_store]
    cases call with
    | open_session runtime request started_at generated gate =>
      exact usable_open_session hsane h request started_at generated gate
    | append_event runtime request started_at =>
      exact usable_update hsane h (.append_event request) hharmless
    | record_lifecycle runtime request started_at =>
      exact usable_update hsane h (.record_lifecycle request) hharmless
    | record_context runtime request started_at =>
      exact usable_update hsane h (.record_context request) hharmless
    | record_correlation runtime request started_at =>
      exact usable_update hsane h (.record_correlation request) hharmless
  | merge call => exact h.kept (calm_merge_call hsane hharmless)
  | amend session_id amendment => exact h.kept (calm_amend hsane session_id amendment)

/-! ### What a usable ledger is good for -/

/-- The stored ledgers of a world are whole, read back as they were, and take the next event. -/
structure Serves (w : World Uuid) : Prop where
  ids : ∀ id, ∀ e ∈ w.store.log id, e.event_id = derive_event_id id e.sequence
  head : ∀ id row, w.store.row id = some row →
    (w.store.log id).getLast?.map (fun e => (e.sequence : Int)) = some row.sequence_head
  pristine : ∀ (request : ReconstructSessionRequest Uuid) row, request.windowed = false →
    w.store.row request.session_id = some row → row.tenant_id = some request.expected_tenant_id →
    ∃ payload, reconstruct w.store request = .ok payload ∧ payload.status = .pristine
  append : ∀ (runtime : SessionRuntime) (request : AppendEventRequest Uuid) started_at row,
    (w.registries runtime.registry).get? request.session_id = none →
    w.store.row request.session_id = some row → is_terminal row.lifecycle.phase = false →
    request.occurred_at.aware = true → request.idempotency_key ≠ some "" →
    ∃ result, (run perform (RuntimeCall.append_event runtime request started_at).task w).1 =
      .ok result

variable {row : SessionRecord Uuid}

omit [Builtins Uuid] in
theorem last_of_usable (hsane : Sane w) (h : Usable w.store) {id : Uuid}
    (hrow : w.store.row id = some row) :
    (w.store.log id).getLast?.map (fun e => (e.sequence : Int)) = some row.sequence_head := by
  have hhead := h.heads id row hrow
  have hnonneg := (hsane.rows id row hrow).head_nonneg
  have hsequences := hsane.indexed.sequences id
  have hlast : (w.store.log id).getLast?.map SessionEventRecord.sequence =
      some ((w.store.log id).length - 1) := by
    rw [← List.getLast?_map, hsequences, List.getLast?_range, if_neg (by omega)]
  obtain ⟨e, he, heq⟩ := Option.map_eq_some_iff.mp hlast
  rw [he, Option.map_some, heq]
  congr 1
  omega

variable {request : AppendEventRequest Uuid}

omit [DecidableEq Uuid] [Builtins Uuid] in
theorem propose_append_ok (started_at : Instant) (hopen : is_terminal c.lifecycle.phase = false)
    (haware : request.occurred_at.aware = true) (hkey : request.idempotency_key ≠ some "") :
    ∃ p, UpdateCall.propose started_at c (.append_event request) = .ok p := by
  obtain ⟨correlation_id, hcorrelation⟩ := request_correlation_ok request
  have hreject : reject_terminal c = .ok () := by
    unfold reject_terminal
    rw [hopen]
    rfl
  have hrecorded : (Datetime.utc started_at).aware = true := rfl
  obtain ⟨event, hevent⟩ : ∃ event, build_next_event c request.kind request.occurred_at
      (.utc started_at) request.continuity_mode (append_payload request) request.annotation
      correlation_id request.idempotency_key = .ok event := by
    unfold build_next_event build_event SessionTimelineEvent.new
    rw [if_neg (by simp [haware]), if_neg (by simp [hrecorded]), dif_pos haware,
      dif_pos hrecorded, dif_neg hkey]
    exact ⟨_, rfl⟩
  refine ⟨⟨event, c.advanced event.sequence, none⟩, ?_⟩
  unfold UpdateCall.propose
  dsimp only
  rw [hcorrelation, hreject]
  simp only [bind, Except.bind, hevent]
  rfl

omit [Builtins Uuid] in
theorem appends_of_usable [LawfulStdlib Uuid] (hsane : Sane w) (h : Usable w.store)
    {runtime : SessionRuntime} (started_at : Instant)
    (hfresh : (w.registries runtime.registry).get? request.session_id = none)
    (hrow : w.store.row request.session_id = some row)
    (hopen : is_terminal row.lifecycle.phase = false) (haware : request.occurred_at.aware = true)
    (hkey : request.idempotency_key ≠ some "") :
    ∃ result, (run perform ((UpdateCall.append_event request).on runtime started_at).task w).1 =
      .ok result := by
  have hran := ran_update hsane runtime started_at (.append_event request)
  generalize (run perform ((UpdateCall.append_event request).on runtime started_at).task w).1 =
    envelope at hran ⊢
  generalize (run perform ((UpdateCall.append_event request).on runtime started_at).task w).2.store =
    t at hran
  have hvalid := (hsane.rows _ _ hrow).valid
  have hload := record_to_session_valid hvalid
  have hcopy : runtime.copy w request.session_id = .ok (row.load hvalid) := by
    unfold SessionRuntime.copy
    rw [hfresh, hrow]
    exact hload
  cases hran with
  | stopped e hstop =>
    obtain ⟨p, hp⟩ := propose_append_ok (c := row.load hvalid) started_at hopen haware hkey
    exact absurd hp ((hstop _ hcopy).2 p)
  | replayed c event copy keyed => exact ⟨_, rfl⟩
  | recovered c session p copy keyed proposed accepts stale key => exact ⟨_, rfl⟩
  | wrote c p _ _ copy keyed proposed written =>
    cases hcopy.symm.trans copy
    have hown : row.session_id = request.session_id := hsane.indexed.rows _ _ hrow
    have hseen : Seen w.store (UpdateCall.append_event request).session_id (row.load hvalid) :=
      copy_seen hsane hcopy
    have hfree : CorrelationFree w.store p := by
      intro correlation hcorrelation
      rw [propose_append_correlation proposed] at hcorrelation
      cases hcorrelation
    have hhead : AtHead w.store (row.load hvalid) := by
      refine ⟨?_, h.id_free hsane.indexed row.session_id⟩
      change row.sequence_head + 1 = ((w.store.log row.session_id).length : Int)
      rw [hown]
      exact h.heads _ _ hrow
    have haccepts := (accepts_iff hsane hseen keyed proposed).mpr hhead
    have hnewer := (newer_iff hseen proposed).mpr (current_of_fresh hsane hfresh hcopy)
    cases written with
    | taken message htaken => exact absurd hfree htaken
    | refused message _ _ hrefused _ => exact absurd haccepts hrefused
    | half message _ _ stale => exact absurd hnewer stale
    | done => exact ⟨_, rfl⟩

omit [Builtins Uuid] in
theorem serves_of_usable [LawfulStdlib Uuid] (hsane : Sane w) (h : Usable w.store) : Serves w where
  ids := h.ids
  head _ _ hrow := last_of_usable hsane h hrow
  pristine request row hunwindowed hrow htenant := by
    refine reconstruct_pristine hsane.indexed hsane.models h.ids ?_ hunwindowed hrow
      (hsane.rows _ _ hrow).valid (h.heads _ _ hrow) htenant
    intro r hr
    obtain ⟨id, hget⟩ := (Dict.mem_values_iff _ _).mp hr
    exact h.correlations id r hget
  append runtime request started_at row hfresh hrow hopen haware hkey :=
    appends_of_usable hsane h started_at hfresh hrow hopen haware hkey

/-- After every call of a run of harmless calls the ledgers serve. -/
theorem ledgers_serve_along [LawfulStdlib Uuid] {calls : List (SessionCall Uuid)}
    (h : Meets next Harmless World.new calls) :
    Along next (fun _ _ w => Serves w) World.new calls := by
  refine along_when (I := fun w => Sane w ∧ Usable w.store) ?_ ⟨sane_new, usable_new⟩ h
  rintro w call w' ⟨hsane, husable⟩ hharmless hnext
  cases hnext
  have hsane' := sane_after hsane call
  have husable' := usable_after hsane husable hharmless
  exact ⟨⟨hsane', husable'⟩, serves_of_usable hsane' husable'⟩

end

/-! ## A run that is harmless and one that is not -/

/-- A session is opened, another runtime appends to it, and a merge finds no candidate. -/
def harmlessCalls : List (SessionCall String) :=
  [.runtime (sampleOpen 0 "s1"),
    .runtime (.append_event ⟨1⟩ (sampleAppend "s1" .customer_message none) 6),
    .merge (.record_confirmation_sent "s1" "Is this about your order?" ⟨7, 7, 7, "e1"⟩)]

theorem a_merge_without_a_candidate_serves :
    Along next (fun _ _ w => Serves w) World.new harmlessCalls := by
  apply ledgers_serve_along
  intro w hw
  refine ⟨trivial, ?_⟩
  cases hw
  intro w hw
  refine ⟨?_, ?_⟩
  · intro c p hcopy _ _ _ _
    exact current_of_fresh (sane_after sane_new _) (by decide +kernel) hcopy
  · cases hw
    intro w hw
    refine ⟨?_, trivial⟩
    intro r write hrow hwrites
    have hnone : (((run perform (SessionCall.runtime (.append_event ⟨1⟩
        (sampleAppend "s1" .customer_message none) 6)).task
          (run perform (SessionCall.runtime (sampleOpen 0 "s1")).task World.new).2).2.store.row
            "s1").bind (MergeCall.writes · (.record_confirmation_sent "s1"
              "Is this about your order?" ⟨7, 7, 7, "e1"⟩))).isNone = true := by
      decide +kernel
    change InMemorySessionPersistence.row _ "s1" = some r at hrow
    rw [hrow, Option.bind_some, hwrites] at hnone
    cases hnone

def flaggedCalls : List (SessionCall String) :=
  [.runtime (sampleOpen 0 "s1"),
    .merge (.flag_merge_candidate "s1" "s9" "c9" (some "email") none none ⟨7, 7, 7, "e1"⟩)]

/-- The event of the flag is beyond the head of the row. -/
theorem a_flag_leaves_the_head_behind :
    ¬ ∀ calls : List (SessionCall String),
      Along next (fun _ _ w => Serves w) World.new calls := by
  intro h
  obtain ⟨-, hrest⟩ := h flaggedCalls _ rfl
  obtain ⟨hserves, -⟩ := hrest _ rfl
  generalize hw : (run perform (SessionCall.merge (.flag_merge_candidate "s1" "s9" "c9"
    (some "email") none none ⟨7, 7, 7, "e1"⟩)).task
      (run perform (SessionCall.runtime (sampleOpen 0 "s1")).task World.new).2).2 = w at hserves
  have hdiffer : (w.store.row "s1").any fun row =>
      (w.store.log "s1").getLast?.map (fun e => (e.sequence : Int)) ≠ some row.sequence_head := by
    rw [← hw]
    decide +kernel
  obtain ⟨row, hrow, hne⟩ := (Option.any_eq_true _ _).mp hdiffer
  exact (of_decide_eq_true hne) (hserves.head "s1" row hrow)

end operious.session
