-- When the envelope of a call tells what the call did to the store.
import Operious.Session.Alone
import Operious.Session.Writers

namespace operious.session

open awaits InMemorySessionPersistence

variable {Uuid : Type} [DecidableEq Uuid] [Stdlib Uuid]

/-! ## The copy and the store -/

def UpdateCall.correlation_id : UpdateCall Uuid → Option Uuid
  | record_correlation request =>
    (derive_correlation_id request.session_id request.kind.value request.external_id).toOption
  | _ => none

/-- The copy has seen every stored event, and the id of the next one is free. -/
structure AtHead (s : InMemorySessionPersistence Uuid) (c : OperationalSession Uuid) : Prop where
  head : c.sequence_head + 1 = ((s.log c.identity.session_id).length : Int)
  id_free : s.events.get?
    (derive_event_id c.identity.session_id (s.log c.identity.session_id).length) = none

/-- The row was not saved since the copy was read. -/
def Current (s : InMemorySessionPersistence Uuid) (c : OperationalSession Uuid) : Prop :=
  ∃ row, s.row c.identity.session_id = some row ∧ row.revision = c.revision

variable {id : Uuid}

section

variable {w : World Uuid} {c : OperationalSession Uuid} {p : Proposal Uuid}
  {runtime : SessionRuntime} {started_at : Instant} {call : UpdateCall Uuid}

omit [DecidableEq Uuid] in
theorem propose_correlation (h : call.propose started_at c = .ok p) :
    p.correlation.map SessionCorrelation.correlation_id = call.correlation_id := by
  cases call with
  | append_event request =>
    rw [propose_append_correlation h]
    rfl
  | record_lifecycle request =>
    unfold UpdateCall.propose at h
    dsimp only at h
    split at h
    · cases h
    obtain ⟨event, -, h⟩ := bind_eq_ok.mp h
    cases h
    rfl
  | record_context request =>
    obtain ⟨_, -, h⟩ := bind_eq_ok.mp h
    obtain ⟨event, -, h⟩ := bind_eq_ok.mp h
    cases h
    rfl
  | record_correlation request =>
    obtain ⟨_, -, h⟩ := bind_eq_ok.mp h
    obtain ⟨correlation, hcorrelation, h⟩ := bind_eq_ok.mp h
    obtain ⟨event, -, h⟩ := bind_eq_ok.mp h
    cases h
    unfold build_correlation at hcorrelation
    obtain ⟨id, hid, hnew⟩ := bind_eq_ok.mp hcorrelation
    unfold SessionCorrelation.new at hnew
    split at hnew
    · cases hnew
    cases hnew
    exact (congrArg Except.toOption hid).symm

theorem copy_seen (hsane : Sane w) (h : runtime.copy w id = .ok c) : Seen w.store id c := by
  unfold SessionRuntime.copy at h
  split at h
  · rename_i hcached
    cases h
    exact hsane.copies _ _ _ hcached
  · split at h
    · cases h
    · rename_i record hrow
      exact Seen.of_row hsane.indexed hrow (hsane.rows _ _ hrow) h

theorem accepts_iff (hsane : Sane w) (hseen : Seen w.store call.session_id c)
    (hkeyed : call.keyed w = none) (hpropose : call.propose started_at c = .ok p) :
    w.store.Accepts (event_to_record p.event) ↔ AtHead w.store c := by
  obtain ⟨hextends, hkey⟩ := propose_extends hpropose
  have hsession : p.event.session_id = c.identity.session_id := hextends.session_id
  have hnext : next_sequence (w.store.log (event_to_record p.event).session_id) =
      (w.store.log c.identity.session_id).length := by
    rw [hsane.indexed.next_sequence]
    exact congrArg (fun id => (w.store.log id).length) hsession
  have hsequence := hextends.sequence
  constructor
  · intro h
    have hlength : p.event.sequence = (w.store.log c.identity.session_id).length :=
      h.next.trans hnext
    refine ⟨by omega, ?_⟩
    rw [← hlength, ← hsession, ← hextends.event_id]
    exact h.id_free
  · intro h
    have hlength : p.event.sequence = (w.store.log c.identity.session_id).length := by
      have hhead := h.head
      omega
    refine ⟨?_, ?_, hlength.trans hnext.symm⟩
    · have hfree := h.id_free
      rw [← hlength, ← hsession, ← hextends.event_id] at hfree
      exact hfree
    · intro key hkey'
      have hcall : call.key = some key := hkey.symm.trans hkey'
      unfold UpdateCall.keyed at hkeyed
      rw [hcall] at hkeyed
      change w.store.events_by_idempotency_key.get? (p.event.session_id, key) = none
      rw [hsession, hseen.own]
      exact hkeyed

theorem newer_iff (hseen : Seen w.store call.session_id c)
    (hpropose : call.propose started_at c = .ok p) :
    w.store.Newer (session_to_record p.updated) ↔ Current w.store c := by
  have hextends := (propose_extends hpropose).1
  obtain ⟨row, hrow, hle, -⟩ := hseen.row
  have hid : (session_to_record p.updated).session_id = c.identity.session_id :=
    congrArg SessionIdentity.session_id hextends.identity
  have hrevision : (session_to_record p.updated).revision = c.revision + 1 := hextends.revision
  have hrow' : w.store.row c.identity.session_id = some row := by
    rw [hseen.own]
    exact hrow
  constructor
  · intro h
    have hlt := h row (by rw [hid]; exact hrow')
    exact ⟨row, hrow', by omega⟩
  · rintro ⟨row', h, hcurrent⟩ existing hexisting
    rw [hid, h] at hexisting
    cases hexisting
    omega

end

/-! ## The envelope and the ledger -/

/-- What the envelope of a call promises of the store before it and the store after it. -/
structure Faithful (call : UpdateCall Uuid) (s t : InMemorySessionPersistence Uuid)
    (envelope : SessionEnvelope Uuid) : Prop where
  failed : ∀ e, envelope = .error e → Same s t
  appended : ∀ request result, call = .append_event request → envelope = .ok result →
    ∃ event row, result.event = some event ∧
      t.events.get? event.event_id = some (event_to_record event) ∧
      t.row request.session_id = some row ∧ (event.sequence : Int) ≤ row.sequence_head

/-- A call that replays a key finds its event at or below the stored head, and one that comes to its
writes with a copy that has seen every stored event has the row too. A call with a correlation to
save needs both. -/
structure Safe (runtime : SessionRuntime) (started_at : Instant) (call : UpdateCall Uuid)
    (w : World Uuid) : Prop where
  replay : ∀ c e, runtime.copy w call.session_id = .ok c → call.keyed w = some e →
    ∃ row, w.store.row call.session_id = some row ∧ (e.sequence : Int) ≤ row.sequence_head
  update : ∀ c, runtime.copy w call.session_id = .ok c → call.keyed w = none →
    (∃ p, call.propose started_at c = .ok p) → call.correlation_id = none →
    AtHead w.store c → Current w.store c
  correlation : ∀ c id, runtime.copy w call.session_id = .ok c →
    (∃ p, call.propose started_at c = .ok p) → call.correlation_id = some id →
    w.store.correlations.get? id = none → AtHead w.store c ∧ Current w.store c

section

variable {w : World Uuid} {c : OperationalSession Uuid} {p : Proposal Uuid}
  {runtime : SessionRuntime} {started_at : Instant} {call : UpdateCall Uuid}

variable {e : SessionEventRecord Uuid}

omit [DecidableEq Uuid] [Stdlib Uuid] in
theorem append_of_keyed [DecidableEq Uuid] (h : call.keyed w = some e) :
    ∃ request, call = .append_event request := by
  cases call with
  | append_event request => exact ⟨request, rfl⟩
  | record_lifecycle request => cases h
  | record_context request => cases h
  | record_correlation request => cases h

section

omit [Stdlib Uuid]

theorem stored_of_keyed (hsane : Sane w) (h : call.keyed w = some e) :
    w.store.events.get? e.event_id = some e := by
  obtain ⟨key, -, hget⟩ := Option.bind_eq_some_iff.mp h
  have hmem := ((hsane.indexed.keyed _ _ _).mp hget).1
  refine (hsane.indexed.events _ _).mpr ⟨?_, rfl⟩
  rw [hsane.indexed.own _ e hmem]
  exact hmem

theorem Faithful.of_error {s t : InMemorySessionPersistence Uuid} {e : SessionException}
    (h : Same s t) : Faithful call s t (.error e) := by
  refine ⟨fun _ _ => h, ?_⟩
  intro request result _ hok
  cases hok

theorem Faithful.of_ok {s t : InMemorySessionPersistence Uuid} {result : SessionResult Uuid}
    (h : ∀ request result', call = .append_event request →
      (.ok result : SessionEnvelope Uuid) = .ok result' →
      ∃ event row, result'.event = some event ∧
        t.events.get? event.event_id = some (event_to_record event) ∧
        t.row request.session_id = some row ∧ (event.sequence : Int) ≤ row.sequence_head) :
    Faithful call s t (.ok result) := by
  refine ⟨?_, h⟩
  intro e herror
  cases herror

end

theorem faithful_iff_of_stopped {e : SessionException}
    (h : ∀ c, runtime.copy w call.session_id = .ok c → call.keyed w = none ∧
      ∀ p, call.propose started_at c ≠ .ok p) :
    Faithful call w.store w.store (.error e) ↔ Safe runtime started_at call w := by
  constructor
  · intro _
    refine ⟨?_, ?_, ?_⟩
    · intro c e hcopy hkeyed
      rw [(h c hcopy).1] at hkeyed
      cases hkeyed
    · rintro c hcopy - ⟨p, hp⟩
      exact absurd hp ((h c hcopy).2 p)
    · rintro c id hcopy ⟨p, hp⟩
      exact absurd hp ((h c hcopy).2 p)
  · intro _
    exact Faithful.of_error (Same.refl _)

theorem faithful_iff_of_replayed (hsane : Sane w) {event : SessionTimelineEvent Uuid}
    (hcopy : runtime.copy w call.session_id = .ok c)
    (hkeyed : call.keyed w = some (event_to_record event)) :
    Faithful call w.store w.store (.ok ⟨c, some event, none, true⟩) ↔
      Safe runtime started_at call w := by
  obtain ⟨request, rfl⟩ := append_of_keyed hkeyed
  constructor
  · intro h
    obtain ⟨event', row, hevent, -, hrow, hle⟩ := h.appended request _ rfl rfl
    cases hevent
    refine ⟨?_, ?_, ?_⟩
    · intro c' e _ he
      cases hkeyed.symm.trans he
      exact ⟨row, hrow, hle⟩
    · intro c' _ hnone
      cases hkeyed.symm.trans hnone
    · intro c' id _ _ hid
      cases hid
  · intro h
    refine Faithful.of_ok ?_
    intro request' result hrequest hresult
    cases hrequest
    cases hresult
    obtain ⟨row, hrow, hle⟩ := h.replay c _ hcopy hkeyed
    exact ⟨event, row, rfl, stored_of_keyed hsane hkeyed, hrow, hle⟩

omit [Stdlib Uuid] in
theorem not_same_stored {s t : InMemorySessionPersistence Uuid}
    (hlog : t.log e.session_id = s.log e.session_id) : ¬ Same s (t.stored e) := by
  intro h
  have hlength := congrArg List.length (h.log e.session_id)
  rw [log_stored_self, hlog, List.length_append, List.length_singleton] at hlength
  omega

omit [Stdlib Uuid] in
theorem log_with_correlation (s : InMemorySessionPersistence Uuid)
    (correlation : Option (SessionCorrelation Uuid)) (id : Uuid) :
    (with_correlation s correlation).log id = s.log id := by
  cases correlation with
  | none => rfl
  | some correlation => rfl

theorem safe_iff (hcopy : runtime.copy w call.session_id = .ok c) (hkeyed : call.keyed w = none)
    (hpropose : call.propose started_at c = .ok p) :
    Safe runtime started_at call w ↔
      (p.correlation = none → AtHead w.store c → Current w.store c) ∧
        (p.correlation ≠ none → CorrelationFree w.store p →
          AtHead w.store c ∧ Current w.store c) := by
  have hcorrelation := propose_correlation hpropose
  constructor
  · intro h
    constructor
    · intro hnone
      rw [hnone] at hcorrelation
      exact h.update c hcopy hkeyed ⟨p, hpropose⟩ hcorrelation.symm
    · intro hsome hfree
      obtain ⟨correlation, hp⟩ := Option.ne_none_iff_exists'.mp hsome
      rw [hp] at hcorrelation
      exact h.correlation c _ hcopy ⟨p, hpropose⟩ hcorrelation.symm (hfree correlation hp)
  · rintro ⟨hnone, hsome⟩
    refine ⟨?_, ?_, ?_⟩
    · intro c' e _ he
      cases hkeyed.symm.trans he
    · rintro c' hcopy' - - hid
      cases hcopy.symm.trans hcopy'
      rw [hid] at hcorrelation
      exact hnone (Option.map_eq_none_iff.mp hcorrelation)
    · rintro c' id hcopy' - hid hfree
      cases hcopy.symm.trans hcopy'
      rw [hid] at hcorrelation
      obtain ⟨correlation, hp, rfl⟩ := Option.map_eq_some_iff.mp hcorrelation
      refine hsome (by rw [hp]; simp) fun correlation' hp' => ?_
      cases hp.symm.trans hp'
      exact hfree

theorem faithful_iff_of_written (hsane : Sane w) {envelope : SessionEnvelope Uuid}
    {t : InMemorySessionPersistence Uuid} (hcopy : runtime.copy w call.session_id = .ok c)
    (hkeyed : call.keyed w = none) (hpropose : call.propose started_at c = .ok p)
    (hwritten : Written w.store p envelope t) :
    Faithful call w.store t envelope ↔ Safe runtime started_at call w := by
  have hseen := copy_seen hsane hcopy
  have haccepts := accepts_iff hsane hseen hkeyed hpropose
  have hnewer := newer_iff hseen hpropose
  rw [safe_iff hcopy hkeyed hpropose]
  cases hwritten with
  | taken message htaken =>
    refine ⟨fun _ => ⟨fun hnone => ?_, fun _ hfree => absurd hfree htaken⟩, fun _ => ?_⟩
    · exact absurd (fun _ hp => by rw [hnone] at hp; cases hp) htaken
    · exact Faithful.of_error (Same.refl _)
  | refused message _ free h same =>
    rw [haccepts] at h
    constructor
    · intro hfaithful
      refine ⟨fun _ hhead => absurd hhead h, fun hsome _ => ?_⟩
      -- the correlation has stayed
      obtain ⟨correlation, hp⟩ := Option.ne_none_iff_exists'.mp hsome
      have hsame := (hfaithful.failed _ rfl).correlations
      rw [same.correlations, hp] at hsame
      have hget := congrArg (fun d => d.get? correlation.correlation_id) hsame
      rw [free correlation hp] at hget
      simp [with_correlation] at hget
    · rintro ⟨-, hsome⟩
      have hnone : p.correlation = none := by
        by_contra hne
        exact h (hsome hne free).1
      rw [hnone] at same
      exact Faithful.of_error same
  | half message free accepts stale =>
    rw [haccepts] at accepts
    rw [hnewer] at stale
    constructor
    · intro hfaithful
      exact absurd (hfaithful.failed _ rfl) (not_same_stored (log_with_correlation _ _ _))
    · rintro ⟨hnone, hsome⟩
      refine absurd ?_ stale
      by_cases hp : p.correlation = none
      · exact hnone hp accepts
      · exact (hsome hp free).2
  | done free accepts newer =>
    rw [haccepts] at accepts
    rw [hnewer] at newer
    refine ⟨fun _ => ⟨fun _ _ => newer, fun _ _ => ⟨accepts, newer⟩⟩, fun _ => ?_⟩
    refine Faithful.of_ok ?_
    intro request result hrequest hresult
    subst hrequest
    cases hresult
    have hextends := (propose_extends hpropose).1
    have hid : (session_to_record p.updated).session_id = request.session_id := by
      have hown : c.identity.session_id = request.session_id := hseen.own
      rw [← hown]
      exact congrArg SessionIdentity.session_id hextends.identity
    refine ⟨p.event, session_to_record p.updated, rfl, Dict.get?_set_self _ _ _, ?_,
      hextends.head.symm.le⟩
    rw [← hid]
    exact row_saved_self _ _

theorem faithful_iff_of_recovered (hsane : Sane w) {session : OperationalSession Uuid}
    (hcopy : runtime.copy w call.session_id = .ok c) (hkeyed : call.keyed w = none)
    (hpropose : call.propose started_at c = .ok p)
    (haccepts : w.store.Accepts (event_to_record p.event))
    (hstale : ¬ w.store.Newer (session_to_record p.updated)) (hkey : call.key ≠ none) :
    Faithful call w.store (w.store.stored (event_to_record p.event))
        (.ok ⟨session, some p.event, none, true⟩) ↔
      Safe runtime started_at call w := by
  have hseen := copy_seen hsane hcopy
  rw [accepts_iff hsane hseen hkeyed hpropose] at haccepts
  rw [newer_iff hseen hpropose] at hstale
  have hextends := (propose_extends hpropose).1
  obtain ⟨request, rfl⟩ : ∃ request, call = .append_event request := by
    cases call with
    | append_event request => exact ⟨request, rfl⟩
    | record_lifecycle request => exact absurd rfl hkey
    | record_context request => exact absurd rfl hkey
    | record_correlation request => exact absurd rfl hkey
  constructor
  · intro hfaithful
    obtain ⟨event, row, hevent, -, hrow, hle⟩ := hfaithful.appended request _ rfl rfl
    cases hevent
    -- no row has a head beyond the events that were there before
    have hown : c.identity.session_id = request.session_id := hseen.own
    have hlt := (hsane.rows _ row hrow).head_lt
    rw [hsane.indexed.rows _ row hrow] at hlt
    have hhead := haccepts.head
    rw [hown] at hhead
    have hsequence := hextends.sequence
    have hnonneg := hseen.head
    omega
  · intro hsafe
    rw [safe_iff hcopy hkeyed hpropose] at hsafe
    exact absurd (hsafe.1 (propose_append_correlation hpropose) haccepts) hstale

end

variable [Builtins Uuid]

/-- In every store that runtimes and other writers share, the envelope of a call that runs alone tells
what the call did exactly when the call is safe. -/
theorem envelope_tells_iff {p : SharedPool Uuid} (h : p.Reached) (runtime : SessionRuntime)
    (started_at : Instant) (call : UpdateCall Uuid) :
    Faithful call p.world.store (run perform (call.on runtime started_at).task p.world).2.store
        (run perform (call.on runtime started_at).task p.world).1 ↔
      Safe runtime started_at call p.world := by
  have hsane := h.sane
  have hran := ran_update hsane runtime started_at call
  generalize (run perform (call.on runtime started_at).task p.world).1 = envelope at hran ⊢
  generalize (run perform (call.on runtime started_at).task p.world).2.store = t at hran ⊢
  cases hran with
  | stopped e hstop => exact faithful_iff_of_stopped hstop
  | replayed c event copy keyed => exact faithful_iff_of_replayed hsane copy keyed
  | wrote c proposal _ _ copy keyed proposed written =>
    exact faithful_iff_of_written hsane copy keyed proposed written
  | recovered c session proposal copy keyed proposed accepts stale key =>
    exact faithful_iff_of_recovered hsane copy keyed proposed accepts stale key

/-! ## A stale copy and a fresh one -/

omit [Builtins Uuid] in
theorem current_of_fresh {w : World Uuid} {runtime : SessionRuntime} {c : OperationalSession Uuid}
    (hsane : Sane w) (hfresh : (w.registries runtime.registry).get? id = none)
    (h : runtime.copy w id = .ok c) : Current w.store c := by
  have hown := (copy_seen hsane h).own
  unfold SessionRuntime.copy at h
  rw [hfresh] at h
  cases hrow : w.store.row id with
  | none =>
    rw [hrow] at h
    cases h
  | some row =>
    rw [hrow] at h
    have hload : record_to_session row = .ok c := h
    refine ⟨row, by rw [hown]; exact hrow, ?_⟩
    exact (congrArg SessionRecord.revision (session_to_record_of_record_to_session hload)).symm

/-- A runtime opens a session and goes on holding it as it was, and another one appends to it. -/
def stalePool : SharedPool String :=
  SharedPool.alone (SharedPool.alone (Pool.idle World.new) 0 (.runtime (sampleOpen 0 "s1"))) 1
    (.runtime (.append_event ⟨1⟩ (sampleAppend "s1" .customer_message none) 6))

theorem stalePool_reached : stalePool.Reached :=
  SharedPool.Reached.alone (SharedPool.Reached.alone Relation.ReflTransGen.refl _ rfl) _ rfl

theorem a_fresh_runtime_tells :
    Faithful (.record_lifecycle ⟨"s1", .terminated, none, none⟩) stalePool.world.store
      (run perform ((UpdateCall.record_lifecycle ⟨"s1", .terminated, none, none⟩).on ⟨2⟩ 7).task
        stalePool.world).2.store
      (run perform ((UpdateCall.record_lifecycle ⟨"s1", .terminated, none, none⟩).on ⟨2⟩ 7).task
        stalePool.world).1 := by
  refine (envelope_tells_iff stalePool_reached ⟨2⟩ 7 _).mpr ⟨?_, ?_, ?_⟩
  · intro c e _ hkeyed
    cases hkeyed
  · intro c hcopy _ _ _ _
    exact current_of_fresh stalePool_reached.sane (by decide +kernel) hcopy
  · intro c id _ _ hid
    cases hid

/-- The runtime that holds the old copy saves its correlation and then fails. -/
theorem a_failed_call_leaves_a_correlation :
    ¬ ∀ p : SharedPool String, p.Reached → ∀ runtime started_at (call : UpdateCall String),
      Faithful call p.world.store (run perform (call.on runtime started_at).task p.world).2.store
        (run perform (call.on runtime started_at).task p.world).1 := by
  intro h
  have hfaithful := h stalePool stalePool_reached ⟨0⟩ 7
    (.record_correlation ⟨"s1", .policy, "case-9", none, none, Dict.empty, none⟩)
  have hfailed : (run perform ((UpdateCall.record_correlation
      ⟨"s1", .policy, "case-9", none, none, Dict.empty, none⟩).on ⟨0⟩ 7).task
        stalePool.world).1.toOption.isNone = true := by decide +kernel
  have hleft : (run perform ((UpdateCall.record_correlation
      ⟨"s1", .policy, "case-9", none, none, Dict.empty, none⟩).on ⟨0⟩ 7).task
        stalePool.world).2.store.correlations.items.length ≠
      stalePool.world.store.correlations.items.length := by decide +kernel
  cases henvelope : (run perform ((UpdateCall.record_correlation
      ⟨"s1", .policy, "case-9", none, none, Dict.empty, none⟩).on ⟨0⟩ 7).task
        stalePool.world).1 with
  | ok result =>
    rw [henvelope] at hfailed
    cases hfailed
  | error e =>
    have hsame := hfaithful.failed e henvelope
    rw [hsame.correlations] at hleft
    exact hleft rfl

end operious.session
