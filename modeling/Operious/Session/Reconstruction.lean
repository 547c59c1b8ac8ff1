-- The reconstruction of a session from its stored row and events. It only reads.
import Operious.Session.Memory

namespace operious.session

variable {Uuid : Type}

/-! ## Timelines -/

variable {session_id : Uuid}

section

variable [DecidableEq Uuid]

/-- Why events from a place on are no timeline of the session after the sequence `prev`. -/
def timelineError (session_id : Uuid) (index : Nat) (prev : Option Nat) :
    List (SessionTimelineEvent Uuid) → Option String
  | [] => none
  | event :: rest =>
    if event.session_id ≠ session_id then
      some ("timeline event #" ++ index.repr ++ " belongs to a different session")
    else if prev.any fun p => event.sequence ≠ p + 1 then
      some ("timeline event #" ++ index.repr ++ " sequence " ++ event.sequence.repr ++
        " is not contiguous with previous " ++ (prev.getD 0).repr ++
        "; gap or duplicate detected")
    else timelineError session_id (index + 1) (some event.sequence) rest

def expected_head (events : List (SessionTimelineEvent Uuid)) : Int :=
  events.getLast?.elim (-1) fun event => event.sequence

variable (Uuid) in
structure SessionTimeline where
  session_id : Uuid
  events : List (SessionTimelineEvent Uuid)
  head_sequence : Int
  contiguous : timelineError session_id 0 none events = none
  head_eq : head_sequence = expected_head events

def SessionTimeline.length (timeline : SessionTimeline Uuid) : Nat := timeline.events.length

/-- The constructor, with the head that the reconstructor passes. -/
def SessionTimeline.new (session_id : Uuid) (events : List (SessionTimelineEvent Uuid)) :
    Except SessionException (SessionTimeline Uuid) :=
  match h : timelineError session_id 0 none events with
  | some message => .error (.value_error message)
  | none => .ok ⟨session_id, events, expected_head events, h, rfl⟩

theorem SessionTimeline.new_eq_ok {events : List (SessionTimelineEvent Uuid)}
    (h : timelineError session_id 0 none events = none) :
    SessionTimeline.new session_id events =
      .ok ⟨session_id, events, expected_head events, h, rfl⟩ := by
  unfold SessionTimeline.new
  split
  · rename_i message herror
    rw [h] at herror
    cases herror
  · rfl

end

/-! ## The replay of the events -/

section

variable [DecidableEq Uuid] [Stdlib Uuid]

def verify_event_id (event : SessionTimelineEvent Uuid) : Except SessionException Unit :=
  let expected := derive_event_id event.session_id event.sequence
  if expected ≠ event.event_id then
    .error (.reconstruction_error ("event id mismatch at sequence " ++ event.sequence.repr ++
      ": expected=" ++ Stdlib.str expected ++ ", stored=" ++ Stdlib.str event.event_id))
  else .ok ()

/-- The event as a replay tags it. -/
def SessionTimelineEvent.reconstructed (event : SessionTimelineEvent Uuid) :
    SessionTimelineEvent Uuid :=
  { event with
    continuity_mode := .reconstructed
    idempotency_key := none
    key_nonempty := by simp }

def replay_events (prev_sequence : Option Nat) :
    List (SessionEventRecord Uuid) → Except SessionException (List (SessionTimelineEvent Uuid))
  | [] => .ok []
  | record :: rest => do
    let event ← event_record_to_model record
    verify_event_id event
    if prev_sequence.any fun p => event.sequence ≤ p then
      .error (.reconstruction_error ("non-monotonic event sequence during reconstruction: prev=" ++
        (prev_sequence.getD 0).repr ++ ", current=" ++ event.sequence.repr))
    else do
      let events ← replay_events (some event.sequence) rest
      pure (event.reconstructed :: events)

/-! ## The pipeline -/

structure ReconstructSessionRequest (Uuid : Type) where
  session_id : Uuid
  expected_tenant_id : String
  as_of : Option Datetime
  from_sequence : Option Int
  to_sequence : Option Int
  include_lineage : Bool
  include_correlations : Bool

structure ReconstructionPayload (Uuid : Type) [DecidableEq Uuid] where
  status : SessionReconstructionStatus
  session : Option (OperationalSession Uuid)
  timeline : Option (SessionTimeline Uuid)
  lineage : Option (SessionLineage Uuid)
  correlations : List (SessionCorrelation Uuid)
  error : Option String

namespace InMemorySessionPersistence

/-- The order that correlations of one session are listed in. -/
def correlationBefore (a b : SessionCorrelationRecord Uuid) : Bool :=
  let at_ (r : SessionCorrelationRecord Uuid) := Stdlib.isoformat Uuid r.recorded_at.instant
  at_ a < at_ b ∨ (at_ a = at_ b ∧ Stdlib.str a.correlation_id ≤ Stdlib.str b.correlation_id)

def list_correlations (s : InMemorySessionPersistence Uuid) (session_id : Uuid)
    (expected_tenant_id : Option String) : List (SessionCorrelationRecord Uuid) :=
  (s.correlations.values.filter fun r =>
    r.session_id = session_id ∧ s.visible r.session_id expected_tenant_id).insertionSort
      fun a b => correlationBefore a b

end InMemorySessionPersistence

def correlation_record_to_model (record : SessionCorrelationRecord Uuid) :
    Except SessionException (SessionCorrelation Uuid) :=
  SessionCorrelation.new record.correlation_id record.session_id record.kind record.external_id
    record.recorded_at record.external_correlation_id record.annotation record.attributes

variable (s : InMemorySessionPersistence Uuid) (request : ReconstructSessionRequest Uuid)

/-- A naive `as_of` meets an event of the window. Events have aware times, which are not compared
with it. -/
def compares_naive : Bool :=
  request.as_of.any (fun as_of => as_of.aware = false) &&
    (s.log request.session_id).any (InMemorySessionPersistence.SessionEventQuery.keeps
      ⟨request.session_id, request.from_sequence, request.to_sequence, none⟩)

def reconstruct_timeline : Except SessionException (SessionTimeline Uuid) := do
  if compares_naive s request then
    throw (.type_error "can't compare offset-naive and offset-aware datetimes")
  let events ← replay_events none (s.list_events
    ⟨request.session_id, request.from_sequence, request.to_sequence, request.as_of⟩
    (some request.expected_tenant_id))
  SessionTimeline.new request.session_id events

def reconstruct_correlations : Except SessionException (List (SessionCorrelation Uuid)) :=
  if request.include_correlations then
    (s.list_correlations request.session_id (some request.expected_tenant_id)).mapM
      correlation_record_to_model
  else .ok []

def ReconstructSessionRequest.windowed (request : ReconstructSessionRequest Uuid) : Bool :=
  request.as_of.isSome || request.from_sequence.isSome || request.to_sequence.isSome

def reconstruct : Except SessionException (ReconstructionPayload Uuid) := do
  match s.get_session request.session_id (some request.expected_tenant_id) with
  | none => pure ⟨.not_found, none, none, none, [], none⟩
  | some record =>
    let session ← record_to_session record
    let lineage := if request.include_lineage then some session.lineage else none
    match reconstruct_timeline s request with
    | .error (.reconstruction_error message) =>
      pure ⟨.drift_detected, some session, none, lineage, [], some message⟩
    | .error e => .error e
    | .ok timeline =>
      let correlations ← reconstruct_correlations s request
      let is_full :=
        (timeline.length : Int) = session.sequence_head + 1 ∧ request.windowed = false
      pure ⟨if is_full then .pristine else .partly, some session, some timeline, lineage,
        correlations, none⟩

end

/-! ## A ledger that is whole -/

section

variable [DecidableEq Uuid] [Stdlib Uuid]

theorem replay_events_of_counting {l : List (SessionEventRecord Uuid)} (k : Nat) (prev : Option Nat)
    (hmodels : ∀ e ∈ l, ∃ event, event_to_record event = e)
    (hids : ∀ e ∈ l, e.event_id = derive_event_id e.session_id e.sequence)
    (hown : ∀ e ∈ l, e.session_id = session_id)
    (hcount : l.map SessionEventRecord.sequence = List.range' k l.length)
    (hprev : ∀ p, prev = some p → p + 1 = k) :
    ∃ events, replay_events prev l = .ok events ∧ events.length = l.length ∧
      ∀ index, timelineError session_id index prev events = none := by
  induction l generalizing k prev with
  | nil => exact ⟨[], rfl, rfl, fun _ => rfl⟩
  | cons e rest ih =>
    obtain ⟨event, rfl⟩ := hmodels e List.mem_cons_self
    simp only [List.map_cons, List.length_cons, List.range'_succ, List.cons.injEq] at hcount
    obtain ⟨hsequence, hrest⟩ := hcount
    have hsequence : event.sequence = k := hsequence
    obtain ⟨events, hevents, hlength, herror⟩ := ih (k + 1) (some event.sequence)
      (fun e he => hmodels e (List.mem_cons_of_mem _ he))
      (fun e he => hids e (List.mem_cons_of_mem _ he))
      (fun e he => hown e (List.mem_cons_of_mem _ he)) hrest
      (fun p hp => by cases hp; rw [hsequence])
    have hid : event.event_id = derive_event_id event.session_id event.sequence :=
      hids _ List.mem_cons_self
    have hverify : verify_event_id event = .ok () := by
      unfold verify_event_id
      rw [if_neg (not_not.mpr hid.symm)]
    refine ⟨event.reconstructed :: events, ?_, by simp [hlength], fun index => ?_⟩
    · unfold replay_events
      rw [event_record_to_model_to_record]
      simp only [bind, Except.bind, hverify]
      have hfollows : prev.any (fun p => event.sequence ≤ p) = false := by
        cases prev with
        | none => rfl
        | some p =>
          have hp := hprev p rfl
          simp only [Option.any_some, decide_eq_false_iff_not]
          omega
      rw [hfollows]
      simp only [Bool.false_eq_true, if_false, hevents]
      rfl
    · have hsession : event.reconstructed.session_id = session_id :=
        hown _ List.mem_cons_self
      have hfollows : prev.any (fun p => event.reconstructed.sequence ≠ p + 1) = false := by
        cases prev with
        | none => rfl
        | some p =>
          have hp := hprev p rfl
          have hseq : event.reconstructed.sequence = k := hsequence
          simp only [Option.any_some, decide_eq_false_iff_not, not_not]
          omega
      unfold timelineError
      rw [if_neg (not_not.mpr hsession), hfollows]
      exact herror (index + 1)

variable {s : InMemorySessionPersistence Uuid}

omit [Stdlib Uuid] in
theorem list_events_all (hindexed : s.Indexed) {tenant : Option String}
    (hvisible : s.visible session_id tenant = true) :
    s.list_events ⟨session_id, none, none, none⟩ tenant = s.log session_id := by
  unfold InMemorySessionPersistence.list_events
  rw [if_pos hvisible]
  have hfilter : (s.log session_id).filter (InMemorySessionPersistence.SessionEventQuery.keeps
      ⟨session_id, none, none, none⟩) = s.log session_id :=
    List.filter_eq_self.mpr fun _ _ => rfl
  rw [hfilter]
  apply List.Pairwise.insertionSort_eq
  have hsorted : ((s.log session_id).map SessionEventRecord.sequence).Pairwise (· ≤ ·) := by
    rw [hindexed.sequences]
    exact List.pairwise_le_range
  exact List.pairwise_map.mp hsorted

omit [DecidableEq Uuid] [Stdlib Uuid] in
theorem mapM_ok {α β ε : Type} {f : α → Except ε β} {l : List α}
    (h : ∀ a ∈ l, ∃ b, f a = .ok b) : ∃ bs, l.mapM f = .ok bs := by
  induction l with
  | nil => exact ⟨[], rfl⟩
  | cons a rest ih =>
    obtain ⟨b, hb⟩ := h a List.mem_cons_self
    obtain ⟨bs, hbs⟩ := ih fun a ha => h a (List.mem_cons_of_mem _ ha)
    exact ⟨b :: bs, by rw [List.mapM_cons, hb, hbs]; rfl⟩

theorem reconstruct_correlations_ok
    (hcorrelations : ∀ r ∈ s.correlations.values, r.external_id ≠ "")
    (request : ReconstructSessionRequest Uuid) :
    ∃ found, reconstruct_correlations s request = .ok found := by
  unfold reconstruct_correlations
  split
  · apply mapM_ok
    intro r hr
    unfold InMemorySessionPersistence.list_correlations at hr
    have hmem := (List.mem_filter.mp ((List.mem_insertionSort _).mp hr)).1
    exact ⟨_, dif_neg (hcorrelations r hmem)⟩
  · exact ⟨[], rfl⟩

theorem reconstruct_pristine (hindexed : s.Indexed)
    (hmodels : ∀ id, ∀ e ∈ s.log id, ∃ event, event_to_record event = e)
    (hids : ∀ id, ∀ e ∈ s.log id, e.event_id = derive_event_id id e.sequence)
    (hcorrelations : ∀ r ∈ s.correlations.values, r.external_id ≠ "")
    {request : ReconstructSessionRequest Uuid} (hunwindowed : request.windowed = false)
    {row : SessionRecord Uuid} (hrow : s.row request.session_id = some row) (hvalid : row.Valid)
    (hhead : row.sequence_head + 1 = ((s.log request.session_id).length : Int))
    (htenant : row.tenant_id = some request.expected_tenant_id) :
    ∃ payload, reconstruct s request = .ok payload ∧ payload.status = .pristine := by
  have hget : s.get_session request.session_id (some request.expected_tenant_id) = some row := by
    unfold InMemorySessionPersistence.get_session
    rw [show s.sessions.get? request.session_id = some row from hrow]
    simp [htenant]
  have hvisible : s.visible request.session_id (some request.expected_tenant_id) = true := by
    unfold InMemorySessionPersistence.visible
    rw [show s.sessions.get? request.session_id = some row from hrow]
    simp [htenant]
  obtain ⟨session_id, tenant, as_of, from_sequence, to_sequence, lineage, correlations⟩ := request
  unfold ReconstructSessionRequest.windowed at hunwindowed
  simp only [Bool.or_eq_false_iff, Option.isSome_eq_false_iff, Option.isNone_iff_eq_none] at hunwindowed
  obtain ⟨⟨rfl, rfl⟩, rfl⟩ := hunwindowed
  obtain ⟨events, hevents, hlength, herror⟩ := replay_events_of_counting 0 none
    (hmodels session_id)
    (fun e he => by rw [hindexed.own session_id e he]; exact hids session_id e he)
    (hindexed.own session_id)
    (by rw [hindexed.sequences, List.range_eq_range']) (fun p hp => nomatch hp)
  have htimeline : reconstruct_timeline s ⟨session_id, tenant, none, none, none, lineage,
      correlations⟩ = .ok ⟨session_id, events, expected_head events, herror 0, rfl⟩ := by
    unfold reconstruct_timeline
    rw [list_events_all hindexed hvisible, hevents]
    exact SessionTimeline.new_eq_ok (herror 0)
  obtain ⟨found, hfound⟩ := reconstruct_correlations_ok hcorrelations ⟨session_id, tenant, none,
    none, none, lineage, correlations⟩
  refine ⟨⟨.pristine, some (row.load hvalid),
    some ⟨session_id, events, expected_head events, herror 0, rfl⟩,
    if lineage then some (row.load hvalid).lineage else none, found, none⟩, ?_, rfl⟩
  have hfull : (events.length : Int) = (row.load hvalid).sequence_head + 1 := by
    rw [hlength]
    exact hhead.symm
  unfold reconstruct
  rw [hget]
  simp only [record_to_session_valid hvalid, bind, Except.bind, htimeline, hfound]
  rw [if_pos ⟨hfull, rfl⟩]
  rfl

end

end operious.session
