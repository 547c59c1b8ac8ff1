-- What a runtime writes: one event that follows the session it works on, and then that session with
-- what the event changes. A proof about all runtimes needs to look at these two writes only.
import Operious.Session.Runtime

namespace operious.session

open awaits InMemorySessionPersistence

variable {Uuid : Type}

/-! ## Reading events back -/

def isLifecycleKind (kind : SessionEventKind) : Bool :=
  kind ∈ [SessionEventKind.lifecycle_reclassified, .dormancy_recorded, .resumption_recorded,
    .termination_recorded, .archival_recorded]

/-- `append_event` takes any kind, and leaves this key in the payload of each of its events. -/
def isAppended (e : SessionEventRecord Uuid) : Bool :=
  (e.payload.get? "external_correlation_id").isSome

/-- The events that `record_lifecycle` writes. -/
def recorded_lifecycle (e : SessionEventRecord Uuid) : Bool :=
  isLifecycleKind e.kind && !isAppended e

/-- The events that `record_context` writes. -/
def recorded_context (e : SessionEventRecord Uuid) : Bool :=
  e.kind = .context_attached && !isAppended e

def new_phase? (e : SessionEventRecord Uuid) : Option String :=
  (e.payload.get? "new_phase").bind PayloadValue.text?

structure HoldsContext (e : SessionEventRecord Uuid) (record : SessionRecord Uuid) : Prop where
  environment : e.payload.get? "environment" = some (.ofOption record.context_environment)
  labels : e.payload.get? "labels" = some (.list (record.context_labels.map .str))
  attributes : e.payload.get? "attributes" =
    some (canonicalize_payload (.dict record.context_attributes.items))
  notes : e.payload.get? "notes" = some (.ofOption record.context_notes)

structure SameContext (r r' : SessionRecord Uuid) : Prop where
  environment : r'.context_environment = r.context_environment
  labels : r'.context_labels = r.context_labels
  attributes : r'.context_attributes = r.context_attributes
  notes : r'.context_notes = r.context_notes

theorem SameContext.refl (r : SessionRecord Uuid) : SameContext r r := ⟨rfl, rfl, rfl, rfl⟩

theorem SameContext.trans {a b c : SessionRecord Uuid} (h : SameContext a b)
    (h' : SameContext b c) : SameContext a c :=
  ⟨h'.environment.trans h.environment, h'.labels.trans h.labels,
    h'.attributes.trans h.attributes, h'.notes.trans h.notes⟩

theorem HoldsContext.same {e : SessionEventRecord Uuid} {r r' : SessionRecord Uuid}
    (h : HoldsContext e r) (hr : SameContext r r') : HoldsContext e r' := by
  constructor
  · rw [hr.environment]
    exact h.environment
  · rw [hr.labels]
    exact h.labels
  · rw [hr.attributes]
    exact h.attributes
  · rw [hr.notes]
    exact h.notes

/-! ## The events that are built -/

theorem canonicalizeList_map_str (labels : List String) :
    canonicalizeList (labels.map PayloadValue.str) = labels.map PayloadValue.str := by
  induction labels with
  | nil => rfl
  | cons l ls ih => simp only [List.map_cons, canonicalizeList, canonicalize_payload, ih]

@[simp] theorem canonicalize_ofOption (s : Option String) :
    canonicalize_payload (.ofOption s) = .ofOption s := by
  cases s <;> rfl

theorem get?_event_payload (payload : Payload) {key : String} (h : key ≠ "_schema_version") :
    (canonicalize_attributes ((Dict.ofList [("_schema_version", .str "1")]).update
      (canonicalize_attributes payload).items)).get? key =
        (payload.get? key).map canonicalize_payload := by
  have hschema : (Dict.ofList [("_schema_version", PayloadValue.str "1")]).get? key = none := by
    rw [Dict.get?_ofList (by simp)]
    simp [Dict.find, Ne.symm h]
  have hget : Dict.find key (canonicalize_attributes payload).items =
      (payload.get? key).map canonicalize_payload := get?_canonicalize_attributes payload key
  rw [get?_canonicalize_attributes, Dict.get?_update _ (canonicalize_attributes payload).distinct,
    hschema, hget]
  cases payload.get? key with
  | none => rfl
  | some v => simp [canonicalize_idem]

variable {kind : SessionEventKind} {payload : Payload} {occurred_at recorded_at : Datetime}
  {mode : SessionContinuityMode} {correlation_id : Option Uuid}

variable {event : SessionTimelineEvent Uuid}

theorem SessionTimelineEvent.new_eq_ok {event_id session_id : Uuid} {sequence : Nat}
    { annotation key : Option String}
    (h : SessionTimelineEvent.new event_id session_id sequence kind mode occurred_at recorded_at
      payload correlation_id annotation key = .ok event) :
    event_to_record event = ⟨event_id, session_id, sequence, kind, mode, occurred_at, recorded_at,
      payload, correlation_id, annotation, key⟩ := by
  apply event_to_record_of_model
  exact h

section

variable [Stdlib Uuid]

structure Follows (session : OperationalSession Uuid) (kind : SessionEventKind)
    (payload : Payload) (key : Option String) (event : SessionTimelineEvent Uuid) : Prop where
  sequence : (event.sequence : Int) = session.sequence_head + 1
  session_id : event.session_id = session.identity.session_id
  event_id : event.event_id = derive_event_id event.session_id event.sequence
  kind_eq : event.kind = kind
  key_eq : event.idempotency_key = key
  get? : ∀ name, name ≠ "_schema_version" →
    event.payload.get? name = (payload.get? name).map canonicalize_payload

variable {key : Option String}

theorem build_next_event_follows {session : OperationalSession Uuid} { annotation : Option String}
    (h : build_next_event session kind occurred_at recorded_at mode payload annotation
      correlation_id key = .ok event) : Follows session kind payload key event := by
  unfold build_next_event at h
  split at h
  · cases h
  split at h
  · cases h
  have hrecord := SessionTimelineEvent.new_eq_ok h
  have hsequence : event.sequence = (session.sequence_head + 1).toNat :=
    congrArg SessionEventRecord.sequence hrecord
  have hsession : event.session_id = session.identity.session_id :=
    congrArg SessionEventRecord.session_id hrecord
  have hpayload := congrArg SessionEventRecord.payload hrecord
  have hge := session.head_ge
  constructor
  · rw [hsequence]
    omega
  · exact hsession
  · rw [hsession, hsequence]
    exact congrArg SessionEventRecord.event_id hrecord
  · exact congrArg SessionEventRecord.kind hrecord
  · exact congrArg SessionEventRecord.idempotency_key hrecord
  · intro name hname
    rw [← get?_event_payload payload hname]
    exact congrArg (Dict.get? · name) hpayload

/-! ## The update that goes with an event -/

/-- `updated` is the session after the event: one revision later, and with the phase or the
context of the event when the event is about one. -/
structure Extends (session : OperationalSession Uuid) (event : SessionTimelineEvent Uuid)
    (updated : OperationalSession Uuid) : Prop where
  identity : updated.identity = session.identity
  opened_at : updated.opened_at = session.opened_at
  lineage : updated.lineage = session.lineage
  sequence : (event.sequence : Int) = session.sequence_head + 1
  head : updated.sequence_head = event.sequence
  revision : updated.revision = session.revision + 1
  session_id : event.session_id = session.identity.session_id
  event_id : event.event_id = derive_event_id event.session_id event.sequence
  phase : recorded_lifecycle (event_to_record event) = true →
    new_phase? (event_to_record event) = some updated.lifecycle.phase.value
  same_phase : recorded_lifecycle (event_to_record event) = false →
    updated.lifecycle.phase = session.lifecycle.phase
  context : recorded_context (event_to_record event) = true →
    HoldsContext (event_to_record event) (session_to_record updated)
  same_context : recorded_context (event_to_record event) = false →
    updated.context = session.context
  terminal : is_terminal session.lifecycle.phase = true →
    recorded_lifecycle (event_to_record event) = true ∧
      updated.lifecycle.phase = session.lifecycle.phase

variable {session : OperationalSession Uuid} {event : SessionTimelineEvent Uuid}

section

omit [Stdlib Uuid]

theorem next_phase_isLifecycleKind (current proposed : SessionLifecyclePhase) :
    isLifecycleKind (next_phase_classification current proposed) = true := by
  cases current <;> cases proposed <;> rfl

theorem next_phase_ne_context (current proposed : SessionLifecyclePhase) :
    next_phase_classification current proposed ≠ .context_attached := by
  cases current <;> cases proposed <;> decide

theorem reject_terminal_eq_ok (h : reject_terminal session = .ok ()) :
    is_terminal session.lifecycle.phase = false := by
  unfold reject_terminal at h
  split at h
  · cases h
  · simpa using ‹¬ is_terminal session.lifecycle.phase = true›

end

theorem extends_advanced (h : Follows session kind payload key event)
    (hopen : is_terminal session.lifecycle.phase = false)
    (hother : isAppended (event_to_record event) = true ∨ kind = .correlation_recorded) :
    Extends session event (session.advanced event.sequence) := by
  have hlifecycle : recorded_lifecycle (event_to_record event) = false := by
    unfold recorded_lifecycle
    rcases hother with happended | hkind
    · simp [happended]
    · simp [event_to_record, h.kind_eq, hkind, isLifecycleKind]
  have hcontext : recorded_context (event_to_record event) = false := by
    unfold recorded_context
    rcases hother with happended | hkind
    · simp [happended]
    · simp [event_to_record, h.kind_eq, hkind]
  exact
    { identity := rfl
      opened_at := rfl
      lineage := rfl
      sequence := h.sequence
      head := rfl
      revision := rfl
      session_id := h.session_id
      event_id := h.event_id
      phase := fun hrec => by rw [hlifecycle] at hrec; cases hrec
      same_phase := fun _ => rfl
      context := fun hrec => by rw [hcontext] at hrec; cases hrec
      same_context := fun _ => rfl
      terminal := fun hterminal => by rw [hopen] at hterminal; cases hterminal }

theorem isAppended_of_follows {request : AppendEventRequest Uuid}
    (h : Follows session kind (append_payload request) key event) :
    isAppended (event_to_record event) = true := by
  unfold isAppended
  have hget : (event_to_record event).payload.get? "external_correlation_id" = _ :=
    h.get? "external_correlation_id" (by decide)
  rw [hget]
  simp [append_payload]

theorem extends_lifecycle {proposed : SessionLifecyclePhase} {reason : Option String}
    {recorded_at : Datetime}
    (h : Follows session (next_phase_classification session.lifecycle.phase proposed)
      (lifecycle_payload session.lifecycle.phase proposed reason) none event)
    (hallowed : ¬ (is_terminal session.lifecycle.phase = true ∧
      proposed ≠ session.lifecycle.phase)) :
    Extends session event
      { session.advanced event.sequence with lifecycle := ⟨proposed, recorded_at, reason⟩ } := by
  have happended : isAppended (event_to_record event) = false := by
    unfold isAppended
    have hget : (event_to_record event).payload.get? "external_correlation_id" = _ :=
      h.get? "external_correlation_id" (by decide)
    rw [hget, lifecycle_payload, Dict.get?_ofList (by simp)]
    rfl
  have hlifecycle : recorded_lifecycle (event_to_record event) = true := by
    unfold recorded_lifecycle
    rw [happended, show (event_to_record event).kind = _ from h.kind_eq,
      next_phase_isLifecycleKind]
    rfl
  have hcontext : recorded_context (event_to_record event) = false := by
    unfold recorded_context
    rw [show (event_to_record event).kind = _ from h.kind_eq]
    simp [next_phase_ne_context]
  have hphase : new_phase? (event_to_record event) = some proposed.value := by
    unfold new_phase?
    have hget : (event_to_record event).payload.get? "new_phase" = _ :=
      h.get? "new_phase" (by decide)
    rw [hget, lifecycle_payload, Dict.get?_ofList (by simp)]
    rfl
  exact
    { identity := rfl
      opened_at := rfl
      lineage := rfl
      sequence := h.sequence
      head := rfl
      revision := rfl
      session_id := h.session_id
      event_id := h.event_id
      phase := fun _ => hphase
      same_phase := fun hrec => by rw [hlifecycle] at hrec; cases hrec
      context := fun hrec => by rw [hcontext] at hrec; cases hrec
      same_context := fun _ => rfl
      terminal := fun hterminal =>
        ⟨hlifecycle, not_not.mp fun hne => hallowed ⟨hterminal, hne⟩⟩ }

theorem extends_context {context : SessionContext}
    (h : Follows session .context_attached (context_payload context) none event)
    (hopen : is_terminal session.lifecycle.phase = false) :
    Extends session event
      { session.advanced event.sequence with context := some context } := by
  have happended : isAppended (event_to_record event) = false := by
    unfold isAppended
    have hget : (event_to_record event).payload.get? "external_correlation_id" = _ :=
      h.get? "external_correlation_id" (by decide)
    rw [hget, context_payload, Dict.get?_ofList (by simp)]
    rfl
  have hlifecycle : recorded_lifecycle (event_to_record event) = false := by
    unfold recorded_lifecycle
    rw [show (event_to_record event).kind = _ from h.kind_eq]
    rfl
  have hcontext : recorded_context (event_to_record event) = true := by
    unfold recorded_context
    rw [happended, show (event_to_record event).kind = _ from h.kind_eq]
    rfl
  have hget (name : String) (hname : name ≠ "_schema_version") :
      (event_to_record event).payload.get? name =
        ((context_payload context).get? name).map canonicalize_payload := h.get? name hname
  refine
    { identity := rfl
      opened_at := rfl
      lineage := rfl
      sequence := h.sequence
      head := rfl
      revision := rfl
      session_id := h.session_id
      event_id := h.event_id
      phase := fun hrec => by rw [hlifecycle] at hrec; cases hrec
      same_phase := fun _ => rfl
      context := fun _ => ?_
      same_context := fun hrec => by rw [hcontext] at hrec; cases hrec
      terminal := fun hterminal => by rw [hopen] at hterminal; cases hterminal }
  constructor
  · rw [hget _ (by decide), context_payload, Dict.get?_ofList (by simp)]
    exact congrArg some (canonicalize_ofOption _)
  · rw [hget _ (by decide), context_payload, Dict.get?_ofList (by simp)]
    exact congrArg (fun l => some (PayloadValue.list l)) (canonicalizeList_map_str _)
  · rw [hget _ (by decide), context_payload, Dict.get?_ofList (by simp)]
    rfl
  · rw [hget _ (by decide), context_payload, Dict.get?_ofList (by simp)]
    exact congrArg some (canonicalize_ofOption _)

end

end operious.session
