-- The session runtime: a ledger that any number of runtimes append to, each with its own registry.
-- Every exception of a method is folded onto its envelope.
import Operious.Session.Calls

namespace operious.session

open awaits

/-! ## Lifecycle -/

/-- `LIFECYCLE_PHASES_TERMINAL`. -/
def is_terminal (phase : SessionLifecyclePhase) : Bool :=
  phase = .terminated ∨ phase = .archived

def next_phase_classification (current proposed : SessionLifecyclePhase) : SessionEventKind :=
  if proposed = .dormant then .dormancy_recorded
  else if current = .dormant ∧ proposed = .active then .resumption_recorded
  else if proposed = .terminated then .termination_recorded
  else if proposed = .archived then .archival_recorded
  else .lifecycle_reclassified

/-! ## Requests -/

section

variable (Uuid : Type)

/-- The tenant that a typed authority names, if any. -/
structure AuthorityContext where
  tenant_id : Option String

structure OpenSessionRequest where
  scope : SessionScope
  external_handle : String
  tenant_id : Option String
  principal_id : Option String
  parent_session_id : Option Uuid
  context : Option SessionContext
  opened_at_override : Option Datetime
  session_id_override : Option Uuid
  authority : Option AuthorityContext

structure AppendEventRequest where
  session_id : Uuid
  kind : SessionEventKind
  occurred_at : Datetime
  continuity_mode : SessionContinuityMode
  payload : Payload
  annotation : Option String
  external_correlation_id : Option String
  correlation_id : Option String
  idempotency_key : Option String

structure RecordLifecycleRequest where
  session_id : Uuid
  phase : SessionLifecyclePhase
  reason : Option String
  recorded_at : Option Datetime

structure RecordContextRequest where
  session_id : Uuid
  context : SessionContext
  recorded_at : Option Datetime

structure RecordCorrelationRequest where
  session_id : Uuid
  kind : SessionCorrelationKind
  external_id : String
  external_correlation_id : Option String
  annotation : Option String
  attributes : Payload
  recorded_at : Option Datetime

/-- The verdict of the capability gate, and where it came from. -/
structure CapabilityGateOutcome where
  denial : Option String
  decision_id : Option Uuid
  chain_id : Option String

/-- What an envelope carries when it is ok. -/
structure SessionResult where
  session : OperationalSession Uuid
  event : Option (SessionTimelineEvent Uuid)
  correlation : Option (SessionCorrelation Uuid)
  idempotent_replay : Bool

/-- The error of a failed envelope, or what an envelope that is ok carries. -/
abbrev SessionEnvelope := Except SessionException (SessionResult Uuid)

end

variable {Uuid : Type}

/-! ## Events and updates -/

/-- `dataclasses.replace(session, sequence_head=sequence, revision=revision + 1)`. -/
def OperationalSession.advanced (session : OperationalSession Uuid) (sequence : Nat) :
    OperationalSession Uuid :=
  { session with
    sequence_head := sequence
    revision := session.revision + 1
    head_ge := le_trans (by decide) (Int.natCast_nonneg sequence) }

def build_event [Stdlib Uuid] (session_id : Uuid) (sequence : Nat) (kind : SessionEventKind)
    (continuity_mode : SessionContinuityMode) (occurred_at recorded_at : Datetime)
    (payload : Payload) (correlation_id : Option Uuid) ( annotation idempotency_key : Option String) :
    Except SessionException (SessionTimelineEvent Uuid) :=
  SessionTimelineEvent.new (derive_event_id session_id sequence) session_id sequence kind
    continuity_mode occurred_at recorded_at
    (canonicalize_attributes ((Dict.ofList [("_schema_version", .str "1")]).update payload.items))
    correlation_id annotation idempotency_key

def build_next_event [Stdlib Uuid] (session : OperationalSession Uuid) (kind : SessionEventKind)
    (occurred_at recorded_at : Datetime) (continuity_mode : SessionContinuityMode)
    (payload : Payload) ( annotation : Option String) (correlation_id : Option Uuid)
    (idempotency_key : Option String) : Except SessionException (SessionTimelineEvent Uuid) :=
  if occurred_at.aware = false then
    .error (.validation_error "occurred_at must be timezone-aware")
  else if recorded_at.aware = false then
    .error (.validation_error "recorded_at must be timezone-aware")
  else
    build_event session.identity.session_id (session.sequence_head + 1).toNat kind continuity_mode
      occurred_at recorded_at (canonicalize_attributes payload) correlation_id annotation
      idempotency_key

def reject_terminal (session : OperationalSession Uuid) : Except SessionException Unit :=
  if is_terminal session.lifecycle.phase then
    .error (.lifecycle_error ("session is terminal (" ++ session.lifecycle.phase.value ++
      "); no further appends accepted"))
  else .ok ()

def build_correlation [Stdlib Uuid] (request : RecordCorrelationRequest Uuid)
    (recorded_at : Datetime) : Except SessionException (SessionCorrelation Uuid) := do
  let correlation_id ← derive_correlation_id request.session_id request.kind.value
    request.external_id
  SessionCorrelation.new correlation_id request.session_id request.kind request.external_id
    recorded_at request.external_correlation_id request.annotation
    (canonicalize_attributes request.attributes)

/-! ## Payloads -/

def lifecycle_payload (current proposed : SessionLifecyclePhase) (reason : Option String) :
    Payload :=
  Dict.ofList
    [("previous_phase", .str current.value), ("new_phase", .str proposed.value),
      ("reason", .ofOption reason)]

def context_payload (context : SessionContext) : Payload :=
  Dict.ofList
    [("environment", .ofOption context.environment),
      ("labels", .list (context.labels.map .str)),
      ("attributes", .dict context.attributes.items),
      ("notes", .ofOption context.notes)]

def correlation_payload (request : RecordCorrelationRequest Uuid) : Payload :=
  Dict.ofList
    [("correlation_kind", .str request.kind.value),
      ("external_id", .str request.external_id),
      ("external_correlation_id", .ofOption request.external_correlation_id),
      ("annotation", .ofOption request.annotation),
      ("attributes", .dict request.attributes.items)]

/-- The payload of an appended event: the caller's, with the external correlation over it. -/
def append_payload (request : AppendEventRequest Uuid) : Payload :=
  request.payload.set "external_correlation_id" (.ofOption request.external_correlation_id)

/-! ## Opening a session -/

section

variable [Stdlib Uuid]

/-- `resolve_authority`: the tenant that a request acts for, and which field named it. -/
def resolve_authority (request : OpenSessionRequest Uuid) : Option String × String :=
  match request.authority.bind AuthorityContext.tenant_id with
  | some tenant => (some tenant, "typed_authority")
  | none =>
    match request.tenant_id with
    | some tenant => (some tenant, "legacy_tenant")
    | none => (none, "none")

/-- `generated` is what `generate_session_id` would return. -/
def resolve_open_session_id (request : OpenSessionRequest Uuid) (tenant_id : Option String)
    (generated : Uuid) : Except SessionException Uuid :=
  match request.session_id_override, request.opened_at_override with
  | some session_id, _ => .ok session_id
  | none, some opened_at =>
    derive_session_id request.scope.value tenant_id request.principal_id
      (request.external_handle ++ "|" ++ Stdlib.isoformat Uuid opened_at.instant)
  | none, none => .ok generated

def opened_payload (request : OpenSessionRequest Uuid) (gate : CapabilityGateOutcome Uuid)
    (lineage_depth : Nat) : Payload :=
  Dict.ofList
    [("scope", .str request.scope.value),
      ("external_handle", .str request.external_handle),
      ("tenant_id", .ofOption (resolve_authority request).1),
      ("principal_id", .ofOption request.principal_id),
      ("tenant_authority_source", .str (resolve_authority request).2),
      ("governance_decision_id", .ofOption (gate.decision_id.map Stdlib.str)),
      ("governance_chain_id", .ofOption gate.chain_id),
      ("parent_session_id", .ofOption (request.parent_session_id.map Stdlib.str)),
      ("lineage_depth", .int lineage_depth),
      ("context_present", .bool request.context.isSome)]

end

/-! ## The runtime -/

/-- A runtime works on the shared persistence and on a registry of its own. -/
structure SessionRuntime where
  registry : Nat

namespace SessionRuntime

variable (self : SessionRuntime)

def registry_get (session_id : Uuid) : Coroutine Uuid (Option (OperationalSession Uuid)) :=
  await (.registry_get self.registry session_id)

def registry_register (session : OperationalSession Uuid) : Coroutine Uuid Unit :=
  await (.registry_register self.registry session)

def registry_update (session : OperationalSession Uuid) : Coroutine Uuid Unit :=
  await (.registry_update self.registry session)

variable [DecidableEq Uuid] [Stdlib Uuid]

def not_found (session_id : Uuid) : SessionException :=
  .not_found_error ("unknown session: " ++ Stdlib.str session_id)

def load_session (session_id : Uuid) (expected_tenant_id : Option String) :
    Coroutine Uuid (OperationalSession Uuid) := do
  match ← self.registry_get session_id with
  | some cached =>
    if expected_tenant_id.any fun tenant => cached.identity.tenant_id ≠ some tenant then
      throw (not_found session_id)
    else pure cached
  | none =>
    match ← get_session session_id expected_tenant_id with
    | none => throw (not_found session_id)
    | some record =>
      let session ← compute (record_to_session record)
      swallow (self.registry_register session)
      pure session

def load_persisted_session (session_id : Uuid) (fallback : OperationalSession Uuid) :
    Coroutine Uuid (OperationalSession Uuid) := do
  match ← get_session session_id none with
  | none => pure fallback
  | some record =>
    let session ← compute (record_to_session record)
    swallow (self.registry_update session)
    pure session

def persist_session_update (session : OperationalSession Uuid)
    (event : SessionTimelineEvent Uuid) : Coroutine Uuid Unit := do
  save_event (event_to_record event)
  let _ ← save_session (session_to_record session)
  self.registry_update session

/-! ### `open_session` -/

def build_lineage (session_id : Uuid) (parent_session_id : Option Uuid) :
    Coroutine Uuid (SessionLineage Uuid) :=
  match parent_session_id with
  | some parent_session_id => do
    let parent ← self.load_session parent_session_id none
    compute (build_lineage_for_child session_id parent.lineage)
  | none => pure (build_lineage_for_root session_id)

/-- Saves the session, and its first event unless that is there already. -/
def open_ledger (session : OperationalSession Uuid) (opening_event : SessionTimelineEvent Uuid) :
    Coroutine Uuid (SessionResult Uuid) := do
  let saved_record ← save_session (session_to_record session)
  let saved_session ← compute (record_to_session saved_record)
  match ← get_event opening_event.event_id saved_session.identity.tenant_id with
  | none =>
    save_event (event_to_record opening_event)
    self.registry_register session
    pure ⟨session, none, none, false⟩
  | some _ =>
    self.registry_register saved_session
    pure ⟨saved_session, none, none, false⟩

def open_session (request : OpenSessionRequest Uuid) (started_at : Instant) (generated : Uuid)
    (gate : CapabilityGateOutcome Uuid) : Coroutine Uuid (SessionResult Uuid) := do
  match gate.denial with
  | some reason => throw (.capability_denied reason)
  | none =>
    let tenant_id := (resolve_authority request).1
    let session_id ← compute (resolve_open_session_id request tenant_id generated)
    let opened_at := request.opened_at_override.getD (.utc started_at)
    if opened_at.aware = false then
      throw (.validation_error "open_session.opened_at must be timezone-aware")
    else
      let identity ← compute (SessionIdentity.new session_id request.scope request.external_handle
        tenant_id request.principal_id)
      let lineage ← self.build_lineage session_id request.parent_session_id
      let session ← compute (OperationalSession.new identity opened_at
        ⟨.initiated, opened_at, none⟩ lineage request.context (-1) 0)
      let opening_event ← compute (build_event session_id 0 .session_opened .synchronous opened_at
        (.utc started_at) (opened_payload request gate lineage.depth) none none none)
      self.open_ledger (session.advanced 0) opening_event

/-! ### `append_event` -/

def request_correlation (request : AppendEventRequest Uuid) :
    Except SessionException (Option Uuid) :=
  match request.correlation_id with
  | none => .ok none
  | some correlation =>
    if correlation = "" then .ok none
    else (derive_correlation_id request.session_id "request_correlation" correlation).map some

def find_replay (session_id : Uuid) (idempotency_key : Option String) :
    Coroutine Uuid (Option (SessionEventRecord Uuid)) :=
  match idempotency_key with
  | none => pure none
  | some key => get_event_by_idempotency_key session_id key

/-- What an append does when the store refused it: with a key, it looks for the event of the key. -/
def replay_refused (session_id : Uuid) (idempotency_key : Option String)
    (session : OperationalSession Uuid) (refusal : SessionException) :
    Coroutine Uuid (SessionResult Uuid) := do
  match refusal with
  | .persistence_error _ =>
    match ← find_replay session_id idempotency_key with
    | none => throw refusal
    | some record =>
      let event ← compute (event_record_to_model record)
      let replay_session ← self.load_persisted_session session_id session
      pure ⟨replay_session, some event, none, true⟩
  | _ => throw refusal

def append_generic (request : AppendEventRequest Uuid) (correlation_id : Option Uuid)
    (started_at : Instant) : Coroutine Uuid (SessionResult Uuid) := do
  let session ← self.load_session request.session_id none
  match ← find_replay request.session_id request.idempotency_key with
  | some record =>
    let event ← compute (event_record_to_model record)
    pure ⟨session, some event, none, true⟩
  | none =>
    compute (reject_terminal session)
    let event ← compute (build_next_event session request.kind request.occurred_at
      (.utc started_at) request.continuity_mode (append_payload request) request.annotation
      correlation_id request.idempotency_key)
    let updated_session := session.advanced event.sequence
    tryCatch
      (do
        self.persist_session_update updated_session event
        pure ⟨updated_session, some event, none, false⟩)
      (self.replay_refused request.session_id request.idempotency_key session)

def append_event (request : AppendEventRequest Uuid) (started_at : Instant) :
    Coroutine Uuid (SessionResult Uuid) := do
  let derived_correlation ← compute (request_correlation request)
  self.append_generic request derived_correlation started_at

/-! ### `record_lifecycle` -/

def record_lifecycle (request : RecordLifecycleRequest Uuid) (started_at : Instant) :
    Coroutine Uuid (SessionResult Uuid) := do
  let session ← self.load_session request.session_id none
  let current := session.lifecycle.phase
  let proposed := request.phase
  if is_terminal current ∧ proposed ≠ current then
    throw (.lifecycle_error ("cannot reclassify terminal session (" ++ current.value ++ " → " ++
      proposed.value ++ ")"))
  else
    let recorded_at := request.recorded_at.getD (.utc started_at)
    let event ← compute (build_next_event session (next_phase_classification current proposed)
      recorded_at (.utc started_at) .synchronous
      (lifecycle_payload current proposed request.reason) request.reason none none)
    let updated_session :=
      { session.advanced event.sequence with lifecycle := ⟨proposed, recorded_at, request.reason⟩ }
    self.persist_session_update updated_session event
    pure ⟨updated_session, some event, none, false⟩

/-! ### `record_context` -/

def record_context (request : RecordContextRequest Uuid) (started_at : Instant) :
    Coroutine Uuid (SessionResult Uuid) := do
  let session ← self.load_session request.session_id none
  compute (reject_terminal session)
  let recorded_at := request.recorded_at.getD (.utc started_at)
  let event ← compute (build_next_event session .context_attached recorded_at (.utc started_at)
    .synchronous (context_payload request.context) none none none)
  let updated_session :=
    { session.advanced event.sequence with context := some request.context }
  self.persist_session_update updated_session event
  pure ⟨updated_session, some event, none, false⟩

/-! ### `record_correlation` -/

def record_correlation (request : RecordCorrelationRequest Uuid) (started_at : Instant) :
    Coroutine Uuid (SessionResult Uuid) := do
  let session ← self.load_session request.session_id none
  compute (reject_terminal session)
  let recorded_at := request.recorded_at.getD (.utc started_at)
  let correlation ← compute (build_correlation request recorded_at)
  let event ← compute (build_next_event session .correlation_recorded recorded_at
    (.utc started_at) .synchronous (correlation_payload request) request.annotation
    (some correlation.correlation_id) none)
  let updated_session := session.advanced event.sequence
  save_correlation (correlation_to_record correlation)
  self.persist_session_update updated_session event
  pure ⟨updated_session, some event, some correlation, false⟩

end SessionRuntime

end operious.session
