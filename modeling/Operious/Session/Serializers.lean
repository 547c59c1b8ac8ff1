-- The projections between the models of the runtime and the records of persistence. A session keeps
-- neither the metadata nor the customer identity of the record it was read from.
import Operious.Session.Records

namespace operious.session

variable {Uuid : Type}

def session_to_record (session : OperationalSession Uuid) : SessionRecord Uuid where
  session_id := session.identity.session_id
  scope := session.identity.scope
  external_handle := session.identity.external_handle
  tenant_id := session.identity.tenant_id
  principal_id := session.identity.principal_id
  opened_at := session.opened_at
  lifecycle_phase := session.lifecycle.phase
  lifecycle_recorded_at := session.lifecycle.recorded_at
  lifecycle_reason := session.lifecycle.reason
  lineage_id := session.lineage.lineage_id
  root_session_id := session.lineage.root_session_id
  parent_session_id := session.lineage.parent_session_id
  ancestor_session_ids := session.lineage.ancestor_session_ids
  lineage_depth := session.lineage.depth
  sequence_head := session.sequence_head
  revision := session.revision
  context_environment := session.context.bind fun context => context.environment
  context_labels := session.context.elim [] fun context => context.labels
  context_attributes := session.context.elim Dict.empty fun context => context.attributes
  context_notes := session.context.bind fun context => context.notes
  metadata := Dict.empty
  customer_identity_id := none

def SessionRecord.context (record : SessionRecord Uuid) : Option SessionContext :=
  if record.context_environment ≠ none ∨ record.context_labels ≠ [] ∨
      record.context_attributes.items ≠ [] ∨ record.context_notes ≠ none then
    some ⟨record.context_environment, record.context_labels, record.context_attributes,
      record.context_notes⟩
  else none

def SessionRecord.lifecycle (record : SessionRecord Uuid) : SessionLifecycle :=
  ⟨record.lifecycle_phase, record.lifecycle_recorded_at, record.lifecycle_reason⟩

def record_to_session [DecidableEq Uuid] (record : SessionRecord Uuid) :
    Except SessionException (OperationalSession Uuid) := do
  let identity ← SessionIdentity.new record.session_id record.scope record.external_handle
    record.tenant_id record.principal_id
  let lineage ← SessionLineage.new record.lineage_id record.session_id record.root_session_id
    record.parent_session_id record.ancestor_session_ids record.lineage_depth
  OperationalSession.new identity record.opened_at record.lifecycle lineage record.context
    record.sequence_head record.revision

def event_to_record (event : SessionTimelineEvent Uuid) : SessionEventRecord Uuid where
  event_id := event.event_id
  session_id := event.session_id
  sequence := event.sequence
  kind := event.kind
  continuity_mode := event.continuity_mode
  occurred_at := event.occurred_at
  recorded_at := event.recorded_at
  payload := event.payload
  correlation_id := event.correlation_id
  annotation := event.annotation
  idempotency_key := event.idempotency_key

def event_record_to_model (record : SessionEventRecord Uuid) :
    Except SessionException (SessionTimelineEvent Uuid) :=
  SessionTimelineEvent.new record.event_id record.session_id record.sequence record.kind
    record.continuity_mode record.occurred_at record.recorded_at record.payload
    record.correlation_id record.annotation record.idempotency_key

def correlation_to_record (correlation : SessionCorrelation Uuid) :
    SessionCorrelationRecord Uuid where
  correlation_id := correlation.correlation_id
  session_id := correlation.session_id
  kind := correlation.kind
  external_id := correlation.external_id
  recorded_at := correlation.recorded_at
  external_correlation_id := correlation.external_correlation_id
  annotation := correlation.annotation
  attributes := correlation.attributes

/-! ## Records that load -/

/-- What the constructors check of a record. -/
structure SessionRecord.Valid (record : SessionRecord Uuid) : Prop where
  handle_nonempty : record.external_handle ≠ ""
  acyclic : record.session_id ∉ record.ancestor_session_ids
  depth_eq : record.lineage_depth = record.ancestor_session_ids.length
  parent_last : record.parent_session_id ≠ none →
    record.ancestor_session_ids.getLast? = record.parent_session_id
  own_root : record.parent_session_id = none → record.session_id = record.root_session_id
  opened_aware : record.opened_at.aware = true
  head_ge : -1 ≤ record.sequence_head

def SessionRecord.load (record : SessionRecord Uuid) (h : record.Valid) :
    OperationalSession Uuid where
  identity := ⟨record.session_id, record.scope, record.external_handle, record.tenant_id,
    record.principal_id, h.handle_nonempty⟩
  opened_at := record.opened_at
  lifecycle := record.lifecycle
  lineage := ⟨record.lineage_id, record.session_id, record.root_session_id,
    record.parent_session_id, record.ancestor_session_ids, record.lineage_depth, h.acyclic,
    h.depth_eq, h.parent_last, h.own_root⟩
  context := record.context
  sequence_head := record.sequence_head
  revision := record.revision
  opened_aware := h.opened_aware
  head_ge := h.head_ge
  lineage_own := rfl

/-- A record without what a session does not keep. -/
def SessionRecord.forget (record : SessionRecord Uuid) : SessionRecord Uuid :=
  { record with metadata := Dict.empty, customer_identity_id := none }

theorem session_to_record_valid (session : OperationalSession Uuid) :
    (session_to_record session).Valid where
  handle_nonempty := session.identity.handle_nonempty
  acyclic := by
    have h := session.lineage.acyclic
    rw [session.lineage_own] at h
    exact h
  depth_eq := session.lineage.depth_eq
  parent_last := session.lineage.parent_last
  own_root hp := by
    have h := session.lineage.own_root hp
    rw [session.lineage_own] at h
    exact h
  opened_aware := session.opened_aware
  head_ge := session.head_ge

theorem session_to_record_load (record : SessionRecord Uuid) (h : record.Valid) :
    session_to_record (record.load h) = record.forget := by
  unfold session_to_record SessionRecord.load SessionRecord.forget SessionRecord.context
  by_cases hc : record.context_environment ≠ none ∨ record.context_labels ≠ [] ∨
      record.context_attributes.items ≠ [] ∨ record.context_notes ≠ none
  · simp only [if_pos hc, Option.bind_some, Option.elim_some]
    rfl
  · have hempty : record.context_environment = none ∧ record.context_labels = [] ∧
        record.context_attributes.items = [] ∧ record.context_notes = none := by
      simpa only [not_or, not_not] using hc
    obtain ⟨henv, hlabels, hattrs, hnotes⟩ := hempty
    have hattrs' : record.context_attributes = Dict.empty := Dict.ext hattrs
    rw [if_neg hc, henv, hlabels, hattrs', hnotes]
    rfl

section

variable [DecidableEq Uuid] {record : SessionRecord Uuid}

theorem record_to_session_valid (h : record.Valid) :
    record_to_session record = .ok (record.load h) := by
  have hidentity : SessionIdentity.new record.session_id record.scope record.external_handle
      record.tenant_id record.principal_id = .ok (record.load h).identity :=
    dif_neg h.handle_nonempty
  have hlineage : SessionLineage.new record.lineage_id record.session_id record.root_session_id
      record.parent_session_id record.ancestor_session_ids record.lineage_depth =
        .ok (record.load h).lineage := by
    unfold SessionLineage.new
    rw [dif_neg h.acyclic, dif_neg (not_not.mpr h.depth_eq),
      dif_neg (fun hp => hp.2 (h.parent_last hp.1)), dif_neg (fun hp => hp.2 (h.own_root hp.1))]
    rfl
  have hsession : OperationalSession.new (record.load h).identity record.opened_at
      record.lifecycle (record.load h).lineage record.context record.sequence_head
      record.revision = .ok (record.load h) := by
    unfold OperationalSession.new
    rw [dif_pos h.opened_aware, dif_neg (not_lt.mpr h.head_ge), dif_pos (record.load h).lineage_own]
    rfl
  unfold record_to_session
  rw [hidentity]
  simp only [bind, Except.bind]
  rw [hlineage]
  exact hsession

variable {session : OperationalSession Uuid}

theorem valid_of_record_to_session (h : record_to_session record = .ok session) : record.Valid := by
  unfold record_to_session at h
  obtain ⟨identity, hidentity, h⟩ := bind_eq_ok.mp h
  obtain ⟨lineage, hlineage, h⟩ := bind_eq_ok.mp h
  unfold SessionIdentity.new at hidentity
  unfold SessionLineage.new at hlineage
  unfold OperationalSession.new at h
  split at hidentity
  · cases hidentity
  rename_i handle
  split at hlineage
  · cases hlineage
  rename_i acyclic
  split at hlineage
  · cases hlineage
  rename_i depth_eq
  split at hlineage
  · cases hlineage
  rename_i last
  split at hlineage
  · cases hlineage
  rename_i own
  split at h
  swap
  · cases h
  rename_i aware
  split at h
  · cases h
  rename_i head
  exact ⟨handle, acyclic, not_not.mp depth_eq, fun hp => not_not.mp fun hne => last ⟨hp, hne⟩,
    fun hp => not_not.mp fun hne => own ⟨hp, hne⟩, aware, not_lt.mp head⟩

theorem record_to_session_eq_ok :
    record_to_session record = .ok session ↔ ∃ h : record.Valid, record.load h = session := by
  constructor
  · intro h
    have hv := valid_of_record_to_session h
    rw [record_to_session_valid hv] at h
    exact ⟨hv, Except.ok.inj h⟩
  · rintro ⟨hv, rfl⟩
    exact record_to_session_valid hv

theorem session_to_record_of_record_to_session (h : record_to_session record = .ok session) :
    session_to_record session = record.forget := by
  obtain ⟨hv, rfl⟩ := record_to_session_eq_ok.mp h
  exact session_to_record_load record hv

end

variable {event : SessionTimelineEvent Uuid}

theorem event_record_to_model_to_record :
    event_record_to_model (event_to_record event) = .ok event := by
  unfold event_record_to_model SessionTimelineEvent.new event_to_record
  rw [dif_pos event.occurred_aware, dif_pos event.recorded_aware, dif_neg event.key_nonempty]

theorem event_to_record_of_model {record : SessionEventRecord Uuid}
    (h : event_record_to_model record = .ok event) : event_to_record event = record := by
  unfold event_record_to_model SessionTimelineEvent.new at h
  split at h
  swap
  · cases h
  split at h
  swap
  · cases h
  split at h
  · cases h
  cases h
  rfl

end operious.session
