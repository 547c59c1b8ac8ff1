-- The ledger of changes to the configuration of a tenant, and the events that fence it: an event is
-- appended once under its id, and once under its place in the chronology of the request.
import Operious.Lib.Effects
import Operious.Tenant.Chronology

namespace operious.change_requests

open effects
open operious.governance (PyException)
open operious.identity
open operious.resolution (Sha256 sha256_text)
open operious.tenant

/-! ## The records -/

inductive TenantConfigChangeType
  | knowledge | policy | execution_governance | topology | channel | connector | credential_update
  | connector_credential | mcp_server | mcp_oauth_token
  deriving DecidableEq, Repr

def TenantConfigChangeType.value : TenantConfigChangeType → String
  | knowledge => "knowledge"
  | policy => "policy"
  | execution_governance => "execution_governance"
  | topology => "topology"
  | channel => "channel"
  | connector => "connector"
  | credential_update => "credential_update"
  | connector_credential => "connector_credential"
  | mcp_server => "mcp_server"
  | mcp_oauth_token => "mcp_oauth_token"

inductive TenantConfigChangeRequestStatus
  | proposed | approved | rejected | applied | revoked
  deriving DecidableEq, Repr

def TenantConfigChangeRequestStatus.value : TenantConfigChangeRequestStatus → String
  | proposed => "PROPOSED"
  | approved => "APPROVED"
  | rejected => "REJECTED"
  | applied => "APPLIED"
  | revoked => "REVOKED"

structure TenantConfigChangeRequestRecord (Uuid : Type) where
  change_request_id : Uuid
  tenant_id : String
  change_type : TenantConfigChangeType
  proposed_payload : Payload Uuid
  status : TenantConfigChangeRequestStatus
  proposed_by : String
  proposed_at : Instant
  approved_by : Option String := none
  approved_at : Option Instant := none
  rejected_by : Option String := none
  rejected_at : Option Instant := none
  applied_at : Option Instant := none
  applied_by : Option String := none
  revoked_by : Option String := none
  revoked_at : Option Instant := none
  rejection_reason : Option String := none
  outcome_payload : Option (Payload Uuid) := none

/-- The metadata of an event of the ledger, the outcome in its canonical form. -/
structure ChangeMetadata where
  change_request_id : String
  change_type : String
  status : String
  proposed_by : String
  approved_by : Option String
  rejected_by : Option String
  payload_sha256 : String
  outcome_payload : Option utf8.Text
  schema_version : Option String := none
  deriving DecidableEq

structure OperationalEvent (Uuid : Type) where
  event_id : Uuid
  operational_act : String
  root_event_id : Uuid
  parent_event_id : Option Uuid
  depth : Nat
  runtime_instance_id : Uuid
  sequence : Nat
  occurred_at : Instant
  tenant_id : String
  principal_id : String
  metadata : ChangeMetadata
  deriving DecidableEq

structure ConnectorCredentialRecord where
  tenant_id : String
  connector_id : String
  credentials_enc : List UInt8
  credential_hash : String
  status : String
  configured_by : String
  source_approval_id : String
  created_at : Option Instant := none
  updated_at : Option Instant := none

/-- The rows that the calls on change requests read and write. Of the rest of the configuration, only
which requests were applied to it, in order. -/
structure Ledger (Uuid : Type) where
  requests : Dict Uuid (TenantConfigChangeRequestRecord Uuid)
  events : Dict Uuid (OperationalEvent Uuid)
  credentials : Dict (String × String) ConnectorCredentialRecord
  mutations : List Uuid

abbrev Call (Uuid : Type) := Effect PyException (Ledger Uuid)

section

variable {Uuid : Type}

def sequence_for_status : TenantConfigChangeRequestStatus → Nat
  | .proposed => 0
  | .approved | .rejected => 1
  | .applied | .revoked => 2

def act_for_status : TenantConfigChangeRequestStatus → String
  | .proposed => "governance:tenant_config_change_propose"
  | .approved => "governance:tenant_config_change_approve"
  | .rejected => "governance:tenant_config_change_reject"
  | .applied => "governance:tenant_config_change_apply"
  | .revoked => "governance:tenant_config_change_revoke"

def timestamp_for_status (record : TenantConfigChangeRequestRecord Uuid) : Instant :=
  match record.status with
  | .approved => record.approved_at.getD record.proposed_at
  | .rejected => record.rejected_at.getD record.proposed_at
  | .applied => (record.applied_at.or record.approved_at).getD record.proposed_at
  | .revoked => (record.revoked_at.or record.approved_at).getD record.proposed_at
  | .proposed => record.proposed_at

/-- `a or b`, for texts that may be missing. -/
def orText (a : Option String) (b : String) : String :=
  match a with
  | some s => if s.isEmpty then b else s
  | none => b

def principal_for_status (record : TenantConfigChangeRequestRecord Uuid) : String :=
  match record.status with
  | .approved => orText record.approved_by record.proposed_by
  | .rejected => orText record.rejected_by record.proposed_by
  | .applied => orText record.applied_by (orText record.approved_by record.proposed_by)
  | .revoked => orText record.revoked_by (orText record.approved_by record.proposed_by)
  | .proposed => record.proposed_by

def canonical [Stdlib Uuid] (payload : Payload Uuid) : utf8.Text :=
  json.write (json_safe (.mapping payload))

variable [DecidableEq Uuid] [Stdlib Uuid]

def same_request (left right : TenantConfigChangeRequestRecord Uuid) : Bool :=
  left.tenant_id = right.tenant_id && left.change_type = right.change_type &&
    canonical left.proposed_payload = canonical right.proposed_payload &&
    left.proposed_by = right.proposed_by

/-- What the constraints of the table refuse. -/
def constrained (record : TenantConfigChangeRequestRecord Uuid) : Bool :=
  record.tenant_id.isEmpty || record.approved_by = some record.proposed_by ||
    (record.status = .applied && record.applied_by.isNone) ||
      (record.status = .revoked && record.revoked_by.isNone)

/-! ## The repository -/

def assert_tenant (actual expected : String) : Except PyException Unit :=
  if actual ≠ expected then
    .error ⟨"TenantConfigChangeRequestPersistenceError",
      "change request tenant does not match expected tenant"⟩
  else .ok ()

def get_request (ledger : Ledger Uuid) (change_request_id : Uuid) (expected_tenant_id : String) :
    Option (TenantConfigChangeRequestRecord Uuid) :=
  (ledger.requests.get? change_request_id).filter (·.tenant_id = expected_tenant_id)

/-- `create`: the request that is there already is returned, in whatever status it is. -/
def create_request (record : TenantConfigChangeRequestRecord Uuid) (expected_tenant_id : String) :
    Call Uuid (TenantConfigChangeRequestRecord Uuid) := do
  lift (assert_tenant record.tenant_id expected_tenant_id)
  if ((← get).requests.get? record.change_request_id).isSome || constrained record then
    match get_request (← get) record.change_request_id expected_tenant_id with
    | some existing =>
      if same_request existing record then return existing
      else throw ⟨"TenantConfigChangeRequestPersistenceError",
        "tenant config change request could not be created"⟩
    | none => throw ⟨"TenantConfigChangeRequestPersistenceError",
        "tenant config change request could not be created"⟩
  else do
    modify fun ledger => { ledger with
      requests := ledger.requests.set record.change_request_id record }
    return record

/-- `update`: the row is found by its id and tenant alone. -/
def update_request (record : TenantConfigChangeRequestRecord Uuid) (expected_tenant_id : String) :
    Call Uuid (TenantConfigChangeRequestRecord Uuid) := do
  lift (assert_tenant record.tenant_id expected_tenant_id)
  match get_request (← get) record.change_request_id expected_tenant_id with
  | none => throw ⟨"TenantConfigChangeRequestNotFoundError", "tenant config change request not found"⟩
  | some _ =>
    if constrained record then
      throw ⟨"TenantConfigChangeRequestPersistenceError",
        "tenant config change request could not be updated"⟩
    else do
      modify fun ledger => { ledger with
        requests := ledger.requests.set record.change_request_id record }
      return record

/-- `_require`. -/
def require_request (change_request_id : Uuid) (expected_tenant_id : String) :
    Call Uuid (TenantConfigChangeRequestRecord Uuid) := do
  match get_request (← get) change_request_id expected_tenant_id with
  | none => throw ⟨"TenantConfigChangeRequestNotFoundError", "tenant config change request not found"⟩
  | some record => return record

/-! ## Events -/

/-- `_event_with_schema_version`, which is also what is stored. -/
def OperationalEvent.with_schema_version (event : OperationalEvent Uuid) : OperationalEvent Uuid :=
  { event with metadata := { event.metadata with schema_version := some "1" } }

/-- `append_event`: an event that is there already is not appended again, and another one under its id
or at its place in the chronology is refused. -/
def append_event (event : OperationalEvent Uuid) : Call Uuid (OperationalEvent Uuid) := do
  if event.parent_event_id = some event.event_id then
    throw ⟨"EventCausalityError", "OperationalEvent cannot name itself as parent_event_id"⟩
  else
    match (← get).events.get? event.event_id with
    | some existing =>
      if existing = event ∨ existing = event.with_schema_version then return existing
      else throw ⟨"EventPersistenceError", "event '" ++ Stdlib.str event.event_id ++
        "' already exists with different content"⟩
    | none =>
      match (← get).events.values.find? fun e =>
          e.runtime_instance_id = event.runtime_instance_id && e.sequence = event.sequence with
      | some owner => throw ⟨"EventPersistenceError",
          "chronology point already has an event: runtime_instance_id=" ++
          Stdlib.str event.runtime_instance_id ++ ", sequence=" ++ event.sequence.repr ++
          ", event_id='" ++ Stdlib.str owner.event_id ++ "'"⟩
      | none => do
        modify fun ledger => { ledger with
          events := ledger.events.set event.event_id event.with_schema_version }
        return event

variable [Sha256]

def changeRequestNamespace : Uuid := Stdlib.uuid "4a4ad3c6-c87e-56db-b6f0-9c25f6b19d3a"

def derive_tenant_config_change_request_id (tenant_id : String) (change_type : TenantConfigChangeType)
    (proposed_payload : Payload Uuid) (proposed_by : String) : Except PyException Uuid := do
  let material_hash ← canonical_sha256
    [(key "tenant_id", Component.str tenant_id), (key "change_type", .str change_type.value),
     (key "proposed_payload", .mapping proposed_payload), (key "proposed_by", .str proposed_by)]
  return Stdlib.uuid5 changeRequestNamespace
    (tenant_id ++ "|" ++ change_type.value ++ "|" ++ proposed_by ++ "|" ++ material_hash)

def changeEventNamespace : Uuid := Stdlib.uuid "01f77264-1518-5a56-9327-0472414e7dc0"

def change_event_id (change_request_id : Uuid) (status : TenantConfigChangeRequestStatus) : Uuid :=
  Stdlib.uuid5 changeEventNamespace (Stdlib.str change_request_id ++ "|" ++ status.value)

def event_for_record (record : TenantConfigChangeRequestRecord Uuid) :
    Except PyException (OperationalEvent Uuid) := do
  let payload_sha256 ← canonical_sha256 record.proposed_payload
  let root_event_id := change_event_id record.change_request_id .proposed
  return {
    event_id := change_event_id record.change_request_id record.status
    operational_act := act_for_status record.status
    root_event_id
    parent_event_id := if record.status = .proposed then none else some root_event_id
    depth := sequence_for_status record.status
    runtime_instance_id := record.change_request_id
    sequence := sequence_for_status record.status
    occurred_at := timestamp_for_status record
    tenant_id := record.tenant_id
    principal_id := principal_for_status record
    metadata := {
      change_request_id := Stdlib.str record.change_request_id
      change_type := record.change_type.value
      status := record.status.value
      proposed_by := record.proposed_by
      approved_by := record.approved_by
      rejected_by := record.rejected_by
      payload_sha256
      outcome_payload := record.outcome_payload.map canonical } }

def append_status_event (record : TenantConfigChangeRequestRecord Uuid) : Call Uuid Unit := do
  let event ← lift (event_for_record record)
  let _ ← append_event event

end

end operious.change_requests
