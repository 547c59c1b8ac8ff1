-- The service that changes the configuration of a tenant under dual control: changes are proposed,
-- approved by another principal, and applied.
import Operious.ChangeRequests.Ledger

namespace operious.change_requests

open effects
open operious.governance (PyException)
open operious.identity
open operious.resolution (Sha256 sha256_text)
open operious.tenant

/-- `hashlib.sha256(data).hexdigest()`. -/
class BytesSha256 where
  sha256_bytes : List UInt8 → String

export BytesSha256 (sha256_bytes)

/-- What the collaborators answer during a call. -/
structure Around (Uuid : Type) where
  now : Instant
  /-- `_validate_payload`. -/
  validation : Except PyException Unit
  /-- The mutation of the configuration, where it is not one of a credential of a connector, with its
  outcome. -/
  mutation : Except PyException (Payload Uuid)
  /-- `encrypt` of the codec. -/
  ciphertext : Except PyException (List UInt8)

def lifecycleError (message : String) : PyException := ⟨"TenantConfigChangeRequestLifecycleError", message⟩

section

variable {Uuid : Type} [Stdlib Uuid]

/-- `str(value)`, for what a row holds. -/
def text_of : Component Uuid → String
  | .str s | .other s => s
  | .enum _ value => value
  | .uuid u => Stdlib.str u
  | .bool b => if b then "True" else "False"
  | .int i => toString i
  | c => json.asciiString (json.write (json_safe c))

/-- `payload.get(key)`, where `None` is as good as nothing. -/
def payload_get (payload : Payload Uuid) (name : String) : Option (Component Uuid) :=
  match payload.find? fun item => item.1 = key name with
  | some (_, .null) => none
  | found => found.map (·.2)

/-- `_str`. -/
def payload_str (payload : Payload Uuid) (name : String) : Except PyException String :=
  match payload_get payload name with
  | none => .error (lifecycleError (name ++ " is required"))
  | some value =>
    if (text_of value).isEmpty then .error (lifecycleError (name ++ " is required"))
    else .ok (text_of value)

def versioned_payload (payload : Payload Uuid) : Payload Uuid :=
  if payload.any fun item => item.1 = key "_schema_version" then payload
  else payload ++ [(key "_schema_version", .str "1")]

variable [DecidableEq Uuid] [Sha256]

/-! ## Proposals -/

def proposedRecord (change_request_id : Uuid) (tenant_id : String)
    (change_type : TenantConfigChangeType) (proposed_payload : Payload Uuid) (proposed_by : String)
    (now : Instant) : TenantConfigChangeRequestRecord Uuid where
  change_request_id
  tenant_id
  change_type
  proposed_payload
  status := .proposed
  proposed_by
  proposed_at := now

/-- How every proposal is stored: under the id of its content. -/
def store_proposal (tenant_id : String) (change_type : TenantConfigChangeType)
    (proposed_payload : Payload Uuid) (proposed_by : String) (now : Instant) :
    Call Uuid (TenantConfigChangeRequestRecord Uuid) := do
  let change_request_id ← lift (derive_tenant_config_change_request_id tenant_id change_type
    proposed_payload proposed_by)
  let persisted ← create_request (proposedRecord change_request_id tenant_id change_type
    proposed_payload proposed_by now) tenant_id
  append_status_event persisted
  return persisted

def propose (around : Around Uuid) (tenant_id : String) (change_type : TenantConfigChangeType)
    (payload : Payload Uuid) (proposed_by : String) :
    Call Uuid (TenantConfigChangeRequestRecord Uuid) := do
  lift around.validation
  store_proposal tenant_id change_type (versioned_payload payload) proposed_by around.now

/-! ## Decisions -/

/-- The row takes the new status, and its event is appended. -/
def store_status (record : TenantConfigChangeRequestRecord Uuid) (expected_tenant_id : String) :
    Call Uuid (TenantConfigChangeRequestRecord Uuid) := do
  let persisted ← update_request record expected_tenant_id
  append_status_event persisted
  return persisted

/-- `approve`, from the record that was read. -/
def approve_record (around : Around Uuid) (approved_by expected_tenant_id : String)
    (record : TenantConfigChangeRequestRecord Uuid) :
    Call Uuid (TenantConfigChangeRequestRecord Uuid) := do
  if record.status ≠ .proposed then
    throw (lifecycleError "only PROPOSED tenant config change requests can be approved")
  else if approved_by = record.proposed_by then
    throw ⟨"TenantConfigChangeRequestSeparationError",
      "tenant config approver must differ from proposer"⟩
  else
    store_status { record with
      status := .approved
      approved_by := some approved_by
      approved_at := some around.now } expected_tenant_id

/-- `reject`, from the record that was read. -/
def reject_record (around : Around Uuid) (rejected_by reason expected_tenant_id : String)
    (record : TenantConfigChangeRequestRecord Uuid) :
    Call Uuid (TenantConfigChangeRequestRecord Uuid) := do
  if record.status ≠ .proposed then
    throw (lifecycleError "only PROPOSED tenant config change requests can be rejected")
  else
    store_status { record with
      status := .rejected
      rejected_by := some rejected_by
      rejected_at := some around.now
      rejection_reason := some reason } expected_tenant_id

/-- `revoke`, from the record that was read. -/
def revoke_record (around : Around Uuid) (revoked_by expected_tenant_id : String)
    (record : TenantConfigChangeRequestRecord Uuid) :
    Call Uuid (TenantConfigChangeRequestRecord Uuid) := do
  if record.status ≠ .approved then
    throw (lifecycleError ("cannot revoke a " ++ record.status.value ++
      " change request; only APPROVED requests can be revoked"))
  else
    store_status { record with
      status := .revoked
      revoked_by := some revoked_by
      revoked_at := some around.now } expected_tenant_id

/-! ## Credentials of connectors -/

def get_credential (ledger : Ledger Uuid) (tenant_id connector_id : String) :
    Option ConnectorCredentialRecord :=
  ledger.credentials.get? (tenant_id, connector_id)

def get_active (ledger : Ledger Uuid) (tenant_id connector_id : String) :
    Option ConnectorCredentialRecord :=
  (get_credential ledger tenant_id connector_id).filter (·.status = "active")

/-- `upsert`: there is one row for each connector, made once. -/
def upsert (record : ConnectorCredentialRecord) (now : Instant) : Call Uuid Unit :=
  modify fun ledger => { ledger with
    credentials := ledger.credentials.set (record.tenant_id, record.connector_id) { record with
      created_at := match get_credential ledger record.tenant_id record.connector_id with
        | some existing => existing.created_at
        | none => record.created_at
      updated_at := some now } }

def ledgerApprovalNamespace : Uuid := Stdlib.uuid "b61074c6-a757-51f4-ae19-947742f31705"

def approval_for_record (record : TenantConfigChangeRequestRecord Uuid) :
    Except PyException ApprovalRecord := do
  if record.status ≠ .approved then
    .error (lifecycleError "approval record can only be built for APPROVED requests")
  else
    match record.approved_by with
    | none => .error (lifecycleError "approved request is missing approved_by")
    | some approved_by => do
      let material_hash ← canonical_sha256
        [(key "change_request_id", Component.str (Stdlib.str record.change_request_id)),
         (key "tenant_id", .str record.tenant_id),
         (key "change_type", .str record.change_type.value),
         (key "proposed_payload", .mapping record.proposed_payload),
         (key "proposed_by", .str record.proposed_by),
         (key "approved_by", .str approved_by)]
      let approval_id : Uuid := Stdlib.uuid5 ledgerApprovalNamespace
        (Stdlib.str record.change_request_id ++ "|" ++ material_hash)
      return ⟨Stdlib.str approval_id, record.tenant_id, "approved"⟩

variable [BytesSha256]

/-- How a credential that was stored when it was proposed is activated: by the fields of its payload
that name where it belongs and its hash. The rest is what the errors call it. -/
def activate_credential (around : Around Uuid) (record : TenantConfigChangeRequestRecord Uuid)
    (approval : ApprovalRecord) (id_field hash_field kind noun target secret : String) :
    Call Uuid (Payload Uuid) := do
  let connector_id ← lift (payload_str record.proposed_payload id_field)
  let expected_hash ← lift (payload_str record.proposed_payload hash_field)
  match get_credential (← get) record.tenant_id connector_id with
  | none => throw (lifecycleError (noun ++ " not found for " ++ target ++ " '" ++ connector_id ++
      "'; pending " ++ secret ++ " may have been cleared"))
  | some cred =>
    if cred.status ≠ "pending_validation" then
      throw (lifecycleError (noun ++ " is not in pending state (status='" ++ cred.status ++ "')"))
    else if sha256_bytes cred.credentials_enc ≠ expected_hash then
      throw (lifecycleError (noun ++ " hash mismatch; " ++
        "stored ciphertext does not match proposal sentinel"))
    else do
      upsert { cred with
        status := "active"
        configured_by := orText record.approved_by record.proposed_by
        source_approval_id := approval.approval_id } around.now
      return [(key "kind", .str kind), (key "operation", .str "activate"),
        (key id_field, .str connector_id), (key "status", .str "active")]

def apply_connector_credential (around : Around Uuid) (record : TenantConfigChangeRequestRecord Uuid)
    (approval : ApprovalRecord) : Call Uuid (Payload Uuid) :=
  activate_credential around record approval "connector_id" "credential_hash" "connector_credential"
    "connector credential" "connector" "credential"

def apply_mcp_oauth_token (around : Around Uuid) (record : TenantConfigChangeRequestRecord Uuid)
    (approval : ApprovalRecord) : Call Uuid (Payload Uuid) :=
  activate_credential around record approval "mcp_server_id" "token_hash" "mcp_oauth_token"
    "mcp oauth token" "server" "token"

/-! ## Applying -/

def mutate (around : Around Uuid) (record : TenantConfigChangeRequestRecord Uuid)
    (approval : ApprovalRecord) : Call Uuid (Payload Uuid) :=
  match record.change_type with
  | .connector_credential => apply_connector_credential around record approval
  | .mcp_oauth_token => apply_mcp_oauth_token around record approval
  | _ => lift around.mutation

def apply_config_mutation (around : Around Uuid) (record : TenantConfigChangeRequestRecord Uuid) :
    Call Uuid (Payload Uuid) := do
  let approval ← lift (approval_for_record record)
  lift around.validation
  let outcome ← mutate around record approval
  modify fun ledger => { ledger with mutations := ledger.mutations ++ [record.change_request_id] }
  return outcome

/-- `apply`, from the record that was read, up to its commit. -/
def apply_record (around : Around Uuid) (applied_by expected_tenant_id : String)
    (record : TenantConfigChangeRequestRecord Uuid) :
    Call Uuid (TenantConfigChangeRequestRecord Uuid) := do
  if record.status ≠ .approved then
    throw (lifecycleError ("cannot apply a " ++ record.status.value ++
      " change request; only APPROVED requests can be applied"))
  else if record.approved_by.isNone then
    throw (lifecycleError "approved tenant config change request is missing approved_by")
  else do
    let outcome ← apply_config_mutation around record
    store_status { record with
      status := .applied
      applied_at := some around.now
      applied_by := some applied_by
      outcome_payload := some outcome } expected_tenant_id

/-- `propose_connector_credential`: the credential is stored at once, over the one that is there. -/
def propose_connector_credential (around : Around Uuid) (tenant_id connector_id : String)
    (has_credentials : Bool) (proposed_by : String) :
    Call Uuid (TenantConfigChangeRequestRecord Uuid) := do
  if (strip connector_id).isEmpty then throw (lifecycleError "connector_id is required")
  else if !has_credentials then throw (lifecycleError "credentials are required")
  else do
    let ciphertext ← lift around.ciphertext
    let credential_hash := sha256_bytes ciphertext
    upsert {
      tenant_id
      connector_id
      credentials_enc := ciphertext
      credential_hash
      status := "pending_validation"
      configured_by := proposed_by
      source_approval_id := "pending"
      created_at := some around.now } around.now
    store_proposal tenant_id .connector_credential (versioned_payload
      [(key "connector_id", .str connector_id), (key "credential_hash", .str credential_hash)])
      proposed_by around.now

end

end operious.change_requests
