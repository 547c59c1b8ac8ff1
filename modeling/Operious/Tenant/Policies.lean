-- Governance policies of tenants: every change writes a version of its own, under an id made of the
-- tenant, the type and the number.
import Operious.Lib.Effects
import Operious.Tenant.Chronology

namespace operious.tenant

open effects
open operious.governance (PyException)
open operious.identity (strLe)
open operious.resolution (Sha256)

inductive TenantGovernancePolicyStatus
  | active | draft | archived
  deriving DecidableEq, Repr

def TenantGovernancePolicyStatus.value : TenantGovernancePolicyStatus → String
  | active => "active"
  | draft => "draft"
  | archived => "archived"

structure TenantGovernancePolicyRecord (Uuid : Type) where
  policy_id : Uuid
  tenant_id : String
  policy_type : String
  parameters : Payload Uuid
  status : TenantGovernancePolicyStatus
  version : Nat
  approved_by : String
  effective_from : Instant
  created_at : Instant
  source_approval_id : String
  content_sha256 : String
  previous_version_sha256 : Option String

/-! ## The repository -/

abbrev Policies (Uuid : Type) := Dict Uuid (TenantGovernancePolicyRecord Uuid)

structure TenantGovernancePolicyQuery (Uuid : Type) where
  policy_id : Option Uuid := none
  policy_type : Option String := none
  status : Option TenantGovernancePolicyStatus := none
  limit : Option Nat := none
  offset : Nat := 0

section

variable {Uuid : Type} [DecidableEq Uuid] [Stdlib Uuid]

def save_governance_policy (record : TenantGovernancePolicyRecord Uuid)
    (expected_tenant_id : String) : Effect PyException (Policies Uuid) Unit := do
  lift (assert_write_tenant record.tenant_id expected_tenant_id)
  modify fun policies => policies.set record.policy_id record

def get_governance_policy (policies : Policies Uuid) (policy_id : Uuid)
    (expected_tenant_id : String) : Option (TenantGovernancePolicyRecord Uuid) :=
  (policies.get? policy_id).filter (·.tenant_id = expected_tenant_id)

/-- `(a.policy_type, str(a.policy_id)) <= (b.policy_type, str(b.policy_id))`. -/
def listedBefore (a b : TenantGovernancePolicyRecord Uuid) : Bool :=
  if a.policy_type = b.policy_type then strLe (Stdlib.str a.policy_id) (Stdlib.str b.policy_id)
  else strLe a.policy_type b.policy_type

def list_governance_policies (policies : Policies Uuid) (query : TenantGovernancePolicyQuery Uuid)
    (expected_tenant_id : String) : List (TenantGovernancePolicyRecord Uuid) :=
  let rows := policies.values.filter fun r =>
    r.tenant_id = expected_tenant_id && query.policy_id.all (r.policy_id = ·) &&
      query.policy_type.all (r.policy_type = ·) && query.status.all (r.status = ·)
  let sliced := (rows.insertionSort fun a b => listedBefore a b = true).drop query.offset
  match query.limit with
  | some limit => sliced.take limit
  | none => sliced

/-- `(a.version, str(a.policy_id)) >= (b.version, str(b.policy_id))`. -/
def resolvedBefore (a b : TenantGovernancePolicyRecord Uuid) : Bool :=
  if a.version = b.version then strLe (Stdlib.str b.policy_id) (Stdlib.str a.policy_id)
  else b.version < a.version

/-- The policy that counts: of those that are active, the one with the highest version. -/
def resolve_active_governance_policy (policies : Policies Uuid) (policy_type : String)
    (expected_tenant_id : String) : Option (TenantGovernancePolicyRecord Uuid) :=
  let rows := policies.values.filter fun r =>
    r.tenant_id = expected_tenant_id && r.policy_type = policy_type && r.status = .active
  (rows.insertionSort fun a b => resolvedBefore a b = true).head?

end

/-! ## The runtime -/

section

variable {Uuid : Type}

/-- `max(items, key=lambda item: item.version)`: the first of those with the highest version. -/
def newest : List (TenantGovernancePolicyRecord Uuid) → Option (TenantGovernancePolicyRecord Uuid)
  | [] => none
  | r :: rest => some (rest.foldl (fun best r => if best.version < r.version then r else best) r)

structure CreateGovernancePolicy (Uuid : Type) where
  tenant_id : String
  policy_type : String
  parameters : Payload Uuid
  approved_by : String
  effective_from : Instant
  status : TenantGovernancePolicyStatus := .draft
  approval : Option ApprovalRecord := none

structure UpdateGovernancePolicy (Uuid : Type) where
  tenant_id : String
  policy_id : Uuid
  approved_by : String
  parameters : Option (Payload Uuid) := none
  status : Option TenantGovernancePolicyStatus := none
  effective_from : Option Instant := none
  approval : Option ApprovalRecord := none

variable [DecidableEq Uuid] [Stdlib Uuid] [Sha256]

def derive_governance_policy_version_id (tenant_id policy_type : String) (version : Nat) :
    Except PyException Uuid := do
  let tenant ← coerce_tenant_id tenant_id
  if version < 1 then .error ⟨"ValueError", "version must be >= 1"⟩
  else
    let normalized ← normalize_identity_text policy_type "policy_type"
    return Stdlib.uuid5 (Stdlib.uuid "25a0c0f1-0003-4003-8003-000000000003")
      (tenant ++ "|" ++ normalized ++ "|v" ++ version.repr)

def governance_policy_content_sha256 (tenant_id policy_type : String) (parameters : Payload Uuid)
    (status : TenantGovernancePolicyStatus) (version : Nat) (approved_by : String)
    (effective_from : Instant) (source_approval_id : String) : Except PyException String :=
  canonical_sha256
    [(key "tenant_id", .str tenant_id), (key "policy_type", .str policy_type),
     (key "parameters", .mapping parameters), (key "status", .str status.value),
     (key "version", .int version), (key "approved_by", .str approved_by),
     (key "effective_from", .str (Stdlib.isoformat Uuid effective_from)),
     (key "source_approval_id", .str source_approval_id)]

/-- The record that `create_governance_policy` saves. -/
def createdPolicy (policies : Policies Uuid) (args : CreateGovernancePolicy Uuid) (now : Instant) :
    Except PyException (TenantGovernancePolicyRecord Uuid) := do
  let approval_record ← require_approval args.approval args.tenant_id
  let existing := newest (list_governance_policies policies { policy_type := some args.policy_type }
    args.tenant_id)
  let version := match existing with
    | none => 1
    | some existing => existing.version + 1
  let policy_id ← derive_governance_policy_version_id args.tenant_id args.policy_type version
  let content_sha256 ← governance_policy_content_sha256 args.tenant_id args.policy_type
    args.parameters args.status version args.approved_by args.effective_from
    approval_record.approval_id
  return {
    policy_id
    tenant_id := args.tenant_id
    policy_type := args.policy_type
    parameters := args.parameters
    status := args.status
    version
    approved_by := args.approved_by
    effective_from := args.effective_from
    created_at := match existing with
      | some existing => existing.created_at
      | none => now
    source_approval_id := approval_record.approval_id
    content_sha256
    previous_version_sha256 := existing.map (·.content_sha256) }

def create_governance_policy (args : CreateGovernancePolicy Uuid) (now : Instant) :
    Effect PyException (Policies Uuid) (TenantGovernancePolicyRecord Uuid) := do
  let record ← lift (createdPolicy (← get) args now)
  save_governance_policy record args.tenant_id
  return record

/-- The record that `update_governance_policy` saves. -/
def updatedPolicy (policies : Policies Uuid) (args : UpdateGovernancePolicy Uuid) :
    Except PyException (TenantGovernancePolicyRecord Uuid) := do
  let approval_record ← require_approval args.approval args.tenant_id
  match get_governance_policy policies args.policy_id args.tenant_id with
  | none => .error ⟨"TenantConfigurationNotFoundError", "governance policy not found"⟩
  | some existing =>
    let next_parameters := args.parameters.getD existing.parameters
    let next_status := args.status.getD existing.status
    let next_effective_from := args.effective_from.getD existing.effective_from
    let next_version := existing.version + 1
    let next_policy_id ← derive_governance_policy_version_id args.tenant_id existing.policy_type
      next_version
    let content_sha256 ← governance_policy_content_sha256 args.tenant_id existing.policy_type
      next_parameters next_status next_version args.approved_by next_effective_from
      approval_record.approval_id
    return { existing with
      policy_id := next_policy_id
      parameters := next_parameters
      status := next_status
      version := next_version
      approved_by := args.approved_by
      effective_from := next_effective_from
      source_approval_id := approval_record.approval_id
      content_sha256
      previous_version_sha256 := some existing.content_sha256 }

def update_governance_policy (args : UpdateGovernancePolicy Uuid) :
    Effect PyException (Policies Uuid) (TenantGovernancePolicyRecord Uuid) := do
  let record ← lift (updatedPolicy (← get) args)
  save_governance_policy record args.tenant_id
  return record

end

end operious.tenant
