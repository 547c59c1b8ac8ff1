-- Legal holds and erasure. A hold blocks the erasure of the keys that it covers, and the key of one
-- subject goes only by a request that a second principal approves.
import Operious.DataProtection.Rotation
import Operious.Lib.Runs

namespace operious.data_protection

open utf8 json effects

section

variable {Uuid : Type}

/-! ## The arguments -/

def nonempty (value field : String) : Except ServiceError String :=
  let normalized := strip value
  if normalized.isEmpty then .error (.dataProtection (field ++ " must be non-empty"))
  else .ok normalized

/-- An id as a caller gives it. -/
inductive IdArgument (Uuid : Type)
  | uuid (id : Uuid)
  | text (t : Text)

/-- `_uuid`. -/
def IdArgument.get [Platform Uuid] (value : IdArgument Uuid) (field : String) :
    Except ServiceError Uuid :=
  match value with
  | .uuid id => .ok id
  | .text t =>
    match Platform.parse t with
    | some id => .ok id
    | none => .error (.dataProtection (field ++ " must be a valid UUID"))

/-- `_scope_id`, with the scope that it checks. -/
def scopeId (scope : String) (value : Option String) : Except ServiceError (HoldScope × String) :=
  if scope = "tenant" then .ok (.tenant, tenantScopeId)
  else
    let normalized := strip (value.getD "")
    let checked (s : HoldScope) : Except ServiceError (HoldScope × String) :=
      if normalized.isEmpty then
        .error (.dataProtection (scope ++ " legal hold requires a scope_id"))
      else .ok (s, normalized)
    if scope = "subject" then checked .subject
    else if scope = "session" then checked .session
    else .error (.dataProtection "legal hold scope must be tenant, subject, or session")

variable [DecidableEq Uuid]

/-! ## Holds -/

/-- Whether the query of `has_active_legal_hold` finds the hold. -/
def covers (hold : DataProtectionLegalHoldRow Uuid) (tenant_id : String)
    (subject_id session_id : Option String) : Bool :=
  hold.tenant_id = tenant_id && hold.lifted_at.isNone &&
    ((hold.scope = .tenant && hold.scope_id = tenantScopeId) ||
      (subject_id.any fun id => !id.isEmpty && hold.scope = .subject && hold.scope_id = id) ||
      (session_id.any fun id => !id.isEmpty && hold.scope = .session && hold.scope_id = id))

def hasActiveLegalHold (svc : DataProtectionService Uuid) (tenant_id : String)
    (subject_id session_id : Option String) : Bool :=
  svc.legal_holds.values.any fun hold => covers hold tenant_id subject_id session_id

variable [Platform Uuid]

def DataProtectionService.withHold (svc : DataProtectionService Uuid) (hold_id : Uuid)
    (row : DataProtectionLegalHoldRow Uuid) : DataProtectionService Uuid :=
  { svc with legal_holds := svc.legal_holds.set hold_id row }

def createLegalHold (tenant_id scope : String) (scope_id : Option String)
    (reason created_by : String) (now : Instant) : Session Uuid Uuid := do
  let (scope, scope_id) ← lift (scopeId scope scope_id)
  let hold_id ← uuid4
  ensureTenant tenant_id
  let svc ← get
  if (svc.legal_holds.get? hold_id).isSome then throw .integrity
  else do
    modify fun svc => svc.withHold hold_id
      { hold_id, tenant_id, scope, scope_id, reason, created_by, created_at := now }
    flush
    return hold_id

/-- The lift is set on the row before its author is checked. -/
def releaseLegalHold (tenant_id : String) (hold_id : IdArgument Uuid) (lifted_by : String)
    (now : Instant) : Session Uuid (DataProtectionLegalHoldRow Uuid) := do
  let hold_id ← lift (hold_id.get "hold_id")
  let svc ← get
  match (svc.legal_holds.get? hold_id).filter fun row =>
      row.tenant_id = tenant_id && row.lifted_at.isNone with
  | none => throw (.legalHoldNotFound "active legal hold not found")
  | some row => do
    modify fun svc => { svc with unflushed := svc.unflushed ++ [{ hold_id, lifted_at := now }] }
    let lifted_by ← lift (nonempty lifted_by "lifted_by")
    modify fun svc => { svc with
      unflushed := svc.unflushed ++ [{ hold_id, lifted_at := now, lifted_by := some lifted_by }] }
    flush
    return { row with lifted_at := some now, lifted_by := some lifted_by }

/-! ## Erasure -/

def DataProtectionService.withRequest (svc : DataProtectionService Uuid) (request_id : Uuid)
    (row : DataProtectionErasureRequestRow Uuid) : DataProtectionService Uuid :=
  { svc with erasure_requests := svc.erasure_requests.set request_id row }

/-- A row of the erasure table written over, and flushed. -/
def saveRequest (request_id : Uuid) (row : DataProtectionErasureRequestRow Uuid) :
    Session Uuid Unit := do
  modify fun svc => svc.withRequest request_id row
  flush

def proposeErasure (tenant_id subject_id reason proposed_by : String) (now : Instant) :
    Session Uuid (DataProtectionErasureRequestRow Uuid) := do
  let request_id ← uuid4
  ensureTenant tenant_id
  let subject_id ← lift (nonempty subject_id "subject_id")
  let reason ← lift (nonempty reason "reason")
  let proposed_by ← lift (nonempty proposed_by "proposed_by")
  let row : DataProtectionErasureRequestRow Uuid :=
    { request_id, tenant_id, subject_id, status := .proposed, reason, proposed_by
      proposed_at := now }
  let svc ← get
  if (svc.erasure_requests.get? request_id).isSome then throw .integrity
  else do
    saveRequest request_id row
    return row

/-- The rows that `_delete_subject_key` deletes. -/
def isSubjectKey (tenant_id subject_id : String) (row : DataProtectionDataKeyRow Uuid) : Bool :=
  row.scopeKey = (tenant_id, .subject, subject_id)

def deleteSubjectKey (tenant_id subject_id : String) : Session Uuid Unit :=
  modify fun svc => svc.withKeys (svc.data_keys.delete (isSubjectKey tenant_id subject_id))

def approveErasure (tenant_id : String) (request_id : IdArgument Uuid) (approved_by : String)
    (now : Instant) : Session Uuid (DataProtectionErasureRequestRow Uuid) := do
  let approver ← lift (nonempty approved_by "approved_by")
  let request_id ← lift (request_id.get "request_id")
  let svc ← get
  match (svc.erasure_requests.get? request_id).filter fun row => row.tenant_id = tenant_id with
  | none => throw (.erasureRequestNotFound "erasure request not found")
  | some row =>
    if row.status ≠ .proposed then
      throw (.erasureRequestLifecycle ("cannot approve a " ++ row.status.value ++ " erasure request"))
    else if approver = row.proposed_by then
      throw (.erasureRequestSeparation "erasure approver must differ from proposer")
    else if hasActiveLegalHold svc tenant_id (some row.subject_id) none then do
      saveRequest request_id { row with
        status := .rejected, blocked_reason := some "active legal hold blocks DSAR erasure" }
      throw (.legalHoldBlocked "active legal hold blocks DSAR erasure")
    else do
      let row := { row with
        status := .approved, approved_by := some approver, approved_at := some now }
      saveRequest request_id row
      deleteSubjectKey tenant_id row.subject_id
      let row := { row with status := .executed, executed_at := some now, blocked_reason := none }
      saveRequest request_id row
      return row

def eraseSubjectKey (_tenant_id _subject_id _requested_by : String) : Session Uuid Uuid :=
  throw (.dataProtection "subject erasure requires dual-control propose/approve")

def eraseTenantKeys (tenant_id : String) : Session Uuid Nat := do
  let svc ← get
  if hasActiveLegalHold svc tenant_id none none then
    throw (.legalHoldBlocked "active legal hold blocks tenant erasure")
  else do
    modify fun svc => svc.withKeys (svc.data_keys.delete fun row => row.tenant_id = tenant_id)
    flush
    return (svc.data_keys.rows.filter fun row => row.tenant_id = tenant_id).length

/-! ## The operations of a service -/

variable [Stdlib Uuid]

inductive Operation (Uuid : Type)
  | createLegalHold (tenant_id scope : String) (scope_id : Option String)
      (reason created_by : String) (now : Instant)
  | releaseLegalHold (tenant_id : String) (hold_id : IdArgument Uuid) (lifted_by : String)
      (now : Instant)
  | encryptText (value : Text) (tenant_id : String) (subject_id : Option String) (field : Text)
      (tenant_scoped : Bool)
  | encryptBytes (value : Bytes) (tenant_id : String) (subject_id : Option String) (field : Text)
      (tenant_scoped : Bool)
  | encryptJsonValues (value : List (Text × Json)) (tenant_id : String)
      (subject_id : Option String) (field : Text) (tenant_scoped : Bool)
  | proposeErasure (tenant_id subject_id reason proposed_by : String) (now : Instant)
  | approveErasure (tenant_id : String) (request_id : IdArgument Uuid) (approved_by : String)
      (now : Instant)
  | eraseSubjectKey (tenant_id subject_id requested_by : String)
  | eraseTenantKeys (tenant_id : String)
  | rotateMasterKey (new_ring : MasterKeyRing) (now : Uuid → Instant)

/-- A call, whatever it returns. -/
def Operation.perform : Operation Uuid → Session Uuid Unit
  | .createLegalHold tenant_id scope scope_id reason created_by now => do
    let _ ← data_protection.createLegalHold tenant_id scope scope_id reason created_by now
  | .releaseLegalHold tenant_id hold_id lifted_by now => do
    let _ ← data_protection.releaseLegalHold tenant_id hold_id lifted_by now
  | .encryptText value tenant_id subject_id field tenant_scoped => do
    let _ ← data_protection.encryptText value tenant_id subject_id field tenant_scoped
  | .encryptBytes value tenant_id subject_id field tenant_scoped => do
    let _ ← data_protection.encryptBytes value tenant_id subject_id field tenant_scoped
  | .encryptJsonValues value tenant_id subject_id field tenant_scoped => do
    let _ ← data_protection.encryptJsonValues value tenant_id subject_id field tenant_scoped
  | .proposeErasure tenant_id subject_id reason proposed_by now => do
    let _ ← data_protection.proposeErasure tenant_id subject_id reason proposed_by now
  | .approveErasure tenant_id request_id approved_by now => do
    let _ ← data_protection.approveErasure tenant_id request_id approved_by now
  | .eraseSubjectKey tenant_id subject_id requested_by => do
    let _ ← data_protection.eraseSubjectKey tenant_id subject_id requested_by
  | .eraseTenantKeys tenant_id => do
    let _ ← data_protection.eraseTenantKeys tenant_id
  | .rotateMasterKey new_ring now => do
    let _ ← data_protection.rotateMasterKey new_ring now

/-- The service after a call. A call that raises is a step too, to the state that it left. -/
def DataProtectionService.next (svc : DataProtectionService Uuid) (op : Operation Uuid) :
    Option (DataProtectionService Uuid) :=
  some (run op.perform svc).2

end

end operious.data_protection
