-- The two services that resolve what waits for a human: actions are approved and denied by managers,
-- cases are reviewed, guided, approved, rejected and escalated by operators. Each drives the other.
import Operious.Approvals.Records

namespace operious.approvals

open effects
open operious.governance (PyException)
open operious.resolution

/-! ## Actions -/

section

variable {Uuid Json : Type} [DecidableEq Uuid] [Stdlib Uuid] [Sha256]

def assert_tenant (tenant_id expected_tenant_id : String) : Except PyException Unit :=
  if tenant_id ≠ expected_tenant_id then
    .error ⟨"ActionApprovalNotFoundError", "approval is tenant-invisible"⟩
  else .ok ()

def require_pending (approval_id expected_tenant_id : String) :
    Call Uuid Json (ActionApprovalRecord Uuid) := do
  match get_approval (← get) approval_id expected_tenant_id with
  | none => throw ⟨"ActionApprovalNotFoundError", "unknown action approval: " ++ approval_id⟩
  | some record =>
    if record.status ≠ "pending" then
      throw ⟨"ActionApprovalLifecycleError", "only pending action approvals can be resolved"⟩
    else return record

/-- `_source_decision`, where it must be present. -/
def source_decision (approval : ActionApprovalRecord Uuid) (expected_tenant_id : String) :
    Call Uuid Json (GovernanceDecisionRecord Uuid) := do
  match approval.governance_decision_id with
  | none => throw ⟨"ActionApprovalRuntimeError", "approval has no source governance decision"⟩
  | some decision_id =>
    match get_decision (← get) decision_id expected_tenant_id with
    | none => throw ⟨"ActionApprovalRuntimeError",
        "source governance decision is absent or tenant-invisible"⟩
    | some decision => return decision

def with_resolution_metadata (desk : Desk Uuid Json) (approval : ActionApprovalRecord Uuid)
    (expected_tenant_id : String) : ActionApprovalRecord Uuid :=
  match text (approval.metadata.get? "proposal_id") with
  | none => approval
  | some proposal_id =>
    match desk.proposals.values.find? fun proposal =>
        Stdlib.str proposal.proposal_id = proposal_id && proposal.tenant_id = expected_tenant_id with
    | none => approval
    | some proposal =>
      { approval with
        metadata := approval.metadata.update
          [("proposal_id", .str (Stdlib.str proposal.proposal_id)),
           ("dispatch_id", .str proposal.dispatch_id),
           ("resolution_category", .str proposal.resolution_category)] }

def managerApprovalNamespace : Uuid := Stdlib.uuid "aa6e7001-0008-4008-8008-000000000008"

def record_manager_approval_decision (approval : ActionApprovalRecord Uuid)
    (source : GovernanceDecisionRecord Uuid) (approved_by : String) (note : Option String) :
    Call Uuid Json Uuid := do
  let decision_id := Stdlib.uuid5 managerApprovalNamespace (approval.tenant_id ++ "|" ++
    approval.approval_id ++ "|" ++ Stdlib.str source.decision_id)
  match get_decision (← get) decision_id approval.tenant_id with
  | some _ => return decision_id
  | none => do
    record_decision {
      decision_id
      decision := "allow"
      reason := "manager_approved"
      request_id := source.request_id
      tenant_id := some approval.tenant_id
      subject_kind := "manager_approval"
      metadata := Dict.ofList
        ([("override_authority", .str "human_manager"),
          ("override", .bool true),
          ("action_approval_id", .str approval.approval_id),
          ("tool_name", .str approval.tool_name),
          ("source_governance_decision_id", .str (Stdlib.str source.decision_id)),
          ("source_decision", .str source.decision),
          ("session_id", .str approval.session_id),
          ("approved_by", .str approved_by),
          ("resolution", .str "manager_approved")] ++
         (note.elim [] fun note => [("note", .str note)])) }
    return decision_id

def complete_bound_case_if_any (around : Collaborators Uuid Json)
    (resolved : ActionApprovalRecord Uuid) : Call Uuid Json Unit := do
  match resolved.resolved_at, resolved.resolved_by with
  | some resolved_at, some resolved_by => do
    let _ ← claim_and_complete_case_for_action around resolved.approval_id resolved.tenant_id
      resolved.status resolved_by resolved_at (resolved.resolution_note.getD "")
    return ()
  | _, _ => return ()

/-- The row takes its new status, and the case that is bound to it follows. -/
def resolve_and_complete (around : Collaborators Uuid Json) (approval : ActionApprovalRecord Uuid)
    (expected_tenant_id status resolved_by : String) (resolution_note : Option String)
    (metadata : Metadata) : Call Uuid Json (ActionApprovalRecord Uuid) := do
  match ← resolve_approval approval.approval_id expected_tenant_id status around.now resolved_by
      resolution_note metadata with
  | none => throw ⟨"ActionApprovalLifecycleError",
      "action approval was already resolved by a concurrent request; " ++
      "only one resolution is accepted"⟩
  | some resolved => do
    complete_bound_case_if_any around resolved
    return resolved

def approve_in_transaction (around : Collaborators Uuid Json) (approval_id approved_by : String)
    (note : Option String) (tenant_id expected_tenant_id : String) :
    Call Uuid Json (ActionApprovalRecord Uuid) := do
  lift (assert_tenant tenant_id expected_tenant_id)
  let approval ← require_pending approval_id expected_tenant_id
  if some approved_by = approval.proposed_by then
    throw ⟨"ActionApprovalSeparationError", "action approver must differ from proposer"⟩
  else do
    let source ← source_decision approval expected_tenant_id
    let enriched := with_resolution_metadata (← get) approval expected_tenant_id
    let decision_id ← record_manager_approval_decision enriched source approved_by note
    let status ← lift around.orchestration
    if status ≠ "executed" then
      throw ⟨"ActionApprovalRuntimeError", "approved action did not execute: " ++ status⟩
    else
      resolve_and_complete around enriched expected_tenant_id "approved" approved_by note
        (enriched.metadata.update
          [("manager_governance_decision_id", .str (Stdlib.str decision_id)),
           ("approved_by", .str approved_by)])

def deny_in_transaction (around : Collaborators Uuid Json) (approval_id denied_by reason : String)
    (tenant_id expected_tenant_id : String) : Call Uuid Json (ActionApprovalRecord Uuid) := do
  lift (assert_tenant tenant_id expected_tenant_id)
  let note := strip reason
  if note.isEmpty then
    throw ⟨"ActionApprovalRuntimeError", "denial reason is required"⟩
  else do
    let approval ← require_pending approval_id expected_tenant_id
    if some denied_by = approval.proposed_by then
      throw ⟨"ActionApprovalSeparationError", "action denier must differ from proposer"⟩
    else do
      let enriched := with_resolution_metadata (← get) approval expected_tenant_id
      resolve_and_complete around enriched expected_tenant_id "denied" denied_by (some note)
        (enriched.metadata.update [("denied_by", .str denied_by)])

/-! ## Cases -/

/-- The records that the calls write, of the one that they read. -/
def reviewedCase (record : CaseApprovalRecord Uuid Json) (recommendation : SmeRecommendation Json) :
    CaseApprovalRecord Uuid Json :=
  { record with
    status := .awaiting_approval
    sme_recommendation_id := some recommendation.recommendation_id
    recommended_action :=
      orMapping record.recommended_action (first_fireable_action recommendation.recommended_actions)
    sme_recommendation := some recommendation
    metadata := record.metadata.update
      [("sme_recommendation_hash", .str recommendation.recommendation_hash)] }

def guidedCase (record : CaseApprovalRecord Uuid Json) (guided_by guidance : String)
    (decision_id : Uuid) : CaseApprovalRecord Uuid Json :=
  { record with
    status := .guidance_in_progress
    guidance_round := 1
    guidance_ref := some guidance
    governance_decision_id := some decision_id
    metadata := record.metadata.update
      [("guided_by", .str guided_by), ("guidance_decision_id", .str (Stdlib.str decision_id))] }

def resolvedCase (record : CaseApprovalRecord Uuid Json) (status : CaseApprovalStatus)
    (decision_id : Uuid) (resolved_by : String) (note : Option String) (now : Instant)
    (entries : List (String × Value)) : CaseApprovalRecord Uuid Json :=
  { record with
    status
    governance_decision_id := some decision_id
    resolved_at := some now
    resolved_by := some resolved_by
    resolution_note := note
    metadata := record.metadata.update entries }

def approvedCase (record : CaseApprovalRecord Uuid Json) (decision_id : Uuid) (approved_by : String)
    (note : Option String) (now : Instant) : CaseApprovalRecord Uuid Json :=
  resolvedCase record .approved decision_id approved_by note now
    [("approved_by", .str approved_by),
     ("approved_recommendation_hash",
      .ofOptStr (text (record.metadata.get? "sme_recommendation_hash")))]

def rejectedCase (record : CaseApprovalRecord Uuid Json) (decision_id : Uuid) (rejected_by : String)
    (reason : Option String) (now : Instant) : CaseApprovalRecord Uuid Json :=
  resolvedCase record .rejected decision_id rejected_by reason now
    [("rejected_by", .str rejected_by)]

def escalatedCase (record : CaseApprovalRecord Uuid Json) (decision_id : Uuid)
    (escalated_by : String) (reason : String) (escalation_id : Option String) (now : Instant) :
    CaseApprovalRecord Uuid Json :=
  resolvedCase record .escalated decision_id escalated_by (some reason) now
    [("escalated_by", .str escalated_by), ("escalation_id", .ofOptStr escalation_id)]

/-- The guidance that a case was given, by whom. -/
def CaseApprovalRecord.guidedBy (record : CaseApprovalRecord Uuid Json) : Option Value :=
  record.metadata.get? "guided_by"

/-- `review_case`, from the record that was read. -/
def review_record (around : Collaborators Uuid Json) (tenant_id : String)
    (record : CaseApprovalRecord Uuid Json) : Call Uuid Json (CaseApprovalRecord Uuid Json) := do
  if record.status ≠ .pending_sme_review ∧ record.status ≠ .guidance_in_progress then
    throw ⟨"CaseApprovalLifecycleError", "SME review can only run for pending or guided cases"⟩
  else do
    let recommendation ← lift around.recommendation
    update_case (reviewedCase record recommendation) tenant_id

def review_case (around : Collaborators Uuid Json) (approval_case_id tenant_id : String) :
    Call Uuid Json (CaseApprovalRecord Uuid Json) := do
  review_record around tenant_id (← require_case approval_case_id tenant_id)

/-- `guide_case`, from the record that was read. -/
def guide_record (around : Collaborators Uuid Json) (tenant_id guided_by guidance : String)
    (record : CaseApprovalRecord Uuid Json) : Call Uuid Json (CaseApprovalRecord Uuid Json) := do
  if record.status ≠ .awaiting_approval then
    throw ⟨"CaseApprovalLifecycleError", "only awaiting approval cases can receive guidance"⟩
  else if record.guidance_round > 0 then
    throw ⟨"CaseApprovalLifecycleError", "case approval guidance is limited to one round"⟩
  else do
    let flagged ← lift around.flagged
    if flagged then
      throw ⟨"CaseApprovalGuidanceRejectedError", "operator guidance matched injection controls"⟩
    else do
      let decision_id ← record_case_governance_decision record guided_by "require_approval"
        guideChainId "operator_guidance_recorded" none
      let _ ← update_case (guidedCase record guided_by guidance decision_id) tenant_id
      review_case around record.approval_case_id tenant_id

def guide_case (around : Collaborators Uuid Json)
    (approval_case_id tenant_id guided_by guidance : String) :
    Call Uuid Json (CaseApprovalRecord Uuid Json) := do
  guide_record around tenant_id guided_by guidance (← require_case approval_case_id tenant_id)

def deliver_proposed_resolution (around : Collaborators Uuid Json)
    (record : CaseApprovalRecord Uuid Json) (tenant_id : String) (governance_decision_id : Uuid) :
    Call Uuid Json Unit :=
  match record.resolution_proposal_id with
  | some proposal_id => deliver_resolution around record proposal_id tenant_id governance_decision_id
  | none => pure ()

def approve_recommended_action_if_bound (around : Collaborators Uuid Json)
    (record : CaseApprovalRecord Uuid Json) (approved_by : String) (note : Option String)
    (tenant_id : String) : Call Uuid Json Bool :=
  match record.boundAction with
  | some action_approval_id => do
    let _ ← approve_in_transaction around action_approval_id approved_by note tenant_id tenant_id
    return true
  | none => return false

/-- `approve_case`, from the record that was read. -/
def approve_record (around : Collaborators Uuid Json) (tenant_id approved_by : String)
    (note : Option String) (record : CaseApprovalRecord Uuid Json) :
    Call Uuid Json (CaseApprovalRecord Uuid Json) := do
  if record.status ≠ .awaiting_approval then
    throw ⟨"CaseApprovalLifecycleError", "only awaiting approval cases can be approved"⟩
  else if text record.guidedBy = some approved_by then
    throw ⟨"CaseApprovalLifecycleError", "guided cases require a different approver"⟩
  else do
    let decision_id ← record_case_governance_decision record approved_by "allow" approveChainId
      "case_approval_approved" note
    deliver_proposed_resolution around record tenant_id decision_id
    let _ ← approve_recommended_action_if_bound around record approved_by note tenant_id
    update_case (approvedCase record decision_id approved_by note around.now) tenant_id

def approve_case (around : Collaborators Uuid Json) (approval_case_id tenant_id approved_by : String)
    (note : Option String) : Call Uuid Json (CaseApprovalRecord Uuid Json) := do
  approve_record around tenant_id approved_by note (← require_case approval_case_id tenant_id)

/-- What an action that is denied with its case is told. -/
def denialNote (reason : Option String) : String :=
  if (strip (reason.getD "")).isEmpty then "Rejected via case approval review."
  else strip (reason.getD "")

def deny_recommended_action_if_bound (around : Collaborators Uuid Json)
    (record : CaseApprovalRecord Uuid Json) (denied_by : String) (reason : Option String)
    (tenant_id : String) : Call Uuid Json Bool :=
  match record.boundAction with
  | some action_approval_id => do
    let _ ← deny_in_transaction around action_approval_id denied_by (denialNote reason) tenant_id
      tenant_id
    return true
  | none => return false

/-- `reject_case`, from the record that was read. -/
def reject_record (around : Collaborators Uuid Json) (tenant_id rejected_by : String)
    (reason : Option String) (record : CaseApprovalRecord Uuid Json) :
    Call Uuid Json (CaseApprovalRecord Uuid Json) := do
  if record.status ≠ .awaiting_approval then
    throw ⟨"CaseApprovalLifecycleError", "only awaiting approval cases can be rejected"⟩
  else do
    let decision_id ← record_case_governance_decision record rejected_by "deny" rejectChainId
      "case_approval_rejected" reason
    let _ ← deny_recommended_action_if_bound around record rejected_by reason tenant_id
    update_case (rejectedCase record decision_id rejected_by reason around.now) tenant_id

def reject_case (around : Collaborators Uuid Json) (approval_case_id tenant_id rejected_by : String)
    (reason : Option String) : Call Uuid Json (CaseApprovalRecord Uuid Json) := do
  reject_record around tenant_id rejected_by reason (← require_case approval_case_id tenant_id)

/-- `create_for_governance_escalation`, where a runtime for escalations is set. -/
def create_escalation (around : Collaborators Uuid Json) (record : CaseApprovalRecord Uuid Json) :
    Except PyException (Option String) :=
  match around.escalation with
  | none => .ok none
  | some escalation =>
    if record.session_id.isNone then
      .error ⟨"CaseApprovalRuntimeError", "approval escalation requires session lineage"⟩
    else escalation.map some

/-- `escalate_case`, from the record that was read. -/
def escalate_record (around : Collaborators Uuid Json) (tenant_id escalated_by reason : String)
    (record : CaseApprovalRecord Uuid Json) : Call Uuid Json (CaseApprovalRecord Uuid Json) := do
  if record.status.terminal then
    throw ⟨"CaseApprovalLifecycleError", "terminal approval cases cannot be escalated"⟩
  else do
    let decision_id ← record_case_governance_decision record escalated_by "escalate"
      escalateChainId "case_approval_escalated" (some reason)
    let escalation_id ← lift (create_escalation around record)
    update_case (escalatedCase record decision_id escalated_by reason escalation_id around.now)
      tenant_id

def escalate_case (around : Collaborators Uuid Json)
    (approval_case_id tenant_id escalated_by reason : String) :
    Call Uuid Json (CaseApprovalRecord Uuid Json) := do
  escalate_record around tenant_id escalated_by reason (← require_case approval_case_id tenant_id)

/-! ## Calls as steps -/

/-- A call of one of the two services, or of the parts of them that other surfaces use. -/
inductive ApprovalCall
  | review (approval_case_id tenant_id : String)
  | guide (approval_case_id tenant_id guided_by guidance : String)
  | approve (approval_case_id tenant_id approved_by : String) (note : Option String)
  | reject (approval_case_id tenant_id rejected_by : String) (reason : Option String)
  | escalate (approval_case_id tenant_id escalated_by reason : String)
  | approve_action (approval_id approved_by : String) (note : Option String)
    (tenant_id expected_tenant_id : String)
  | deny_action (approval_id denied_by reason tenant_id expected_tenant_id : String)
  | claim (action_approval_id tenant_id action_status resolved_by : String) (resolved_at : Instant)
    (resolution_note : String)
  | complete (approval_case_id tenant_id resolved_by : String) (note : Option String)

/-- What a call does, its result left out. -/
def ApprovalCall.body (around : Collaborators Uuid Json) : ApprovalCall → Call Uuid Json Unit
  | review approval_case_id tenant_id => discard (review_case around approval_case_id tenant_id)
  | guide approval_case_id tenant_id guided_by guidance =>
    discard (guide_case around approval_case_id tenant_id guided_by guidance)
  | approve approval_case_id tenant_id approved_by note =>
    discard (approve_case around approval_case_id tenant_id approved_by note)
  | reject approval_case_id tenant_id rejected_by reason =>
    discard (reject_case around approval_case_id tenant_id rejected_by reason)
  | escalate approval_case_id tenant_id escalated_by reason =>
    discard (escalate_case around approval_case_id tenant_id escalated_by reason)
  | approve_action approval_id approved_by note tenant_id expected_tenant_id =>
    discard (approve_in_transaction around approval_id approved_by note tenant_id expected_tenant_id)
  | deny_action approval_id denied_by reason tenant_id expected_tenant_id =>
    discard (deny_in_transaction around approval_id denied_by reason tenant_id expected_tenant_id)
  | claim action_approval_id tenant_id action_status resolved_by resolved_at resolution_note =>
    discard (claim_and_complete_case_for_action around action_approval_id tenant_id action_status
      resolved_by resolved_at resolution_note)
  | complete approval_case_id tenant_id resolved_by note =>
    discard (complete_reconciled_resolution around approval_case_id tenant_id resolved_by note)

structure Step (Uuid Json : Type) where
  call : ApprovalCall
  around : Collaborators Uuid Json

/-- A call is atomic: it returns and its changes are committed, or it raises and they are not. -/
def Step.next (desk : Desk Uuid Json) (step : Step Uuid Json) : Option (Desk Uuid Json) :=
  some (atomically (do
    step.call.body step.around
    match step.around.interruption with
    | some exc => throw exc
    | none => pure ()) desk)

end

end operious.approvals
