-- Cases that wait for a human, the actions that managers approve, and the desk that keeps both beside
-- the proposals, drafts and decisions they are about.
import Operious.Lib.Effects
import Operious.Reply.SendGates

namespace operious.approvals

open effects
open operious.governance (PyException)
open operious.outbound (InMemoryOutboundSendOutboxPersistence)
open operious.resolution

/-! ## The records -/

inductive CaseApprovalStatus
  | pending_sme_review | awaiting_approval | guidance_in_progress | approved | rejected | escalated
  | failed
  deriving DecidableEq, Repr

/-- `TERMINAL_CASE_APPROVAL_STATUSES`. -/
def CaseApprovalStatus.terminal : CaseApprovalStatus → Bool
  | approved | rejected | escalated | failed => true
  | pending_sme_review | awaiting_approval | guidance_in_progress => false

/-- What the reviewer proposes for a case. -/
structure SmeRecommendation (Json : Type) where
  recommendation_id : String
  recommended_reply : String
  recommended_actions : List Metadata
  reply_segments : List Json
  /-- `_recommendation_hash`. -/
  recommendation_hash : String

/-- The entry `sme_recommendation` of the metadata has a field of its own. -/
structure CaseApprovalRecord (Uuid Json : Type) where
  approval_case_id : String
  tenant_id : String
  session_id : Option String
  execution_id : Option String
  dispatch_id : Option String
  entry_category : String
  status : CaseApprovalStatus
  resolution_proposal_id : Option Uuid := none
  issue_summary : Option String := none
  sme_recommendation_id : Option String := none
  recommended_action : Option Metadata := none
  guidance_round : Nat := 0
  guidance_ref : Option String := none
  governance_decision_id : Option Uuid := none
  resolved_at : Option Instant := none
  resolved_by : Option String := none
  resolution_note : Option String := none
  metadata : Metadata := .empty
  sme_recommendation : Option (SmeRecommendation Json) := none

structure ActionApprovalRecord (Uuid : Type) where
  approval_id : String
  tenant_id : String
  session_id : String
  execution_id : Option String
  tool_name : String
  governance_decision_id : Option Uuid
  status : String := "pending"
  resolved_at : Option Instant := none
  resolved_by : Option String := none
  resolution_note : Option String := none
  metadata : Metadata := .empty
  proposed_by : Option String := none

/-- `_text`, of what a lookup found. -/
def text : Option Value → Option String
  | some (.str s) => if (strip s).isEmpty then none else some (strip s)
  | _ => none

def requires_execution (action : Metadata) : Bool := action.get? "requires_execution" = some (.bool true)

def first_fireable_action (actions : List Metadata) : Option Metadata := actions.find? requires_execution

/-- `a or b` for optional mappings. -/
def orMapping (a b : Option Metadata) : Option Metadata :=
  match a with
  | some m => if m.items.isEmpty then b else some m
  | none => b

/-- The action that a case fires or denies with its own resolution. -/
def CaseApprovalRecord.boundAction {Uuid Json : Type} (record : CaseApprovalRecord Uuid Json) :
    Option String :=
  record.recommended_action.bind fun action =>
    if requires_execution action then text (action.get? "action_approval_id") else none

/-! ## The desk -/

/-- The rows that approvals read and write. -/
structure Desk (Uuid Json : Type) where
  cases : Dict String (CaseApprovalRecord Uuid Json)
  actions : Dict String (ActionApprovalRecord Uuid)
  proposals : Dict Uuid (ResolutionProposalRecord Uuid Json)
  drafts : Dict Uuid (ResolutionOutboundDraftRecord Uuid)
  decisions : Dict Uuid (GovernanceDecisionRecord Uuid)
  outbox : InMemoryOutboundSendOutboxPersistence Uuid

section

variable {Uuid Json : Type} [DecidableEq Uuid]

/-- What the send gate reads. -/
def Desk.stores (desk : Desk Uuid Json) : auto_send.Stores Uuid Json where
  drafts id := (desk.drafts.get? id).filter (·.draft_id = id)
  proposals id := (desk.proposals.get? id).filter (·.proposal_id = id)
  decisions id := desk.decisions.get? id
  draft_key h := by simpa using (Option.filter_eq_some_iff.mp h).2
  proposal_key h := by simpa using (Option.filter_eq_some_iff.mp h).2

def Desk.save_case (desk : Desk Uuid Json) (id : String) (record : CaseApprovalRecord Uuid Json) :
    Desk Uuid Json :=
  { desk with cases := desk.cases.set id record }

abbrev Call (Uuid Json : Type) := Effect PyException (Desk Uuid Json)

/-- The changes of a call that raises are rolled back. -/
def atomically {α : Type} (call : Call Uuid Json α) (desk : Desk Uuid Json) : Desk Uuid Json :=
  match run call desk with
  | (.ok _, desk') => desk'
  | (.error _, _) => desk

/-! ## Cases -/

def get_case (desk : Desk Uuid Json) (approval_case_id expected_tenant_id : String) :
    Option (CaseApprovalRecord Uuid Json) :=
  (desk.cases.get? approval_case_id).filter (·.tenant_id = expected_tenant_id)

/-- The row is found by its id and tenant alone. -/
def update_case (record : CaseApprovalRecord Uuid Json) (expected_tenant_id : String) :
    Call Uuid Json (CaseApprovalRecord Uuid Json) := do
  if record.tenant_id ≠ expected_tenant_id then
    throw ⟨"CaseApprovalPersistenceError", "case approval tenant mismatch"⟩
  else
    match get_case (← get) record.approval_case_id expected_tenant_id with
    | none => throw ⟨"CaseApprovalPersistenceError",
        "unknown approval case '" ++ record.approval_case_id ++ "'"⟩
    | some _ => do
      modify (·.save_case record.approval_case_id record)
      return record

def require_case (approval_case_id tenant_id : String) :
    Call Uuid Json (CaseApprovalRecord Uuid Json) := do
  match get_case (← get) approval_case_id tenant_id with
  | none => throw ⟨"CaseApprovalNotFoundError", "unknown approval case: " ++ approval_case_id⟩
  | some record => return record

/-- What `_CLAIM_CASE_FOR_ACTION_SQL` matches. -/
def claimable (tenant_id action_approval_id : String) (record : CaseApprovalRecord Uuid Json) : Bool :=
  record.tenant_id = tenant_id && record.status = .awaiting_approval &&
    (record.recommended_action.bind (·.get? "action_approval_id")) = some (.str action_approval_id)

/-- `_CLAIM_CASE_FOR_ACTION_SQL`, with the id of the case it resolves. Where it resolves several,
reading its one row raises. -/
def claim_case_for_action (tenant_id action_approval_id : String) (status : CaseApprovalStatus)
    (resolved_at : Instant) (resolved_by resolution_note : String) :
    Call Uuid Json (Option String) := do
  match (← get).cases.items.filter fun item => claimable tenant_id action_approval_id item.2 with
  | [] => return none
  | [(id, record)] => do
    modify (·.save_case id { record with
      status
      resolved_at := some resolved_at
      resolved_by := some resolved_by
      resolution_note := some resolution_note })
    return some record.approval_case_id
  | _ => throw ⟨"MultipleResultsFound", "Multiple rows were found when one or none was required"⟩

/-! ## Actions -/

def get_approval (desk : Desk Uuid Json) (approval_id expected_tenant_id : String) :
    Option (ActionApprovalRecord Uuid) :=
  (desk.actions.get? approval_id).filter (·.tenant_id = expected_tenant_id)

/-- A row that is no longer pending stays as it is. -/
def resolve_approval (approval_id expected_tenant_id status : String) (resolved_at : Instant)
    (resolved_by : String) (resolution_note : Option String) (metadata : Metadata) :
    Call Uuid Json (Option (ActionApprovalRecord Uuid)) := do
  match get_approval (← get) approval_id expected_tenant_id with
  | none => return none
  | some record =>
    if record.status ≠ "pending" then return none
    else do
      let resolved := { record with
        status
        resolved_at := some resolved_at
        resolved_by := some resolved_by
        resolution_note
        metadata }
      modify fun desk => { desk with actions := desk.actions.set approval_id resolved }
      return some resolved

/-! ## Proposals, drafts and decisions -/

def get_resolution_proposal (desk : Desk Uuid Json) (proposal_id : Uuid)
    (expected_tenant_id : String) : Option (ResolutionProposalRecord Uuid Json) :=
  (desk.proposals.get? proposal_id).filter (·.tenant_id = expected_tenant_id)

variable [Stdlib Uuid]

def update_resolution_proposal (proposal_id : Uuid) (expected_tenant_id : String)
    (change : ResolutionProposalRecord Uuid Json → ResolutionProposalRecord Uuid Json) :
    Call Uuid Json (ResolutionProposalRecord Uuid Json) := do
  match get_resolution_proposal (← get) proposal_id expected_tenant_id with
  | none => throw ⟨"ResolutionPersistenceError",
      "unknown resolution proposal '" ++ Stdlib.str proposal_id ++ "'"⟩
  | some record => do
    modify fun desk => { desk with proposals := desk.proposals.set proposal_id (change record) }
    return change record

def update_resolution_proposal_status (proposal_id : Uuid) (expected_tenant_id : String)
    (status : ResolutionProposalStatus) (governance_decision_id : Uuid) (now : Instant) :
    Call Uuid Json (ResolutionProposalRecord Uuid Json) :=
  update_resolution_proposal proposal_id expected_tenant_id fun record => { record with
    status
    governance_verdict := if status = .send_eligible then .allow else record.governance_verdict
    governance_decision_id := some governance_decision_id
    updated_at := now }

def update_resolution_proposal_reply (proposal_id : Uuid) (expected_tenant_id : String)
    (proposed_customer_reply : String) (governance_decision_id : Uuid) (now : Instant) :
    Call Uuid Json (ResolutionProposalRecord Uuid Json) :=
  update_resolution_proposal proposal_id expected_tenant_id fun record => { record with
    proposed_customer_reply
    governance_decision_id := some governance_decision_id
    updated_at := now }

def update_draft_for_proposal (proposal_id : Uuid) (expected_tenant_id : String)
    (change : ResolutionOutboundDraftRecord Uuid → ResolutionOutboundDraftRecord Uuid) :
    Call Uuid Json (Option (ResolutionOutboundDraftRecord Uuid)) := do
  match (← get).drafts.values.find? fun draft =>
      draft.proposal_id = proposal_id && draft.tenant_id = expected_tenant_id with
  | none => return none
  | some draft => do
    modify fun desk => { desk with drafts := desk.drafts.set (change draft).draft_id (change draft) }
    return some (change draft)

def update_resolution_outbound_draft_status_for_proposal (proposal_id : Uuid)
    (expected_tenant_id : String) (status : ResolutionOutboundDraftStatus)
    (governance_decision_id : Uuid) (now : Instant) :
    Call Uuid Json (Option (ResolutionOutboundDraftRecord Uuid)) :=
  update_draft_for_proposal proposal_id expected_tenant_id fun draft => { draft with
    status
    governance_decision_id := some governance_decision_id
    updated_at := now }

def update_resolution_outbound_draft_body_for_proposal (proposal_id : Uuid)
    (expected_tenant_id draft_body draft_body_sha256 : String) (governance_decision_id : Uuid)
    (now : Instant) : Call Uuid Json (Option (ResolutionOutboundDraftRecord Uuid)) :=
  update_draft_for_proposal proposal_id expected_tenant_id fun draft => { draft with
    draft_body
    draft_body_sha256
    governance_decision_id := some governance_decision_id
    updated_at := now }

def record_decision (record : GovernanceDecisionRecord Uuid) : Call Uuid Json Unit := do
  match (← get).decisions.get? record.decision_id with
  | some _ => throw ⟨"ValueError", "decision '" ++ Stdlib.str record.decision_id ++
      "' already recorded; records are write-once"⟩
  | none => modify fun desk => { desk with
      decisions := desk.decisions.set record.decision_id record }

def get_decision (desk : Desk Uuid Json) (decision_id : Uuid) (expected_tenant_id : String) :
    Option (GovernanceDecisionRecord Uuid) :=
  (desk.decisions.get? decision_id).filter (·.tenant_id = some expected_tenant_id)

end

end operious.approvals

-- What follows the approval of a case: the reply is governed, its proposal and draft are released, and
-- it is queued for sending. And how a case follows the action it is bound to.
namespace operious.approvals

open effects
open operious.auto_send
open operious.governance (PyException)
open operious.resolution

/-! ## What answers around a call -/

structure ResolutionGovernanceGateResult (Uuid : Type) where
  governance_verdict : ResolutionGovernanceVerdict
  governance_decision_id : Option Uuid := none
  /-- The decision that the gate has recorded, for the tenant that asked. -/
  recorded : Option (GovernanceDecisionRecord Uuid) := none

structure Collaborators (Uuid Json : Type) where
  now : Instant
  /-- What a call of the database raises, if one does. -/
  interruption : Option PyException := none
  /-- `review_case` of the reviewer. -/
  recommendation : Except PyException (SmeRecommendation Json)
  /-- Whether the scanner flags the guidance. -/
  flagged : Except PyException Bool
  /-- The id of the escalation, where the runtime for it is set. -/
  escalation : Option (Except PyException String)
  /-- `_derive_outbound_send_target`. -/
  target : Except PyException (Option OutboundSendTarget)
  /-- `evaluate_resolution_proposal` of the gate for the revised reply, where a gate is set. -/
  gate : Option (Except PyException (ResolutionGovernanceGateResult Uuid))
  /-- The status of the outcome of `re_invoke_approved_action`. -/
  orchestration : Except PyException String

def approveChainId : String := "case_approval.human_approve.v1"
def guideChainId : String := "case_approval.operator_guidance.v1"
def escalateChainId : String := "case_approval.operator_escalate.v1"
def rejectChainId : String := "case_approval.human_reject.v1"
def deliveryAuthorizationChainId : String := "case_approval.delivery_authorization.v1"

/-- `_DELIVERABLE_VERDICTS`. -/
def deliverable : ResolutionGovernanceVerdict → Bool
  | .allow | .require_approval => true
  | _ => false

section

variable {Uuid Json : Type} [Stdlib Uuid]

def caseApprovalNamespace : Uuid := Stdlib.uuid "51b3132f-2f18-4e68-a002-ef97051b0101"

def case_decision_id (record : CaseApprovalRecord Uuid Json) (actor policy_chain_id : String) : Uuid :=
  Stdlib.uuid5 caseApprovalNamespace (record.tenant_id ++ "|" ++ record.approval_case_id ++ "|" ++
    policy_chain_id ++ "|" ++ actor ++ "|" ++ record.guidance_round.repr)

def delivery_decision_id (tenant_id : String) (proposal_id : Uuid) : Uuid :=
  Stdlib.uuid5 caseApprovalNamespace (tenant_id ++ "|" ++ Stdlib.str proposal_id ++ "|" ++
    deliveryAuthorizationChainId)

variable [DecidableEq Uuid]

def record_case_governance_decision (record : CaseApprovalRecord Uuid Json)
    (actor decision policy_chain_id reason : String) (note : Option String) : Call Uuid Json Uuid := do
  let decision_id := case_decision_id record actor policy_chain_id
  match get_decision (← get) decision_id record.tenant_id with
  | some _ => return decision_id
  | none => do
    record_decision {
      decision_id
      decision
      reason
      request_id := some ("case-approval:" ++ record.approval_case_id)
      tenant_id := some record.tenant_id
      subject_kind := "case_approval"
      metadata := Dict.ofList
        [("approval_case_id", .str record.approval_case_id),
         ("entry_category", .str record.entry_category),
         ("session_id", .ofOptStr record.session_id),
         ("execution_id", .ofOptStr record.execution_id),
         ("dispatch_id", .ofOptStr record.dispatch_id),
         ("resolution_proposal_id", .ofOptStr (record.resolution_proposal_id.map Stdlib.str)),
         ("actor", .str actor),
         ("note", .ofOptStr note)] }
    return decision_id

variable [Sha256]

/-- The metadata that a decision needs to let exactly this reply be sent. -/
def deliveryMetadata (record : CaseApprovalRecord Uuid Json)
    (proposal : ResolutionProposalRecord Uuid Json)
    (draft : Option (ResolutionOutboundDraftRecord Uuid)) (target : Option OutboundSendTarget) :
    Metadata :=
  let metadata : Metadata := Dict.ofList
    [("approval_case_id", .str record.approval_case_id),
     ("proposal_id", .str (Stdlib.str proposal.proposal_id)),
     ("proposed_reply_sha256", .str (sha256_text
       ((draft.map canonical_reply_for_governance).getD proposal.proposed_customer_reply))),
     ("governed_action", .str customerReplySendAction)]
  match draft, target with
  | some draft, some target => metadata.update
    [("session_id", .str draft.session_id),
     ("execution_id", .str draft.execution_id),
     ("dispatch_id", .str draft.dispatch_id),
     ("draft_id", .str (Stdlib.str draft.draft_id)),
     ("source_channel", .str target.channel),
     ("reply_recipient", .str target.recipient),
     ("reply_thread_context", .ofOptStr target.thread_context)]
  | _, _ => metadata

def record_delivery_authorization_decision (record : CaseApprovalRecord Uuid Json)
    (proposal : ResolutionProposalRecord Uuid Json) (tenant_id : String)
    (target : Option OutboundSendTarget) : Call Uuid Json Uuid := do
  let decision_id := delivery_decision_id tenant_id proposal.proposal_id
  match get_decision (← get) decision_id tenant_id with
  | some _ => return decision_id
  | none => do
    let draft_id ← lift ((derive_resolution_outbound_draft_id tenant_id proposal.proposal_id).mapError
      fun e => ⟨"ValueError", e⟩)
    let draft := (← get).stores.get_resolution_outbound_draft draft_id tenant_id
    record_decision {
      decision_id
      decision := "allow"
      reason := "case_approval_delivery_authorized"
      request_id := some ("resolution:" ++ Stdlib.str proposal.proposal_id)
      tenant_id := some tenant_id
      subject_kind := communicationSubjectKind
      metadata := deliveryMetadata record proposal draft target }
    return decision_id

def revalidate_resolution_governance (around : Collaborators Uuid Json) (tenant_id : String)
    (recommendation : Option (SmeRecommendation Json)) :
    Call Uuid Json (ResolutionGovernanceGateResult Uuid) := do
  if (recommendation.elim [] (·.reply_segments)).isEmpty then
    throw ⟨"CaseApprovalRuntimeError", "a revised SME reply must carry grounding segments; " ++
      "escalate instead of delivering unverifiable text"⟩
  else
    match around.gate with
    | none => throw ⟨"CaseApprovalRuntimeError", "resolution governance gate is not configured; " ++
        "cannot deliver a revised reply"⟩
    | some gate => do
      let result ← lift gate
      match result.recorded with
      | some decision => record_decision { decision with tenant_id := some tenant_id }
      | none => pure ()
      if deliverable result.governance_verdict then return result
      else throw ⟨"CaseApprovalRuntimeError", "revised SME reply failed resolution governance (" ++
        result.governance_verdict.value ++ "); escalate the case"⟩

def trigger_auto_send (proposal : ResolutionProposalRecord Uuid Json)
    (draft : ResolutionOutboundDraftRecord Uuid) (target : OutboundSendTarget) (tenant_id : String)
    (now : Instant) : Call Uuid Json Unit := do
  let desk ← get
  let (result, outbox) ← lift ((request_auto_send desk.stores desk.outbox draft proposal target
    tenant_id now).mapError fun e => ⟨"ValueError", e⟩)
  set { desk with outbox }
  match result.reason with
  | some reason => throw ⟨"CaseApprovalRuntimeError", "auto-send after approval failed: " ++
      reason.code ++ ": " ++ reason.message⟩
  | none => return ()

def revisedReply (record : CaseApprovalRecord Uuid Json)
    (proposal : ResolutionProposalRecord Uuid Json) : Option String :=
  (text (record.sme_recommendation.map fun r => .str r.recommended_reply)).filter
    (· ≠ strip proposal.proposed_customer_reply)

/-- The decision under which the reply goes out. A revised reply is governed anew, and written over
the one that was proposed. -/
def authorize_delivery (around : Collaborators Uuid Json) (record : CaseApprovalRecord Uuid Json)
    (proposal : ResolutionProposalRecord Uuid Json) (proposal_id : Uuid) (tenant_id : String)
    (target : Option OutboundSendTarget) (governance_decision_id : Uuid) : Call Uuid Json Uuid := do
  match revisedReply record proposal with
  | some new_reply => do
    let revalidation ← revalidate_resolution_governance around tenant_id
      record.sme_recommendation
    let delivered_decision_id := revalidation.governance_decision_id.getD governance_decision_id
    let _ ← update_resolution_proposal_reply proposal_id tenant_id new_reply delivered_decision_id
      around.now
    let _ ← update_resolution_outbound_draft_body_for_proposal proposal_id tenant_id new_reply
      (sha256_text new_reply) delivered_decision_id around.now
    return delivered_decision_id
  | none => record_delivery_authorization_decision record proposal tenant_id target

/-- `_deliver_resolution`, of the proposal that the case is bound to. -/
def deliver_resolution (around : Collaborators Uuid Json) (record : CaseApprovalRecord Uuid Json)
    (proposal_id : Uuid) (tenant_id : String) (governance_decision_id : Uuid) :
    Call Uuid Json Unit := do
  match get_resolution_proposal (← get) proposal_id record.tenant_id with
  | none => throw ⟨"CaseApprovalRuntimeError", "approved resolution proposal is missing"⟩
  | some proposal => do
    let target ← lift around.target
    let delivered_decision_id ← authorize_delivery around record proposal proposal_id tenant_id target
      governance_decision_id
    let updated_proposal ← update_resolution_proposal_status proposal_id tenant_id .send_eligible
      delivered_decision_id around.now
    let updated_draft ← update_resolution_outbound_draft_status_for_proposal proposal_id tenant_id
      .ready delivered_decision_id around.now
    match target, updated_draft with
    | some target, some draft => trigger_auto_send updated_proposal draft target tenant_id around.now
    | _, _ => return ()

/-! ## A case that follows its action -/

/-- `complete_reconciled_resolution`: whether a reply was delivered. -/
def complete_reconciled_resolution (around : Collaborators Uuid Json)
    (approval_case_id tenant_id resolved_by : String) (note : Option String) :
    Call Uuid Json Bool := do
  let record ← require_case approval_case_id tenant_id
  if record.status ≠ .approved then return false
  else
    match record.resolution_proposal_id with
    | none => return false
    | some proposal_id =>
      match get_resolution_proposal (← get) proposal_id record.tenant_id with
      | none => return false
      | some proposal =>
        if proposal.status ≠ .pending_human_approval then return false
        else do
          let decision_id ← record_case_governance_decision record resolved_by "allow" approveChainId
            "case_approval_approved_reconciled" note
          deliver_resolution around record proposal_id tenant_id decision_id
          let _ ← update_case { record with governance_decision_id := some decision_id } tenant_id
          return true

/-- `claim_and_complete_case_for_action`: the case that was resolved, and whether its reply was
delivered. -/
def claim_and_complete_case_for_action (around : Collaborators Uuid Json)
    (action_approval_id tenant_id action_status resolved_by : String) (resolved_at : Instant)
    (resolution_note : String) : Call Uuid Json (Option (String × Bool)) := do
  let new_status : CaseApprovalStatus := if action_status = "approved" then .approved else .rejected
  match ← claim_case_for_action tenant_id action_approval_id new_status resolved_at resolved_by
      resolution_note with
  | none => return none
  | some approval_case_id =>
    if new_status = .approved then do
      let delivered ← complete_reconciled_resolution around approval_case_id tenant_id resolved_by
        (some resolution_note)
      return some (approval_case_id, delivered)
    else return some (approval_case_id, false)

end

end operious.approvals
