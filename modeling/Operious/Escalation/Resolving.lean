-- A manager approves or rejects an escalation. A call reads, and writes later what follows from what it
-- has read. The writes of one call are committed together; the row of the escalation is written by its
-- id alone.
import Operious.Approvals.Records

namespace operious.escalation.resolving

open effects
open operious.approvals (Call Desk get_decision get_resolution_proposal record_decision
  update_resolution_proposal_status update_resolution_outbound_draft_status_for_proposal)
open operious.auto_send
open operious.governance (PyException)
open operious.outbound (OutboundSendOutboxRecord)
open operious.resolution

/-! ## Records -/

inductive EscalationStatus
  | pending | reviewed | approved | rejected
  deriving DecidableEq, Repr

def EscalationStatus.value : EscalationStatus → String
  | pending => "pending"
  | reviewed => "reviewed"
  | approved => "approved"
  | rejected => "rejected"

def EscalationStatus.decided : EscalationStatus → Bool
  | approved | rejected => true
  | pending | reviewed => false

inductive EscalationHandoffKind
  | denial | escalation | crisis
  deriving DecidableEq, Repr

structure EscalationRecord (Uuid : Type) where
  escalation_id : Uuid
  session_id : String
  tenant_id : String
  reason : String
  governance_decision_id : Uuid
  status : EscalationStatus
  created_at : Instant
  handoff_kind : EscalationHandoffKind := .denial
  priority : String := "normal"
  resolved_at : Option Instant := none
  resolution : Option String := none
  resolved_by : Option String := none
  metadata : Metadata := .empty

/-- The arguments of a call, and its time. -/
structure Ruling where
  resolution : String
  resolved_by : String
  expected_tenant_id : String
  now : Instant

/-! ## The checks -/

def runtimeError (text : String) : PyException := ⟨"EscalationRuntimeError", text⟩

def require_nonempty (value name : String) : Except PyException Unit :=
  if (strip value).isEmpty then .error (runtimeError (name ++ " is required")) else .ok ()

def ensure_resolvable {Uuid : Type} (record : EscalationRecord Uuid) : Except PyException Unit :=
  if record.status.decided then
    .error ⟨"EscalationResolutionError", "only pending or reviewed escalations can be resolved"⟩
  else .ok ()

section

variable {Uuid Json : Type} [Stdlib Uuid]

/-- `_require_record`, of the row that is there. -/
def require_record (record : EscalationRecord Uuid) (expected_tenant_id : String) :
    Except PyException (EscalationRecord Uuid) :=
  if record.tenant_id = expected_tenant_id then .ok record
  else .error ⟨"EscalationNotFoundError", "unknown escalation: " ++ Stdlib.str record.escalation_id⟩

/-- `_resolution_proposal_id_from_decision`: the text of an id. -/
def resolution_proposal_id_from_decision (decision : GovernanceDecisionRecord Uuid) :
    Option String :=
  match metadata_text decision.metadata "proposal_id" with
  | some text => some text
  | none =>
    let request_id := ascii.chars (strip (decision.request_id.getD ""))
    if (ascii.chars "resolution:").isPrefixOf request_id then
      optional_text (some (String.ofList (request_id.drop "resolution:".length)))
    else none

/-! ## Ids -/

def coerce_tenant_id (raw : String) : Except PyException String :=
  if (strip raw).isEmpty then .error ⟨"IdentityError", "tenant_id must be a non-empty string"⟩
  else .ok (strip raw)

def derive_escalation_override_decision_id (record : EscalationRecord Uuid) :
    Except PyException Uuid := do
  let tenant ← coerce_tenant_id record.tenant_id
  .ok (Stdlib.uuid5 (Stdlib.uuid "8f85a2aa-0003-4a01-9001-000000000003")
    ("override|" ++ tenant ++ "|" ++ Stdlib.str record.escalation_id ++ "|" ++
      Stdlib.str record.governance_decision_id))

def deliveryAuthorizationChainId : String := "escalation.override_delivery_authorization.v1"

def delivery_decision_id (record : EscalationRecord Uuid) (proposal_id : Uuid) : Uuid :=
  Stdlib.uuid5 (Stdlib.uuid "fd3f1f07-9b61-4d43-93fa-31e881a4cf75")
    (record.tenant_id ++ "|" ++ Stdlib.str proposal_id ++ "|" ++ deliveryAuthorizationChainId)

/-! ## What a call reads -/

variable [DecidableEq Uuid]

def require_source_denial (desk : Desk Uuid Json) (record : EscalationRecord Uuid)
    (expected_tenant_id : String) : Except PyException (GovernanceDecisionRecord Uuid) :=
  let decision := get_decision desk record.governance_decision_id expected_tenant_id
  if record.handoff_kind = .crisis ∨ record.metadata.get? "crisis" = some (.bool true) then
    .error (runtimeError "crisis handoffs cannot be resolved through DENY override")
  else
    match decision with
    | none => .error (runtimeError "source governance denial is absent or tenant-invisible")
    | some decision =>
      if decision.decision ≠ "deny" then
        .error (runtimeError "source governance decision is no longer a DENY record")
      else .ok decision

/-- What the release of a reply reads: the proposal, its draft, where it is to be sent, and whether its
authorization is recorded already. -/
structure Release (Uuid Json : Type) where
  proposal_id : Uuid
  proposal : ResolutionProposalRecord Uuid Json
  draft : ResolutionOutboundDraftRecord Uuid
  target : OutboundSendTarget
  authorized : Bool

structure Approval (Uuid Json : Type) where
  record : EscalationRecord Uuid
  denied : GovernanceDecisionRecord Uuid
  override_decision_id : Uuid
  overridden : Bool
  release : Option (Release Uuid Json)

/-- The reads of `_release_resolution_after_override`. `target` is what `_derive_outbound_send_target`
gives. -/
def read_release (desk : Desk Uuid Json) (record : EscalationRecord Uuid)
    (denied : GovernanceDecisionRecord Uuid) (target : Except PyException OutboundSendTarget)
    (expected_tenant_id : String) : Except PyException (Option (Release Uuid Json)) :=
  match (resolution_proposal_id_from_decision denied).map Stdlib.uuid with
  | none => .ok none
  | some proposal_id =>
    match get_resolution_proposal desk proposal_id expected_tenant_id with
    | none => .error (runtimeError "resolution proposal for override is missing")
    | some proposal =>
      match desk.drafts.values.find? fun draft =>
          draft.proposal_id = proposal_id && draft.tenant_id = expected_tenant_id with
      | none => .error (runtimeError "resolution draft for override is missing")
      | some draft => do
        let target ← target
        .ok (some {
          proposal_id, proposal, draft, target
          authorized := (get_decision desk (delivery_decision_id record proposal.proposal_id)
            record.tenant_id).isSome })

/-- The reads of `approve_escalation`. None where it is approved already, and returned as it is. -/
def read_approval (escalation : EscalationRecord Uuid) (desk : Desk Uuid Json)
    (target : Except PyException OutboundSendTarget) (ruling : Ruling) :
    Except PyException (Option (Approval Uuid Json)) := do
  require_nonempty ruling.resolution "resolution"
  require_nonempty ruling.resolved_by "resolved_by"
  let record ← require_record escalation ruling.expected_tenant_id
  if record.status = .approved then .ok none
  else do
    ensure_resolvable record
    let denied ← require_source_denial desk record ruling.expected_tenant_id
    let override_decision_id ← derive_escalation_override_decision_id record
    let release ← read_release desk record denied target ruling.expected_tenant_id
    .ok (some {
      record, denied, override_decision_id, release
      overridden := (get_decision desk override_decision_id record.tenant_id).isSome })

/-- The reads of `reject_escalation`. None where it is rejected already. -/
def read_rejection (escalation : EscalationRecord Uuid) (desk : Desk Uuid Json) (ruling : Ruling) :
    Except PyException (Option (EscalationRecord Uuid)) := do
  require_nonempty ruling.resolution "resolution"
  require_nonempty ruling.resolved_by "resolved_by"
  let record ← require_record escalation ruling.expected_tenant_id
  if record.status = .rejected then .ok none
  else do
    ensure_resolvable record
    let _ ← require_source_denial desk record ruling.expected_tenant_id
    .ok (some record)

/-! ## What a call writes -/

def overrideDecision (approval : Approval Uuid Json) (ruling : Ruling) :
    GovernanceDecisionRecord Uuid where
  decision_id := approval.override_decision_id
  decision := "allow"
  reason := ruling.resolution
  request_id := approval.denied.request_id
  tenant_id := some approval.record.tenant_id
  subject_kind := "escalation"
  metadata := Dict.ofList
    [("override_authority", .str "human_manager"),
     ("override", .bool true),
     ("escalation_id", .str (Stdlib.str approval.record.escalation_id)),
     ("source_governance_decision_id", .str (Stdlib.str approval.denied.decision_id)),
     ("source_decision", .str approval.denied.decision),
     ("session_id", .str approval.record.session_id),
     ("resolved_by", .str ruling.resolved_by),
     ("resolution", .str ruling.resolution),
     ("tenant_authority_source", .str "human_manager")]

/-- The writes of `_record_governance_override`. -/
def record_governance_override (approval : Approval Uuid Json) (ruling : Ruling) :
    Call Uuid Json Unit :=
  if approval.overridden then pure () else record_decision (overrideDecision approval ruling)

variable [Sha256]

/-- The decision that lets exactly this reply be sent. -/
def deliveryDecision (approval : Approval Uuid Json) (release : Release Uuid Json) (ruling : Ruling) :
    GovernanceDecisionRecord Uuid where
  decision_id := delivery_decision_id approval.record release.proposal.proposal_id
  decision := "allow"
  reason := "escalation_override_delivery_authorized"
  request_id := some ("resolution:" ++ Stdlib.str release.proposal.proposal_id)
  tenant_id := some approval.record.tenant_id
  subject_kind := communicationSubjectKind
  metadata := Dict.ofList
    [("escalation_id", .str (Stdlib.str approval.record.escalation_id)),
     ("source_governance_decision_id", .str (Stdlib.str approval.denied.decision_id)),
     ("governance_override_decision_id", .str (Stdlib.str approval.override_decision_id)),
     ("proposal_id", .str (Stdlib.str release.proposal.proposal_id)),
     ("draft_id", .str (Stdlib.str release.draft.draft_id)),
     ("session_id", .str release.draft.session_id),
     ("execution_id", .str release.draft.execution_id),
     ("dispatch_id", .str release.draft.dispatch_id),
     ("source_channel", .str release.target.channel),
     ("reply_recipient", .str release.target.recipient),
     ("reply_thread_context", .ofOptStr release.target.thread_context),
     ("proposed_reply_sha256", .str (sha256_text (canonical_reply_for_governance release.draft))),
     ("governed_action", .str customerReplySendAction),
     ("actor", .str ruling.resolved_by),
     ("resolution", .str ruling.resolution)]

/-- The writes of `_record_delivery_authorization_decision`. -/
def record_delivery_authorization_decision (approval : Approval Uuid Json)
    (release : Release Uuid Json) (ruling : Ruling) : Call Uuid Json Unit :=
  if release.authorized then pure () else record_decision (deliveryDecision approval release ruling)

/-- `request_auto_send`, which must give a row. -/
def send_released (proposal : ResolutionProposalRecord Uuid Json)
    (draft : ResolutionOutboundDraftRecord Uuid) (target : OutboundSendTarget) (ruling : Ruling) :
    Call Uuid Json (OutboundSendOutboxRecord Uuid) := do
  let desk ← get
  let (result, outbox) ← lift ((request_auto_send desk.stores desk.outbox draft proposal target
    ruling.expected_tenant_id ruling.now).mapError fun e => ⟨"ValueError", e⟩)
  set { desk with outbox }
  match result.reason, result.outbox with
  | some reason, _ => throw (runtimeError ("override release failed: " ++ reason.code ++ ": " ++
      reason.message))
  | none, none => throw (runtimeError "override release failed: unknown release failure")
  | none, some row => return row

/-- The writes of `_release_resolution_after_override`, with the row of the outbox. -/
def release_resolution (approval : Approval Uuid Json) (release : Release Uuid Json)
    (ruling : Ruling) : Call Uuid Json (OutboundSendOutboxRecord Uuid) := do
  record_delivery_authorization_decision approval release ruling
  let delivery_decision_id := delivery_decision_id approval.record release.proposal.proposal_id
  let released_proposal ← update_resolution_proposal_status release.proposal_id
    ruling.expected_tenant_id .send_eligible delivery_decision_id ruling.now
  match ← update_resolution_outbound_draft_status_for_proposal release.proposal_id
      ruling.expected_tenant_id .ready delivery_decision_id ruling.now with
  | none => throw (runtimeError "resolution draft for override could not be updated")
  | some released_draft => send_released released_proposal released_draft release.target ruling

/-- The writes of an approval but for the row of the escalation: what it released, if its denial was of a
reply. -/
def write_approval (approval : Approval Uuid Json) (ruling : Ruling) :
    Call Uuid Json (Option (Release Uuid Json × OutboundSendOutboxRecord Uuid)) := do
  record_governance_override approval ruling
  match approval.release with
  | none => return none
  | some release => do
    let row ← release_resolution approval release ruling
    return some (release, row)

def releaseMetadata (approval : Approval Uuid Json) :
    Option (Release Uuid Json × OutboundSendOutboxRecord Uuid) → List (String × Value)
  | none => []
  | some (release, row) =>
    [("released_resolution_proposal_id", .str (Stdlib.str release.proposal.proposal_id)),
     ("released_resolution_draft_id", .str (Stdlib.str release.draft.draft_id)),
     ("released_delivery_governance_decision_id",
       .str (Stdlib.str (delivery_decision_id approval.record release.proposal.proposal_id))),
     ("released_outbound_send_outbox_id", .str (Stdlib.str row.outbox_id))]

def approvedRecord (approval : Approval Uuid Json) (ruling : Ruling)
    (released : Option (Release Uuid Json × OutboundSendOutboxRecord Uuid)) :
    EscalationRecord Uuid :=
  { approval.record with
    status := .approved
    resolved_at := some ruling.now
    resolution := some ruling.resolution
    resolved_by := some ruling.resolved_by
    metadata := approval.record.metadata.update
      ([("resolution_status", .str EscalationStatus.approved.value),
        ("governance_override_decision_id", .str (Stdlib.str approval.override_decision_id)),
        ("resolved_by", .str ruling.resolved_by),
        ("resolved_at", .str (Stdlib.isoformat Uuid ruling.now)),
        ("resolution", .str ruling.resolution)] ++ releaseMetadata approval released) }

def rejectedRecord (record : EscalationRecord Uuid) (ruling : Ruling) : EscalationRecord Uuid :=
  { record with
    status := .rejected
    resolved_at := some ruling.now
    resolution := some ruling.resolution
    resolved_by := some ruling.resolved_by
    metadata := record.metadata.update
      [("resolution_status", .str EscalationStatus.rejected.value),
       ("denial_lineage_intact", .bool true),
       ("resolved_by", .str ruling.resolved_by),
       ("resolved_at", .str (Stdlib.isoformat Uuid ruling.now)),
       ("resolution", .str ruling.resolution)] }

/-! ## Calls at once -/

/-- A call that has read. -/
inductive Flight (Uuid Json : Type)
  | approving (approval : Approval Uuid Json)
  | rejecting (record : EscalationRecord Uuid)

/-- The escalation, the rows around it, and the calls that have read and not yet written, one to a manager.
`releases` is the history of what approvals of this escalation released: a proposal and the row of the
send outbox. -/
structure World (Uuid Json : Type) where
  escalation : EscalationRecord Uuid
  desk : Desk Uuid Json
  calls : List (Nat × Ruling × Flight Uuid Json)
  releases : List (Uuid × Uuid)

inductive Act
  | approve (manager : Nat) (ruling : Ruling) (target : Except PyException OutboundSendTarget)
  | reject (manager : Nat) (ruling : Ruling)
  | commit (manager : Nat)

/-- The call takes off with what it has read. -/
def World.enter (w : World Uuid Json) (manager : Nat) (ruling : Ruling) (flight : Flight Uuid Json) :
    World Uuid Json :=
  { w with calls := (manager, ruling, flight) :: w.calls }

/-- One step. A call that raises leaves nothing behind and is none. -/
def step (w : World Uuid Json) : Act → Option (World Uuid Json)
  | .approve manager ruling target =>
    match read_approval w.escalation w.desk target ruling with
    | .error _ => none
    | .ok none => some w
    | .ok (some approval) => some (w.enter manager ruling (.approving approval))
  | .reject manager ruling =>
    match read_rejection w.escalation w.desk ruling with
    | .error _ => none
    | .ok none => some w
    | .ok (some record) => some (w.enter manager ruling (.rejecting record))
  | .commit manager =>
    match w.calls.find? (·.1 = manager) with
    | none => none
    | some (_, ruling, .approving approval) =>
      match run (write_approval approval ruling) w.desk with
      | (.error _, _) => none
      | (.ok released, desk) => some {
          escalation := approvedRecord approval ruling released
          desk
          calls := w.calls.filter (·.1 ≠ manager)
          releases := released.toList.map (fun (release, row) => (release.proposal_id, row.outbox_id)) ++
            w.releases }
    | some (_, ruling, .rejecting record) => some { w with
        escalation := rejectedRecord record ruling
        calls := w.calls.filter (·.1 ≠ manager) }

end

end operious.escalation.resolving
