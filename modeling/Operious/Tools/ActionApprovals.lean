-- The orchestration of a proposal's actions: each tool is invoked under its own governance, and an
-- action that waits for a human gets an approval record in the repository of the process.
import Operious.Identity.RuntimeIds
import Operious.Lib.Effects
import Operious.Tools.TenantActionPolicy

namespace operious.agents.tools

open effects
open operious.governance (PyException)

structure ActionApprovalRecord (F : Type) where
  approval_id : String
  tenant_id : String
  session_id : String
  execution_id : Option String
  tool_name : String
  idempotency_key : String
  payload_json : JsonObject F
  governance_decision_id : Option String
  status : String := "pending"
  requested_at : Instant
  resolved_at : Option Instant := none
  resolved_by : Option String := none
  resolution_note : Option String := none
  metadata : JsonObject F := .empty
  proposed_by : Option String := none

structure InMemoryActionApprovalRepository (F : Type) where
  by_id : Dict String (ActionApprovalRecord F) := .empty
  by_idempotency_key : Dict String (ActionApprovalRecord F) := .empty

abbrev ApprovalCall (F : Type) := Effect PyException (InMemoryActionApprovalRepository F)

section

variable {F : Type}

def assertTenant (tenant_id expected_tenant_id : String) : Except PyException Unit :=
  if tenant_id ≠ expected_tenant_id then
    .error ⟨"ActionApprovalError", "action approval tenant mismatch"⟩
  else .ok ()

/-- Both indexes hold the record. -/
def InMemoryActionApprovalRepository.save (repository : InMemoryActionApprovalRepository F)
    (approval_id : String) (record : ActionApprovalRecord F) : InMemoryActionApprovalRepository F where
  by_id := repository.by_id.set approval_id record
  by_idempotency_key := repository.by_idempotency_key.set record.idempotency_key record

def create_pending_approval (record : ActionApprovalRecord F) (expected_tenant_id : String) :
    ApprovalCall F (ActionApprovalRecord F) := do
  lift (assertTenant record.tenant_id expected_tenant_id)
  match (← get).by_idempotency_key.get? record.idempotency_key with
  | some existing => do
    lift (assertTenant existing.tenant_id expected_tenant_id)
    return existing
  | none => do
    modify (·.save record.approval_id record)
    return record

/-- What a manager writes on a record. -/
structure ActionResolution (F : Type) where
  status : String
  resolved_at : Instant
  resolved_by : String
  resolution_note : Option String
  metadata : JsonObject F

def ActionApprovalRecord.resolved (record : ActionApprovalRecord F)
    (resolution : ActionResolution F) : ActionApprovalRecord F :=
  { record with
    status := resolution.status
    resolved_at := some resolution.resolved_at
    resolved_by := some resolution.resolved_by
    resolution_note := resolution.resolution_note
    metadata := resolution.metadata }

def resolve_approval (approval_id expected_tenant_id : String) (resolution : ActionResolution F) :
    ApprovalCall F (Option (ActionApprovalRecord F)) := do
  match (← get).by_id.get? approval_id with
  | none => return none
  | some record =>
    if record.tenant_id ≠ expected_tenant_id then return none
    else if record.status ≠ "pending" then return none
    else do
      modify (·.save approval_id (record.resolved resolution))
      return some (record.resolved resolution)

/-! ## The outcome of an action -/

inductive ToolInvocationStatus
  | ok
  | failed
  | denied
  deriving DecidableEq

structure ToolInvocationRequest (F : Type) where
  tool_name : String
  payload : JsonObject F
  metadata : JsonObject F

/-- What the tool invoker returns: its trace, and the output of the tool or the text of the error. -/
structure ToolInvocationEnvelope (F : Type) where
  status : ToolInvocationStatus
  governance_decision_id : Option String
  metadata : JsonObject F
  output : Option (JsonObject F)
  error : Option String

/-- The output, where `is_ok`. -/
def ToolInvocationEnvelope.result (envelope : ToolInvocationEnvelope F) : Option (JsonObject F) :=
  if envelope.error = none ∧ envelope.status = .ok then envelope.output else none

def ToolInvocationEnvelope.is_denied (envelope : ToolInvocationEnvelope F) : Bool :=
  envelope.status = .denied

inductive ActionStatus
  | executed
  | pending_approval
  | denied
  | error
  deriving DecidableEq

structure ActionOutcome where
  tool_name : String
  idempotency_key : String
  status : ActionStatus
  governance_decision_id : Option String
  approval_record_id : Option String

structure TimelineEvent (F : Type) where
  session_id : String
  dispatch_id : String
  tenant_id : String
  event_type : String
  payload : JsonObject F
  idempotency_key : String

structure CrisisCaseRequest (F : Type) where
  tenant_id : String
  session_id : String
  execution_id : String
  dispatch_id : String
  action_approval_id : String
  tool_name : String
  payload : JsonObject F
  governance_decision_id : Option String
  crisis_policy : String
  issue_summary : Option String
  metadata : JsonObject F

/-- What the orchestration calls besides the repository. None of it touches the repository. -/
structure Surroundings (F : Type) where
  now : Instant
  /-- `compute_agent_execution_actor` of the context. -/
  actor : String
  invoke : Nat → ToolInvocationRequest F → Except PyException (ToolInvocationEnvelope F)
  append_event : TimelineEvent F → Except PyException Unit
  request_case : CrisisCaseRequest F → Except PyException Unit

structure ActionProposal (F : Type) extends Proposal F where
  tenant_id : String
  recommended_actions : List (JsonObject F)

def requiredProposalReference (value : Option String) (field_name : String) :
    Except PyException String :=
  match value with
  | none => .error ⟨"ValueError",
      "resolution proposal " ++ field_name ++ " is required for action orchestration"⟩
  | some value => .ok value

def appendEvent (around : Surroundings F) (proposal : ActionProposal F)
    (event_type idempotency_key : String) (payload : List (String × JsonValue F)) :
    Except PyException Unit := do
  let session_id ← requiredProposalReference proposal.session_id "session_id"
  around.append_event {
    session_id
    dispatch_id := proposal.dispatch_id
    tenant_id := proposal.tenant_id
    event_type
    payload := Dict.ofList payload
    idempotency_key }

end

/-! ## One action -/

section

variable {F Uuid : Type} [Interpreter F] [Stdlib Uuid]

variable (Uuid) in
def derive_action_idempotency_key (tenant_id session_id tool_name target_resource : String) : Uuid :=
  identity.derive_runtime_id (Stdlib.uuid "aa6e7001-0006-4006-8006-000000000006") (some tenant_id)
    [.str "action_idempotency", .str session_id, .str tool_name, .str target_resource]

structure PreparedAction (F : Type) where
  action_type : String
  tool_name : String
  payload : JsonObject F
  session_id : String
  execution_id : String
  target_resource : String
  idempotency_key : String

def payloadFor (proposal : ActionProposal F) (action : JsonObject F) (tool_name : String) :
    Except PyException (JsonObject F) :=
  match payload_for_recommended_action action proposal.toProposal (actionTypeOf action) tool_name with
  | .ok payload => .ok payload
  | .error exc => .error exc.raised

variable (Uuid) in
def prepare (proposal : ActionProposal F) (action : JsonObject F)
    (expected_tenant_id tool_name : String) : Except PyException (PreparedAction F) := do
  let payload ← payloadFor proposal action tool_name
  let session_id ← requiredProposalReference proposal.session_id "session_id"
  let execution_id ← requiredProposalReference proposal.execution_id "execution_id"
  let target_resource := target_resource_for_action action tool_name payload
  let idempotency_key := Stdlib.str
    (derive_action_idempotency_key Uuid expected_tenant_id session_id tool_name target_resource)
  return { action_type := actionTypeOf action, tool_name, payload, session_id, execution_id,
           target_resource, idempotency_key }

variable (Uuid) in
def build_pending_action_approval (tenant_id session_id : String) (execution_id : Option String)
    (tool_name idempotency_key : String) (payload_json : JsonObject F)
    (governance_decision_id : Option String) (metadata : JsonObject F)
    (proposed_by : Option String) (requested_at : Instant) : ActionApprovalRecord F where
  approval_id := Stdlib.str (Stdlib.uuid5
    (Stdlib.uuid "aa6e7001-0007-4007-8007-000000000007" : Uuid) (tenant_id ++ "|" ++ idempotency_key))
  tenant_id
  session_id
  execution_id
  tool_name
  idempotency_key
  payload_json
  governance_decision_id
  requested_at
  metadata
  proposed_by

variable (Uuid) in
def pendingRecord (around : Surroundings F) (proposal : ActionProposal F)
    (expected_tenant_id : String) (prepared : PreparedAction F)
    (governance_decision_id : Option String) : ActionApprovalRecord F :=
  build_pending_action_approval Uuid expected_tenant_id prepared.session_id
    (some prepared.execution_id) prepared.tool_name prepared.idempotency_key prepared.payload
    governance_decision_id
    (Dict.ofList [("proposal_id", .str proposal.proposal_id),
      ("action_type", .str prepared.action_type),
      ("target_resource", .str prepared.target_resource),
      ("agent_action_actor", .str around.actor)])
    (some around.actor) around.now

def requestCrisisCase (around : Surroundings F) (proposal : ActionProposal F)
    (expected_tenant_id : String) (prepared : PreparedAction F) (approval_id : String)
    (envelope : ToolInvocationEnvelope F) : Except PyException Unit :=
  match textAt envelope.metadata "crisis_policy" with
  | none => .ok ()
  | some crisis_policy => around.request_case {
      tenant_id := expected_tenant_id
      session_id := prepared.session_id
      execution_id := prepared.execution_id
      dispatch_id := proposal.dispatch_id
      action_approval_id := approval_id
      tool_name := prepared.tool_name
      payload := prepared.payload
      governance_decision_id := envelope.governance_decision_id
      crisis_policy
      issue_summary := textAt envelope.metadata "governance_reason"
      metadata := Dict.ofList [("proposal_id", .str proposal.proposal_id),
        ("action_type", .str prepared.action_type),
        ("target_resource", .str prepared.target_resource),
        ("idempotency_key", .str prepared.idempotency_key)] }

def eventPayload (prepared : PreparedAction F) (envelope : ToolInvocationEnvelope F) :
    List (String × JsonValue F) :=
  [("tool_name", .str prepared.tool_name), ("action_type", .str prepared.action_type),
   ("idempotency_key", .str prepared.idempotency_key),
   ("governance_decision_id", .ofOption envelope.governance_decision_id)]

def PreparedAction.outcome (prepared : PreparedAction F) (envelope : ToolInvocationEnvelope F)
    (status : ActionStatus) (approval_record_id : Option String) : ActionOutcome where
  tool_name := prepared.tool_name
  idempotency_key := prepared.idempotency_key
  status
  governance_decision_id := envelope.governance_decision_id
  approval_record_id

/-- Whether governance denied the tool until a human approves it. -/
def ToolInvocationEnvelope.asksApproval (envelope : ToolInvocationEnvelope F) : Bool :=
  envelope.result.isNone && envelope.is_denied &&
    textAt envelope.metadata "governance_decision" = some "require_approval"

variable (Uuid) in
def settle (around : Surroundings F) (proposal : ActionProposal F) (expected_tenant_id : String)
    (prepared : PreparedAction F) (envelope : ToolInvocationEnvelope F) :
    ApprovalCall F ActionOutcome :=
  if envelope.asksApproval then do
    let approval ← create_pending_approval (pendingRecord Uuid around proposal expected_tenant_id
      prepared envelope.governance_decision_id) expected_tenant_id
    lift (requestCrisisCase around proposal expected_tenant_id prepared approval.approval_id envelope)
    lift (appendEvent around proposal "action_pending_approval"
      ("action:pending:" ++ prepared.idempotency_key)
      (("approval_id", .str approval.approval_id) :: eventPayload prepared envelope))
    return prepared.outcome envelope .pending_approval (some approval.approval_id)
  else
    match envelope.result with
    | some output => do
      lift (appendEvent around proposal "action_executed"
        ("action:executed:" ++ prepared.idempotency_key)
        (eventPayload prepared envelope ++ [("result", .dict output.items)]))
      return prepared.outcome envelope .executed none
    | none =>
      if envelope.is_denied then do
        lift (appendEvent around proposal "action_denied"
          ("action:denied:" ++ prepared.idempotency_key)
          (eventPayload prepared envelope ++
            [("reason", (envelope.metadata.get? "reason").getD .null),
             ("governance_decision", .ofOption (textAt envelope.metadata "governance_decision"))]))
        return prepared.outcome envelope .denied none
      else do
        lift (appendEvent around proposal "action_error" ("action:error:" ++ prepared.idempotency_key)
          (eventPayload prepared envelope ++
            [("error", .str (envelope.error.getD "tool returned non-success result"))]))
        return prepared.outcome envelope .error none

variable (Uuid) in
def execute_action (around : Surroundings F) (proposal : ActionProposal F)
    (expected_tenant_id : String) (invocation_ordinal : Nat) (action : JsonObject F) :
    ApprovalCall F ActionOutcome :=
  match tool_name_for action with
  | none => do
    let action_type := actionTypeOf action
    lift (appendEvent around proposal "action_skipped" ("action:skipped:" ++ action_type)
      [("action_type", .str action_type), ("reason", .str "unknown_action_type")])
    return { tool_name := action_type, idempotency_key := "", status := .error,
             governance_decision_id := none, approval_record_id := none }
  | some tool_name => do
    let prepared ← lift (prepare Uuid proposal action expected_tenant_id tool_name)
    let envelope ← lift (around.invoke invocation_ordinal
      { tool_name
        payload := prepared.payload
        metadata := request_metadata proposal.toProposal action prepared.action_type tool_name
          prepared.target_resource prepared.idempotency_key })
    settle Uuid around proposal expected_tenant_id prepared envelope

/-! ## All actions of a proposal -/

structure ActionOrchestrationResult where
  session_id : String
  outcomes : List ActionOutcome
  all_executed : Bool
  any_pending_approval : Bool
  any_denied : Bool

variable (Uuid) in
/-- The actions one after the other, counted from one. -/
def executeActions (around : Surroundings F) (proposal : ActionProposal F)
    (expected_tenant_id : String) : List (Nat × JsonObject F) → ApprovalCall F (List ActionOutcome)
  | [] => return []
  | (ordinal, action) :: rest => do
    let outcome ← execute_action Uuid around proposal expected_tenant_id ordinal action
    let outcomes ← executeActions around proposal expected_tenant_id rest
    return outcome :: outcomes

/-- `action.get("requires_execution") is True`. -/
def requiresExecution (action : JsonObject F) : Bool :=
  match action.get? "requires_execution" with
  | some (.bool true) => true
  | _ => false

def ActionProposal.actions (proposal : ActionProposal F) : List (Nat × JsonObject F) :=
  (proposal.recommended_actions.filter requiresExecution).zipIdx 1 |>.map Prod.swap

variable (Uuid) in
def execute_proposal_actions (around : Surroundings F) (proposal : ActionProposal F)
    (expected_tenant_id : String) : ApprovalCall F ActionOrchestrationResult := do
  if proposal.tenant_id ≠ expected_tenant_id then
    throw ⟨"ValueError", "proposal tenant does not match expected tenant"⟩
  else do
    let outcomes ← executeActions Uuid around proposal expected_tenant_id proposal.actions
    let session_id ← lift (requiredProposalReference proposal.session_id "session_id")
    return {
      session_id
      outcomes
      all_executed := outcomes.all (·.status = .executed)
      any_pending_approval := outcomes.any (·.status = .pending_approval)
      any_denied := outcomes.any (·.status = .denied) }

end

end operious.agents.tools
