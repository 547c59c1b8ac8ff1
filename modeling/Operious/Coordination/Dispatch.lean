-- The dispatch of a coordination message: its tenant is resolved, the topology, the policy and the
-- governance are asked in turn, and the envelope that comes of it is recorded.
import Operious.Arbitration.Dispatch
import Operious.Coordination.PolicyRuntime
import Operious.Identity.RuntimeIds

namespace operious.coordination

open operious.arbitration (TextRepr)
open operious.dispatch_arbitration (CoordinationDispatchOutcome)
open operious.governance (PyException Decision EnforcementStage GovernanceDecision SubjectKind
  is_blocking_decision)
open operious.identity (Component Key derive_runtime_id)

/-! ## Authority -/

structure AuthorityContext where
  tenant_id : Option String := none
  principal_id : Option String := none
  organization_id : Option String := none
  environment_id : Option String := none
  deriving DecidableEq

inductive AuthoritySource
  | typed_authority | legacy_tenant | observed_tenant | none
  deriving DecidableEq, Repr

def AuthoritySource.value : AuthoritySource → String
  | typed_authority => "typed_authority"
  | legacy_tenant => "legacy_tenant"
  | observed_tenant => "observed_tenant"
  | none => "none"

structure AuthorityResolution where
  tenant_id : Option String
  source : AuthoritySource
  deriving DecidableEq

/-- The tenant of the authority, else the one that the request names, else the one that was observed. -/
def resolve_authority (typed : Option AuthorityContext)
    (legacy_tenant_id observed_tenant_id : Option String) : AuthorityResolution :=
  match typed.bind (·.tenant_id), legacy_tenant_id, observed_tenant_id with
  | some tenant, _, _ => ⟨some tenant, .typed_authority⟩
  | none, some tenant, _ => ⟨some tenant, .legacy_tenant⟩
  | none, none, some tenant => ⟨some tenant, .observed_tenant⟩
  | none, none, none => ⟨none, .none⟩

/-- `repr` of an optional string. -/
def optRepr [TextRepr] : Option String → String
  | some s => TextRepr.repr s
  | none => "None"

/-- `check_tenant_authority_coexistence`: an authority and a tenant that both name one name the same. -/
def check_tenant_authority_coexistence [TextRepr] (contract_name : String)
    (authority : Option AuthorityContext) (tenant_id : Option String) : Except PyException Unit :=
  match authority.bind (·.tenant_id), tenant_id with
  | some stamped, some tenant =>
    if stamped = tenant then .ok ()
    else .error ⟨"ValueError", contract_name ++
      ": authority.tenant_id and tenant_id must agree when both are supplied (got authority.tenant_id=" ++
      TextRepr.repr stamped ++ ", tenant_id=" ++ TextRepr.repr tenant ++ ")"⟩
  | _, _ => .ok ()

/-! ## Messages and envelopes -/

inductive CoordinationPriority
  | low | normal | high | critical
  deriving DecidableEq, Repr

def CoordinationPriority.value : CoordinationPriority → Int
  | low => 10
  | normal => 20
  | high => 30
  | critical => 40

inductive CoordinationStatus
  | dispatched | degraded | denied | policy_denied | topology_denied | failed
  deriving DecidableEq, Repr

structure CoordinationRecipient where
  recipient_id : String
  kind : String := "agent"
  tenant_id : Option String := none

section

variable (Uuid : Type)

structure CoordinationPayload where
  content_type : String
  body : List (Key × Component Uuid) := []
  schema_version : String := "1"

structure CoordinationMessage where
  message_id : Uuid
  message_type : CoordinationMessageType
  sender_id : String
  recipient : CoordinationRecipient
  payload : CoordinationPayload Uuid
  priority : CoordinationPriority := .normal
  in_reply_to : Option Uuid := none
  created_at : Instant

/-- A request. Its constructor refuses an authority and a tenant that disagree. -/
structure CoordinationDispatchRequest [TextRepr] where
  message : CoordinationMessage Uuid
  direction : CoordinationDirection
  correlation_id : Option Uuid := none
  parent_coordination_id : Option Uuid := none
  parent_message_id : Option Uuid := none
  request_id : Option String := none
  tenant_id : Option String := none
  authority : Option AuthorityContext := none
  enforcement_stage : EnforcementStage := .pre_execution
  coordination_id_override : Option Uuid := none
  chain_depth : Int := 0
  governance_metadata : Metadata := .empty
  coexist : check_tenant_authority_coexistence "CoordinationDispatchRequest" authority tenant_id =
    .ok ()

structure CoordinationEnvelope where
  coordination_id : Uuid
  message : CoordinationMessage Uuid
  direction : CoordinationDirection
  status : CoordinationStatus
  sequence : Nat
  runtime_instance_id : Uuid
  correlation_id : Option Uuid
  parent_coordination_id : Option Uuid
  parent_message_id : Option Uuid
  request_id : Option String
  tenant_id : Option String
  tenant_authority_source : AuthoritySource
  governance_decision_id : Option Uuid
  governance_chain_id : Option String
  created_at : Instant
  dispatched_at : Instant

structure CoordinationTrace where
  coordination_id : Uuid
  sequence : Nat
  status : CoordinationStatus
  tenant_id : Option String
  tenant_authority_source : AuthoritySource
  governance_decision_id : Option Uuid
  governance_chain_id : Option String
  error : Option String

structure CoordinationDispatchResult where
  coordination_id : Uuid
  outcome : CoordinationDispatchOutcome
  trace : CoordinationTrace Uuid
  envelope : Option (CoordinationEnvelope Uuid) := none
  error : Option String := none

/-! ## Governance -/

structure CommunicationGovernanceSubject where
  channel : String
  recipient_scope : String
  content_summary : String
  tenant_id : Option String
  request_id : Option String

/-- What governance is asked about a dispatch. -/
structure GovernanceContext where
  stage : EnforcementStage
  action : String
  resource : String
  actor : String
  tenant_id : Option String
  request_id : Option String
  principal_id : Option String
  organization_id : Option String
  environment_id : Option String
  authority : Option AuthorityContext
  subject : CommunicationGovernanceSubject
  correlation_id : Option Uuid
  metadata : Metadata

structure GovernanceEnvelope where
  trace_decision_id : Option Uuid := none
  trace_policy_chain_id : String := ""
  trace_error : Option String := none
  decision : Option (GovernanceDecision Uuid) := none
  error : Option PyException := none

end

variable {Uuid : Type}

/-- `unwrap` behind `is_ok`: the decision of an evaluation that worked. -/
def GovernanceEnvelope.okDecision (envelope : GovernanceEnvelope Uuid) :
    Option (GovernanceDecision Uuid) :=
  match envelope.error with
  | none => envelope.decision
  | some _ => none

/-- The check that the constructor of a context makes of its tenant. Its other axes are read from the
authority itself. -/
def GovernanceContext.post_init [TextRepr] (context : GovernanceContext Uuid) :
    Except PyException Unit :=
  match context.authority, context.tenant_id with
  | some authority, some tenant =>
    if authority.tenant_id = some tenant then .ok ()
    else .error ⟨"GovernanceConfigurationError",
      "GovernanceContext.tenant_id and GovernanceContext.authority.tenant_id disagree: " ++
        TextRepr.repr tenant ++ " vs " ++ optRepr authority.tenant_id⟩
  | _, _ => .ok ()

/-! ## The runtime -/

/-- A coordination runtime: whom it knows, and the substrates that it asks. -/
structure CoordinationRuntime (Uuid : Type) where
  instance_id : Uuid
  participants : List String
  topology_runtime : Option (CoordinationTopologyRuntime Uuid) := none
  policy_runtime : Option (CoordinationPolicyRuntime Uuid) := none
  governance : GovernanceContext Uuid → GovernanceEnvelope Uuid

/-- What a runtime finds around one dispatch: the request id of the moment, the denial of the capability
gate, the next number, the time, and what recording does. -/
structure DispatchAround (Uuid : Type) where
  request_id : Option String := none
  denial : Option PyException := none
  topology : EvaluationAround := {}
  policy : EvaluationAround := {}
  sequence : Nat := 1
  dispatched_at : Instant := 0
  record_envelope : CoordinationEnvelope Uuid → Except PyException Unit

/-- How the substrates end a dispatch. -/
structure Ending (Uuid : Type) where
  status : CoordinationStatus
  outcome : CoordinationDispatchOutcome
  governance_decision_id : Option Uuid := none
  governance_chain_id : Option String := none
  error : Option String := none

def governance_action_for (message_type : CoordinationMessageType) : String :=
  "coordination." ++ message_type.value

/-- `_map_topology_blocking`. Its caller has seen that the verdict blocks. -/
def map_topology_blocking : CoordinationTopologyDecision → CoordinationDispatchOutcome
  | .escalated => .topology_escalated
  | .depth_exceeded => .topology_depth_exceeded
  | .boundary_violation => .topology_boundary_violation
  | .denied | .allowed => .topology_denied

namespace CoordinationRuntime

variable [TextRepr] [Stdlib Uuid] (runtime : CoordinationRuntime Uuid) (around : DispatchAround Uuid)
  (request : CoordinationDispatchRequest Uuid)

/-- The one tenant that the dispatch is made for, and where it comes from. -/
def resolution : AuthorityResolution :=
  resolve_authority request.authority request.tenant_id request.message.recipient.tenant_id

/-- `request.request_id or get_request_id()`. -/
def requestId : Option String := orStr request.request_id around.request_id

/-- The id of the dispatch: a function of its request, unless one is given. -/
def coordinationId : Uuid :=
  let msg := request.message
  let optUuid : Option Uuid → Component Uuid := fun u => u.elim .null .uuid
  request.coordination_id_override.getD
    (derive_runtime_id (Stdlib.uuid "e4ed8a1a-13be-4ac1-bd19-1a2dbe506011")
      (resolution request).tenant_id
      [.str "coordination_dispatch", .str request.direction.value, .uuid msg.message_id,
       .str msg.sender_id, .str msg.recipient.recipient_id, .str msg.recipient.kind,
       .str msg.message_type.value, .int msg.priority.value, .str msg.payload.content_type,
       .str msg.payload.schema_version, .mapping msg.payload.body, optUuid request.correlation_id,
       (requestId around request).elim .null .str, optUuid request.parent_coordination_id])

def validate [DecidableEq Uuid] : Except PyException Unit :=
  let msg := request.message
  let refuse (text : String) : Except PyException Unit := .error ⟨"CoordinationValidationError", text⟩
  if msg.sender_id = "" then refuse "CoordinationMessage.sender_id must be a non-empty string"
  else if msg.recipient.recipient_id = "" then
    refuse "CoordinationRecipient.recipient_id must be a non-empty string"
  else if msg.sender_id ∉ runtime.participants then
    refuse ("unknown sender: " ++ TextRepr.repr msg.sender_id)
  -- A broadcast goes to a scope, which nobody registers.
  else if msg.recipient.kind ≠ "broadcast" ∧ msg.recipient.recipient_id ∉ runtime.participants then
    refuse ("unknown recipient: " ++ TextRepr.repr msg.recipient.recipient_id)
  else if msg.in_reply_to = some msg.message_id then
    refuse "CoordinationMessage.in_reply_to cannot equal message_id"
  else .ok ()

def build_topology_request : CoordinationTopologyEvaluationRequest Uuid where
  sender_id := request.message.sender_id
  recipient_id := request.message.recipient.recipient_id
  recipient_kind := request.message.recipient.kind
  direction := request.direction
  message_type := request.message.message_type
  priority := request.message.priority.value
  coordination_id := coordinationId around request
  coordination_message_id := request.message.message_id
  tenant_id := (resolution request).tenant_id
  sender_tenant_id := request.tenant_id
  recipient_tenant_id := request.message.recipient.tenant_id
  correlation_id := request.correlation_id
  parent_coordination_id := request.parent_coordination_id
  parent_message_id := request.parent_message_id
  request_id := requestId around request
  chain_depth := request.chain_depth

def build_policy_request : CoordinationPolicyEvaluationRequest Uuid where
  sender_id := request.message.sender_id
  recipient_id := request.message.recipient.recipient_id
  recipient_kind := request.message.recipient.kind
  direction := request.direction
  message_type := request.message.message_type
  priority := request.message.priority.value
  coordination_id := coordinationId around request
  coordination_message_id := request.message.message_id
  tenant_id := (resolution request).tenant_id
  sender_tenant_id := request.tenant_id
  recipient_tenant_id := request.message.recipient.tenant_id
  correlation_id := request.correlation_id
  parent_coordination_id := request.parent_coordination_id
  parent_message_id := request.parent_message_id
  request_id := requestId around request

/-- `str` of an optional value. -/
def optStr {α : Type} (str : α → String) (a : Option α) : String := a.elim "None" str

/-- The metadata of a governance context: the keys of the substrate win, and the seed of the decision is
the one of the request unless the caller gave one. -/
def governanceMetadata : Metadata :=
  let msg := request.message
  let lineage (key : String) (u : Option Uuid) : List (String × Value) :=
    u.elim [] fun u => [(key, .str (Stdlib.str u))]
  let merged := request.governance_metadata.update
    ([("coordination.direction", .str request.direction.value),
      ("coordination.message_type", .str msg.message_type.value),
      ("coordination.priority", .int msg.priority.value),
      ("coordination.sender_id", .str msg.sender_id),
      ("coordination.recipient_id", .str msg.recipient.recipient_id),
      ("coordination.recipient_kind", .str msg.recipient.kind)] ++
      lineage "coordination.in_reply_to" msg.in_reply_to ++
      lineage "coordination.parent_coordination_id" request.parent_coordination_id ++
      lineage "coordination.parent_message_id" request.parent_message_id)
  if (merged.get? "governance.decision_seed").isSome then merged
  else merged.set "governance.decision_seed" (.str ("|".intercalate
    ["coordination", "tenant:" ++ optStr id (resolution request).tenant_id,
     "stage:" ++ request.enforcement_stage.value,
     "message:" ++ Stdlib.str msg.message_id,
     "correlation:" ++ optStr Stdlib.str request.correlation_id,
     "request:" ++ optStr id (requestId around request)]))

/-- `_build_governance_context`, before its constructor checks it. -/
def build_governance_context : GovernanceContext Uuid where
  stage := request.enforcement_stage
  action := governance_action_for request.message.message_type
  resource := "recipient:" ++ request.message.recipient.recipient_id
  actor := "sender:" ++ request.message.sender_id
  tenant_id := (resolution request).tenant_id
  request_id := requestId around request
  principal_id := request.authority.bind (·.principal_id)
  organization_id := request.authority.bind (·.organization_id)
  environment_id := request.authority.bind (·.environment_id)
  authority := request.authority
  subject := {
    channel := "coordination/" ++ request.direction.value
    recipient_scope := request.message.recipient.recipient_id
    content_summary := request.message.payload.content_type
    tenant_id := (resolution request).tenant_id
    request_id := requestId around request }
  correlation_id := request.correlation_id
  metadata := governanceMetadata around request

/-- The topology, where one is composed: it ends the dispatch, or lets it go on. -/
def topologyStage : Option (Ending Uuid) :=
  match runtime.topology_runtime with
  | none => none
  | some topology =>
    let envelope := topology.evaluate around.topology (build_topology_request around request)
    match envelope.result with
    | none => some {
        status := .failed, outcome := .topology_error
        error := orStr envelope.trace.error (some "coordination-topology substrate failed") }
    | some result =>
      if is_blocking_topology_decision result.aggregate_decision then
        some {
          status := .topology_denied, outcome := map_topology_blocking result.aggregate_decision
          error := orStr (some result.reason)
            (some ("coordination topology " ++ result.aggregate_decision.value)) }
      else none

def policyStage : Option (Ending Uuid) :=
  match runtime.policy_runtime with
  | none => none
  | some policy =>
    let envelope := policy.evaluate around.policy (build_policy_request around request)
    match envelope.result with
    | none => some {
        status := .failed, outcome := .policy_error
        error := orStr envelope.trace_error (some "coordination-policy substrate failed") }
    | some result =>
      if is_blocking_policy_decision result.aggregate_decision then
        some {
          status := .policy_denied
          outcome := if result.aggregate_decision = .deny then .policy_denied else .policy_escalated
          error := orStr (some result.reason)
            (some ("coordination policy " ++ result.aggregate_decision.value)) }
      else none

/-- Governance, which has the last word. -/
def governanceStage : Ending Uuid :=
  let envelope := runtime.governance (build_governance_context around request)
  match envelope.okDecision with
  | none => {
      status := .failed, outcome := .governance_error
      governance_decision_id := envelope.trace_decision_id
      governance_chain_id := orStr (some envelope.trace_policy_chain_id) none
      error := orStr envelope.trace_error (some "governance evaluation failed") }
  | some decision =>
    if is_blocking_decision decision.decision then {
        status := .denied, outcome := .denied
        governance_decision_id := some decision.decision_id
        governance_chain_id := some decision.policy_chain_id
        error := orStr (some decision.reason) (some "governance denied") }
    else {
        status := if decision.decision = .allow then .dispatched else .degraded
        outcome := if decision.decision = .allow then .accepted else .degraded
        governance_decision_id := some decision.decision_id
        governance_chain_id := some decision.policy_chain_id }

/-- How the dispatch of a valid request ends. The constructor of the governance context may raise. -/
def concluded : Except PyException (Ending Uuid) :=
  match topologyStage runtime around request with
  | some ending => .ok ending
  | none =>
    match policyStage runtime around request with
    | some ending => .ok ending
    | none => do
      (build_governance_context around request).post_init
      .ok (governanceStage runtime around request)

def envelopeOf (ending : Ending Uuid) : CoordinationEnvelope Uuid where
  coordination_id := coordinationId around request
  message := request.message
  direction := request.direction
  status := ending.status
  sequence := around.sequence
  runtime_instance_id := runtime.instance_id
  correlation_id := request.correlation_id
  parent_coordination_id := request.parent_coordination_id
  parent_message_id := request.parent_message_id
  request_id := requestId around request
  tenant_id := (resolution request).tenant_id
  tenant_authority_source := (resolution request).source
  governance_decision_id := ending.governance_decision_id
  governance_chain_id := ending.governance_chain_id
  created_at := request.message.created_at
  dispatched_at := around.dispatched_at

def build_trace (envelope : CoordinationEnvelope Uuid) (status : CoordinationStatus)
    (error : Option String) : CoordinationTrace Uuid where
  coordination_id := envelope.coordination_id
  sequence := envelope.sequence
  status := status
  tenant_id := envelope.tenant_id
  tenant_authority_source := envelope.tenant_authority_source
  governance_decision_id := envelope.governance_decision_id
  governance_chain_id := envelope.governance_chain_id
  error := error

def build_and_persist (ending : Ending Uuid) : CoordinationDispatchResult Uuid :=
  let envelope := envelopeOf runtime around request ending
  match around.record_envelope envelope with
  | .error exc => {
      coordination_id := coordinationId around request
      outcome := .persistence_error
      trace := build_trace envelope .failed (some exc.describe)
      error := some (if exc.name = "CoordinationPersistenceError" then exc.text
        else "persistence failed: " ++ exc.describe) }
  | .ok _ => {
      coordination_id := coordinationId around request
      outcome := ending.outcome
      trace := build_trace envelope ending.status ending.error
      envelope := some envelope
      error := ending.error }

def fail_fast_result (outcome : CoordinationDispatchOutcome) (status : CoordinationStatus)
    (error : PyException) : CoordinationDispatchResult Uuid where
  coordination_id := coordinationId around request
  outcome := outcome
  trace := {
    coordination_id := coordinationId around request
    sequence := 0
    status := status
    tenant_id := (resolution request).tenant_id
    tenant_authority_source := (resolution request).source
    governance_decision_id := none
    governance_chain_id := none
    error := some error.describe }
  error := some error.text

def dispatch [DecidableEq Uuid] : Except PyException (CoordinationDispatchResult Uuid) :=
  match around.denial with
  | some denial => .ok (fail_fast_result around request .denied .denied denial)
  | none =>
    match validate runtime request with
    | .error exc => .ok (fail_fast_result around request .validation_error .failed exc)
    | .ok _ => do
      let ending ← concluded runtime around request
      .ok (build_and_persist runtime around request ending)

end CoordinationRuntime

end operious.coordination
