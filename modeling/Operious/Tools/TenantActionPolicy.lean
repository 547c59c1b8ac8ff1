-- How the tenant's policy decides about one action: first the operation that the metadata names,
-- then the rule that the tenant has for it.
import Operious.Tools.ActionGovernance

namespace operious.agents.tools

open operious.governance

def actionToolsPolicyType : String := "action_tools"

/-! ## The results -/

def ActionPolicyBinding.metadata (binding : ActionPolicyBinding) : Metadata := Dict.ofList
  [("action_policy.policy_id", .str binding.policy_id),
   ("action_policy.policy_type", .str binding.policy_type),
   ("action_policy.version", .int binding.version),
   ("action_policy.content_sha256", .str binding.content_sha256)]

def ActionPolicyBinding.policyVersion (binding : ActionPolicyBinding) : String :=
  binding.policy_type ++ ":" ++ binding.policy_id ++ ":v" ++ toString binding.version ++ ":" ++
    binding.content_sha256

def allow (reason : String) (binding : ActionPolicyBinding) : PolicyEvaluationResult where
  policy_name := "tenant.action_tools"
  rule_id := "action_tool_allowed"
  decision := .allow
  severity := .low
  reason := reason
  metadata := binding.metadata
  policy_version := binding.policyVersion

def require_approval (reason : String) (binding : ActionPolicyBinding) :
    PolicyEvaluationResult where
  policy_name := "tenant.action_tools"
  rule_id := "action_tool_requires_approval"
  decision := .require_approval
  severity := .medium
  reason := reason
  metadata := binding.metadata
  policy_version := binding.policyVersion

def deny (reason : String) (binding : Option ActionPolicyBinding) : PolicyEvaluationResult where
  policy_name := "tenant.action_tools"
  rule_id := "action_tool_denied"
  decision := .deny
  severity := .high
  reason := reason
  metadata := (binding.map (·.metadata)).getD .empty
  policy_version := (binding.map (·.policyVersion)).getD "unversioned"

variable {F : Type} [Interpreter F]

/-! ## Custom tools -/

def isCommitting (kind : CommitmentKind) : Bool :=
  kind = .money || kind = .goods || kind = .service_commitment

def metadata_money_goods_conflict (metadata : JsonObject F) (declared_kind : CommitmentKind) :
    Option String :=
  if isCommitting declared_kind then none
  else
    let declared := Interpreter.repr F declared_kind.value
    let signals (raw : String) : Bool :=
      Interpreter.lower F (strip raw) ∈ ["money", "goods", "service_commitment"]
    let kindSignal := match metadata.get? "operation_commitment_kind" with
      | some (.str raw) =>
        if signals raw then
          some ("metadata key 'operation_commitment_kind'=" ++ Interpreter.repr F (strip raw) ++
            " conflicts with declared " ++ declared)
        else none
      | _ => none
    let amountText (shown : String) : String :=
      "metadata key 'refund_amount_cents'=" ++ shown ++ " is present and " ++
        "positive, suggesting a money commitment despite declared " ++ declared
    match kindSignal with
    | some conflict => some conflict
    | none =>
      match metadata.get? "refund_amount_cents" with
      | some (.int amount) => if 0 < amount then some (amountText (toString amount)) else none
      -- A boolean is an int, and `True` is positive.
      | some (.bool true) => some (amountText "True")
      | _ => none

def evaluate_custom_tool (tool_name : Option String) (policy : ParsedActionPolicy F)
    (subject_metadata : JsonObject F) : PolicyEvaluationResult :=
  match tool_name with
  | none => require_approval "operation governance metadata is missing or unknown" policy.binding
  | some tool_name =>
    let shown := Interpreter.repr F tool_name
    match policy.custom_tools.get? tool_name with
    | none => require_approval ("tool " ++ shown ++
        " is not registered in the tenant action policy; " ++
        "routing to human review (safe default for unconfigured tools)") policy.binding
    | some declaration =>
      let kind := Interpreter.repr F declaration.commitment_kind.value
      match declaration.execution_policy with
      | some .auto_execute => allow ("custom tool " ++ shown ++
          " set to auto_execute by tenant policy; " ++
          "firing immediately — tenant's system owns downstream authorization") policy.binding
      | some .operious_approval => require_approval ("custom tool " ++ shown ++
          " requires operious approval per tenant policy") policy.binding
      | none =>
        if isCommitting declaration.commitment_kind then
          require_approval ("custom tool " ++ shown ++ " declares commitment_kind=" ++ kind ++
            "; money/goods/service commitments " ++
            "require explicit execution_policy=auto_execute to auto-fire — " ++
            "routing to human approval (legacy invariant preserved)") policy.binding
        else
          match metadata_money_goods_conflict subject_metadata declaration.commitment_kind with
          | some conflict => require_approval ("custom tool " ++ shown ++ " is declared as " ++
              "commitment_kind=" ++ kind ++ " but " ++
              "request metadata indicates a possible money/goods commitment (" ++ conflict ++
              "); routing to human review as a precaution " ++
              "(verify commitment_kind declaration is correct)") policy.binding
          | none =>
            match declaration.decision with
            | .allow => allow "custom tool allowed by tenant policy" policy.binding
            | .deny => deny "custom tool denied by tenant policy" policy.binding
            | _ => require_approval ("custom tool " ++ shown ++
                " requires human approval per tenant policy") policy.binding

/-! ## Registered operations -/

/-- `a or 0.0`. -/
def orZero (x : Option F) : F :=
  match x with
  | some x => if Interpreter.truthy x then x else Interpreter.zero
  | none => Interpreter.zero

/-- What a rule says where it does not allow. -/
def elseResult (else_decision : Decision) (reason : String) (binding : ActionPolicyBinding) :
    PolicyEvaluationResult :=
  if else_decision = .require_approval then require_approval reason binding
  else deny "operation denied by tenant policy" binding

/-- Whether the confidence is what the rule asks for. A rule that asks for none takes any. -/
def confidenceOk (metadata : JsonObject F) (rule : AmountThresholdRule F) :
    Except ArithmeticException Bool :=
  match rule.confidence_gte, rule.confidence_field with
  | some confidence_gte, some confidence_field => do
    let confidence ← floatAt metadata confidence_field
    return match confidence with
      | some x => Interpreter.le confidence_gte x
      | none => false
  | _, _ => .ok true

def evaluate_operation_rule (metadata : JsonObject F) (rule : OperationRule F)
    (binding : ActionPolicyBinding) : Except ArithmeticException PolicyEvaluationResult :=
  match rule with
  | .confidence_membership rule => do
    let confidence ← floatAt metadata rule.confidence_field
    let membership_value := (textAt metadata rule.membership_field).getD ""
    return if Interpreter.le rule.confidence_gte (orZero confidence) ∧
        membership_value ∈ rule.allowed_values then
      allow "operation passed tenant policy thresholds" binding
    else elseResult rule.else_decision "operation requires manager approval" binding
  | .amount_threshold rule =>
    match intAt metadata rule.amount_field with
    | none => .ok (deny "operation amount is required" binding)
    | some amount => do
      let confidence_ok ← confidenceOk metadata rule
      return if amount ≤ rule.amount_lte ∧ confidence_ok then
        allow "operation amount is within auto-allow threshold" binding
      else elseResult rule.else_decision "operation exceeds auto-allow threshold" binding
  | .value_bands rule => .ok <|
    match textAt metadata rule.value_field with
    | none => deny "operation value is invalid" binding
    | some value =>
      if value ∈ rule.allow_values then allow "operation value is auto-allow" binding
      else if value ∈ rule.require_approval_values then
        require_approval "operation value requires approval" binding
      else deny "operation value is invalid" binding
  | .always decision => .ok <|
    match decision with
    | .allow => allow "operation is allowed by tenant policy" binding
    | .require_approval => require_approval "operation requires manager approval" binding
    | _ => deny "operation denied by tenant policy" binding

def rule_for (policy : ParsedActionPolicy F) (operation : ResolvedOperation F) :
    Option (OperationRule F) := operation.operation_id.bind policy.rules.get?

/-- What the policy says once it is parsed. -/
def evaluateParsed (policy : ParsedActionPolicy F) (metadata : JsonObject F) :
    Except ArithmeticException PolicyEvaluationResult :=
  let tool_name := textAt metadata "tool_name"
  let action_type := textAt metadata "action_type"
  match resolve_operation metadata tool_name action_type with
  | none => .ok (evaluate_custom_tool tool_name policy metadata)
  | some operation =>
    if operation.commitment_kind = none then
      .ok (require_approval "operation commitment kind is missing or invalid" policy.binding)
    else if operation.approval_policy = some .always_require_approval then
      .ok (require_approval "operation approval policy requires human review" policy.binding)
    else if operation.approval_policy ≠ some .tenant_policy then
      .ok (require_approval "operation approval policy is missing or invalid" policy.binding)
    else
      match rule_for policy operation with
      | none => .ok (deny "operation is not configured in tenant policy" policy.binding)
      | some rule => evaluate_operation_rule metadata rule policy.binding

/-! ## The policy -/

/-- What the policy reads of an agent's action. -/
structure AgentActionSubject (F : Type) where
  tool_name : String
  tenant_id : Option String
  metadata : JsonObject F

def ArithmeticException.raised : ArithmeticException → PyException
  | .value_error => ⟨"ValueError", "cannot convert float NaN to integer"⟩
  | .overflow_error => ⟨"OverflowError", "int too large to convert to float"⟩

def tenantIdFromContext (context : GovernanceContext (AgentActionSubject F)) : Option String :=
  match context.tenant_id with
  | some tenant_id => some tenant_id
  | none => (JsonValue.ofOption context.subject.tenant_id : JsonValue F).text

abbrev TenantConfigurationRepository (F : Type) :=
  String → String → Except PyException (Option (TenantGovernancePolicyRecord F))

namespace TenantActionPolicy

def evaluate (repository : Option (TenantConfigurationRepository F)) (policy_type : String)
    (ceiling : Int) (context : GovernanceContext (AgentActionSubject F)) :
    Except PyException (List PolicyEvaluationResult) :=
  match repository with
  | none => .ok [deny "tenant action policy repository is not configured" none]
  | some repository =>
    match tenantIdFromContext context with
    | none => .ok [deny "tenant action policy requires tenant_id" none]
    | some tenant_id =>
      match repository policy_type tenant_id with
      | .error exc => .error exc
      | .ok none => .ok [deny ("no active " ++ Interpreter.repr F policy_type ++
          " policy for tenant") none]
      | .ok (some record) =>
        match parse_action_tools_policy ceiling record with
        | .error (.parse text) =>
          .ok [deny ("tenant action policy is invalid: " ++ text) (some record.binding)]
        | .error (.arithmetic exc) => .error exc.raised
        | .ok policy =>
          match evaluateParsed policy context.subject.metadata with
          | .error exc => .error exc.raised
          | .ok result => .ok [result]

end TenantActionPolicy

def tenantActionPolicy (repository : Option (TenantConfigurationRepository F))
    (policy_type : String) (ceiling : Int) : GovernancePolicy (AgentActionSubject F) where
  name := "tenant.action_tools"
  supported_stages := [.pre_execution]
  applicable_subject_kinds := [.agent_action]
  evaluate := TenantActionPolicy.evaluate repository policy_type ceiling

end operious.agents.tools

-- From a recommended action to the request of a tool: its name, its payload, its target, and the
-- metadata that governance sees. The fields of the action go into the metadata last but one, so
-- they win over what the operation declares.
namespace operious.agents.tools

variable {F : Type} [Interpreter F]

def tool_name_for (action : JsonObject F) : Option String :=
  match textAt action "tool_name" with
  | some explicit => some explicit
  | none => (textAt action "type").bind fun action_type =>
      tool_name_for_action_type (F := F) (some action_type)

/-- `_text(action.get("type")) or "unknown"`. -/
def actionTypeOf (action : JsonObject F) : String := (textAt action "type").getD "unknown"

def explicitPayload (action : JsonObject F) : Option (JsonObject F) :=
  (action.get? "payload").bind JsonValue.mapping?

def default_payload (action : JsonObject F) (proposal : Proposal F)
    (action_type tool_name : String) : Except ArithmeticException (JsonObject F) := do
  let operation := resolve_operation .empty (some tool_name) (some action_type)
  let payload ← payload_for_operation operation action proposal action_type
  return payload.getD .empty

/-- An explicit payload is taken as it is: its values are JSON already. -/
def payload_for_recommended_action (action : JsonObject F) (proposal : Proposal F)
    (action_type tool_name : String) : Except ArithmeticException (JsonObject F) :=
  match explicitPayload action with
  | some payload => .ok payload
  | none => default_payload action proposal action_type tool_name

def target_resource_for_action (action : JsonObject F) (tool_name : String)
    (payload : JsonObject F) : String :=
  let resolved := resolve_operation .empty (some tool_name) none
  match target_resource_for_operation resolved action payload (some tool_name)
    (textAt action "type") with
  | some derived => derived
  | none => (textAt action "target_resource_id").getD tool_name

/-! ## The metadata of the request -/

/-- What the proposal and the request say. -/
def baseMetadata (proposal : Proposal F) (action_type tool_name target_resource
    idempotency_key : String) : JsonObject F := Dict.ofList
  [("session_id", .ofOption proposal.session_id),
   ("proposal_id", .str proposal.proposal_id),
   ("dispatch_id", .str proposal.dispatch_id),
   ("execution_id", .ofOption proposal.execution_id),
   ("action_type", .str action_type),
   ("tool_name", .str tool_name),
   ("target_resource", .str target_resource),
   ("target_resource_id", .str target_resource),
   ("idempotency_key", .str idempotency_key),
   ("diagnostic_confidence", .float proposal.confidence),
   ("resolution_category", .str proposal.resolution_category)]

/-- A tool without an operation takes the commitment that the action names. -/
def withFallbackKind (action metadata : JsonObject F) : JsonObject F :=
  if commitmentKindKey ∈ metadata.keys then metadata
  else
    match textAt action commitmentKindKey with
    | some fallback_kind => metadata.set commitmentKindKey (.str fallback_kind)
    | none => metadata

/-- Sets the scalar that `source` has under the key, if it has one. -/
def copyScalar (source : JsonObject F) (metadata : JsonObject F) (key : String) : JsonObject F :=
  match metadataValue source key with
  | some value => metadata.set key value
  | none => metadata

def withActionFields (action metadata : JsonObject F) : JsonObject F :=
  (action.keys.filter (· ∉ actionStructuralKeys)).foldl (copyScalar action) metadata

def payloadMetadataKeys : List String := ["issue_category", "refund_amount_cents", "severity"]

def withPayloadFields (action metadata : JsonObject F) : JsonObject F :=
  match explicitPayload action with
  | some payload => payloadMetadataKeys.foldl (copyScalar payload) metadata
  | none => metadata

def withIssueCategory (proposal : Proposal F) (metadata : JsonObject F) : JsonObject F :=
  if "issue_category" ∈ metadata.keys then metadata
  else metadata.set "issue_category" (.str proposal.resolution_category)

def request_metadata (proposal : Proposal F) (action : JsonObject F)
    (action_type tool_name target_resource idempotency_key : String) : JsonObject F :=
  let resolved := resolve_operation .empty (some tool_name) (some action_type)
  let metadata := (baseMetadata proposal action_type tool_name target_resource
    idempotency_key).update (operation_metadata resolved).items
  withIssueCategory proposal (withPayloadFields action
    (withActionFields action (withFallbackKind action metadata)))

/-! ## What each pass leaves under a key -/

section

omit [Interpreter F]

theorem get?_copyScalar (source metadata : JsonObject F) (key k : String) :
    (copyScalar source metadata key).get? k =
      if key = k then (metadataValue source k).or (metadata.get? k) else metadata.get? k := by
  unfold copyScalar
  by_cases hk : key = k
  · subst hk
    cases metadataValue source key with
    | none => simp
    | some value => simp
  · cases metadataValue source key with
    | none => simp [hk]
    | some value => simp [hk, Dict.get?_set_ne _ _ hk]

theorem get?_foldl_copyScalar (source : JsonObject F) (keys : List String)
    (metadata : JsonObject F) (k : String) :
    (keys.foldl (copyScalar source) metadata).get? k =
      if k ∈ keys then (metadataValue source k).or (metadata.get? k) else metadata.get? k := by
  induction keys generalizing metadata with
  | nil => simp
  | cons key rest ih =>
    rw [List.foldl_cons, ih, get?_copyScalar]
    by_cases hk : key = k
    · subst hk
      cases metadataValue source key <;> simp
    · have hmem : k ∈ key :: rest ↔ k ∈ rest := by
        simp [List.mem_cons, Ne.symm hk]
      simp [hmem, hk]

theorem get?_withActionFields (action metadata : JsonObject F) (k : String) :
    (withActionFields action metadata).get? k =
      if k ∈ actionStructuralKeys then metadata.get? k
      else (metadataValue action k).or (metadata.get? k) := by
  unfold withActionFields
  rw [get?_foldl_copyScalar]
  by_cases hs : k ∈ actionStructuralKeys
  · simp [hs]
  · by_cases hk : k ∈ action.keys
    · simp [hs, hk]
    · have hnone : metadataValue action k = none := by
        unfold metadataValue
        rw [Dict.get?_eq_none hk]
        rfl
      simp [hs, hk, hnone]

theorem get?_withPayloadFields (action metadata : JsonObject F) (k : String) :
    (withPayloadFields action metadata).get? k =
      if k ∈ payloadMetadataKeys then
        ((explicitPayload action).bind (metadataValue · k)).or (metadata.get? k)
      else metadata.get? k := by
  unfold withPayloadFields
  cases explicitPayload action with
  | none => simp
  | some payload => simpa using get?_foldl_copyScalar payload payloadMetadataKeys metadata k

theorem get?_withIssueCategory (proposal : Proposal F) (metadata : JsonObject F) {k : String}
    (hk : k ≠ "issue_category") :
    (withIssueCategory proposal metadata).get? k = metadata.get? k := by
  unfold withIssueCategory
  split
  · rfl
  · exact Dict.get?_set_ne _ _ (Ne.symm hk)

theorem withFallbackKind_of_mem {action metadata : JsonObject F}
    (h : commitmentKindKey ∈ metadata.keys) : withFallbackKind action metadata = metadata := by
  unfold withFallbackKind
  rw [if_pos h]

end

end operious.agents.tools
