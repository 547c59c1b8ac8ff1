-- The tenant's policy for action tools: how its parameters are parsed, and how it decides about one
-- action from the metadata of the action.
import Operious.Governance.Engine
import Operious.Tools.OperationMetadata

namespace operious.agents.tools

open operious.governance

inductive ExecutionPolicy
  | auto_execute
  | operious_approval
  deriving DecidableEq, Repr

structure ActionPolicyBinding where
  policy_id : String
  policy_type : String
  version : Int
  content_sha256 : String
  deriving DecidableEq

structure ConfidenceMembershipRule (F : Type) where
  confidence_field : String
  confidence_gte : F
  membership_field : String
  allowed_values : List String
  else_decision : Decision

structure AmountThresholdRule (F : Type) where
  amount_field : String
  amount_lte : Int
  else_decision : Decision
  confidence_field : Option String := none
  confidence_gte : Option F := none

structure ValueBandsRule where
  value_field : String
  allow_values : List String
  require_approval_values : List String

inductive OperationRule (F : Type)
  | confidence_membership (rule : ConfidenceMembershipRule F)
  | always (decision : Decision)
  | amount_threshold (rule : AmountThresholdRule F)
  | value_bands (rule : ValueBandsRule)

/-- A tool that the tenant declares itself. -/
structure CustomToolDeclaration where
  tool_name : String
  commitment_kind : CommitmentKind
  decision : Decision := .require_approval
  execution_policy : Option ExecutionPolicy := none

structure ParsedActionPolicy (F : Type) where
  binding : ActionPolicyBinding
  rules : Dict String (OperationRule F)
  custom_tools : Dict String CustomToolDeclaration := .empty

structure TenantGovernancePolicyRecord (F : Type) where
  policy_id : String
  policy_type : String
  parameters : JsonValue F
  version : Int
  content_sha256 : String

/-- Why no policy was parsed: the parameters are wrong, or an int has no float. -/
inductive PolicyFailure
  | parse (text : String)
  | arithmetic (exc : ArithmeticException)
  deriving DecidableEq

variable {F : Type}

/-! ## Readers of the parameters -/

def requireMapping (value : Option (JsonValue F)) (field : String) :
    Except PolicyFailure (JsonObject F) :=
  match value.bind JsonValue.mapping? with
  | some mapping => .ok mapping
  | none => .error (.parse (field ++ " must be an object"))

/-- `item.strip()` of every item, which has to be a string with more than white space. -/
def stringItems (field : String) : List (JsonValue F) → Except PolicyFailure (List String)
  | [] => .ok []
  | item :: rest =>
    match item.text with
    | some s => (stringItems field rest).map (s :: ·)
    | none => .error (.parse (field ++ " must contain only non-empty strings"))

def requireStringSet (value : Option (JsonValue F)) (field : String) :
    Except PolicyFailure (List String) :=
  match value with
  | some (.list items) => do
    let values ← stringItems field items
    if values.isEmpty then throw (.parse (field ++ " must be non-empty")) else return values
  | _ => .error (.parse (field ++ " must be a non-empty string list"))

def requireFloat [Interpreter F] (value : Option (JsonValue F)) (field : String) :
    Except PolicyFailure F :=
  let nonNegative (x : F) : Except PolicyFailure F :=
    if Interpreter.lt x (Interpreter.zero : F) then .error (.parse (field ++ " must be non-negative"))
    else .ok x
  match value with
  | some (.int i) =>
    match (Interpreter.ofInt i : Except ArithmeticException F) with
    | .ok x => nonNegative x
    | .error exc => .error (.arithmetic exc)
  | some (.float x) => nonNegative x
  | _ => .error (.parse (field ++ " must be a number"))

def requireInt (value : Option (JsonValue F)) (field : String) : Except PolicyFailure Int :=
  match value with
  | some (.int i) =>
    if i < 0 then .error (.parse (field ++ " must be non-negative")) else .ok i
  | _ => .error (.parse (field ++ " must be an integer"))

def policyDecision (normalized : String) : Option Decision :=
  if normalized = "allow" then some .allow
  else if normalized = "deny" then some .deny
  else if normalized = "require_approval" ∨ normalized = "requires_approval" then
    some .require_approval
  else none

/-- The decision that a text names, if it is one of `allowed`. The values of `allowed` are in the
order of their texts. -/
def requirePolicyDecision [Interpreter F] (value : Option (JsonValue F)) (field : String)
    (allowed : List Decision) : Except PolicyFailure Decision :=
  match value with
  | some (.str s) =>
    match policyDecision (Interpreter.lower F (strip s)) with
    | some decision =>
      if decision ∈ allowed then .ok decision else .error (.parse (unexpected field allowed))
    | none => .error (.parse (unexpected field allowed))
  | _ => .error (.parse (field ++ " must be a decision string"))
where
  unexpected (field : String) (allowed : List Decision) : String :=
    field ++ " must be one of: " ++ String.intercalate ", " (allowed.map (·.value))

/-! ## The parser -/

/-- The ceiling of the platform: 100 dollars, unless the settings have another one. -/
def maxAutoApproveAmountCents (setting : Option Int) : Int := setting.getD 10000

def commitmentKinds : String :=
  String.intercalate ", " (CommitmentKind.all.map (·.value))

section

variable [Interpreter F]

def parseExecutionPolicy (tool_name : String) (value : Option (JsonValue F)) :
    Except PolicyFailure (Option ExecutionPolicy) :=
  match value with
  | none | some .null => .ok none
  | some raw =>
    match raw with
    | .str s =>
      if (strip s).isEmpty then .error (.parse (blank tool_name))
      else
        let normalized := (Interpreter.lower F (strip s)).replace "-" "_"
        if normalized = "auto_execute" then .ok (some .auto_execute)
        else if normalized = "operious_approval" then .ok (some .operious_approval)
        else .error (.parse ("tools." ++ tool_name ++ ".execution_policy " ++
          Interpreter.repr F s ++ " is not valid; must be one of: auto_execute, operious_approval"))
    | _ => .error (.parse (blank tool_name))
where
  blank (tool_name : String) : String :=
    "tools." ++ tool_name ++ ".execution_policy must be a non-empty string"

def parseLegacyDecision (tool_name : String) (value : Option (JsonValue F)) :
    Except PolicyFailure Decision :=
  match value with
  | none => .ok .require_approval
  | some (.str s) =>
    if (strip s).isEmpty then .error (.parse (blank tool_name))
    else
      match policyDecision ((Interpreter.lower F (strip s)).replace "-" "_") with
      | some decision => .ok decision
      | none => .error (.parse ("tools." ++ tool_name ++ ".decision " ++ Interpreter.repr F s ++
          " is not valid; must be one of: allow, deny, require_approval"))
  | some _ => .error (.parse (blank tool_name))
where
  blank (tool_name : String) : String := "tools." ++ tool_name ++ ".decision must be a non-empty string"

def parseCommitmentKind (tool_name : String) (value : Option (JsonValue F)) :
    Except PolicyFailure CommitmentKind :=
  match value with
  | some (.str s) =>
    if (strip s).isEmpty then .error (.parse (missing tool_name))
    else
      match CommitmentKind.ofText (Interpreter.lower F (strip s)) with
      | some kind => .ok kind
      | none => .error (.parse ("tools." ++ tool_name ++ ".commitment_kind " ++
          Interpreter.repr F s ++ " is not valid; must be one of: " ++ commitmentKinds))
  | _ => .error (.parse (missing tool_name))
where
  missing (tool_name : String) : String :=
    "tools." ++ tool_name ++ ".commitment_kind is required and must be a " ++
      "non-empty string (one of: " ++ commitmentKinds ++ ")"

def parse_custom_tool_declaration (tool_name : String) (entry : JsonObject F) :
    Except PolicyFailure CustomToolDeclaration := do
  let commitment_kind ← parseCommitmentKind tool_name (entry.get? "commitment_kind")
  let execution_policy ← parseExecutionPolicy tool_name (entry.get? "execution_policy")
  let decision ← parseLegacyDecision tool_name (entry.get? "decision")
  return { tool_name, commitment_kind, decision, execution_policy }

def elseDecisions : List Decision := [.deny, .require_approval]

/-- The limit of a rule. No tenant may set one above the ceiling of the platform. -/
def parseLimit (ceiling : Int) (policy_key : String) (allow : JsonObject F) :
    Except PolicyFailure Int := do
  let field := policy_key ++ ".allow.refund_amount_cents_lte"
  let limit := match allow.get? "refund_amount_cents_lte" with
    | none | some .null => allow.get? "amount_cents_lte"
    | limit => limit
  let parsed_limit ← requireInt limit field
  if ceiling < parsed_limit then
    throw (.parse (field ++ "=" ++ toString parsed_limit ++ " exceeds the platform ceiling of " ++
      toString ceiling ++ " cents (PLATFORM_MAX_AUTO_APPROVE_AMOUNT_CENTS). " ++
      "Reduce the threshold or increase the platform ceiling."))
  else return parsed_limit

/-- A confidence that a rule need not set. -/
def optionalFloat (value : Option (JsonValue F)) (field : String) :
    Except PolicyFailure (Option F) :=
  match value with
  | none | some .null => .ok none
  | some x => (requireFloat (some x) field).map some

def parse_operation_rule (ceiling : Int) (rule_kind : RuleKind) (policy_key : String)
    (rule : JsonObject F) : Except PolicyFailure (OperationRule F) :=
  match rule_kind with
  | .confidence_membership => do
    let allow ← requireMapping (rule.get? "allow") (policy_key ++ ".allow")
    let confidence_gte ← requireFloat (allow.get? "confidence_gte")
      (policy_key ++ ".allow.confidence_gte")
    let allowed_values ← requireStringSet (allow.get? "issue_category_in")
      (policy_key ++ ".allow.issue_category_in")
    let else_decision ← requirePolicyDecision (rule.get? "else") (policy_key ++ ".else") elseDecisions
    return .confidence_membership
      { confidence_field := "diagnostic_confidence"
        confidence_gte
        membership_field := "issue_category"
        allowed_values
        else_decision }
  | .always => do
    let decision ← requirePolicyDecision (rule.get? "always") (policy_key ++ ".always")
      [.allow, .deny, .require_approval]
    return .always decision
  | .amount_threshold => do
    let allow ← requireMapping (rule.get? "allow") (policy_key ++ ".allow")
    let amount_lte ← parseLimit ceiling policy_key allow
    let confidence_gte ← optionalFloat (allow.get? "confidence_gte")
      (policy_key ++ ".allow.confidence_gte")
    let else_decision ← requirePolicyDecision (rule.get? "else") (policy_key ++ ".else") elseDecisions
    return .amount_threshold
      { amount_field := "refund_amount_cents"
        amount_lte
        else_decision
        confidence_field := some "diagnostic_confidence"
        confidence_gte }
  | .value_bands => do
    let allow ← requireMapping (rule.get? "allow") (policy_key ++ ".allow")
    let require_approval ← requireMapping (rule.get? "require_approval")
      (policy_key ++ ".require_approval")
    let allow_values ← requireStringSet (allow.get? "severity_in")
      (policy_key ++ ".allow.severity_in")
    let require_approval_values ← requireStringSet (require_approval.get? "severity_in")
      (policy_key ++ ".require_approval.severity_in")
    return .value_bands { value_field := "severity", allow_values, require_approval_values }

def parseRules (ceiling : Int) (tools : JsonObject F) : List (RegisteredOperation F) →
    Except PolicyFailure (List (String × OperationRule F))
  | [] => .ok []
  | operation :: rest =>
    match operation.policy_key, operation.rule_kind with
    | some policy_key, some rule_kind =>
      match tools.get? policy_key with
      | none => parseRules ceiling tools rest
      | some entry => do
        let rule ← requireMapping (some entry) policy_key
        let parsed ← parse_operation_rule ceiling rule_kind policy_key rule
        let parsed_rules ← parseRules ceiling tools rest
        return (operation.operation_id, parsed) :: parsed_rules
    | _, _ => parseRules ceiling tools rest

def parseCustomTools (tools : JsonObject F) : List String →
    Except PolicyFailure (List (String × CustomToolDeclaration))
  | [] => .ok []
  | tool_key :: rest =>
    if (strip tool_key).isEmpty then .error (.parse "custom tool keys must be non-empty strings")
    else do
      let tool_entry ← requireMapping (tools.get? tool_key) ("tools." ++ tool_key)
      let declaration ← parse_custom_tool_declaration (strip tool_key) tool_entry
      let custom_tools ← parseCustomTools tools rest
      return (strip tool_key, declaration) :: custom_tools

def registeredPolicyKeys : List String :=
  (registeredOperations : List (RegisteredOperation F)).filterMap (·.policy_key)

def requiredPolicyKeys : List String :=
  ((registeredOperations : List (RegisteredOperation F)).filter (·.required_policy_rule)).filterMap
    (·.policy_key)

def parse_action_tools_parameters (ceiling : Int) (parameters : JsonObject F)
    (binding : ActionPolicyBinding) : Except PolicyFailure (ParsedActionPolicy F) := do
  let tools ← requireMapping (parameters.get? "tools") "tools"
  let custom_tool_keys := tools.keys.filter (· ∉ registeredPolicyKeys (F := F))
  let has_custom_only := !custom_tool_keys.isEmpty &&
    (tools.keys.filter (· ∈ registeredPolicyKeys (F := F))).isEmpty
  let missing := sorted ((requiredPolicyKeys (F := F)).filter (· ∉ tools.keys))
  if !has_custom_only && !missing.isEmpty then
    throw (.parse ("missing required tool rule(s): " ++ String.intercalate ", " missing))
  else
    let parsed_rules ← parseRules ceiling tools registeredOperations
    let custom_tools ← parseCustomTools tools (Interpreter.setOrder F custom_tool_keys)
    return { binding, rules := .ofList parsed_rules, custom_tools := .ofList custom_tools }

def TenantGovernancePolicyRecord.binding (record : TenantGovernancePolicyRecord F) :
    ActionPolicyBinding where
  policy_id := record.policy_id
  policy_type := record.policy_type
  version := record.version
  content_sha256 := record.content_sha256

def parse_action_tools_policy (ceiling : Int) (record : TenantGovernancePolicyRecord F) :
    Except PolicyFailure (ParsedActionPolicy F) := do
  let parameters ← requireMapping (some record.parameters) "parameters"
  parse_action_tools_parameters ceiling parameters record.binding

end

end operious.agents.tools
