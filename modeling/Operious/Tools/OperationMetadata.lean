-- The registered operations: which tool each one is, what it commits to, who has to approve it,
-- and how its payload and its target are built from a recommended action.
import Operious.Tools.Values

namespace operious.agents.tools

inductive CommitmentKind
  | none
  | record_update
  | money
  | goods
  | service_commitment
  deriving DecidableEq, Repr

namespace CommitmentKind

def value : CommitmentKind → String
  | none => "none"
  | record_update => "record_update"
  | money => "money"
  | goods => "goods"
  | service_commitment => "service_commitment"

def all : List CommitmentKind := [none, record_update, money, goods, service_commitment]

/-- `CommitmentKind(text)`. -/
def ofText (text : String) : Option CommitmentKind := all.find? (·.value = text)

theorem ofText_value (kind : CommitmentKind) : ofText kind.value = some kind := by
  cases kind <;> decide

end CommitmentKind

inductive ApprovalPolicy
  | tenant_policy
  | always_require_approval
  deriving DecidableEq, Repr

namespace ApprovalPolicy

def value : ApprovalPolicy → String
  | tenant_policy => "tenant_policy"
  | always_require_approval => "always_require_approval"

def all : List ApprovalPolicy := [tenant_policy, always_require_approval]

/-- `ApprovalPolicy(text)`. -/
def ofText (text : String) : Option ApprovalPolicy := all.find? (·.value = text)

theorem ofText_value (policy : ApprovalPolicy) : ofText policy.value = some policy := by
  cases policy <;> decide

end ApprovalPolicy

inductive RuleKind
  | confidence_membership
  | always
  | amount_threshold
  | value_bands
  deriving DecidableEq, Repr

/-- What a resolution proposal tells the tools. -/
structure Proposal (F : Type) where
  proposal_id : String
  session_id : Option String
  execution_id : Option String
  dispatch_id : String
  proposed_customer_reply : String
  resolution_category : String
  confidence : F

abbrev PayloadBuilder (F : Type) :=
  JsonObject F → Proposal F → String → Except ArithmeticException (JsonObject F)

/-- Action, payload, tool name and action type to a target. -/
abbrev TargetResourceBuilder (F : Type) :=
  JsonObject F → JsonObject F → Option String → Option String → String

structure RegisteredOperation (F : Type) where
  operation_id : String
  tool_name : String
  action_types : List String
  commitment_kind : CommitmentKind
  approval_policy : ApprovalPolicy
  target_resource_expr : String
  policy_key : Option String := none
  rule_kind : Option RuleKind := none
  required_policy_rule : Bool := true
  payload_builder : Option (PayloadBuilder F) := none
  target_resource_builder : Option (TargetResourceBuilder F) := none

structure ResolvedOperation (F : Type) where
  operation_id : Option String
  tool_name : Option String
  action_type : Option String
  commitment_kind : Option CommitmentKind
  approval_policy : Option ApprovalPolicy
  target_resource_expr : Option String
  policy_key : Option String
  rule_kind : Option RuleKind
  required_policy_rule : Bool
  payload_builder : Option (PayloadBuilder F) := none
  target_resource_builder : Option (TargetResourceBuilder F) := none

variable {F : Type}

def ResolvedOperation.from_registered (operation : RegisteredOperation F)
    (action_type : Option String) : ResolvedOperation F where
  operation_id := some operation.operation_id
  tool_name := some operation.tool_name
  action_type := action_type
  commitment_kind := some operation.commitment_kind
  approval_policy := some operation.approval_policy
  target_resource_expr := some operation.target_resource_expr
  policy_key := operation.policy_key
  rule_kind := operation.rule_kind
  required_policy_rule := operation.required_policy_rule
  payload_builder := operation.payload_builder
  target_resource_builder := operation.target_resource_builder

/-! ## The metadata of an operation -/

def operationIdKey : String := "operation_id"
def commitmentKindKey : String := "operation_commitment_kind"
def approvalPolicyKey : String := "operation_approval_policy"
def targetResourceExprKey : String := "operation_target_resource_expr"

def operation_metadata : Option (ResolvedOperation F) → JsonObject F
  | none => .empty
  | some resolved => Dict.ofList
      ((resolved.operation_id.map fun id => (operationIdKey, .str id)).toList ++
      (resolved.commitment_kind.map fun kind => (commitmentKindKey, .str kind.value)).toList ++
      (resolved.approval_policy.map fun policy => (approvalPolicyKey, .str policy.value)).toList ++
      (resolved.target_resource_expr.map fun expr => (targetResourceExprKey, .str expr)).toList)

def resolve_explicit_metadata (metadata : JsonObject F) (tool_name action_type : Option String) :
    Option (ResolvedOperation F) :=
  let operation_id := textAt metadata operationIdKey
  let commitment_kind := (textAt metadata commitmentKindKey).bind CommitmentKind.ofText
  let approval_policy := (textAt metadata approvalPolicyKey).bind ApprovalPolicy.ofText
  let target_resource_expr := textAt metadata targetResourceExprKey
  if operation_id = none ∧ commitment_kind = none ∧ approval_policy = none ∧
      target_resource_expr = none then none
  else
    some {
      operation_id :=
        (orStr (orStr (orStr operation_id tool_name) action_type) (some "declared_operation"))
      tool_name
      action_type
      commitment_kind
      approval_policy
      target_resource_expr
      policy_key := none
      rule_kind := none
      required_policy_rule := false }

/-! ## The payloads -/

def proposalText (proposal : Proposal F) : Option String :=
  ((JsonValue.str proposal.proposed_customer_reply : JsonValue F).text).map fun reply =>
    String.ofList (reply.toList.take 500)

def categoryText (proposal : Proposal F) : Option String :=
  (JsonValue.str proposal.resolution_category : JsonValue F).text

def warranty_payload : PayloadBuilder F := fun action proposal _ => .ok <| Dict.ofList
  [("order_id", .ofOption (textAt action "order_id")),
   ("product_sku", .ofOption (textAt action "product_sku")),
   ("issue_category", .ofOption (orStr (textAt action "issue_category") (categoryText proposal))),
   ("customer_description", .ofOption (orStr (proposalText proposal) (some "warranty_claim")))]

def replacement_payload : PayloadBuilder F := fun action proposal _ => .ok <| Dict.ofList
  [("order_id", .ofOption (textAt action "order_id")),
   ("product_sku", .ofOption (textAt action "product_sku")),
   ("replacement_reason",
     .ofOption (orStr (textAt action "replacement_reason") (categoryText proposal))),
   ("shipping_address_hash",
     .ofOption (orStr (textAt action "shipping_address_hash") (some "address_hash_unavailable")))]

/-- The cents of a text such as `$1,250.00`, or none where it is no number. -/
def amount_to_cents (F : Type) [Interpreter F] :
    Option String → Except ArithmeticException (Option Int)
  | none => .ok none
  | some amount_text =>
    let cleaned := String.ofList (((strip amount_text).toList.dropWhile (· = '$')).filter (· ≠ ','))
    match (Interpreter.ofText cleaned : Option F) with
    | none => .ok none
    | some x =>
      match Interpreter.roundTimes100 x with
      | .ok cents => .ok (some cents)
      | .error .value_error => .ok none
      | .error exc => .error exc

/-- The cents to refund: the amount in cents, but `None` and 0 both give way to the amount as a
text. -/
def refundCents [Interpreter F] (action : JsonObject F) : Except ArithmeticException (Option Int) :=
  match intAt action "refund_amount_cents" with
  | none | some 0 => amount_to_cents F (textAt action "amount")
  | some cents => .ok (some cents)

def refund_payload [Interpreter F] : PayloadBuilder F := fun action proposal _ => do
  let cents ← refundCents action
  return Dict.ofList
    [("order_id", .ofOption (textAt action "order_id")),
     ("product_sku", .ofOption (textAt action "product_sku")),
     ("refund_amount_cents", (cents.map JsonValue.int).getD .null),
     ("refund_reason", .ofOption (orStr (textAt action "refund_reason") (categoryText proposal)))]

def severityOf (action : JsonObject F) : String :=
  match textAt action "severity" with
  | some severity => if severity ∈ ["low", "medium", "high", "critical"] then severity else "high"
  | none => "high"

def warehouse_payload : PayloadBuilder F := fun action proposal _ => .ok <| Dict.ofList
  [("product_sku", .ofOption (textAt action "product_sku")),
   ("batch_id", .ofOption (textAt action "batch_id")),
   ("defect_description", .ofOption
     (orStr (orStr (textAt action "defect_description") (proposalText proposal))
       (some "warehouse_repair"))),
   ("severity", .str (severityOf action)),
   ("session_id", .ofOption ((JsonValue.ofOption proposal.session_id : JsonValue F).text))]

def repair_booking_payload : PayloadBuilder F := fun action proposal _ => .ok <| Dict.ofList
  [("order_id", .ofOption (textAt action "order_id")),
   ("product_sku", .ofOption (textAt action "product_sku")),
   ("preferred_date", .ofOption (textAt action "preferred_date")),
   ("customer_address_hash",
     .ofOption (orStr (textAt action "customer_address_hash") (some "address_unavailable"))),
   ("device_description", .ofOption
     (orStr (orStr (textAt action "device_description") (proposalText proposal))
       (some "repair_booking")))]

/-! ## The targets -/

def targetDefault (tool_name action_type : Option String) : String :=
  (orStr (orStr tool_name action_type) (some "operation")).getD "operation"

def orderedTarget (prefixed : String → String → String) (fallback : Option String → Option String) :
    TargetResourceBuilder F := fun action payload tool_name action_type =>
  match textAt action "target_resource_id" with
  | some explicit => explicit
  | none =>
    match textAt payload "order_id", textAt payload "product_sku" with
    | some order_id, some product_sku => prefixed order_id product_sku
    | _, product_sku => (fallback product_sku).getD (targetDefault tool_name action_type)

def order_target : TargetResourceBuilder F :=
  orderedTarget (fun order_id product_sku => "order:" ++ order_id ++ ":sku:" ++ product_sku)
    (·.map ("sku:" ++ ·))

def warehouse_target : TargetResourceBuilder F := fun action payload tool_name action_type =>
  match textAt action "target_resource_id" with
  | some explicit => explicit
  | none =>
    match textAt payload "product_sku" with
    | some product_sku => "sku:" ++ product_sku
    | none => targetDefault tool_name action_type

def dispatch_target : TargetResourceBuilder F :=
  orderedTarget (fun order_id product_sku => "repair:" ++ order_id ++ ":" ++ product_sku)
    fun _ => none

def booking_target : TargetResourceBuilder F :=
  orderedTarget (fun order_id product_sku => "booking:" ++ order_id ++ ":" ++ product_sku)
    fun _ => none

/-! ## The registry -/

section

variable [Interpreter F]

def warrantyClaim : RegisteredOperation F where
  operation_id := "operation.warranty_claim"
  tool_name := "warranty.claim"
  action_types := ["warranty_claim"]
  commitment_kind := .goods
  approval_policy := .tenant_policy
  target_resource_expr := "order:\x7border_id\x7d:sku:\x7bproduct_sku\x7d"
  policy_key := some "warranty.claim"
  rule_kind := some .confidence_membership
  payload_builder := some warranty_payload
  target_resource_builder := some order_target

def replacementOrder : RegisteredOperation F where
  operation_id := "operation.replacement_order"
  tool_name := "replacement.order"
  action_types := ["replacement_order"]
  commitment_kind := .goods
  approval_policy := .tenant_policy
  target_resource_expr := "order:\x7border_id\x7d:sku:\x7bproduct_sku\x7d"
  policy_key := some "replacement.order"
  rule_kind := some .always
  payload_builder := some replacement_payload
  target_resource_builder := some order_target

def refundRequest : RegisteredOperation F where
  operation_id := "operation.refund_request"
  tool_name := "refund.request"
  action_types := ["refund_request"]
  commitment_kind := .money
  approval_policy := .tenant_policy
  target_resource_expr := "order:\x7border_id\x7d:sku:\x7bproduct_sku\x7d"
  policy_key := some "refund.request"
  rule_kind := some .amount_threshold
  payload_builder := some refund_payload
  target_resource_builder := some order_target

def warehouseRepairReport : RegisteredOperation F where
  operation_id := "operation.warehouse_repair_report"
  tool_name := "warehouse.repair.report"
  action_types := ["warehouse_repair"]
  commitment_kind := .none
  approval_policy := .tenant_policy
  target_resource_expr := "sku:\x7bproduct_sku\x7d"
  policy_key := some "warehouse.repair.report"
  rule_kind := some .value_bands
  payload_builder := some warehouse_payload
  target_resource_builder := some warehouse_target

/-- A dispatch has no payload of its own, and a policy need not have a rule for it. -/
def dispatchOperation (operation_id tool_name : String) (action_types : List String) :
    RegisteredOperation F where
  operation_id
  tool_name
  action_types
  commitment_kind := .goods
  approval_policy := .tenant_policy
  target_resource_expr := "repair:\x7border_id\x7d:\x7bproduct_sku\x7d"
  policy_key := some tool_name
  rule_kind := some .always
  required_policy_rule := false
  target_resource_builder := some dispatch_target

def repairDispatch : RegisteredOperation F :=
  dispatchOperation "operation.repair_dispatch" "repair.dispatch" ["repair.dispatch"]

def replacementDispatch : RegisteredOperation F :=
  dispatchOperation "operation.replacement_dispatch" "replacement.dispatch" []

def warrantyDispatch : RegisteredOperation F :=
  dispatchOperation "operation.warranty_dispatch" "warranty.dispatch" []

/-- A booking is a commitment in the real world: a human approves it before it is sent. -/
def repairBooking : RegisteredOperation F where
  operation_id := "operation.repair_booking"
  tool_name := "repair.booking"
  action_types := ["repair_booking"]
  commitment_kind := .goods
  approval_policy := .always_require_approval
  target_resource_expr := "booking:\x7border_id\x7d:\x7bproduct_sku\x7d"
  policy_key := some "repair.booking"
  rule_kind := some .always
  required_policy_rule := false
  payload_builder := some repair_booking_payload
  target_resource_builder := some booking_target

def registeredOperations : List (RegisteredOperation F) :=
  [warrantyClaim, replacementOrder, refundRequest, warehouseRepairReport, repairDispatch,
   replacementDispatch, warrantyDispatch, repairBooking]

/-- `_REGISTERED_BY_TOOL.get(tool_name)`. -/
def registeredByTool (tool_name : String) : Option (RegisteredOperation F) :=
  registeredOperations.find? (·.tool_name = tool_name)

/-- `_REGISTERED_BY_ACTION_TYPE.get(action_type)`. -/
def registeredByActionType (action_type : String) : Option (RegisteredOperation F) :=
  registeredOperations.find? (action_type ∈ ·.action_types)

def resolve_operation (metadata : JsonObject F) (tool_name action_type : Option String) :
    Option (ResolvedOperation F) :=
  match resolve_explicit_metadata metadata tool_name action_type with
  | some explicit => some explicit
  | none =>
    match tool_name.bind registeredByTool with
    | some registered => some (.from_registered registered action_type)
    | none => (action_type.bind registeredByActionType).map (.from_registered · action_type)

def tool_name_for_action_type (action_type : Option String) : Option String :=
  (action_type.bind (registeredByActionType (F := F))).map (·.tool_name)

/-- `payload_for_operation`, with no payload where the operation has no builder. -/
def payload_for_operation (operation : Option (ResolvedOperation F)) (action : JsonObject F)
    (proposal : Proposal F) (action_type : String) :
    Except ArithmeticException (Option (JsonObject F)) :=
  match operation.bind (·.payload_builder) with
  | none => .ok none
  | some builder => (builder action proposal action_type).map some

def target_resource_for_operation (operation : Option (ResolvedOperation F))
    (action payload : JsonObject F) (tool_name action_type : Option String) : Option String :=
  (operation.bind (·.target_resource_builder)).map fun builder =>
    builder action payload tool_name action_type

end

/-- The keys of an action that direct the orchestration, or hold an object. -/
def actionStructuralKeys : List String :=
  ["type", "tool_name", "label", "requires_execution", "payload_template", "target_resource_id",
   "payload", "warranty_refund_eligibility", "resolution_verdict"]

end operious.agents.tools
