-- The evaluation of a dispatch against the policy of a coordination: evaluators that look at it one by
-- one, and the runtime that takes the most restrictive of what they found. A critical evaluator that
-- raises counts as a denial, any other that raises is skipped.
import Operious.Coordination.TopologyRuntime

namespace operious.coordination

open operious.agents.tools (sorted)
open operious.arbitration (TextRepr)
open operious.governance (PyException)

inductive CoordinationPolicyDecision
  | allow | annotate | restrict | escalate | deny
  deriving DecidableEq, Repr

namespace CoordinationPolicyDecision

def value : CoordinationPolicyDecision → String
  | allow => "allow"
  | annotate => "annotate"
  | restrict => "restrict"
  | escalate => "escalate"
  | deny => "deny"

/-- `coordination_policy_precedence`: a lower number is more restrictive. -/
def precedence : CoordinationPolicyDecision → Nat
  | deny => 0
  | escalate => 1
  | restrict => 2
  | annotate => 3
  | allow => 4

end CoordinationPolicyDecision

def is_blocking_policy_decision (decision : CoordinationPolicyDecision) : Bool :=
  decision ∈ [.deny, .escalate]

inductive CoordinationPolicyScope
  | sender | recipient | direction | message_type | topology | tenant | escalation | global
  deriving DecidableEq, Repr

/-- A restriction that a finding attaches. It binds nobody here. -/
structure CoordinationPolicyRestriction where
  kind : String
  target : String
  reason : String := ""

/-- An escalation that a finding asks for. -/
structure CoordinationPolicyEscalation where
  kind : String
  target : String := ""
  reason : String := ""

structure CoordinationPolicyFinding where
  evaluator_name : String
  scope : CoordinationPolicyScope
  decision : CoordinationPolicyDecision
  code : String
  message : String
  policy_id : Option String := none
  rule_id : Option String := none
  restrictions : List CoordinationPolicyRestriction := []
  escalations : List CoordinationPolicyEscalation := []

section

variable (Uuid : Type)

structure CoordinationPolicyEvaluationRequest where
  sender_id : String
  recipient_id : String
  direction : CoordinationDirection
  message_type : CoordinationMessageType
  coordination_id : Uuid
  coordination_message_id : Uuid
  recipient_kind : String := "agent"
  priority : Int
  tenant_id : Option String := none
  sender_tenant_id : Option String := none
  recipient_tenant_id : Option String := none
  correlation_id : Option Uuid := none
  parent_coordination_id : Option Uuid := none
  parent_message_id : Option Uuid := none
  request_id : Option String := none
  evaluator_names : Option (List String) := none

structure CoordinationPolicyEvaluator where
  name : String
  /-- `type(evaluator).__name__`. -/
  type_name : String
  is_critical : Bool := false
  evaluate : CoordinationPolicyEvaluationRequest Uuid →
    Except PyException (List CoordinationPolicyFinding)

end

variable {Uuid : Type}

/-! ## Tenant isolation -/

section

variable [TextRepr] (allowed_cross_tenant_pairs : List (String × String)) (require_tenant : Bool)
  (request : CoordinationPolicyEvaluationRequest Uuid)

/-- `TenantIsolationEvaluator.evaluate`. -/
def tenant_isolation : List CoordinationPolicyFinding :=
  if require_tenant && request.tenant_id.isNone then [{
      evaluator_name := "tenant_isolation", scope := .tenant, decision := .deny
      code := "tenant_isolation.missing_tenant"
      message := "tenant_isolation requires a tenant_id; request carries none" }]
  else
    match request.sender_tenant_id, request.recipient_tenant_id with
    | some sender_tenant, some recipient_tenant =>
      let crossing := TextRepr.repr sender_tenant ++ " → " ++ TextRepr.repr recipient_tenant
      if sender_tenant = recipient_tenant then []
      else if (sender_tenant, recipient_tenant) ∈ allowed_cross_tenant_pairs then [{
          evaluator_name := "tenant_isolation", scope := .tenant, decision := .annotate
          code := "tenant_isolation.cross_tenant"
          message := "cross-tenant operation authorised " ++ crossing }]
      else [{
          evaluator_name := "tenant_isolation", scope := .tenant, decision := .deny
          code := "tenant_isolation.violation"
          message := "cross-tenant operation not authorised " ++ crossing }]
    | _, _ => []

def TenantIsolationEvaluator : CoordinationPolicyEvaluator Uuid where
  name := "tenant_isolation"
  type_name := "TenantIsolationEvaluator"
  is_critical := true
  evaluate request := .ok (tenant_isolation allowed_cross_tenant_pairs require_tenant request)

end

/-! ## The verdict -/

/-- `min(decisions, key=precedence)`. -/
def strictest (first : CoordinationPolicyDecision) (rest : List CoordinationPolicyDecision) :
    CoordinationPolicyDecision :=
  rest.foldl (fun apex d => if d.precedence < apex.precedence then d else apex) first

def build_policy_decision : List CoordinationPolicyFinding →
    CoordinationPolicyDecision × List CoordinationPolicyRestriction ×
      List CoordinationPolicyEscalation × String
  | [] => (.allow, [], [], "no findings; baseline allow")
  | first :: rest =>
    let apex := strictest first.decision (rest.map (·.decision))
    let triggering := (first :: rest).filter (·.decision = apex)
    (apex, triggering.flatMap (·.restrictions), triggering.flatMap (·.escalations),
      apex.value ++ ": " ++
        ", ".intercalate (triggering.map fun finding => finding.evaluator_name ++ ":" ++ finding.code))

def synthesize_deny_finding (evaluator : CoordinationPolicyEvaluator Uuid) :
    CoordinationPolicyFinding where
  evaluator_name := evaluator.name
  scope := .tenant
  decision := .deny
  code := "critical_evaluator.failure"
  message := "critical_evaluator_failure:" ++ evaluator.type_name

def contribution (request : CoordinationPolicyEvaluationRequest Uuid)
    (evaluator : CoordinationPolicyEvaluator Uuid) : List CoordinationPolicyFinding :=
  match evaluator.evaluate request with
  | .ok emitted => emitted
  | .error _ => if evaluator.is_critical then [synthesize_deny_finding evaluator] else []

/-- What the evaluators found, and the last exception that one of them raised. -/
def run_policy_evaluators (request : CoordinationPolicyEvaluationRequest Uuid) :
    List (CoordinationPolicyEvaluator Uuid) → List CoordinationPolicyFinding × Option PyException
  | [] => ([], none)
  | evaluator :: rest =>
    let (findings, framework_error) := run_policy_evaluators request rest
    (contribution request evaluator ++ findings,
      match evaluator.evaluate request with
      | .error exc => framework_error.or (some exc)
      | .ok _ => framework_error)

structure CoordinationPolicyEvaluationResult where
  aggregate_decision : CoordinationPolicyDecision
  findings : List CoordinationPolicyFinding
  restrictions : List CoordinationPolicyRestriction
  escalations : List CoordinationPolicyEscalation
  evaluator_names : List String
  reason : String
  tenant_id : Option String
  error : Option String

structure CoordinationPolicyEnvelope where
  trace_error : Option String
  result : Option CoordinationPolicyEvaluationResult := none
  error : Option PyException := none

/-- `is_ok`: a result is there, whatever was raised on the way to it. -/
def CoordinationPolicyEnvelope.is_ok (envelope : CoordinationPolicyEnvelope) : Bool :=
  envelope.result.isSome

/-- The runtime: its registry holds at least one evaluator, each under its own name, and walks them in
the order of their names. -/
structure CoordinationPolicyRuntime (Uuid : Type) where
  evaluators : List (CoordinationPolicyEvaluator Uuid)
  nonempty : evaluators ≠ []
  names_sorted : sorted (evaluators.map (·.name)) = evaluators.map (·.name)
  names_distinct : (evaluators.map (·.name)).Nodup

namespace CoordinationPolicyRuntime

variable [TextRepr] (runtime : CoordinationPolicyRuntime Uuid) (around : EvaluationAround)
  (request : CoordinationPolicyEvaluationRequest Uuid)

def resolve_evaluators (whitelist : Option (List String)) :
    Except PyException (List (CoordinationPolicyEvaluator Uuid)) :=
  match whitelist with
  | none => .ok runtime.evaluators
  | some [] => .error ⟨"CoordinationPolicyConfigurationError",
      "evaluator_names whitelist is empty; pass None to run every registered evaluator"⟩
  | some names =>
    match (sorted names).find? fun name => !runtime.evaluators.any (·.name = name) with
    | some name => .error ⟨"CoordinationPolicyConfigurationError",
        "unknown evaluator in whitelist: " ++ TextRepr.repr name⟩
    | none => .ok (runtime.evaluators.filter fun evaluator => evaluator.name ∈ names)

def fail_fast (error : PyException) : CoordinationPolicyEnvelope where
  trace_error := some error.describe
  error := some error

def resultOf (evaluators : List (CoordinationPolicyEvaluator Uuid)) :
    CoordinationPolicyEvaluationResult :=
  let (findings, framework_error) := run_policy_evaluators request evaluators
  let (apex, restrictions, escalations, reason) := build_policy_decision findings
  { aggregate_decision := apex
    findings, restrictions, escalations
    evaluator_names := evaluators.map (·.name)
    reason
    tenant_id := request.tenant_id
    error := framework_error.map (·.describe) }

def recordError (exc : PyException) : String :=
  if exc.name = "CoordinationPolicyPersistenceError" then "persistence: " ++ exc.text
  else "persistence failed: " ++ exc.describe

def evaluate : CoordinationPolicyEnvelope :=
  match around.denial with
  | some denial => fail_fast denial
  | none =>
    match resolve_evaluators runtime request.evaluator_names with
    | .error exc => fail_fast exc
    | .ok evaluators =>
      let result := resultOf request evaluators
      match around.record_evaluation with
      | .error exc => { trace_error := some (recordError exc), error := some exc }
      | .ok _ => {
          trace_error := result.error
          result := some result
          error := (run_policy_evaluators request evaluators).2 }

end CoordinationPolicyRuntime

end operious.coordination
