-- The verdicts of governance, and how the results of all rules are collapsed into one decision:
-- the most restrictive verdict wins, and no result at all is a denial.
import Operious.Lib.Worst
import Operious.Python

namespace operious.governance

/-! ## The vocabulary -/

inductive Decision
  | deny
  | require_approval
  | escalate
  | degrade
  | redact
  | allow
  deriving DecidableEq, Repr

namespace Decision

def value : Decision → String
  | deny => "deny"
  | require_approval => "require_approval"
  | escalate => "escalate"
  | degrade => "degrade"
  | redact => "redact"
  | allow => "allow"

/-- A lower number is more restrictive. -/
def precedence : Decision → Nat
  | deny => 0
  | require_approval => 1
  | escalate => 2
  | degrade => 3
  | redact => 4
  | allow => 5

theorem precedence_injective : Function.Injective precedence := by
  intro a b h
  cases a <;> cases b <;> first | rfl | simp [precedence] at h

/-- `a ≤ b` when `a` is as restrictive as `b` or more. -/
instance : LinearOrder Decision := LinearOrder.lift' precedence precedence_injective

theorem le_iff {a b : Decision} : a ≤ b ↔ precedence a ≤ precedence b := Iff.rfl

instance : OrderBot Decision where
  bot := deny
  bot_le a := Nat.zero_le (precedence a)

instance : OrderTop Decision where
  top := allow
  le_top a := by
    rw [le_iff]
    cases a <;> simp [precedence]

theorem bot_eq : (⊥ : Decision) = deny := rfl

theorem top_eq : (⊤ : Decision) = allow := rfl

end Decision

inductive EnforcementStage
  | pre_request
  | pre_retrieval
  | post_retrieval
  | pre_grounding
  | pre_execution
  | post_execution
  deriving DecidableEq, Repr

def EnforcementStage.value : EnforcementStage → String
  | pre_request => "pre_request"
  | pre_retrieval => "pre_retrieval"
  | post_retrieval => "post_retrieval"
  | pre_grounding => "pre_grounding"
  | pre_execution => "pre_execution"
  | post_execution => "post_execution"

inductive ViolationSeverity
  | low
  | medium
  | high
  | critical
  deriving DecidableEq, Repr

inductive RestrictionKind
  | model_restriction
  | source_restriction
  | chunk_cap
  | token_cap
  | content_redaction
  | rate_limit
  | capability_restriction
  deriving DecidableEq, Repr

structure PolicyViolation where
  policy_name : String
  rule_id : String
  decision : Decision
  severity : ViolationSeverity
  detail : String
  metadata : Metadata := .empty
  deriving DecidableEq

structure RuntimeRestriction where
  kind : RestrictionKind
  target : String
  value : Value
  reason : String
  policy_name : String
  rule_id : String
  metadata : Metadata := .empty
  deriving DecidableEq

structure PolicyEvaluationResult where
  policy_name : String
  rule_id : String
  decision : Decision
  severity : ViolationSeverity := .low
  reason : String := ""
  restrictions : List RuntimeRestriction := []
  metadata : Metadata := .empty
  policy_version : String := "unversioned"
  deriving DecidableEq

structure GovernanceDecision (Uuid : Type) where
  decision_id : Uuid
  decision : Decision
  stage : EnforcementStage
  policy_chain_id : String
  evaluated_rules : List PolicyEvaluationResult
  violations : List PolicyViolation
  restrictions : List RuntimeRestriction
  reason : String
  decided_at : Instant
  metadata : Metadata

def is_blocking_decision (decision : Decision) : Bool :=
  decision = .deny || decision = .require_approval || decision = .escalate

def is_allow_decision (decision : Decision) : Bool := decision = .allow

/-! ## The aggregation -/

def noGovernanceEvaluated : PolicyEvaluationResult where
  policy_name := "governance.substrate"
  rule_id := "no_governance_evaluated"
  decision := .deny
  severity := .critical
  reason := "no policy evaluated this operation; substrate refuses " ++
    "to vouch (fail-closed by constitutional default)"

def PolicyEvaluationResult.violation (r : PolicyEvaluationResult) : PolicyViolation where
  policy_name := r.policy_name
  rule_id := r.rule_id
  decision := r.decision
  severity := r.severity
  detail := r.reason
  metadata := r.metadata

def composeReason (final : Decision) (violations : List PolicyViolation) : String :=
  if final = .allow then "all rules allowed"
  else
    let triggering := (violations.filter (·.decision = final)).map fun v =>
      v.policy_name ++ "." ++ v.rule_id
    final.value ++ ": " ++
      (if triggering.isEmpty then "no rule attribution" else String.intercalate ", " triggering)

/-- The results with the denial that stands for none, and the verdict that wins over them. -/
def collapse (evaluation_results : List PolicyEvaluationResult) :
    List PolicyEvaluationResult × Decision :=
  match (evaluation_results.map (·.decision)).argmin Decision.precedence with
  | none => ([noGovernanceEvaluated], .deny)
  | some final => (evaluation_results, final)

/-- Without an id or a time of its own the decision takes `generated` and `now`. -/
def build_decision {Uuid : Type} (stage : EnforcementStage) (policy_chain_id : String)
    (evaluation_results : List PolicyEvaluationResult) (metadata : Metadata)
    (decided_at : Option Instant) (decision_id : Option Uuid) (now : Instant) (generated : Uuid) :
    GovernanceDecision Uuid :=
  let (results, final) := collapse evaluation_results
  let violations := (results.filter (·.decision ≠ .allow)).map (·.violation)
  { decision_id := decision_id.getD generated
    decision := final
    stage
    policy_chain_id
    evaluated_rules := results
    violations
    restrictions := (results.filter (·.decision = final)).flatMap (·.restrictions)
    reason := composeReason final violations
    decided_at := decided_at.getD now
    metadata }

/-! ## The winning verdict -/

theorem collapse_decision (results : List PolicyEvaluationResult) :
    (collapse results).2 = worst.of (results.map (·.decision)) := by
  unfold collapse
  cases h : (results.map (·.decision)).argmin Decision.precedence with
  | none =>
    rw [List.argmin_eq_none.mp h]
    rfl
  | some final => exact (worst.of_eq_argmin (fun _ _ => Iff.rfl) h).symm

theorem collapse_rules (results : List PolicyEvaluationResult) :
    (collapse results).1 = if results = [] then [noGovernanceEvaluated] else results := by
  unfold collapse
  cases h : (results.map (·.decision)).argmin Decision.precedence with
  | none =>
    have hnil := List.map_eq_nil_iff.mp (List.argmin_eq_none.mp h)
    simp [hnil]
  | some final =>
    have hne : results ≠ [] := by
      rintro rfl
      simp at h
    simp [hne]

section

variable {Uuid : Type} (stage : EnforcementStage) (policy_chain_id : String)
  (results : List PolicyEvaluationResult) (metadata : Metadata) (decided_at : Option Instant)
  (decision_id : Option Uuid) (now : Instant) (generated : Uuid)

theorem build_decision_decision :
    (build_decision stage policy_chain_id results metadata decided_at decision_id now
      generated).decision = worst.of (results.map (·.decision)) := collapse_decision results

theorem build_decision_rules :
    (build_decision stage policy_chain_id results metadata decided_at decision_id now
      generated).evaluated_rules =
      if results = [] then [noGovernanceEvaluated] else results := collapse_rules results

end

end operious.governance
