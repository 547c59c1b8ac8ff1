-- The policy engine: every policy of a chain speaks in its place, a policy for other subjects is
-- skipped, and a policy that raises is a denial. The verdict does not depend on the order of the
-- policies, and nothing that is stricter makes it looser.
import Operious.Governance.Decisions

namespace operious.governance

/-- What a call raised: the name of its type and its text. -/
structure PyException where
  name : String
  text : String
  deriving DecidableEq, Repr

/-- `f"{type(exc).__name__}: {exc}"`. -/
def PyException.describe (exc : PyException) : String := exc.name ++ ": " ++ exc.text

inductive SubjectKind
  | generic
  | retrieval
  | execution
  | agent_action
  | manager_approval
  | communication
  | capability
  | cluster
  deriving DecidableEq, Repr

def SubjectKind.value : SubjectKind → String
  | generic => "generic"
  | retrieval => "retrieval"
  | execution => "execution"
  | agent_action => "agent_action"
  | manager_approval => "manager_approval"
  | communication => "communication"
  | capability => "capability"
  | cluster => "defect_cluster"

/-- What is evaluated. The subject is of the type `S`, and its kind routes the policies. -/
structure GovernanceContext (S : Type) where
  stage : EnforcementStage
  action : String
  resource : String
  actor : String := "system"
  tenant_id : Option String := none
  request_id : Option String := none
  subject_kind : SubjectKind
  subject : S
  correlation_id : Option String := none
  metadata : Metadata := .empty

structure GovernancePolicy (S : Type) where
  name : String
  supported_stages : List EnforcementStage
  applicable_subject_kinds : List SubjectKind
  evaluate : GovernanceContext S → Except PyException (List PolicyEvaluationResult)

namespace GovernancePolicy

variable {S : Type}

def supports (policy : GovernancePolicy S) (stage : EnforcementStage) : Bool :=
  stage ∈ policy.supported_stages

def applies_to (policy : GovernancePolicy S) (kind : SubjectKind) : Bool :=
  policy.applicable_subject_kinds.isEmpty || kind ∈ policy.applicable_subject_kinds

end GovernancePolicy

structure PolicyChain (S : Type) where
  chain_id : String
  stage : EnforcementStage
  policies : List (GovernancePolicy S)
  governance_version : String := "unversioned"
  has_id : chain_id ≠ ""
  supported : ∀ policy ∈ policies, policy.supports stage = true

inductive TraceStatus
  | ok
  | failed
  | skipped
  deriving DecidableEq, Repr

structure PolicyEvaluationTrace where
  policy_name : String
  status : TraceStatus
  rule_count : Nat
  decision_counts : Dict Decision Nat
  error : Option String := none
  metadata : Metadata := .empty

structure EngineEvaluationResult where
  evaluation_results : List PolicyEvaluationResult
  policy_traces : List PolicyEvaluationTrace

/-! ## The engine -/

def countDecisions (results : List PolicyEvaluationResult) : Dict Decision Nat :=
  results.foldl (fun counts r => counts.set r.decision ((counts.get? r.decision).getD 0 + 1)) .empty

def evaluationError (policy_name : String) (exc : PyException) : PolicyEvaluationResult where
  policy_name := policy_name
  rule_id := "evaluation_error"
  decision := .deny
  severity := .critical
  reason := "policy raised: " ++ exc.describe
  metadata := Dict.empty.set "exception_type" (.str exc.name)

namespace PolicyEvaluationEngine

variable {S : Type}

/-- One turn of the loop over the policies. -/
def visit (context : GovernanceContext S) (acc : EngineEvaluationResult)
    (policy : GovernancePolicy S) : EngineEvaluationResult :=
  if !policy.applies_to context.subject_kind then
    { acc with
      policy_traces := acc.policy_traces ++
        [{ policy_name := policy.name
           status := .skipped
           rule_count := 0
           decision_counts := countDecisions []
           metadata := (Dict.empty.set "skip_reason" (.str "subject_kind_not_applicable")).set
             "subject_kind" (.str context.subject_kind.value) }] }
  else
    match policy.evaluate context with
    | .error exc =>
      { evaluation_results := acc.evaluation_results ++ [evaluationError policy.name exc]
        policy_traces := acc.policy_traces ++
          [{ policy_name := policy.name
             status := .failed
             rule_count := 0
             decision_counts := countDecisions []
             error := some exc.describe }] }
    | .ok results =>
      { evaluation_results := acc.evaluation_results ++ results
        policy_traces := acc.policy_traces ++
          [{ policy_name := policy.name
             status := .ok
             rule_count := results.length
             decision_counts := countDecisions results }] }

def evaluate (chain : PolicyChain S) (context : GovernanceContext S) : EngineEvaluationResult :=
  chain.policies.foldl (visit context) ⟨[], []⟩

end PolicyEvaluationEngine

/-! ## What a policy says -/

section

variable {S : Type} (context : GovernanceContext S)

def GovernancePolicy.spoken (policy : GovernancePolicy S) : List PolicyEvaluationResult :=
  if !policy.applies_to context.subject_kind then []
  else
    match policy.evaluate context with
    | .error exc => [evaluationError policy.name exc]
    | .ok results => results

theorem visit_results (acc : EngineEvaluationResult) (policy : GovernancePolicy S) :
    (PolicyEvaluationEngine.visit context acc policy).evaluation_results =
      acc.evaluation_results ++ policy.spoken context := by
  unfold PolicyEvaluationEngine.visit GovernancePolicy.spoken
  split
  · simp
  · split <;> simp [*]

theorem foldl_visit_results (policies : List (GovernancePolicy S)) (acc : EngineEvaluationResult) :
    (policies.foldl (PolicyEvaluationEngine.visit context) acc).evaluation_results =
      acc.evaluation_results ++ policies.flatMap (·.spoken context) := by
  induction policies generalizing acc with
  | nil => simp
  | cons policy rest ih =>
    rw [List.foldl_cons, ih, visit_results]
    simp

theorem evaluate_results (chain : PolicyChain S) :
    (PolicyEvaluationEngine.evaluate chain context).evaluation_results =
      chain.policies.flatMap (·.spoken context) := by
  unfold PolicyEvaluationEngine.evaluate
  rw [foldl_visit_results]
  rfl

end

/-! ## Silence and strictness -/

section

variable {S : Type} {context : GovernanceContext S}

variable {policy : GovernancePolicy S}

theorem spoken_of_not_applies (h : policy.applies_to context.subject_kind = false) :
    policy.spoken context = [] := by
  unfold GovernancePolicy.spoken
  simp [h]

theorem spoken_of_raised {exc : PyException} (h : policy.applies_to context.subject_kind = true)
    (hraised : policy.evaluate context = .error exc) :
    policy.spoken context = [evaluationError policy.name exc] := by
  unfold GovernancePolicy.spoken
  simp [h, hraised]

theorem spoken_of_ok {results : List PolicyEvaluationResult}
    (h : policy.applies_to context.subject_kind = true)
    (hok : policy.evaluate context = .ok results) : policy.spoken context = results := by
  unfold GovernancePolicy.spoken
  simp [h, hok]

theorem spoken_only_allow :
    (∀ r ∈ policy.spoken context, r.decision = .allow) ↔
      (policy.applies_to context.subject_kind = true →
        ∃ results, policy.evaluate context = .ok results ∧ ∀ r ∈ results, r.decision = .allow) := by
  cases happ : policy.applies_to context.subject_kind with
  | false => simp [spoken_of_not_applies happ]
  | true =>
    cases heval : policy.evaluate context with
    | error exc => simp [spoken_of_raised happ heval, evaluationError]
    | ok results => simp [spoken_of_ok happ heval]

variable (context)

/-- `policy'` is `policy` with some of its results made stricter, or made to raise. -/
inductive Tightened : GovernancePolicy S → GovernancePolicy S → Prop
  | refl (policy : GovernancePolicy S) : Tightened policy policy
  | stricter {policy' policy : GovernancePolicy S} {results' results : List PolicyEvaluationResult}
      (kinds : policy'.applicable_subject_kinds = policy.applicable_subject_kinds)
      (evaluated' : policy'.evaluate context = .ok results')
      (evaluated : policy.evaluate context = .ok results)
      (le : List.Forall₂ (fun r' r => r'.decision ≤ r.decision) results' results) :
      Tightened policy' policy
  | raises {policy' policy : GovernancePolicy S} {exc : PyException}
      (kinds : policy'.applicable_subject_kinds = policy.applicable_subject_kinds)
      (raised : policy'.evaluate context = .error exc) :
      Tightened policy' policy

variable {context}

def verdicts (results : List PolicyEvaluationResult) : List Decision := results.map (·.decision)

theorem Tightened.dominates {policy' policy : GovernancePolicy S}
    (h : Tightened context policy' policy) :
    worst.Dominates (verdicts (policy'.spoken context)) (verdicts (policy.spoken context)) := by
  cases h with
  | refl => exact worst.Dominates.of_subset (List.Subset.refl _)
  | stricter kinds evaluated' evaluated le =>
    have happ : policy'.applies_to context.subject_kind = policy.applies_to context.subject_kind := by
      simp only [GovernancePolicy.applies_to, kinds]
    cases hp : policy.applies_to context.subject_kind with
    | false =>
      rw [spoken_of_not_applies hp]
      simp [worst.Dominates, verdicts]
    | true =>
      rw [spoken_of_ok hp evaluated, spoken_of_ok (happ.trans hp) evaluated']
      apply worst.Dominates.of_forall₂
      simpa [verdicts, List.forall₂_map_left_iff, List.forall₂_map_right_iff] using le
  | raises kinds raised =>
    have happ : policy'.applies_to context.subject_kind = policy.applies_to context.subject_kind := by
      simp only [GovernancePolicy.applies_to, kinds]
    cases hp : policy.applies_to context.subject_kind with
    | false =>
      rw [spoken_of_not_applies hp]
      simp [worst.Dominates, verdicts]
    | true =>
      rw [spoken_of_raised (happ.trans hp) raised]
      intro d _
      exact ⟨.deny, by simp [verdicts, evaluationError], bot_le⟩

theorem Tightened.denies {policy' policy : GovernancePolicy S}
    (h : Tightened context policy' policy) (hsilent : policy.spoken context = []) :
    ∀ d ∈ verdicts (policy'.spoken context), d = .deny := by
  cases happ : policy'.applies_to context.subject_kind with
  | false => simp [spoken_of_not_applies happ, verdicts]
  | true =>
    cases h with
    | refl => simp [hsilent, verdicts]
    | stricter kinds evaluated' evaluated le =>
      have hp : policy.applies_to context.subject_kind = true := by
        simpa only [GovernancePolicy.applies_to, kinds] using happ
      rw [spoken_of_ok hp evaluated] at hsilent
      subst hsilent
      rw [spoken_of_ok happ evaluated', List.forall₂_nil_right_iff.mp le]
      simp [verdicts]
    | raises kinds raised => simp [spoken_of_raised happ raised, verdicts, evaluationError]

variable {policies' policies : List (GovernancePolicy S)}

theorem Tightened.denies_all (h : List.Forall₂ (Tightened context) policies' policies)
    (hsilent : policies.flatMap (·.spoken context) = []) :
    ∀ d ∈ verdicts (policies'.flatMap (·.spoken context)), d = .deny := by
  induction h with
  | nil => simp [verdicts]
  | cons hp _ ih =>
    simp only [List.flatMap_cons, List.append_eq_nil_iff] at hsilent
    simp only [List.flatMap_cons, verdicts, List.map_append, List.mem_append]
    rintro d (hd | hd)
    · exact hp.denies hsilent.1 d hd
    · exact ih hsilent.2 d hd

theorem Tightened.dominates_all (h : List.Forall₂ (Tightened context) policies' policies) :
    worst.Dominates (verdicts (policies'.flatMap (·.spoken context)))
      (verdicts (policies.flatMap (·.spoken context))) := by
  induction h with
  | nil => simp [worst.Dominates, verdicts]
  | cons hp _ ih =>
    simp only [List.flatMap_cons, verdicts, List.map_append]
    exact hp.dominates.append ih

end

end operious.governance

-- The laws of the decision that a chain comes to: when it allows, that the order of the policies
-- does not matter, and that a stricter chain never decides looser.
namespace operious.governance

variable {S Uuid : Type} (context : GovernanceContext S) (metadata : Metadata)
  (decided_at : Option Instant) (decision_id : Option Uuid) (now : Instant) (generated : Uuid)

def PolicyChain.decide (chain : PolicyChain S) : GovernanceDecision Uuid :=
  build_decision chain.stage chain.chain_id
    (PolicyEvaluationEngine.evaluate chain context).evaluation_results metadata decided_at
    decision_id now generated

def PolicyChain.spoken (chain : PolicyChain S) : List PolicyEvaluationResult :=
  chain.policies.flatMap (·.spoken context)

variable {context metadata decided_at decision_id now generated} {chain chain' : PolicyChain S}

theorem decide_decision :
    (chain.decide context metadata decided_at decision_id now generated).decision =
      worst.of (verdicts (chain.spoken context)) := by
  unfold PolicyChain.decide PolicyChain.spoken verdicts
  rw [build_decision_decision, evaluate_results]

theorem decide_rules :
    (chain.decide context metadata decided_at decision_id now generated).evaluated_rules =
      if chain.spoken context = [] then [noGovernanceEvaluated] else chain.spoken context := by
  unfold PolicyChain.decide PolicyChain.spoken
  rw [build_decision_rules, evaluate_results]

theorem allow_iff :
    worst.of (verdicts (chain.spoken context)) = .allow ↔
      (∃ policy ∈ chain.policies, policy.applies_to context.subject_kind = true ∧
        ∃ results, policy.evaluate context = .ok results ∧ results ≠ []) ∧
      ∀ policy ∈ chain.policies, policy.applies_to context.subject_kind = true →
        ∃ results, policy.evaluate context = .ok results ∧
          ∀ r ∈ results, r.decision = .allow := by
  have hbt : (⊥ : Decision) ≠ ⊤ := by decide
  rw [← Decision.top_eq, worst.of_eq_top hbt]
  have hall : (∀ d ∈ verdicts (chain.spoken context), d = ⊤) ↔
      ∀ policy ∈ chain.policies, ∀ r ∈ policy.spoken context, r.decision = .allow := by
    simp only [verdicts, PolicyChain.spoken, List.mem_map, List.mem_flatMap]
    constructor
    · intro h policy hp r hr
      exact h _ ⟨r, ⟨policy, hp, hr⟩, rfl⟩
    · rintro h d ⟨r, ⟨policy, hp, hr⟩, rfl⟩
      exact h policy hp r hr
  rw [hall]
  simp only [spoken_only_allow]
  apply and_congr_left
  intro hok
  have hne : verdicts (chain.spoken context) ≠ [] ↔
      ∃ policy ∈ chain.policies, policy.spoken context ≠ [] := by
    simp [verdicts, PolicyChain.spoken, List.flatMap_eq_nil_iff]
  rw [hne]
  apply exists_congr
  intro policy
  apply and_congr_right
  intro hp
  cases happ : policy.applies_to context.subject_kind with
  | false => simp [spoken_of_not_applies happ]
  | true =>
    obtain ⟨results, heval, -⟩ := hok policy hp happ
    simp [spoken_of_ok happ heval, heval]

theorem spoken_perm (h : chain'.policies.Perm chain.policies) :
    (chain'.spoken context).Perm (chain.spoken context) := h.flatMap_right _

theorem tightened_le (h : List.Forall₂ (Tightened context) chain'.policies chain.policies) :
    worst.of (verdicts (chain'.spoken context)) ≤ worst.of (verdicts (chain.spoken context)) := by
  by_cases hsilent : chain.spoken context = []
  · have hdeny : ∀ d ∈ verdicts (chain'.spoken context), d = .deny :=
      Tightened.denies_all h hsilent
    by_cases hne : verdicts (chain'.spoken context) = []
    · rw [hne]
      exact bot_le
    · rw [hdeny _ (worst.of_mem hne)]
      exact bot_le
  · apply worst.of_mono
    · simpa [verdicts] using hsilent
    · exact Tightened.dominates_all h

/-- The decision of a chain: it allows only when all that spoke allowed and someone did, the order
of the policies does not matter, and no insertion, no stricter result and no exception makes it
looser. It carries every verdict that does not allow, and the restrictions of the verdict that
won. -/
theorem aggregation_is_monotone (context : GovernanceContext S) (metadata : Metadata)
    (decided_at : Option Instant) (decision_id : Option Uuid) (now : Instant) (generated : Uuid)
    (chain : PolicyChain S) :
    let decided (chain : PolicyChain S) :=
      chain.decide context metadata decided_at decision_id now generated
    ((decided chain).decision = .allow ↔
      (∃ policy ∈ chain.policies, policy.applies_to context.subject_kind = true ∧
        ∃ results, policy.evaluate context = .ok results ∧ results ≠ []) ∧
      ∀ policy ∈ chain.policies, policy.applies_to context.subject_kind = true →
        ∃ results, policy.evaluate context = .ok results ∧
          ∀ r ∈ results, r.decision = .allow) ∧
    (∀ chain' : PolicyChain S, chain'.policies.Perm chain.policies →
      (decided chain').decision = (decided chain).decision) ∧
    (∀ (chain' : PolicyChain S) before policy after, chain.policies = before ++ after →
      chain'.policies = before ++ policy :: after →
      (PolicyEvaluationEngine.evaluate chain context).evaluation_results ≠ [] →
      (decided chain').decision ≤ (decided chain).decision) ∧
    (∀ chain' : PolicyChain S, List.Forall₂ (Tightened context) chain'.policies chain.policies →
      (decided chain').decision ≤ (decided chain).decision) ∧
    (decided chain).evaluated_rules = (if chain.policies.flatMap (·.spoken context) = []
      then [noGovernanceEvaluated] else chain.policies.flatMap (·.spoken context)) ∧
    (decided chain).violations = ((decided chain).evaluated_rules.filter
      (·.decision ≠ .allow)).map (·.violation) ∧
    (decided chain).restrictions = ((decided chain).evaluated_rules.filter
      (·.decision = (decided chain).decision)).flatMap (·.restrictions) := by
  intro decided
  refine ⟨?_, ?_, ?_, ?_, decide_rules, rfl, rfl⟩
  · rw [decide_decision]
    exact allow_iff
  · intro chain' hperm
    rw [decide_decision, decide_decision]
    exact worst.of_perm ((spoken_perm hperm).map _)
  · intro chain' before policy after hchain hchain' hspoken
    rw [evaluate_results] at hspoken
    rw [decide_decision, decide_decision]
    apply worst.of_mono
    · simpa [verdicts, PolicyChain.spoken] using hspoken
    · apply worst.Dominates.of_subset
      intro d hd
      simp only [verdicts, PolicyChain.spoken, hchain, hchain', List.flatMap_append,
        List.flatMap_cons, List.map_append, List.mem_append] at hd ⊢
      tauto
  · intro chain' htight
    rw [decide_decision, decide_decision]
    exact tightened_le htight

end operious.governance
