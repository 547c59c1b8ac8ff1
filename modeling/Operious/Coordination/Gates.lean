-- Which dispatches go on to their recipient, and what an evaluator that raises changes in that: a critical
-- one of the policy stops the dispatch, any other counts as one that found nothing.
import Operious.Coordination.Dispatch
import Operious.Coordination.SingleEdge

namespace operious.coordination

open operious.arbitration (TextRepr)
open operious.dispatch_arbitration (CoordinationDispatchOutcome)
open operious.governance (PyException is_blocking_decision)

variable {Uuid : Type}

/-! ## The findings -/

def heard (request : CoordinationTopologyEvaluationRequest Uuid)
    (evaluator : CoordinationTopologyEvaluator Uuid) : List (CoordinationTopologyFinding Uuid) :=
  match evaluator.evaluate request with
  | .ok emitted => emitted
  | .error _ => []

variable {evaluators : List (CoordinationTopologyEvaluator Uuid)}

variable {request : CoordinationTopologyEvaluationRequest Uuid}

theorem run_evaluators_fst :
    (run_evaluators request evaluators).1 = evaluators.flatMap (heard request) := by
  induction evaluators with
  | nil => rfl
  | cons e rest ih =>
    rw [List.flatMap_cons, ← ih]
    cases he : e.evaluate request with
    | error exc => simp [run_evaluators, heard, he]
    | ok findings => simp [run_evaluators, heard, he]

theorem mem_heard {e : CoordinationTopologyEvaluator Uuid} {f : CoordinationTopologyFinding Uuid} :
    f ∈ heard request e ↔ ∃ findings, e.evaluate request = .ok findings ∧ f ∈ findings := by
  unfold heard
  cases e.evaluate request <;> simp

theorem run_policy_evaluators_fst {request : CoordinationPolicyEvaluationRequest Uuid}
    {evaluators : List (CoordinationPolicyEvaluator Uuid)} :
    (run_policy_evaluators request evaluators).1 = evaluators.flatMap (contribution request) := by
  induction evaluators with
  | nil => rfl
  | cons e rest ih => simp only [run_policy_evaluators, ih, List.flatMap_cons]

theorem strictest_blocking {first : CoordinationPolicyDecision}
    {rest : List CoordinationPolicyDecision} :
    is_blocking_policy_decision (strictest first rest) = true ↔
      ∃ d ∈ first :: rest, is_blocking_policy_decision d = true := by
  induction rest generalizing first with
  | nil => simp [strictest]
  | cons d rest ih =>
    have hstep : strictest first (d :: rest) =
        strictest (if d.precedence < first.precedence then d else first) rest := rfl
    have hpair : is_blocking_policy_decision
        (if d.precedence < first.precedence then d else first) = true ↔
        is_blocking_policy_decision first = true ∨ is_blocking_policy_decision d = true := by
      cases d <;> cases first <;> decide
    rw [hstep, ih]
    simp only [List.mem_cons, exists_eq_or_imp, hpair, or_assoc]

theorem build_policy_decision_blocking {findings : List CoordinationPolicyFinding} :
    is_blocking_policy_decision (build_policy_decision findings).1 = true ↔
      ∃ f ∈ findings, is_blocking_policy_decision f.decision = true := by
  cases findings with
  | nil => simp [build_policy_decision, is_blocking_policy_decision]
  | cons first rest =>
    change is_blocking_policy_decision (strictest first.decision (rest.map (·.decision))) = true ↔ _
    rw [strictest_blocking]
    simp

/-! ## What lets a dispatch pass -/

/-- The topology lets a dispatch pass: it is evaluated and recorded, and none of the evaluators that
returned found against it. -/
structure TopologyPasses (topology : CoordinationTopologyRuntime Uuid) (around : EvaluationAround)
    (request : CoordinationTopologyEvaluationRequest Uuid) : Prop where
  ungated : around.denial = none
  recorded : around.record_evaluation = .ok ()
  clear : ∀ e ∈ topology.evaluators, ∀ findings, e.evaluate request = .ok findings →
    ∀ f ∈ findings, is_blocking_topology_decision f.decision = false

/-- The policy lets a dispatch pass: also none of its critical evaluators raised. -/
structure PolicyPasses (policy : CoordinationPolicyRuntime Uuid) (around : EvaluationAround)
    (request : CoordinationPolicyEvaluationRequest Uuid) : Prop where
  ungated : around.denial = none
  recorded : around.record_evaluation = .ok ()
  clear : ∀ e ∈ policy.evaluators, ∀ findings, e.evaluate request = .ok findings →
    ∀ f ∈ findings, is_blocking_policy_decision f.decision = false
  critical : ∀ e ∈ policy.evaluators, e.is_critical = true → ∃ findings, e.evaluate request = .ok findings

section

variable [TextRepr] {topology : CoordinationTopologyRuntime Uuid} {around : EvaluationAround}
  {request : CoordinationTopologyEvaluationRequest Uuid}

omit [TextRepr] in
theorem resultOf_blocking :
    is_blocking_topology_decision (topology.resultOf request evaluators).aggregate_decision = false ↔
      ∀ e ∈ evaluators, ∀ findings, e.evaluate request = .ok findings →
        ∀ f ∈ findings, is_blocking_topology_decision f.decision = false := by
  have hblocking : ∀ d, is_blocking_topology_decision d = false ↔ d = .allowed := by
    intro d
    cases d <;> decide
  simp only [hblocking]
  change (build_topology_decision (run_evaluators request evaluators).1).1 = .allowed ↔ _
  rw [build_topology_decision_allowed, run_evaluators_fst]
  constructor
  · intro h e he findings hfound f hf
    exact h f (List.mem_flatMap.mpr ⟨e, he, mem_heard.mpr ⟨findings, hfound, hf⟩⟩)
  · intro h f hf
    obtain ⟨e, he, hf⟩ := List.mem_flatMap.mp hf
    obtain ⟨findings, hfound, hf⟩ := mem_heard.mp hf
    exact h e he findings hfound f hf

theorem topologyPasses_iff (hall : request.evaluator_names = none) :
    TopologyPasses topology around request ↔
      ∃ result, (topology.evaluate around request).result = some result ∧
        is_blocking_topology_decision result.aggregate_decision = false := by
  constructor
  · rintro ⟨hungated, hrecorded, hclear⟩
    refine ⟨topology.resultOf request topology.evaluators, ?_, resultOf_blocking.mpr hclear⟩
    rw [CoordinationTopologyRuntime.evaluate_result, hall]
    exact ⟨hungated, hrecorded, _, rfl, rfl⟩
  · rintro ⟨result, hresult, hopen⟩
    rw [CoordinationTopologyRuntime.evaluate_result, hall] at hresult
    obtain ⟨hungated, hrecorded, evaluators, hevaluators, rfl⟩ := hresult
    cases hevaluators
    exact ⟨hungated, hrecorded, resultOf_blocking.mp hopen⟩

end

section

variable [TextRepr] {policy : CoordinationPolicyRuntime Uuid} {around : EvaluationAround}
  {request : CoordinationPolicyEvaluationRequest Uuid}

theorem CoordinationPolicyRuntime.evaluate_result {result : CoordinationPolicyEvaluationResult} :
    (policy.evaluate around request).result = some result ↔
      around.denial = none ∧ around.record_evaluation = .ok () ∧ ∃ evaluators,
        policy.resolve_evaluators request.evaluator_names = .ok evaluators ∧
        resultOf request evaluators = result := by
  unfold evaluate
  cases around.denial with
  | some denial => simp [fail_fast]
  | none =>
    cases policy.resolve_evaluators request.evaluator_names with
    | error exc => simp [fail_fast]
    | ok evaluators => cases around.record_evaluation <;> simp

omit [TextRepr] in
theorem contribution_open {e : CoordinationPolicyEvaluator Uuid} :
    (∀ f ∈ contribution request e, is_blocking_policy_decision f.decision = false) ↔
      (∀ findings, e.evaluate request = .ok findings →
        ∀ f ∈ findings, is_blocking_policy_decision f.decision = false) ∧
      (e.is_critical = true → ∃ findings, e.evaluate request = .ok findings) := by
  unfold contribution
  cases he : e.evaluate request with
  | ok findings => simp
  | error exc =>
    cases hc : e.is_critical with
    | false => simp
    | true => simp [synthesize_deny_finding, is_blocking_policy_decision]

omit [TextRepr] in
theorem policyResult_open {evaluators : List (CoordinationPolicyEvaluator Uuid)} :
    is_blocking_policy_decision
        (CoordinationPolicyRuntime.resultOf request evaluators).aggregate_decision = false ↔
      ∀ e ∈ evaluators, ∀ f ∈ contribution request e, is_blocking_policy_decision f.decision = false := by
  change is_blocking_policy_decision
    (build_policy_decision (run_policy_evaluators request evaluators).1).1 = false ↔ _
  rw [← Bool.not_eq_true, build_policy_decision_blocking, run_policy_evaluators_fst]
  simp only [List.mem_flatMap, not_exists, not_and, Bool.not_eq_true]
  constructor
  · exact fun h e he f hf => h f ⟨e, he, hf⟩
  · rintro h f ⟨e, he, hf⟩
    exact h e he f hf

theorem policyPasses_iff (hall : request.evaluator_names = none) :
    PolicyPasses policy around request ↔
      ∃ result, (policy.evaluate around request).result = some result ∧
        is_blocking_policy_decision result.aggregate_decision = false := by
  constructor
  · rintro ⟨hungated, hrecorded, hclear, hcritical⟩
    refine ⟨CoordinationPolicyRuntime.resultOf request policy.evaluators, ?_, ?_⟩
    · rw [CoordinationPolicyRuntime.evaluate_result, hall]
      exact ⟨hungated, hrecorded, _, rfl, rfl⟩
    · exact policyResult_open.mpr fun e he => contribution_open.mpr ⟨hclear e he, hcritical e he⟩
  · rintro ⟨result, hresult, hopen⟩
    rw [CoordinationPolicyRuntime.evaluate_result, hall] at hresult
    obtain ⟨hungated, hrecorded, evaluators, hevaluators, rfl⟩ := hresult
    cases hevaluators
    have hcontributions := policyResult_open.mp hopen
    exact ⟨hungated, hrecorded, fun e he => (contribution_open.mp (hcontributions e he)).1,
      fun e he => (contribution_open.mp (hcontributions e he)).2⟩

end

/-! ## Dispatches that go on -/

section

variable [DecidableEq Uuid] [TextRepr] [Stdlib Uuid]

namespace CoordinationRuntime

variable (runtime : CoordinationRuntime Uuid) (around : DispatchAround Uuid)
  (request : CoordinationDispatchRequest Uuid)

/-- Nothing stands in the way of a dispatch. -/
structure Passes : Prop where
  ungated : around.denial = none
  valid : validate runtime request = .ok ()
  topology : ∀ topology, runtime.topology_runtime = some topology →
    TopologyPasses topology around.topology (build_topology_request around request)
  policy : ∀ policy, runtime.policy_runtime = some policy →
    PolicyPasses policy around.policy (build_policy_request around request)
  consistent : (build_governance_context around request).post_init = .ok ()
  governed : ∃ decision,
    (runtime.governance (build_governance_context around request)).okDecision = some decision ∧
      is_blocking_decision decision.decision = false
  recorded : around.record_envelope
    (envelopeOf runtime around request (governanceStage runtime around request)) = .ok ()

def Proceeds : Prop :=
  ∃ result, dispatch runtime around request = .ok result ∧
    (result.outcome = .accepted ∨ result.outcome = .degraded)

variable {runtime around request}

omit [DecidableEq Uuid] in
theorem topologyStage_none : topologyStage runtime around request = none ↔
    ∀ topology, runtime.topology_runtime = some topology →
      TopologyPasses topology around.topology (build_topology_request around request) := by
  unfold topologyStage
  cases runtime.topology_runtime with
  | none => simp
  | some topology =>
    simp only [Option.some.injEq, forall_eq']
    rw [topologyPasses_iff (rfl : (build_topology_request around request).evaluator_names = none)]
    cases (topology.evaluate around.topology (build_topology_request around request)).result with
    | none => simp
    | some result =>
      cases is_blocking_topology_decision result.aggregate_decision with
      | true => simp_all
      | false => simp_all

omit [DecidableEq Uuid] in
theorem policyStage_none : policyStage runtime around request = none ↔
    ∀ policy, runtime.policy_runtime = some policy →
      PolicyPasses policy around.policy (build_policy_request around request) := by
  unfold policyStage
  cases runtime.policy_runtime with
  | none => simp
  | some policy =>
    simp only [Option.some.injEq, forall_eq']
    rw [policyPasses_iff (rfl : (build_policy_request around request).evaluator_names = none)]
    cases (policy.evaluate around.policy (build_policy_request around request)).result with
    | none => simp
    | some result =>
      cases is_blocking_policy_decision result.aggregate_decision with
      | true => simp_all
      | false => simp_all

def isOpen (outcome : CoordinationDispatchOutcome) : Bool :=
  outcome = .accepted || outcome = .degraded

omit [TextRepr] in
theorem isOpen_iff {outcome : CoordinationDispatchOutcome} :
    isOpen outcome = true ↔ outcome = .accepted ∨ outcome = .degraded := by
  simp [isOpen]

variable {ending : Ending Uuid}

section

omit [DecidableEq Uuid]

theorem topologyStage_closed (h : topologyStage runtime around request = some ending) :
    isOpen ending.outcome = false := by
  unfold topologyStage at h
  split at h
  · cases h
  · simp only at h
    split at h
    · cases h
      rfl
    · rename_i result _
      split at h
      · cases h
        cases result.aggregate_decision <;> rfl
      · cases h

theorem policyStage_closed (h : policyStage runtime around request = some ending) :
    isOpen ending.outcome = false := by
  unfold policyStage at h
  split at h
  · cases h
  · simp only at h
    split at h
    · cases h
      rfl
    · split at h
      · cases h
        simp only
        split <;> rfl
      · cases h

theorem governanceStage_open : isOpen (governanceStage runtime around request).outcome = true ↔
    ∃ decision, (runtime.governance (build_governance_context around request)).okDecision =
      some decision ∧ is_blocking_decision decision.decision = false := by
  unfold governanceStage
  cases hdecision : (runtime.governance (build_governance_context around request)).okDecision with
  | none => simp [isOpen, hdecision]
  | some decision =>
    cases hblocking : is_blocking_decision decision.decision with
    | true => simp [isOpen, hdecision, hblocking]
    | false =>
      simp only [hdecision, hblocking, isOpen, Option.some.injEq, exists_eq_left', Bool.false_eq_true, if_false]
      split <;> simp

theorem build_and_persist_open :
    isOpen (build_and_persist runtime around request ending).outcome = true ↔
      around.record_envelope (envelopeOf runtime around request ending) = .ok () ∧
        isOpen ending.outcome = true := by
  unfold build_and_persist
  cases h : around.record_envelope (envelopeOf runtime around request ending) with
  | error exc => simp [isOpen, h]
  | ok _ => simp [h]

end

theorem dispatch_recorded {result : CoordinationDispatchResult Uuid}
    (h : dispatch runtime around request = .ok result) (hopen : isOpen result.outcome = true) :
    ∃ ending, around.record_envelope (envelopeOf runtime around request ending) = .ok () ∧
      result.envelope = some (envelopeOf runtime around request ending) := by
  unfold dispatch at h
  split at h
  · cases h
    cases hopen
  · split at h
    · cases h
      cases hopen
    · obtain ⟨ending, -, h⟩ := bind_eq_ok.mp h
      cases h
      have hrecorded := (build_and_persist_open.mp hopen).1
      refine ⟨ending, hrecorded, ?_⟩
      simp [build_and_persist, hrecorded]

/-- A dispatch goes on exactly when nothing stands in its way. -/
theorem proceeds_iff : Proceeds runtime around request ↔ Passes runtime around request := by
  have hopen : Proceeds runtime around request ↔
      ∃ result, dispatch runtime around request = .ok result ∧ isOpen result.outcome = true := by
    simp only [Proceeds, isOpen_iff]
  rw [hopen]
  constructor
  · rintro ⟨result, hresult, houtcome⟩
    unfold dispatch at hresult
    split at hresult
    · cases hresult
      cases houtcome
    · rename_i hungated
      split at hresult
      · cases hresult
        cases houtcome
      · rename_i hvalid
        obtain ⟨ending, hending, hresult⟩ := bind_eq_ok.mp hresult
        cases hresult
        obtain ⟨hrecorded, houtcome⟩ := build_and_persist_open.mp houtcome
        unfold concluded at hending
        split at hending
        · rename_i htopology
          cases hending
          rw [topologyStage_closed htopology] at houtcome
          cases houtcome
        · rename_i htopology
          split at hending
          · rename_i hpolicy
            cases hending
            rw [policyStage_closed hpolicy] at houtcome
            cases houtcome
          · rename_i hpolicy
            obtain ⟨_, hconsistent, hending⟩ := bind_eq_ok.mp hending
            cases hending
            exact ⟨hungated, hvalid, topologyStage_none.mp htopology, policyStage_none.mp hpolicy,
              hconsistent, governanceStage_open.mp houtcome, hrecorded⟩
  · intro h
    have hconcluded : concluded runtime around request = .ok (governanceStage runtime around request) := by
      unfold concluded
      rw [topologyStage_none.mpr h.topology, policyStage_none.mpr h.policy]
      simp only [h.consistent]
      rfl
    refine ⟨build_and_persist runtime around request (governanceStage runtime around request), ?_,
      build_and_persist_open.mpr ⟨h.recorded, governanceStage_open.mpr h.governed⟩⟩
    unfold dispatch
    rw [h.ungated, h.valid]
    simp only [hconcluded]
    rfl

end CoordinationRuntime

end

end operious.coordination
