-- What evaluators that raise can do to a dispatch. A critical one of the policy stops it; any other, and
-- every one of the topology, is as good as one that found nothing.
import Operious.Coordination.Gates

namespace operious.coordination

open operious.agents.tools (sorted)
open operious.arbitration (TextRepr)
open operious.governance (PyException)

variable {Uuid : Type}

/-! ## Silent evaluators -/

/-- The evaluator, or a silent one of the same name if it raises on the request. -/
def CoordinationTopologyEvaluator.silenced (request : CoordinationTopologyEvaluationRequest Uuid)
    (e : CoordinationTopologyEvaluator Uuid) : CoordinationTopologyEvaluator Uuid :=
  match e.evaluate request with
  | .ok _ => e
  | .error _ => { e with evaluate := fun _ => .ok [] }

/-- The evaluator, or a silent one of the same name if it raises on the request and is not critical. -/
def CoordinationPolicyEvaluator.silenced (request : CoordinationPolicyEvaluationRequest Uuid)
    (e : CoordinationPolicyEvaluator Uuid) : CoordinationPolicyEvaluator Uuid :=
  match e.evaluate request with
  | .ok _ => e
  | .error _ => if e.is_critical then e else { e with evaluate := fun _ => .ok [] }

section

variable {request : CoordinationTopologyEvaluationRequest Uuid}

variable {e : CoordinationTopologyEvaluator Uuid}

@[simp] theorem CoordinationTopologyEvaluator.silenced_name :
    (e.silenced request).name = e.name := by
  unfold silenced
  split <;> rfl

variable {evaluators : List (CoordinationTopologyEvaluator Uuid)}

@[simp] theorem map_silenced_name :
    (evaluators.map (·.silenced request)).map (·.name) = evaluators.map (·.name) := by
  simp

theorem heard_silenced : heard request (e.silenced request) = heard request e := by
  unfold CoordinationTopologyEvaluator.silenced
  cases he : e.evaluate request with
  | ok findings => rfl
  | error exc => simp [heard, he]

theorem run_silenced :
    (run_evaluators request (evaluators.map (·.silenced request))).1 =
      (run_evaluators request evaluators).1 := by
  simp only [run_evaluators_fst, List.flatMap_map, heard_silenced]

end

section

variable {request : CoordinationPolicyEvaluationRequest Uuid}

variable {e : CoordinationPolicyEvaluator Uuid}

@[simp] theorem CoordinationPolicyEvaluator.silenced_name : (e.silenced request).name = e.name := by
  unfold silenced
  split
  · rfl
  · split <;> rfl

variable {evaluators : List (CoordinationPolicyEvaluator Uuid)}

@[simp] theorem map_policy_silenced_name :
    (evaluators.map (·.silenced request)).map (·.name) = evaluators.map (·.name) := by
  simp

theorem contribution_silenced :
    contribution request (e.silenced request) = contribution request e := by
  unfold CoordinationPolicyEvaluator.silenced
  cases he : e.evaluate request with
  | ok findings => rfl
  | error exc =>
    cases hc : e.is_critical with
    | true => simp
    | false => simp [contribution, he, hc]

theorem run_policy_silenced :
    (run_policy_evaluators request (evaluators.map (·.silenced request))).1 =
      (run_policy_evaluators request evaluators).1 := by
  simp only [run_policy_evaluators_fst, List.flatMap_map, contribution_silenced]

end

/-! ## Silent runtimes -/

def CoordinationTopologyRuntime.silenced (topology : CoordinationTopologyRuntime Uuid)
    (request : CoordinationTopologyEvaluationRequest Uuid) : CoordinationTopologyRuntime Uuid where
  max_chain_depth := topology.max_chain_depth
  evaluators := topology.evaluators.map (·.silenced request)
  nonempty h := topology.nonempty (List.map_eq_nil_iff.mp h)
  names_sorted := by rw [map_silenced_name, topology.names_sorted]
  names_distinct := by rw [map_silenced_name]; exact topology.names_distinct

/-- The policy runtime with a silent evaluator in the place of each that raises and is not critical. -/
def CoordinationPolicyRuntime.silenced (policy : CoordinationPolicyRuntime Uuid)
    (request : CoordinationPolicyEvaluationRequest Uuid) : CoordinationPolicyRuntime Uuid where
  evaluators := policy.evaluators.map (·.silenced request)
  nonempty h := policy.nonempty (List.map_eq_nil_iff.mp h)
  names_sorted := by rw [map_policy_silenced_name, policy.names_sorted]
  names_distinct := by rw [map_policy_silenced_name]; exact policy.names_distinct

section

variable [TextRepr]

theorem CoordinationTopologyRuntime.evaluate_silenced (topology : CoordinationTopologyRuntime Uuid)
    (around : EvaluationAround) {request : CoordinationTopologyEvaluationRequest Uuid}
    (hall : request.evaluator_names = none) :
    let silent := (topology.silenced request).evaluate around request
    let given := topology.evaluate around request
    (silent.result.isNone = given.result.isNone) ∧
      (given.result = none → silent.trace.error = given.trace.error) ∧
      silent.result.map (fun r => (r.aggregate_decision, r.reason)) =
        given.result.map (fun r => (r.aggregate_decision, r.reason)) := by
  have hverdict : (((topology.silenced request).resultOf request
        (topology.silenced request).evaluators).aggregate_decision,
      ((topology.silenced request).resultOf request (topology.silenced request).evaluators).reason) =
      ((topology.resultOf request topology.evaluators).aggregate_decision,
        (topology.resultOf request topology.evaluators).reason) := by
    simp only [resultOf, silenced, run_silenced]
  unfold evaluate
  simp only [hall, resolve_evaluators]
  cases around.denial with
  | some denial => exact ⟨rfl, fun _ => rfl, rfl⟩
  | none =>
    cases around.record_evaluation with
    | error exc => exact ⟨rfl, fun _ => rfl, rfl⟩
    | ok _ => exact ⟨rfl, fun h => (by cases h), congrArg some hverdict⟩

theorem CoordinationPolicyRuntime.evaluate_silenced (policy : CoordinationPolicyRuntime Uuid)
    (around : EvaluationAround) {request : CoordinationPolicyEvaluationRequest Uuid}
    (hall : request.evaluator_names = none) :
    let silent := (policy.silenced request).evaluate around request
    let given := policy.evaluate around request
    (silent.result.isNone = given.result.isNone) ∧
      (given.result = none → silent.trace_error = given.trace_error) ∧
      silent.result.map (fun r => (r.aggregate_decision, r.reason)) =
        given.result.map (fun r => (r.aggregate_decision, r.reason)) := by
  have hverdict : ((resultOf request (policy.silenced request).evaluators).aggregate_decision,
      (resultOf request (policy.silenced request).evaluators).reason) =
      ((resultOf request policy.evaluators).aggregate_decision,
        (resultOf request policy.evaluators).reason) := by
    simp only [resultOf, silenced, run_policy_silenced]
  unfold evaluate
  simp only [hall, resolve_evaluators]
  cases around.denial with
  | some denial => exact ⟨rfl, fun _ => rfl, rfl⟩
  | none =>
    cases around.record_evaluation with
    | error exc => exact ⟨rfl, fun _ => rfl, rfl⟩
    | ok _ => exact ⟨rfl, fun h => (by cases h), congrArg some hverdict⟩

end

/-! ## Dispatches with silent evaluators -/

section

variable [DecidableEq Uuid] [TextRepr] [Stdlib Uuid]

namespace CoordinationRuntime

def withSilentPolicy (runtime : CoordinationRuntime Uuid) (around : DispatchAround Uuid)
    (request : CoordinationDispatchRequest Uuid) : CoordinationRuntime Uuid where
  instance_id := runtime.instance_id
  participants := runtime.participants
  topology_runtime := runtime.topology_runtime
  policy_runtime := runtime.policy_runtime.map (·.silenced (build_policy_request around request))
  governance := runtime.governance

def withSilentTopology (runtime : CoordinationRuntime Uuid) (around : DispatchAround Uuid)
    (request : CoordinationDispatchRequest Uuid) : CoordinationRuntime Uuid where
  instance_id := runtime.instance_id
  participants := runtime.participants
  topology_runtime := runtime.topology_runtime.map (·.silenced (build_topology_request around request))
  policy_runtime := runtime.policy_runtime
  governance := runtime.governance

variable (runtime : CoordinationRuntime Uuid) (around : DispatchAround Uuid)
  (request : CoordinationDispatchRequest Uuid)

omit [DecidableEq Uuid] in
theorem topologyStage_silent : topologyStage (withSilentTopology runtime around request) around request =
    topologyStage runtime around request := by
  unfold topologyStage withSilentTopology
  cases runtime.topology_runtime with
  | none => rfl
  | some topology =>
    obtain ⟨hpresent, herror, hverdict⟩ :=
      CoordinationTopologyRuntime.evaluate_silenced topology around.topology
        (rfl : (build_topology_request around request).evaluator_names = none)
    simp only [Option.map_some]
    cases hgiven : (topology.evaluate around.topology (build_topology_request around request)).result with
    | none =>
      rw [hgiven, Option.isNone_none] at hpresent
      rw [Option.isNone_iff_eq_none.mp hpresent, herror hgiven]
    | some result =>
      rw [hgiven, Option.map_some] at hverdict
      obtain ⟨silent, hsilent, hsame⟩ := Option.map_eq_some_iff.mp hverdict
      obtain ⟨hdecision, hreason⟩ := Prod.mk.inj hsame
      simp only [hsilent, hdecision, hreason]

omit [DecidableEq Uuid] in
theorem policyStage_silent : policyStage (withSilentPolicy runtime around request) around request =
    policyStage runtime around request := by
  unfold policyStage withSilentPolicy
  cases runtime.policy_runtime with
  | none => rfl
  | some policy =>
    obtain ⟨hpresent, herror, hverdict⟩ :=
      CoordinationPolicyRuntime.evaluate_silenced policy around.policy
        (rfl : (build_policy_request around request).evaluator_names = none)
    simp only [Option.map_some]
    cases hgiven : (policy.evaluate around.policy (build_policy_request around request)).result with
    | none =>
      rw [hgiven, Option.isNone_none] at hpresent
      rw [Option.isNone_iff_eq_none.mp hpresent, herror hgiven]
    | some result =>
      rw [hgiven, Option.map_some] at hverdict
      obtain ⟨silent, hsilent, hsame⟩ := Option.map_eq_some_iff.mp hverdict
      obtain ⟨hdecision, hreason⟩ := Prod.mk.inj hsame
      simp only [hsilent, hdecision, hreason]

theorem dispatch_silentPolicy : dispatch (withSilentPolicy runtime around request) around request =
    dispatch runtime around request := by
  have hconcluded : concluded (withSilentPolicy runtime around request) around request =
      concluded runtime around request := by
    unfold concluded
    rw [policyStage_silent]
    rfl
  unfold dispatch
  rw [hconcluded]
  rfl

theorem dispatch_silentTopology :
    dispatch (withSilentTopology runtime around request) around request =
      dispatch runtime around request := by
  have hconcluded : concluded (withSilentTopology runtime around request) around request =
      concluded runtime around request := by
    unfold concluded
    rw [topologyStage_silent]
    rfl
  unfold dispatch
  rw [hconcluded]
  rfl

/-! ## What a failing evaluator can open -/

/-- Failures close the gate: when a dispatch goes on, no evaluator of the topology raised and no critical
one of the policy, and silent evaluators in the place of the others would have led to the same. -/
def FailuresClose : Prop :=
  Proceeds runtime around request →
    (∀ topology, runtime.topology_runtime = some topology → ∀ e ∈ topology.evaluators,
      ∃ findings, e.evaluate (build_topology_request around request) = .ok findings) ∧
    (∀ policy, runtime.policy_runtime = some policy → ∀ e ∈ policy.evaluators, e.is_critical = true →
      ∃ findings, e.evaluate (build_policy_request around request) = .ok findings) ∧
    dispatch (withSilentPolicy runtime around request) around request = dispatch runtime around request

/-- When a dispatch goes on, no critical evaluator of the policy raised, and no evaluator of the topology
that returned found against it. Every other failure is as good as an evaluator that found nothing. -/
theorem failures_are_silent :
    (Proceeds runtime around request →
      (∀ policy, runtime.policy_runtime = some policy → ∀ e ∈ policy.evaluators, e.is_critical = true →
        ∃ findings, e.evaluate (build_policy_request around request) = .ok findings) ∧
      ∀ topology, runtime.topology_runtime = some topology → ∀ e ∈ topology.evaluators,
        ∀ findings, e.evaluate (build_topology_request around request) = .ok findings →
          ∀ f ∈ findings, is_blocking_topology_decision f.decision = false) ∧
    dispatch (withSilentPolicy runtime around request) around request =
      dispatch runtime around request ∧
    dispatch (withSilentTopology runtime around request) around request =
      dispatch runtime around request := by
  refine ⟨fun hproceeds => ?_, dispatch_silentPolicy runtime around request,
    dispatch_silentTopology runtime around request⟩
  have hpasses := proceeds_iff.mp hproceeds
  exact ⟨fun policy hpolicy => (hpasses.policy policy hpolicy).critical,
    fun topology htopology => (hpasses.topology topology htopology).clear⟩

end CoordinationRuntime

end

/-! ## A path that is not looked at -/

def brokenTopology : CoordinationTopologyRuntime String where
  max_chain_depth := 4
  evaluators := [⟨"allowed_path", fun _ => .error ⟨"RuntimeError", "boom"⟩⟩]
  nonempty := List.cons_ne_nil _ _
  names_sorted := (by decide : sorted ["allowed_path"] = ["allowed_path"])
  names_distinct := (by decide : ["allowed_path"].Nodup)

def allowing : governance.GovernanceDecision String where
  decision_id := "g"
  decision := .allow
  stage := .pre_execution
  policy_chain_id := "chain"
  evaluated_rules := []
  violations := []
  restrictions := []
  reason := ""
  decided_at := 0
  metadata := .empty

def brokenRuntime : CoordinationRuntime String where
  instance_id := "runtime"
  participants := ["agent:triage", "agent:billing"]
  topology_runtime := some brokenTopology
  governance _ := { decision := some allowing }

def handoffRequest : CoordinationDispatchRequest String where
  message := {
    message_id := "m", message_type := .handoff, sender_id := "agent:triage"
    recipient := { recipient_id := "agent:billing" }
    payload := { content_type := "application/json" }, created_at := 0 }
  direction := .agent_to_agent
  coexist := rfl

/-- Where the evaluator of the paths raises, a dispatch that no edge allows goes on. -/
theorem broken_path_opens : ¬ CoordinationRuntime.FailuresClose brokenRuntime
    { record_envelope := fun _ => .ok () } handoffRequest := by
  intro h
  have hproceeds : CoordinationRuntime.Proceeds brokenRuntime { record_envelope := fun _ => .ok () }
      handoffRequest := by
    refine CoordinationRuntime.proceeds_iff.mpr
      ⟨rfl, by decide, fun topology htopology => ?_, fun policy hpolicy => ?_, rfl, ⟨allowing, rfl, rfl⟩,
        rfl⟩
    · cases htopology
      refine ⟨rfl, rfl, fun e he findings hfound => ?_⟩
      cases List.mem_singleton.mp he
      cases hfound
    · cases hpolicy
  obtain ⟨findings, hfound⟩ := (h hproceeds).1 brokenTopology rfl _ List.mem_cons_self
  cases hfound

end operious.coordination
