-- The arbitration of a dispatch: proposals become a case, the case an evaluation, and the service
-- reads from it whether to go on to a session.
import Mathlib.Data.List.Dedup
import Operious.Arbitration.Runtime

namespace operious.dispatch_arbitration

open operious.arbitration
open operious.governance (PyException)

/-! ## Proposals and results -/

inductive CoordinationDispatchOutcome
  | accepted | degraded | denied | policy_denied | policy_escalated | policy_error
  | topology_denied | topology_escalated | topology_depth_exceeded | topology_boundary_violation
  | topology_error | validation_error | persistence_error | governance_error
  deriving DecidableEq, Repr

def CoordinationDispatchOutcome.value : CoordinationDispatchOutcome → String
  | accepted => "accepted"
  | degraded => "degraded"
  | denied => "denied"
  | policy_denied => "policy_denied"
  | policy_escalated => "policy_escalated"
  | policy_error => "policy_error"
  | topology_denied => "topology_denied"
  | topology_escalated => "topology_escalated"
  | topology_depth_exceeded => "topology_depth_exceeded"
  | topology_boundary_violation => "topology_boundary_violation"
  | topology_error => "topology_error"
  | validation_error => "validation_error"
  | persistence_error => "persistence_error"
  | governance_error => "governance_error"

/-- What the coordination runtime says of a dispatch, with the fields of its trace. -/
structure CoordinationDispatchResult (Uuid : Type) where
  coordination_id : Uuid
  outcome : CoordinationDispatchOutcome
  governance_decision_id : Option Uuid
  correlation_id : Option Uuid := none
  ended_at : Option Instant := none
  trace_error : Option String := none
  error : Option String := none

def CoordinationDispatchResult.is_topology_blocked {Uuid : Type}
    (result : CoordinationDispatchResult Uuid) : Bool :=
  result.outcome ∈ [.topology_denied, .topology_escalated, .topology_depth_exceeded,
    .topology_boundary_violation]

structure DispatchArbitrationProposal where
  proposer_id : String
  directive : String
  verdict : ArbitrationVerdictKind := .allow
  authority : ArbitrationAuthorityLevel := .arbitration
  reason : String := ""
  emitted_at : Option Instant := none
  metadata : Metadata := .empty

namespace DispatchArbitrationProposal

def signature (p : DispatchArbitrationProposal) :
    ArbitrationAuthorityLevel × ArbitrationVerdictKind × String :=
  (p.authority, p.verdict, p.directive)

end DispatchArbitrationProposal

def has_competing_proposals (proposals : List DispatchArbitrationProposal) : Bool :=
  if proposals.length < 2 then false
  else 1 < (proposals.map (·.signature)).dedup.length

theorem has_competing_proposals_iff (proposals : List DispatchArbitrationProposal) :
    has_competing_proposals proposals = true ↔
      ∃ p ∈ proposals, ∃ q ∈ proposals, p.signature ≠ q.signature := by
  have hlength := (List.dedup_sublist (proposals.map (·.signature))).length_le
  rw [List.length_map] at hlength
  have hcompete : has_competing_proposals proposals = true ↔
      1 < (proposals.map (·.signature)).dedup.length := by
    unfold has_competing_proposals
    split
    · simp only [Bool.false_eq_true, false_iff]
      omega
    · simp
  rw [hcompete]
  constructor
  · intro h
    match hd : (proposals.map (·.signature)).dedup with
    | [] => simp [hd] at h
    | [_] => simp [hd] at h
    | a :: b :: rest =>
      have hnodup := List.nodup_dedup (proposals.map (·.signature))
      rw [hd] at hnodup
      have ha : a ∈ (proposals.map (·.signature)).dedup := by simp [hd]
      have hb : b ∈ (proposals.map (·.signature)).dedup := by simp [hd]
      obtain ⟨p, hp, rfl⟩ := List.mem_map.mp (List.mem_dedup.mp ha)
      obtain ⟨q, hq, rfl⟩ := List.mem_map.mp (List.mem_dedup.mp hb)
      refine ⟨p, hp, q, hq, fun heq => ?_⟩
      simp [heq] at hnodup
  · rintro ⟨p, hp, q, hq, hne⟩
    by_contra hle
    have hmem : ∀ s : DispatchArbitrationProposal, s ∈ proposals →
        s.signature ∈ (proposals.map (·.signature)).dedup := fun s hs =>
      List.mem_dedup.mpr (List.mem_map_of_mem hs)
    have hone : (proposals.map (·.signature)).dedup.length ≤ 1 := Nat.le_of_not_lt hle
    match hd : (proposals.map (·.signature)).dedup with
    | [] => simpa [hd] using hmem p hp
    | [a] =>
      have hpa := hmem p hp
      have hqa := hmem q hq
      rw [hd] at hpa hqa
      exact hne ((List.mem_singleton.mp hpa).trans (List.mem_singleton.mp hqa).symm)
    | a :: b :: rest => simp [hd] at hone

/-! ## The case of a dispatch -/

section

variable {Uuid : Type} [Stdlib Uuid]

def proposalSeed (idx : Nat) (p : DispatchArbitrationProposal) : String :=
  toString idx ++ ":" ++ p.proposer_id ++ ":" ++ p.authority.value ++ ":" ++ p.verdict.value ++
    ":" ++ p.directive

def case_seed (result : CoordinationDispatchResult Uuid) (tenant_id : String)
    (proposals : List DispatchArbitrationProposal) : String :=
  "dispatch-arbitration:v1:" ++ tenant_id ++ ":" ++ Stdlib.str result.coordination_id ++ ":" ++
    result.outcome.value ++ ":" ++
    String.intercalate "|" (proposals.zipIdx.map fun (p, idx) => proposalSeed idx p)

def verdict_from_coordination : CoordinationDispatchOutcome → ArbitrationVerdictKind
  | .accepted => .allow
  | .degraded => .degrade
  | .denied | .policy_denied | .topology_denied | .topology_boundary_violation
  | .topology_depth_exceeded => .deny
  | .policy_escalated | .topology_escalated => .escalate
  | _ => .unknown

def governance_signal (result : CoordinationDispatchResult Uuid) (seed : String) :
    ArbitrationSignal Uuid :=
  let source_id := match result.governance_decision_id with
    | some id => Stdlib.str id
    | none => Stdlib.str result.coordination_id
  { signal_id := Stdlib.uuid5 signalNamespace (seed ++ ":governance:" ++ source_id)
    authority := .governance
    verdict := verdict_from_coordination result.outcome
    source_substrate := "governance"
    source_id
    reason := (orStr (orStr result.error result.trace_error) (some result.outcome.value)).getD ""
    emitted_at := result.ended_at
    metadata := Dict.ofList
      [("coordination.dispatch_id", .str (Stdlib.str result.coordination_id)),
       ("coordination.outcome", .str result.outcome.value),
       ("governance.decision_id", .str source_id)] }

def proposal_signal (seed : String) (ordinal : Nat) (p : DispatchArbitrationProposal) :
    ArbitrationSignal Uuid where
  signal_id := Stdlib.uuid5 signalNamespace
    (seed ++ ":proposal-signal:" ++ toString ordinal ++ ":" ++ p.proposer_id)
  authority := p.authority
  verdict := p.verdict
  source_substrate := "dispatch.proposal"
  source_id := p.proposer_id
  reason := p.reason
  emitted_at := p.emitted_at
  metadata := (Dict.ofList [("arbitration.dispatch.directive", .str p.directive)]).update
    p.metadata.items

def proposal_recommendation (seed : String) (ordinal : Nat) (p : DispatchArbitrationProposal) :
    ArbitrationRecommendation Uuid where
  recommendation_id := Stdlib.uuid5 recommendationNamespace
    (seed ++ ":proposal-recommendation:" ++ toString ordinal ++ ":" ++ p.proposer_id)
  authority := p.authority
  directive := p.directive
  source_substrate := "dispatch.proposal"
  source_id := p.proposer_id
  reason := p.reason
  emitted_at := p.emitted_at
  metadata := p.metadata

def build_case (result : CoordinationDispatchResult Uuid)
    (proposals : List DispatchArbitrationProposal) (tenant_id seed : String) (metadata : Metadata) :
    ArbitrationCase Uuid :=
  let competing := has_competing_proposals proposals
  { case_id := Stdlib.uuid5 caseNamespace seed
    signals := governance_signal result seed ::
      proposals.zipIdx.map fun (p, ordinal) => proposal_signal seed ordinal p
    recommendations := proposals.zipIdx.map fun (p, ordinal) =>
      proposal_recommendation seed ordinal p
    iteration_count := if competing then defaultMaxIterations else 1
    max_iterations := defaultMaxIterations
    subject := some ("coordination.dispatch:" ++ Stdlib.str result.coordination_id)
    tenant_id := some tenant_id
    metadata := (Dict.ofList
      [("arbitration.dispatch.coordination_id", .str (Stdlib.str result.coordination_id)),
       ("arbitration.dispatch.competing_proposals", .bool competing)]).update metadata.items }

def dispatchRequest (result : CoordinationDispatchResult Uuid)
    (proposals : List DispatchArbitrationProposal) (tenant_id : String)
    (correlation_id request_id : Option String) (metadata : Metadata) : ArbitrationRequest Uuid :=
  let seed := case_seed result tenant_id proposals
  { case_ := build_case result proposals tenant_id seed metadata
    correlation_id
    request_id
    tenant_id := some tenant_id
    evaluation_id_override := some (Stdlib.uuid5 evaluationNamespace (seed ++ ":evaluation"))
    metadata := (Dict.ofList
      [("arbitration.dispatch.coordination_id", .str (Stdlib.str result.coordination_id)),
       ("arbitration.dispatch.proposal_count", .int proposals.length),
       ("arbitration.dispatch.competing_proposals",
        .bool (has_competing_proposals proposals))]).update metadata.items }

def dispatchEvaluationId (result : CoordinationDispatchResult Uuid)
    (proposals : List DispatchArbitrationProposal) (tenant_id : String) : Uuid :=
  Stdlib.uuid5 evaluationNamespace (case_seed result tenant_id proposals ++ ":evaluation")

end

/-! ## The runtime of the dispatch path -/

structure DispatchArbitrationRuntime (Uuid : Type) where
  arbitration_runtime : OperationalArbitrationRuntime Uuid
  /-- `project_evaluation` of an evaluation for a tenant. Nothing reads the projection. -/
  project_evaluation : Uuid → String → Except PyException Unit

structure DispatchArbitrationEvaluation (Uuid : Type) where
  envelope : ArbitrationEnvelope Uuid
  should_halt : Bool
  halt_reason : Option String

section

variable {Uuid : Type} [TextRepr] [Stdlib Uuid]

def DispatchArbitrationEvaluation.evaluation_id (e : DispatchArbitrationEvaluation Uuid) :
    Option String := e.envelope.result.map fun result => Stdlib.str result.evaluation_id

def DispatchArbitrationEvaluation.outcome (e : DispatchArbitrationEvaluation Uuid) :
    Option String := e.envelope.result.map fun result => result.decision.outcome.value

/-- Halt on a deadlock, and on nothing else. -/
def haltsOn (result : Option (ArbitrationResult Uuid)) : Bool :=
  match result with
  | none => false
  | some result => result.decision.outcome = .deadlock

def DispatchArbitrationRuntime.evaluate (runtime : DispatchArbitrationRuntime Uuid) (fresh : Uuid)
    (coordination_result : CoordinationDispatchResult Uuid)
    (proposals : List DispatchArbitrationProposal) (tenant_id : String)
    (correlation_id request_id : Option String) (metadata : Metadata) :
    Except PyException (DispatchArbitrationEvaluation Uuid) := do
  let envelope ← runtime.arbitration_runtime.evaluate fresh
    (dispatchRequest coordination_result proposals tenant_id correlation_id request_id metadata)
  match envelope.result with
  | none => return ⟨envelope, false, none⟩
  | some result => do
    runtime.project_evaluation result.evaluation_id tenant_id
    return ⟨envelope, haltsOn envelope.result,
      if haltsOn envelope.result then some result.reason else none⟩

end

/-! ## The service, up to the session -/

structure BoundaryIngressRecord (Uuid : Type) where
  ingress_id : Uuid
  request_id : Option String := none
  correlation_id : Option String := none

structure ExecutionGovernanceEvaluation where
  allowed : Bool
  reason : Option String := none

/-- What the service calls on its way to the session. -/
structure DispatchService (Uuid : Type) where
  /-- `request_coordination_human_review_case`. -/
  request_review : CoordinationDispatchResult Uuid → Except PyException Unit
  execution_governance : String → Except PyException ExecutionGovernanceEvaluation
  dispatch_arbitration : Option (DispatchArbitrationRuntime Uuid)

structure DispatchResult where
  dispatch_id : String
  session_id : Option String := none
  execution_id : Option String := none
  governance_decision_id : Option String
  verdict : String
  arbitration_evaluation_id : Option String := none
  arbitration_outcome : Option String := none
  halted : Bool := true
  halt_reason : Option String

/-- The dispatch ends here, or goes on to its session with what the arbitration said. -/
inductive DispatchStep (Uuid : Type)
  | halted (result : DispatchResult)
  | proceeds (arbitration : Option (DispatchArbitrationEvaluation Uuid))

section

variable {Uuid : Type} [TextRepr] [Stdlib Uuid]

def default_dispatch_proposals : List DispatchArbitrationProposal :=
  [{ proposer_id := "agent:ticket-triage"
     directive := "diagnostic_execution:request"
     reason := "ticket triage agent accepts diagnostic dispatch" }]

/-- `proposals or _default_dispatch_proposals()`. -/
def proposalsOr (proposals : Option (List DispatchArbitrationProposal)) :
    List DispatchArbitrationProposal :=
  match proposals with
  | none | some [] => default_dispatch_proposals
  | some proposals => proposals

def correlation_id_text (ingress : BoundaryIngressRecord Uuid) : String :=
  (orStr ingress.correlation_id (some (Stdlib.str (Stdlib.uuid5
    (Stdlib.uuid "a8f4016b-4f87-43bc-a8ff-9ef52fd20340" : Uuid) (Stdlib.str ingress.ingress_id))))).getD ""

def dispatchCorrelation (result : CoordinationDispatchResult Uuid)
    (ingress : BoundaryIngressRecord Uuid) : String :=
  match result.correlation_id with
  | some id => Stdlib.str id
  | none => correlation_id_text ingress

def dispatchMetadata (ingress : BoundaryIngressRecord Uuid) (governance_decision_id : Uuid) :
    Metadata := Dict.ofList
  [("boundary.ingress_id", .str (Stdlib.str ingress.ingress_id)),
   ("governance.decision_id", .str (Stdlib.str governance_decision_id))]

/-- A dispatch that ends before its arbitration. -/
def haltedDispatch (result : CoordinationDispatchResult Uuid) (verdict : String)
    (halt_reason : Option String) : DispatchStep Uuid :=
  .halted
    { dispatch_id := Stdlib.str result.coordination_id
      governance_decision_id := result.governance_decision_id.map Stdlib.str
      verdict
      halt_reason }

/-- The arbitration of an admitted dispatch, and how the service reads it. -/
def arbitrate (service : DispatchService Uuid) (fresh : Uuid) (ingress : BoundaryIngressRecord Uuid)
    (tenant_id : String) (coordination_result : CoordinationDispatchResult Uuid)
    (governance_decision_id : Uuid) (proposals : List DispatchArbitrationProposal) :
    Except PyException (DispatchStep Uuid) :=
  match service.dispatch_arbitration with
  | none => .ok (.proceeds none)
  | some runtime => do
    let arbitration ← runtime.evaluate fresh coordination_result proposals tenant_id
      (some (dispatchCorrelation coordination_result ingress)) ingress.request_id
      (dispatchMetadata ingress governance_decision_id)
    match arbitration.envelope.result with
    | none =>
      throw ⟨"DispatchServiceError", "dispatch arbitration did not produce an evaluation"⟩
    | some _ =>
      if arbitration.should_halt then
        return .halted
          { dispatch_id := Stdlib.str coordination_result.coordination_id
            governance_decision_id := some (Stdlib.str governance_decision_id)
            verdict := (orStr arbitration.outcome (some coordination_result.outcome.value)).getD ""
            arbitration_evaluation_id := arbitration.evaluation_id
            arbitration_outcome := arbitration.outcome
            halt_reason := arbitration.halt_reason }
      else return .proceeds (some arbitration)

/-- `dispatch` from the coordination's result to the session. -/
def dispatch (service : DispatchService Uuid) (fresh : Uuid) (ingress : BoundaryIngressRecord Uuid)
    (tenant_id : String) (coordination_result : CoordinationDispatchResult Uuid)
    (proposals : Option (List DispatchArbitrationProposal)) :
    Except PyException (DispatchStep Uuid) :=
  let stopped := orStr coordination_result.error (some coordination_result.outcome.value)
  if coordination_result.outcome ≠ .accepted then do
    service.request_review coordination_result
    return haltedDispatch coordination_result coordination_result.outcome.value stopped
  else
    match coordination_result.governance_decision_id with
    | none =>
      if coordination_result.is_topology_blocked then
        .ok (haltedDispatch coordination_result coordination_result.outcome.value stopped)
      else
        .error ⟨"DispatchServiceError",
          "coordination dispatch did not produce a governance decision"⟩
    | some governance_decision_id => do
      let execution_governance ← service.execution_governance tenant_id
      if !execution_governance.allowed then
        return haltedDispatch coordination_result CoordinationDispatchOutcome.degraded.value
          execution_governance.reason
      else
        arbitrate service fresh ingress tenant_id coordination_result governance_decision_id
          (proposalsOr proposals)

/-! ## When a dispatch stops -/

/-- The dispatch ends before its arbitration: the coordination did not admit it, or the governance
of executions refuses or fails. -/
def StopsBefore (service : DispatchService Uuid) (tenant_id : String)
    (result : CoordinationDispatchResult Uuid) : Prop :=
  result.outcome ≠ .accepted ∨ result.governance_decision_id = none ∨
    ∀ e, service.execution_governance tenant_id = .ok e → e.allowed = false

def askedOf (ingress : BoundaryIngressRecord Uuid) (tenant_id : String)
    (result : CoordinationDispatchResult Uuid) (governance_decision_id : Uuid)
    (proposals : List DispatchArbitrationProposal) : ArbitrationRequest Uuid :=
  dispatchRequest result proposals tenant_id (some (dispatchCorrelation result ingress))
    ingress.request_id (dispatchMetadata ingress governance_decision_id)

/-- The arbitration of a request ends the dispatch: its gate denies or fails, the projection fails,
or no evaluator raises and one has a witness of a deadlock. -/
def ArbitrationStops (runtime : DispatchArbitrationRuntime Uuid) (tenant_id : String)
    (evaluation_id : Uuid) (request : ArbitrationRequest Uuid) : Prop :=
  runtime.arbitration_runtime.gate request ≠ .ok none ∨
    (∃ exc, runtime.project_evaluation evaluation_id tenant_id = .error exc) ∨
    ((∀ e ∈ runtime.arbitration_runtime.evaluators, ¬ Raises request evaluation_id e) ∧
      ∃ e ∈ runtime.arbitration_runtime.evaluators, Witnesses request evaluation_id e)

def deadlockEvaluator : ArbitrationEvaluator Uuid where
  name := "deadlock_detection_evaluator"
  evaluate request evaluation_id :=
    .ok (some (detect_deadlocks "deadlock_detection_evaluator" request evaluation_id))

variable {proposals : List DispatchArbitrationProposal}

theorem deadlockEvaluator_witnesses {ingress : BoundaryIngressRecord Uuid} {tenant_id : String}
    {result : CoordinationDispatchResult Uuid} {decision_id evaluation_id : Uuid}
    (h : has_competing_proposals proposals = true) :
    Witnesses (askedOf ingress tenant_id result decision_id proposals) evaluation_id
      deadlockEvaluator := by
  refine ⟨_, rfl, detect_deadlocks_exhausted ?_⟩
  simp [askedOf, dispatchRequest, build_case, h]

variable {runtime : OperationalArbitrationRuntime Uuid}

theorem evaluate_eq {fresh evaluation_id : Uuid} {request : ArbitrationRequest Uuid}
    (hall : request.evaluator_names = none)
    (hid : request.evaluation_id_override = some evaluation_id)
    (hgate : runtime.gate request = .ok none) :
    ∃ envelope, runtime.evaluate fresh request = .ok envelope ∧
      envelope.result = some (resultOf request evaluation_id runtime.evaluators) := by
  unfold OperationalArbitrationRuntime.evaluate resolve_evaluators
  rw [hall, hid, hgate]
  exact ⟨_, rfl, rfl⟩

theorem evaluate_gated {fresh : Uuid} {request : ArbitrationRequest Uuid}
    {envelope : ArbitrationEnvelope Uuid} (hgate : runtime.gate request ≠ .ok none)
    (he : runtime.evaluate fresh request = .ok envelope) : envelope.result = none := by
  unfold OperationalArbitrationRuntime.evaluate at he
  cases hg : runtime.gate request with
  | error exc =>
    rw [hg] at he
    cases he
  | ok denial =>
    cases denial with
    | none => exact absurd hg hgate
    | some denial =>
      rw [hg] at he
      cases he
      rfl

/-- The step goes on to the session. -/
def Proceeds (step : Except PyException (DispatchStep Uuid)) : Prop :=
  ∃ arbitration, step = .ok (.proceeds arbitration)

def dispatchResultOf (runtime : DispatchArbitrationRuntime Uuid)
    (ingress : BoundaryIngressRecord Uuid) (tenant_id : String)
    (result : CoordinationDispatchResult Uuid) (decision_id : Uuid)
    (proposals : List DispatchArbitrationProposal) : ArbitrationResult Uuid :=
  resultOf (askedOf ingress tenant_id result decision_id proposals)
    (dispatchEvaluationId result proposals tenant_id) runtime.arbitration_runtime.evaluators

omit [TextRepr] [Stdlib Uuid] in
theorem haltsOn_iff (result : ArbitrationResult Uuid) :
    haltsOn (some result) = true ↔ result.decision.outcome = .deadlock := by
  simp [haltsOn]

variable {service : DispatchService Uuid}

/-- The arbitration lets a dispatch go on iff it does not stop it. -/
theorem arbitrate_proceeds_iff {runtime : DispatchArbitrationRuntime Uuid} {fresh : Uuid}
    {ingress : BoundaryIngressRecord Uuid} {tenant_id : String}
    {result : CoordinationDispatchResult Uuid} {decision_id : Uuid}
    (hruntime : service.dispatch_arbitration = some runtime) :
    Proceeds (arbitrate service fresh ingress tenant_id result decision_id proposals) ↔
      ¬ ArbitrationStops runtime tenant_id (dispatchEvaluationId result proposals tenant_id)
        (askedOf ingress tenant_id result decision_id proposals) := by
  have hdeadlock := (haltsOn_iff (dispatchResultOf runtime ingress tenant_id result decision_id
    proposals)).trans (deadlock_iff _ _ _)
  unfold ArbitrationStops arbitrate DispatchArbitrationRuntime.evaluate
  rw [hruntime, ← hdeadlock]
  change Proceeds (Except.bind (Except.bind (runtime.arbitration_runtime.evaluate fresh
    (askedOf ingress tenant_id result decision_id proposals)) _) _) ↔ _
  by_cases hgate : runtime.arbitration_runtime.gate
      (askedOf ingress tenant_id result decision_id proposals) = .ok none
  · obtain ⟨envelope, he, hresult⟩ := @evaluate_eq _ _ _ _ fresh
      (dispatchEvaluationId result proposals tenant_id) _ rfl rfl hgate
    have hid : (dispatchResultOf runtime ingress tenant_id result decision_id
      proposals).evaluation_id = dispatchEvaluationId result proposals tenant_id := rfl
    change _ = some (dispatchResultOf runtime ingress tenant_id result decision_id proposals)
      at hresult
    rw [he]
    simp only [Except.bind, hresult, hid]
    cases hproject : runtime.project_evaluation (dispatchEvaluationId result proposals tenant_id)
        tenant_id with
    | error exc => simp [Proceeds, bind, Except.bind]
    | ok projected =>
      cases hhalts : haltsOn (some (dispatchResultOf runtime ingress tenant_id result decision_id
        proposals)) <;> simp [Proceeds, bind, Except.bind, pure, Except.pure, hresult, hgate]
  · refine iff_of_false ?_ (not_not.mpr (.inl hgate))
    rintro ⟨arbitration, h⟩
    cases he : runtime.arbitration_runtime.evaluate fresh
        (askedOf ingress tenant_id result decision_id proposals) with
    | error exc =>
      rw [he] at h
      cases h
    | ok envelope =>
      have hresult := evaluate_gated hgate he
      simp [he, hresult, Except.bind, pure, Except.pure] at h

theorem dispatch_eq_arbitrate {fresh : Uuid} {ingress : BoundaryIngressRecord Uuid}
    {tenant_id : String} {result : CoordinationDispatchResult Uuid}
    {proposals : Option (List DispatchArbitrationProposal)}
    (hon : ¬ StopsBefore service tenant_id result) :
    ∃ decision_id, result.governance_decision_id = some decision_id ∧
      dispatch service fresh ingress tenant_id result proposals =
        arbitrate service fresh ingress tenant_id result decision_id (proposalsOr proposals) := by
  unfold StopsBefore at hon
  push Not at hon
  obtain ⟨haccepted, hdecision, e, he, hallowed⟩ := hon
  obtain ⟨decision_id, hid⟩ := Option.ne_none_iff_exists'.mp hdecision
  refine ⟨decision_id, hid, ?_⟩
  unfold dispatch
  simp [haccepted, hid, he, bind, Except.bind, Bool.ne_false_iff.mp hallowed]

theorem not_proceeds_of_stopsBefore {fresh : Uuid} {ingress : BoundaryIngressRecord Uuid}
    {tenant_id : String} {result : CoordinationDispatchResult Uuid}
    {proposals : Option (List DispatchArbitrationProposal)}
    (hstop : StopsBefore service tenant_id result) :
    ¬ Proceeds (dispatch service fresh ingress tenant_id result proposals) := by
  unfold dispatch Proceeds
  by_cases haccepted : result.outcome = .accepted
  · cases hid : result.governance_decision_id with
    | none => simp [haccepted, CoordinationDispatchResult.is_topology_blocked]
    | some decision_id =>
      cases he : service.execution_governance tenant_id with
      | error exc => simp [haccepted, bind, Except.bind]
      | ok e =>
        have hdenied : e.allowed = false := by
          rcases hstop with h | h | h
          · exact absurd haccepted h
          · simp [hid] at h
          · exact h e he
        simp [haccepted, bind, Except.bind, hdenied, pure, Except.pure, haltedDispatch]
  · cases hreview : service.request_review result <;>
      simp [haccepted, bind, Except.bind, pure, Except.pure, haltedDispatch]

/-- A competing dispatch does not go on iff it stops before its arbitration or its arbitration stops
it. -/
theorem competing_dispatch_stops_iff {service : DispatchService Uuid} {fresh : Uuid}
    {ingress : BoundaryIngressRecord Uuid} {tenant_id : String}
    {result : CoordinationDispatchResult Uuid} {proposals : List DispatchArbitrationProposal}
    (hcompete : ∃ p ∈ proposals, ∃ q ∈ proposals, p.signature ≠ q.signature) :
    ¬ Proceeds (dispatch service fresh ingress tenant_id result (some proposals)) ↔
      StopsBefore service tenant_id result ∨
        ∃ runtime decision_id, service.dispatch_arbitration = some runtime ∧
          result.governance_decision_id = some decision_id ∧
          ArbitrationStops runtime tenant_id (dispatchEvaluationId result proposals tenant_id)
            (askedOf ingress tenant_id result decision_id proposals) := by
  have hproposals : proposalsOr (some proposals) = proposals := by
    obtain ⟨p, hp, -⟩ := hcompete
    cases proposals with
    | nil => cases hp
    | cons p rest => rfl
  by_cases hstop : StopsBefore service tenant_id result
  · exact iff_of_true (not_proceeds_of_stopsBefore hstop) (.inl hstop)
  obtain ⟨decision_id, hid, hdispatch⟩ :=
    @dispatch_eq_arbitrate _ _ _ _ fresh ingress _ _ (some proposals) hstop
  rw [hdispatch, hproposals]
  cases hruntime : service.dispatch_arbitration with
  | none => simp [arbitrate, hruntime, hstop, Proceeds]
  | some runtime =>
    rw [arbitrate_proceeds_iff hruntime, not_not]
    simp [hstop, hid]

end

/-! ## Two proposals, and an evaluator that raises -/

def rivals : List DispatchArbitrationProposal :=
  [{ proposer_id := "agent:ticket-triage", directive := "diagnostic_execution:request" },
   { proposer_id := "agent:risk", directive := "diagnostic_execution:refuse", verdict := .deny }]

def failingEvaluator : ArbitrationEvaluator String where
  name := "supervisor_disagreement_evaluator"
  evaluate _ _ := .error ⟨"ValueError", "malformed signal"⟩

def serviceWith (first : ArbitrationEvaluator String) (rest : List (ArbitrationEvaluator String)) :
    DispatchService String where
  request_review _ := .ok ()
  execution_governance _ := .ok { allowed := true }
  dispatch_arbitration := some
    { arbitration_runtime :=
        { evaluators := first :: rest
          nonempty := List.cons_ne_nil first rest
          gate := fun _ => .ok none
          persistence := some fun _ => .saved }
      project_evaluation := fun _ _ => .ok () }

def admitted : CoordinationDispatchResult String where
  coordination_id := "c"
  outcome := .accepted
  governance_decision_id := some "d"

theorem rivals_compete : ∃ p ∈ rivals, ∃ q ∈ rivals, p.signature ≠ q.signature :=
  (has_competing_proposals_iff rivals).mp (by decide)

/-- With the deadlock evaluator alone the rivals stop. -/
theorem rivals_stop :
    ¬ Proceeds (dispatch (serviceWith deadlockEvaluator []) "e" ⟨"i", none, none⟩ "t" admitted
      (some rivals)) := by
  refine (competing_dispatch_stops_iff rivals_compete).mpr (.inr ⟨_, "d", rfl, rfl, ?_⟩)
  refine .inr (.inr ⟨?_, deadlockEvaluator, List.mem_singleton_self _, ?_⟩)
  · rintro e he ⟨exc, hraise⟩
    cases List.mem_singleton.mp he
    cases hraise
  · exact deadlockEvaluator_witnesses (by decide)

/-- With an evaluator that raises beside it, the same rivals go on to a session. -/
theorem rivals_proceed :
    (∃ p ∈ rivals, ∃ q ∈ rivals, p.signature ≠ q.signature) ∧
      Proceeds (dispatch (serviceWith deadlockEvaluator [failingEvaluator]) "e" ⟨"i", none, none⟩
        "t" admitted (some rivals)) := by
  refine ⟨rivals_compete, ?_⟩
  have hon : ¬ StopsBefore (serviceWith deadlockEvaluator [failingEvaluator]) "t" admitted := by
    simp [StopsBefore, serviceWith, admitted]
  obtain ⟨decision_id, hid, hdispatch⟩ :=
    @dispatch_eq_arbitrate _ _ _ _ "e" ⟨"i", none, none⟩ _ _ (some rivals) hon
  rw [hdispatch]
  refine (arbitrate_proceeds_iff rfl).mpr ?_
  rintro (hgate | ⟨exc, hproject⟩ | ⟨hquiet, -⟩)
  · exact hgate rfl
  · cases hproject
  · exact hquiet failingEvaluator (by simp) ⟨_, rfl⟩

end operious.dispatch_arbitration
