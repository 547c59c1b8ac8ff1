-- The evaluation of a dispatch against the declared topology: four evaluators that look at it one by one,
-- and the runtime that takes the most restrictive of what they found.
import Operious.Coordination.Topology

namespace operious.coordination

open operious.agents.tools (sorted)
open operious.arbitration (TextRepr)
open operious.governance (PyException)

inductive CoordinationTopologyDecision
  | allowed | escalated | denied | depth_exceeded | boundary_violation
  deriving DecidableEq, Repr

namespace CoordinationTopologyDecision

def value : CoordinationTopologyDecision → String
  | allowed => "allowed"
  | escalated => "escalated"
  | denied => "denied"
  | depth_exceeded => "depth_exceeded"
  | boundary_violation => "boundary_violation"

/-- `coordination_topology_precedence`: a lower number is more restrictive. -/
def precedence : CoordinationTopologyDecision → Nat
  | boundary_violation => 0
  | depth_exceeded => 1
  | denied => 2
  | escalated => 3
  | allowed => 4

end CoordinationTopologyDecision

def is_blocking_topology_decision (decision : CoordinationTopologyDecision) : Bool :=
  decision ∈ [.boundary_violation, .depth_exceeded, .denied, .escalated]

section

variable (Uuid : Type)

structure CoordinationTopologyEvaluationRequest where
  sender_id : String
  recipient_id : String
  direction : CoordinationDirection
  message_type : CoordinationMessageType
  coordination_id : Uuid
  coordination_message_id : Uuid
  recipient_kind : String := "agent"
  priority : Int
  tenant_id : Option String := none
  sender_tenant_id : Option String := none
  recipient_tenant_id : Option String := none
  correlation_id : Option Uuid := none
  parent_coordination_id : Option Uuid := none
  parent_message_id : Option Uuid := none
  request_id : Option String := none
  chain_depth : Int := 0
  evaluator_names : Option (List String) := none

structure CoordinationTopologyFinding where
  evaluator_name : String
  decision : CoordinationTopologyDecision
  code : String
  message : String
  edge_id : Option Uuid := none
  path_id : Option String := none
  boundary_id : Option String := none
  source_node_id : Option Uuid := none
  target_node_id : Option Uuid := none

structure CoordinationTopologyEvaluator where
  name : String
  evaluate : CoordinationTopologyEvaluationRequest Uuid →
    Except PyException (List (CoordinationTopologyFinding Uuid))

end

section

variable {Uuid : Type} [DecidableEq Uuid] [Stdlib Uuid] [TextRepr]
variable (topology : CoordinationTopology Uuid) (request : CoordinationTopologyEvaluationRequest Uuid)

/-! ## The allowed path -/

/-- `f"{request.sender_id!r} → {request.recipient_id!r}"`. -/
def pairText : String :=
  TextRepr.repr request.sender_id ++ " → " ++ TextRepr.repr request.recipient_id

def ordered (candidate_edges : List (CoordinationEdge Uuid)) : List (CoordinationEdge Uuid) :=
  candidate_edges.insertionSort fun a b => a.priority ≤ b.priority

def accepts (edge : CoordinationEdge Uuid) : Bool :=
  edge.matches_direction request.direction && edge.matches_message_type request.message_type

/-- What is found when an edge is there, and none accepts the dispatch. -/
def refusedPath (sender_node recipient_node : CoordinationNode Uuid)
    (edges : List (CoordinationEdge Uuid)) : CoordinationTopologyFinding Uuid :=
  if edges.any fun edge => !edge.matches_direction request.direction then
    { evaluator_name := "allowed_path", decision := .denied, code := "path.forbidden_direction"
      message := "no edge authorises direction " ++ TextRepr.repr request.direction.value
      source_node_id := some sender_node.node_id, target_node_id := some recipient_node.node_id }
  else
    { evaluator_name := "allowed_path", decision := .denied, code := "path.forbidden_message_type"
      message := "no edge authorises message type " ++ TextRepr.repr request.message_type.value
      source_node_id := some sender_node.node_id, target_node_id := some recipient_node.node_id }

/-- `AllowedPathEvaluator.evaluate`. -/
def allowed_path : List (CoordinationTopologyFinding Uuid) :=
  match topology.node_by_participant request.sender_id with
  | none => [{
      evaluator_name := "allowed_path", decision := .denied, code := "path.unknown_sender"
      message := "sender " ++ TextRepr.repr request.sender_id ++ " is not a declared topology node" }]
  | some sender_node =>
    match topology.node_by_participant request.recipient_id with
    | none => [{
        evaluator_name := "allowed_path", decision := .denied, code := "path.unknown_recipient"
        message := "recipient " ++ TextRepr.repr request.recipient_id ++
          " is not a declared topology node"
        source_node_id := some sender_node.node_id }]
    | some recipient_node =>
      match ordered (topology.edges_between sender_node.node_id recipient_node.node_id) with
      | [] => [{
          evaluator_name := "allowed_path", decision := .denied, code := "path.denied"
          message := "no declared edge " ++ pairText request
          source_node_id := some sender_node.node_id
          target_node_id := some recipient_node.node_id }]
      | edges =>
        match edges.find? (accepts request) with
        | some edge => [{
            evaluator_name := "allowed_path", decision := .allowed, code := "path.allowed"
            message := "edge authorises " ++ pairText request
            edge_id := some edge.edge_id
            source_node_id := some sender_node.node_id
            target_node_id := some recipient_node.node_id }]
        | none => [refusedPath request sender_node recipient_node edges]

/-! ## Boundaries -/

/-- The nodes are on two sides of the boundary. -/
def separates (boundary : AuthorityBoundary Uuid) (source_node_id target_node_id : Uuid) : Bool :=
  boundary.contains source_node_id != boundary.contains target_node_id

def crossing (sender_node recipient_node : CoordinationNode Uuid)
    (candidate_edges : List (CoordinationEdge Uuid)) (boundary : AuthorityBoundary Uuid) :
    CoordinationTopologyFinding Uuid :=
  if boundary.allows_crossing sender_node.node_id recipient_node.node_id
      (candidate_edges.any fun edge => edge.crosses_boundary_id = some boundary.boundary_id) then
    { evaluator_name := "boundary_isolation", decision := .allowed
      code := "boundary.crossing_authorized"
      message := "boundary " ++ TextRepr.repr boundary.boundary_id ++ " authorises crossing " ++
        pairText request
      boundary_id := some boundary.boundary_id
      source_node_id := some sender_node.node_id, target_node_id := some recipient_node.node_id }
  else
    { evaluator_name := "boundary_isolation", decision := .boundary_violation
      code := "boundary.crossing_forbidden"
      message := "boundary " ++ TextRepr.repr boundary.boundary_id ++ " forbids crossing " ++
        pairText request
      boundary_id := some boundary.boundary_id
      source_node_id := some sender_node.node_id, target_node_id := some recipient_node.node_id }

/-- `BoundaryIsolationEvaluator.evaluate`. -/
def boundary_isolation : List (CoordinationTopologyFinding Uuid) :=
  match topology.node_by_participant request.sender_id,
    topology.node_by_participant request.recipient_id with
  | some sender_node, some recipient_node =>
    (topology.boundaries.filter fun boundary =>
      separates boundary sender_node.node_id recipient_node.node_id).map
        (crossing request sender_node recipient_node
          (topology.edges_between sender_node.node_id recipient_node.node_id))
  | _, _ => []

/-! ## Depth and escalation -/

/-- `ChainDepthEvaluator.evaluate`. -/
def chain_depth : List (CoordinationTopologyFinding Uuid) :=
  if request.chain_depth < topology.max_chain_depth then []
  else [{
    evaluator_name := "chain_depth", decision := .depth_exceeded, code := "chain_depth.exceeded"
    message := "chain depth " ++ toString request.chain_depth ++ " ≥ max_chain_depth " ++
      toString topology.max_chain_depth }]

/-- The dispatch goes to a supervisor, or an edge between the nodes is one of escalation. -/
def escalation_shaped (sender_node recipient_node : CoordinationNode Uuid) : Bool :=
  request.direction = .agent_to_supervisor ||
    (topology.edges_between sender_node.node_id recipient_node.node_id).any (·.kind = .escalation)

/-- `EscalationPathEvaluator.evaluate`. -/
def escalation_path : List (CoordinationTopologyFinding Uuid) :=
  match topology.node_by_participant request.sender_id,
    topology.node_by_participant request.recipient_id with
  | some sender_node, some recipient_node =>
    if !escalation_shaped topology request sender_node recipient_node then []
    else
      match topology.escalation_paths.find? fun path =>
          path.node_ids.head? = some sender_node.node_id &&
            path.node_ids.getLast? = some recipient_node.node_id with
      | some path => [{
          evaluator_name := "escalation_path", decision := .escalated
          code := "escalation_path.authorized"
          message := "escalation path " ++ TextRepr.repr path.path_id ++ " authorises " ++
            pairText request
          source_node_id := some sender_node.node_id
          target_node_id := some recipient_node.node_id
          path_id := some path.path_id }]
      | none => [{
          evaluator_name := "escalation_path", decision := .denied
          code := "escalation_path.missing"
          message := "escalation dispatch has no declared escalation path " ++ pairText request
          source_node_id := some sender_node.node_id
          target_node_id := some recipient_node.node_id }]
  | _, _ => []

/-- The four evaluators of a topology, in the order of their names. -/
def builtin_evaluators : List (CoordinationTopologyEvaluator Uuid) :=
  [⟨"allowed_path", fun request => .ok (allowed_path topology request)⟩,
   ⟨"boundary_isolation", fun request => .ok (boundary_isolation topology request)⟩,
   ⟨"chain_depth", fun request => .ok (chain_depth topology request)⟩,
   ⟨"escalation_path", fun request => .ok (escalation_path topology request)⟩]

end

/-! ## The verdict -/

section

variable {Uuid : Type}

/-- One step of the loop over the findings: a stricter one takes the lead. -/
def lead (acc : CoordinationTopologyDecision × Option (CoordinationTopologyFinding Uuid))
    (finding : CoordinationTopologyFinding Uuid) :
    CoordinationTopologyDecision × Option (CoordinationTopologyFinding Uuid) :=
  if finding.decision.precedence < acc.1.precedence then (finding.decision, some finding) else acc

def build_topology_decision : List (CoordinationTopologyFinding Uuid) →
    CoordinationTopologyDecision × Option Uuid × Option String × String
  | [] => (.allowed, none, none, "no findings — default allow")
  | first :: rest =>
    let (apex, leading) := (first :: rest).foldl lead (.allowed, none)
    let apex_finding := leading.getD first
    (apex, apex_finding.edge_id, apex_finding.path_id,
      apex_finding.evaluator_name ++ ": " ++ apex_finding.message)

/-- What the evaluators found, and the last exception that one of them raised. -/
def run_evaluators (request : CoordinationTopologyEvaluationRequest Uuid) :
    List (CoordinationTopologyEvaluator Uuid) →
    List (CoordinationTopologyFinding Uuid) × Option PyException
  | [] => ([], none)
  | evaluator :: rest =>
    let (findings, framework_error) := run_evaluators request rest
    match evaluator.evaluate request with
    | .error exc => (findings, framework_error.or (some exc))
    | .ok emitted => (emitted ++ findings, framework_error)

end

section

variable (Uuid : Type)

structure CoordinationTopologyEvaluationResult where
  aggregate_decision : CoordinationTopologyDecision
  findings : List (CoordinationTopologyFinding Uuid)
  evaluator_names : List String
  chain_depth : Int
  max_chain_depth : Int
  reason : String
  matched_edge_id : Option Uuid
  matched_path_id : Option String
  tenant_id : Option String
  error : Option String

structure CoordinationTopologyTrace where
  aggregate_decision : CoordinationTopologyDecision
  evaluator_names : List String
  finding_count : Nat
  chain_depth : Int
  max_chain_depth : Int
  matched_edge_id : Option Uuid
  matched_path_id : Option String
  tenant_id : Option String
  error : Option String

structure CoordinationTopologyEnvelope where
  trace : CoordinationTopologyTrace Uuid
  result : Option (CoordinationTopologyEvaluationResult Uuid) := none
  error : Option PyException := none

end

section

variable {Uuid : Type}

/-- `is_ok`: a result is there, whatever was raised on the way to it. -/
def CoordinationTopologyEnvelope.is_ok (envelope : CoordinationTopologyEnvelope Uuid) : Bool :=
  envelope.result.isSome

/-- `_trace_from_result`. -/
def CoordinationTopologyEvaluationResult.trace (result : CoordinationTopologyEvaluationResult Uuid) :
    CoordinationTopologyTrace Uuid where
  aggregate_decision := result.aggregate_decision
  evaluator_names := result.evaluator_names
  finding_count := result.findings.length
  chain_depth := result.chain_depth
  max_chain_depth := result.max_chain_depth
  matched_edge_id := result.matched_edge_id
  matched_path_id := result.matched_path_id
  tenant_id := result.tenant_id
  error := result.error

/-- What a runtime finds around an evaluation: the denial of the capability gate, and what recording
the evaluation does. -/
structure EvaluationAround where
  denial : Option PyException := none
  record_evaluation : Except PyException Unit := .ok ()

/-- The runtime: its registry holds at least one evaluator, each under its own name, and walks them in
the order of their names. -/
structure CoordinationTopologyRuntime (Uuid : Type) where
  max_chain_depth : Int
  evaluators : List (CoordinationTopologyEvaluator Uuid)
  nonempty : evaluators ≠ []
  names_sorted : sorted (evaluators.map (·.name)) = evaluators.map (·.name)
  names_distinct : (evaluators.map (·.name)).Nodup

namespace CoordinationTopologyRuntime

variable [TextRepr] (runtime : CoordinationTopologyRuntime Uuid) (around : EvaluationAround)
  (request : CoordinationTopologyEvaluationRequest Uuid)

def resolve_evaluators (whitelist : Option (List String)) :
    Except PyException (List (CoordinationTopologyEvaluator Uuid)) :=
  match whitelist with
  | none => .ok runtime.evaluators
  | some [] => .error ⟨"CoordinationTopologyConfigurationError",
      "evaluator_names whitelist is empty; pass None to run every registered evaluator"⟩
  | some names =>
    match (sorted names).find? fun name => !runtime.evaluators.any (·.name = name) with
    | some name => .error ⟨"CoordinationTopologyConfigurationError",
        "unknown evaluator in whitelist: " ++ TextRepr.repr name⟩
    | none => .ok (runtime.evaluators.filter fun evaluator => evaluator.name ∈ names)

def fail_fast (error : PyException) : CoordinationTopologyEnvelope Uuid where
  trace := {
    aggregate_decision := .denied
    evaluator_names := []
    finding_count := 0
    chain_depth := request.chain_depth
    max_chain_depth := runtime.max_chain_depth
    matched_edge_id := none
    matched_path_id := none
    tenant_id := request.tenant_id
    error := some error.describe }
  error := some error

def resultOf (evaluators : List (CoordinationTopologyEvaluator Uuid)) :
    CoordinationTopologyEvaluationResult Uuid :=
  let (findings, framework_error) := run_evaluators request evaluators
  let (apex, matched_edge_id, matched_path_id, reason) := build_topology_decision findings
  { aggregate_decision := apex
    findings
    evaluator_names := evaluators.map (·.name)
    chain_depth := request.chain_depth
    max_chain_depth := runtime.max_chain_depth
    reason
    matched_edge_id
    matched_path_id
    tenant_id := request.tenant_id
    error := framework_error.map (·.describe) }

def recordError (exc : PyException) : String :=
  if exc.name = "CoordinationTopologyPersistenceError" then "persistence: " ++ exc.text
  else "persistence failed: " ++ exc.describe

def evaluate : CoordinationTopologyEnvelope Uuid :=
  match around.denial with
  | some denial => fail_fast runtime request denial
  | none =>
    match resolve_evaluators runtime request.evaluator_names with
    | .error exc => fail_fast runtime request exc
    | .ok evaluators =>
      let result := resultOf runtime request evaluators
      match around.record_evaluation with
      | .error exc => {
          trace := { result.trace with error := some (recordError exc) }
          error := some exc }
      | .ok _ => {
          trace := result.trace
          result := some result
          error := (run_evaluators request evaluators).2 }

variable {runtime around request}

theorem evaluate_result {result : CoordinationTopologyEvaluationResult Uuid} :
    (runtime.evaluate around request).result = some result ↔
      around.denial = none ∧ around.record_evaluation = .ok () ∧ ∃ evaluators,
        runtime.resolve_evaluators request.evaluator_names = .ok evaluators ∧
        runtime.resultOf request evaluators = result := by
  unfold evaluate
  cases around.denial with
  | some denial => simp [fail_fast]
  | none =>
    cases runtime.resolve_evaluators request.evaluator_names with
    | error exc => simp [fail_fast]
    | ok evaluators => cases around.record_evaluation <;> simp

end CoordinationTopologyRuntime

end

end operious.coordination
