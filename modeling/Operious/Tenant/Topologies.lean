-- The topologies of tenants: read from a mapping, refused when they have a cycle, stored, and loaded
-- again when one is active.
import Operious.Coordination.Topology
import Operious.Lib.DepthFirst
import Operious.Lib.Effects
import Operious.Tenant.Chronology

namespace operious.tenant

open effects
open operious.agents.tools (JsonValue JsonObject)
open operious.arbitration (TextRepr)
open operious.coordination
open operious.governance (PyException)

/-! ## Readers of a mapping -/

/-- What the readers take from the interpreter. -/
class Conversions (Uuid F : Type) where
  /-- `str(value)`. -/
  str : JsonValue F → Except PyException String
  /-- `int(value)`. -/
  int : JsonValue F → Except PyException Int
  /-- `uuid.UUID(text)`. -/
  uuid : String → Except PyException Uuid

def configurationError (message : String) : PyException := ⟨"TenantConfigurationError", message⟩

section readers

variable {F : Type}

def as_mapping (value : JsonValue F) (field_name : String) : Except PyException (JsonObject F) :=
  match value with
  | .dict items => .ok (Dict.ofList items)
  | _ => .error (configurationError (field_name ++ " must be an object"))

def as_sequence (value : JsonValue F) (field_name : String) :
    Except PyException (List (JsonValue F)) :=
  match value with
  | .list items => .ok items
  | _ => .error (configurationError (field_name ++ " must be a list"))

def normalize_text (raw field_name : String) : Except PyException String :=
  if (strip raw).isEmpty then
    .error (configurationError (field_name ++ " must be non-empty"))
  else .ok (strip raw)

/-- `_metadata`, of what `get` gives. -/
def read_metadata (raw : Option (JsonValue F)) : Except PyException (JsonObject F) :=
  match raw with
  | none | some .null => .ok Dict.empty
  | some (.dict items) => .ok (Dict.ofList items)
  | some _ => .error (configurationError "metadata must be an object")

/-- `Kind(text)`, of an enumeration. -/
def enum [TextRepr] {α : Type} (members : List α) (value : α → String) (name text : String) :
    Except PyException α :=
  match members.find? fun member => value member = text with
  | some member => .ok member
  | none => .error ⟨"ValueError", TextRepr.repr text ++ " is not a valid " ++ name⟩

section kinds

variable [TextRepr]

def node_kind : String → Except PyException TopologyNodeKind :=
  enum [.agent, .supervisor, .broadcast, .system, .external] (·.value) "TopologyNodeKind"

def edge_kind : String → Except PyException TopologyEdgeKind :=
  enum [.peer, .handoff, .escalation, .supervision, .broadcast, .system] (·.value) "TopologyEdgeKind"

def boundary_kind : String → Except PyException TopologyBoundaryKind :=
  enum [.tenant, .governance_domain, .operational_domain, .environment] (·.value)
    "TopologyBoundaryKind"

def boundary_crossing : String → Except PyException TopologyBoundaryCrossing :=
  enum [.forbidden, .declared_edges, .allowlist] (·.value) "TopologyBoundaryCrossing"

def coordination_direction : String → Except PyException CoordinationDirection :=
  enum [.agent_to_agent, .agent_to_supervisor, .supervisor_to_agent, .runtime_to_agent,
    .agent_to_runtime, .system_broadcast] (·.value) "CoordinationDirection"

def coordination_message_type : String → Except PyException CoordinationMessageType :=
  enum [.request, .response, .notification, .handoff, .signal] (·.value) "CoordinationMessageType"

end kinds

variable (Uuid : Type) [Conversions Uuid F]

def required_text (raw : JsonObject F) (field_name : String) : Except PyException String :=
  match raw.get? field_name with
  | none => .error (configurationError (field_name ++ " is required"))
  | some value => do normalize_text (← Conversions.str Uuid value) field_name

/-- `_optional_text`, of what `get` gives. -/
def optional_text (raw : Option (JsonValue F)) : Except PyException (Option String) :=
  match raw with
  | none | some .null => .ok none
  | some value => do
    let text ← Conversions.str Uuid value
    return if (strip text).isEmpty then none else some (strip text)

/-- `str(raw.get(field_name, default))`. -/
def text_of (raw : JsonObject F) (field_name default : String) : Except PyException String :=
  Conversions.str Uuid ((raw.get? field_name).getD (.str default))

/-- `int(raw.get(field_name, default))`. -/
def int_of (raw : JsonObject F) (field_name : String) (default : Int) : Except PyException Int :=
  Conversions.int Uuid ((raw.get? field_name).getD (.int default))

def required_id (raw : JsonObject F) (field_name : String) : Except PyException Uuid := do
  Conversions.uuid F (← required_text Uuid raw field_name)

def id_of (item : JsonValue F) : Except PyException Uuid := do
  Conversions.uuid F (← Conversions.str Uuid item)

/-- A field that is a list, without a default. -/
def required_sequence (raw : JsonObject F) (field_name : String) :
    Except PyException (List (JsonValue F)) :=
  as_sequence ((raw.get? field_name).getD .null) field_name

/-- A field that is a list, with the empty one as its default. -/
def sequence_of (raw : JsonObject F) (field_name : String) :
    Except PyException (List (JsonValue F)) :=
  as_sequence ((raw.get? field_name).getD (.list [])) field_name

end readers

/-! ## Topologies of a mapping -/

section topologies

variable {Uuid F : Type} [Conversions Uuid F] [TextRepr]

def node_from_mapping (raw : JsonObject F) : Except PyException (declared.CoordinationNode Uuid F) := do
  let node_id ← required_id Uuid raw "node_id"
  let participant_id ← required_text Uuid raw "participant_id"
  let kind ← node_kind (← required_text Uuid raw "kind")
  let display_name ← text_of Uuid raw "display_name" ""
  let tenant_id ← optional_text Uuid (raw.get? "tenant_id")
  let domain_id ← optional_text Uuid (raw.get? "domain_id")
  let environment_id ← optional_text Uuid (raw.get? "environment_id")
  let metadata ← read_metadata (raw.get? "metadata")
  return { node_id, participant_id, kind, display_name, tenant_id, domain_id, environment_id, metadata }

def read_direction (Uuid : Type) [Conversions Uuid F] (raw : Option (JsonValue F)) :
    Except PyException (Option CoordinationDirection) :=
  match raw with
  | none | some .null => .ok none
  | some value => do return some (← coordination_direction (← Conversions.str Uuid value))

def edge_from_mapping (raw : JsonObject F) : Except PyException (declared.CoordinationEdge Uuid F) := do
  let direction ← read_direction Uuid (raw.get? "direction")
  let edge_id ← required_id Uuid raw "edge_id"
  let source_node_id ← required_id Uuid raw "source_node_id"
  let target_node_id ← required_id Uuid raw "target_node_id"
  let kind ← edge_kind (← required_text Uuid raw "kind")
  let allowed_message_types ← (← sequence_of raw "allowed_message_types").mapM fun item => do
    coordination_message_type (← Conversions.str Uuid item)
  let crosses_boundary_id ← optional_text Uuid (raw.get? "crosses_boundary_id")
  let description ← text_of Uuid raw "description" ""
  let priority ← int_of Uuid raw "priority" 100
  let metadata ← read_metadata (raw.get? "metadata")
  return {
    edge_id, source_node_id, target_node_id, kind, direction, allowed_message_types
    crosses_boundary_id, description, priority, metadata }

def path_from_mapping (raw : JsonObject F) : Except PyException (declared.CoordinationPath Uuid F) := do
  let path_id ← required_text Uuid raw "path_id"
  let node_ids ← (← required_sequence raw "node_ids").mapM (id_of Uuid)
  let description ← text_of Uuid raw "description" ""
  let metadata ← read_metadata (raw.get? "metadata")
  return { path_id, node_ids, description, metadata }

def escalation_path_from_mapping (raw : JsonObject F) :
    Except PyException (declared.EscalationPath Uuid F) := do
  let path_id ← required_text Uuid raw "path_id"
  let node_ids ← (← required_sequence raw "node_ids").mapM (id_of Uuid)
  let seniority_ordering ← (← sequence_of raw "seniority_ordering").mapM (Conversions.str Uuid)
  let description ← text_of Uuid raw "description" ""
  let metadata ← read_metadata (raw.get? "metadata")
  return { path_id, node_ids, seniority_ordering, description, metadata }

def crossing_pair_from_sequence (raw : JsonValue F) : Except PyException (Uuid × Uuid) := do
  match ← as_sequence raw "allowed_crossing_pairs[]" with
  | [source, target] => do return (← id_of Uuid source, ← id_of Uuid target)
  | _ => .error (configurationError "allowed crossing pairs must contain exactly two node ids")

def boundary_from_mapping (raw : JsonObject F) :
    Except PyException (declared.AuthorityBoundary Uuid F) := do
  let boundary_id ← required_text Uuid raw "boundary_id"
  let kind ← boundary_kind (← required_text Uuid raw "kind")
  let display_name ← text_of Uuid raw "display_name" ""
  let member_node_ids ← (← sequence_of raw "member_node_ids").mapM (id_of Uuid)
  let crossing ← boundary_crossing
    (← text_of Uuid raw "crossing" (TopologyBoundaryCrossing.value .forbidden))
  let allowed_crossing_pairs ← (← sequence_of raw "allowed_crossing_pairs").mapM
    crossing_pair_from_sequence
  let metadata ← read_metadata (raw.get? "metadata")
  return {
    boundary_id, kind, display_name, member_node_ids, crossing, allowed_crossing_pairs, metadata }

def records_of {α : Type} (read : JsonObject F → Except PyException α) (items : List (JsonValue F))
    (field_name : String) : Except PyException (List α) :=
  items.mapM fun item => do read (← as_mapping item (field_name ++ "[]"))

def arguments_from_mapping (raw : JsonValue F) :
    Except PyException (declared.Arguments Uuid F) := do
  let data ← as_mapping raw "topology"
  let nodes ← records_of node_from_mapping (← required_sequence data "nodes") "nodes"
  let edges ← records_of edge_from_mapping (← sequence_of data "edges") "edges"
  let paths ← records_of path_from_mapping (← sequence_of data "paths") "paths"
  let escalation_paths ← records_of escalation_path_from_mapping
    (← sequence_of data "escalation_paths") "escalation_paths"
  let boundaries ← records_of boundary_from_mapping (← sequence_of data "boundaries") "boundaries"
  let topology_id ← required_id Uuid data "topology_id"
  let name ← required_text Uuid data "name"
  let version ← text_of Uuid data "version" "v1"
  let max_chain_depth ← int_of Uuid data "max_chain_depth" 4
  let description ← text_of Uuid data "description" ""
  let metadata ← read_metadata (data.get? "metadata")
  return {
    topology_id, name, version, max_chain_depth, description, nodes, edges, paths
    escalation_paths, boundaries, metadata }

/-- The `except` clauses: an error of another name leaves as it is. -/
def invalid (exc : PyException) : PyException :=
  if exc.name ∈ ["CoordinationTopologyConfigurationError", "KeyError", "TypeError", "ValueError"] then
    configurationError "invalid tenant topology declaration"
  else exc

variable [DecidableEq Uuid] [Stdlib Uuid]

def coordination_topology_from_mapping (raw : JsonValue F) :
    Except PyException (declared.CoordinationTopology Uuid F) :=
  (arguments_from_mapping raw >>= declared.construct).mapError invalid

end topologies

/-! ## Cycles -/

section cycles

variable {Uuid F : Type} [DecidableEq Uuid]

/-- `graph[node_id]`: the targets of its edges, in order. -/
def next_node_ids (edges : List (declared.CoordinationEdge Uuid F)) (node_id : Uuid) : List Uuid :=
  (edges.filter fun edge => edge.source_node_id = node_id).map (·.target_node_id)

/-- `_assert_topology_is_dag`, where `room` calls of `visit` fit on the interpreter's stack. -/
def assert_topology_is_dag (room : Nat) (topology : declared.Arguments Uuid F) :
    Except PyException Unit :=
  match depth_first.search (next_node_ids topology.edges) room
    (topology.nodes.map (·.node_id)) with
  | .ok _ => .ok ()
  | .error .cycle =>
    .error ⟨"TenantTopologyCycleError", "tenant topology contains a directed cycle"⟩
  | .error .overflow => .error ⟨"RecursionError", "maximum recursion depth exceeded"⟩

end cycles

/-! ## The runtime -/

inductive TenantTopologyStatus
  | active | draft | archived
  deriving DecidableEq, Repr

structure TenantTopologyConfigurationRecord (Uuid F : Type) where
  config_id : Uuid
  tenant_id : String
  topology_name : String
  status : TenantTopologyStatus
  topology : JsonValue F
  version : Nat
  configured_by : String
  created_at : Instant
  updated_at : Instant

abbrev Topologies (Uuid F : Type) := Dict Uuid (TenantTopologyConfigurationRecord Uuid F)

/-- The arguments of `configure_topology_from_mapping`. -/
structure TopologyRequest (F : Type) where
  tenant_id : String
  topology_name : String
  topology : JsonValue F
  configured_by : String
  status : TenantTopologyStatus
  now : Instant

section runtime

variable {Uuid F : Type} [DecidableEq Uuid] [Stdlib Uuid]

def derive_topology_configuration_id (tenant_id topology_name : String) : Except PyException Uuid := do
  let tenant ← coerce_tenant_id tenant_id
  let normalized ← normalize_identity_text topology_name "topology_name"
  return Stdlib.uuid5 (Stdlib.uuid "25a0c0f1-0004-4004-8004-000000000004")
    (tenant ++ "|" ++ normalized)

def get_topology_configuration (topologies : Topologies Uuid F) (config_id : Uuid)
    (expected_tenant_id : String) : Option (TenantTopologyConfigurationRecord Uuid F) :=
  (topologies.get? config_id).filter (·.tenant_id = expected_tenant_id)

def active_of (topologies : Topologies Uuid F) (tenant_id : String) :
    List (TenantTopologyConfigurationRecord Uuid F) :=
  topologies.values.filter fun r => r.tenant_id = tenant_id ∧ r.status = .active

def save_topology_configuration (record : TenantTopologyConfigurationRecord Uuid F)
    (expected_tenant_id : String) : Effect PyException (Topologies Uuid F) Unit := do
  lift (assert_write_tenant record.tenant_id expected_tenant_id)
  if record.status = .active ∧
      ((active_of (← get) expected_tenant_id).any fun r => r.config_id ≠ record.config_id) then
    throw ⟨"TenantConfigurationPersistenceError", "tenant already has an active topology"⟩
  else modify fun topologies => topologies.set record.config_id record

def resolve_active_topology_configuration (topologies : Topologies Uuid F)
    (expected_tenant_id : String) : Option (TenantTopologyConfigurationRecord Uuid F) :=
  match active_of topologies expected_tenant_id with
  | [record] => some record
  | _ => none

variable [TextRepr]

def configure_topology (room : Nat) (tenant_id : String)
    (topology : declared.CoordinationTopology Uuid F) (configured_by : String)
    (topology_name : Option String) (status : TenantTopologyStatus) (now : Instant) :
    Effect PyException (Topologies Uuid F) (TenantTopologyConfigurationRecord Uuid F) := do
  let name ← lift (normalize_text
    (match topology_name with
      | some name => if name.isEmpty then topology.name else name
      | none => topology.name) "topology_name")
  lift (assert_topology_is_dag room topology.toArguments)
  let config_id ← lift (derive_topology_configuration_id tenant_id name)
  let existing := get_topology_configuration (← get) config_id tenant_id
  let configured_by ← lift (normalize_text configured_by "configured_by")
  let record : TenantTopologyConfigurationRecord Uuid F := {
    config_id, tenant_id, topology_name := name, status
    topology := .dict topology.to_dict
    version := (existing.map (·.version + 1)).getD 1
    configured_by
    created_at := (existing.map (·.created_at)).getD now
    updated_at := now }
  save_topology_configuration record tenant_id
  return record

variable [Conversions Uuid F]

def configure_topology_from_mapping (room : Nat) (request : TopologyRequest F) :
    Effect PyException (Topologies Uuid F) (TenantTopologyConfigurationRecord Uuid F) := do
  let topology ← lift (coordination_topology_from_mapping request.topology)
  configure_topology room request.tenant_id topology request.configured_by
    (some request.topology_name) request.status request.now

def load_active_coordination_topology (topologies : Topologies Uuid F) (tenant_id : String) :
    Except PyException (Option (declared.CoordinationTopology Uuid F)) :=
  match resolve_active_topology_configuration topologies tenant_id with
  | none => .ok none
  | some record => (coordination_topology_from_mapping record.topology).map some

/-- The configurations after some requests, whether they were served or refused. -/
def configured (room : Nat) (topologies : Topologies Uuid F) (requests : List (TopologyRequest F)) :
    Topologies Uuid F :=
  requests.foldl (fun topologies request =>
    (run (configure_topology_from_mapping room request) topologies).2) topologies

end runtime

end operious.tenant
