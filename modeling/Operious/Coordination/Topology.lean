-- The declared topology of a coordination: nodes, the edges between them, the boundaries around them.
-- A declaration that is inconsistent is refused when it is made.
import Operious.Arbitration.Runtime

namespace operious.coordination

open operious.arbitration (TextRepr)
open operious.governance (PyException)

/-! ## The vocabulary -/

inductive CoordinationDirection
  | agent_to_agent | agent_to_supervisor | supervisor_to_agent | runtime_to_agent | agent_to_runtime
  | system_broadcast
  deriving DecidableEq, Repr

def CoordinationDirection.value : CoordinationDirection → String
  | agent_to_agent => "agent_to_agent"
  | agent_to_supervisor => "agent_to_supervisor"
  | supervisor_to_agent => "supervisor_to_agent"
  | runtime_to_agent => "runtime_to_agent"
  | agent_to_runtime => "agent_to_runtime"
  | system_broadcast => "system_broadcast"

inductive CoordinationMessageType
  | request | response | notification | handoff | signal
  deriving DecidableEq, Repr

def CoordinationMessageType.value : CoordinationMessageType → String
  | request => "request"
  | response => "response"
  | notification => "notification"
  | handoff => "handoff"
  | signal => "signal"

inductive TopologyEdgeKind
  | peer | handoff | escalation | supervision | broadcast | system
  deriving DecidableEq, Repr

inductive TopologyBoundaryCrossing
  | forbidden | declared_edges | allowlist
  deriving DecidableEq, Repr

/-! ## The declaration -/

section

variable (Uuid : Type)

structure CoordinationNode where
  node_id : Uuid
  participant_id : String

structure CoordinationEdge where
  edge_id : Uuid
  source_node_id : Uuid
  target_node_id : Uuid
  kind : TopologyEdgeKind
  direction : Option CoordinationDirection := none
  allowed_message_types : List CoordinationMessageType := []
  crosses_boundary_id : Option String := none
  priority : Int := 100

/-- A path over several edges. -/
structure CoordinationPath where
  path_id : String
  node_ids : List Uuid

structure EscalationPath where
  path_id : String
  node_ids : List Uuid

structure AuthorityBoundary where
  boundary_id : String
  member_node_ids : List Uuid := []
  crossing : TopologyBoundaryCrossing := .forbidden
  allowed_crossing_pairs : List (Uuid × Uuid) := []

/-- The arguments of the constructor of a topology. -/
structure TopologyDeclaration where
  nodes : List (CoordinationNode Uuid)
  edges : List (CoordinationEdge Uuid) := []
  paths : List (CoordinationPath Uuid) := []
  escalation_paths : List (EscalationPath Uuid) := []
  boundaries : List (AuthorityBoundary Uuid) := []
  max_chain_depth : Int := 4

end

section

variable {Uuid : Type} [DecidableEq Uuid]

namespace CoordinationEdge

def matches_message_type (edge : CoordinationEdge Uuid) (message_type : CoordinationMessageType) :
    Bool :=
  edge.allowed_message_types.isEmpty || message_type ∈ edge.allowed_message_types

def matches_direction (edge : CoordinationEdge Uuid) (direction : CoordinationDirection) : Bool :=
  edge.direction.isNone || edge.direction = some direction

end CoordinationEdge

namespace AuthorityBoundary

def contains (boundary : AuthorityBoundary Uuid) (node_id : Uuid) : Bool :=
  node_id ∈ boundary.member_node_ids

def allows_crossing (boundary : AuthorityBoundary Uuid) (source_node_id target_node_id : Uuid)
    (traversed_via_declared_edge : Bool) : Bool :=
  match boundary.crossing with
  | .forbidden => false
  | .declared_edges => traversed_via_declared_edge
  | .allowlist => (source_node_id, target_node_id) ∈ boundary.allowed_crossing_pairs

end AuthorityBoundary

namespace TopologyDeclaration

variable [Stdlib Uuid] [TextRepr]

def configurationError (message : String) : PyException :=
  ⟨"CoordinationTopologyConfigurationError", message⟩

/-- The hops of a path, in order. -/
def hops (node_ids : List Uuid) : List (Uuid × Uuid) := node_ids.zip node_ids.tail

/-- What `__post_init__` asks of an edge. -/
def check_edge (node_ids : List Uuid) (edge : CoordinationEdge Uuid) : Except PyException Unit :=
  if edge.source_node_id ∉ node_ids then
    .error (configurationError ("edge " ++ Stdlib.str edge.edge_id ++ " references unknown source" ++
      " node " ++ Stdlib.str edge.source_node_id))
  else if edge.target_node_id ∉ node_ids then
    .error (configurationError ("edge " ++ Stdlib.str edge.edge_id ++ " references unknown target" ++
      " node " ++ Stdlib.str edge.target_node_id))
  else .ok ()

def check_hop (edges : List (CoordinationEdge Uuid)) (allowed : TopologyEdgeKind → Bool)
    (path missing : String) (hop : Uuid × Uuid) : Except PyException Unit :=
  if edges.any fun edge => edge.source_node_id = hop.1 && edge.target_node_id = hop.2 &&
      allowed edge.kind then .ok ()
  else .error (configurationError (path ++ " hop " ++ Stdlib.str hop.1 ++ " → " ++ Stdlib.str hop.2 ++
    " has no declared " ++ missing))

def check_path (edges : List (CoordinationEdge Uuid)) (path : CoordinationPath Uuid) :
    Except PyException Unit := do
  if path.node_ids.length < 2 then
    .error (configurationError ("path " ++ TextRepr.repr path.path_id ++
      " must contain at least two nodes"))
  else (hops path.node_ids).forM (check_hop edges (fun _ => true)
    ("path " ++ TextRepr.repr path.path_id) "edge")

def check_escalation_path (edges : List (CoordinationEdge Uuid)) (path : EscalationPath Uuid) :
    Except PyException Unit := do
  if path.node_ids.length < 2 then
    .error (configurationError ("escalation path " ++ TextRepr.repr path.path_id ++
      " must contain at " ++ "least two nodes"))
  else (hops path.node_ids).forM (check_hop edges (· = .escalation)
    ("escalation path " ++ TextRepr.repr path.path_id) "ESCALATION edge")

def check_boundary (node_ids : List Uuid) (boundary : AuthorityBoundary Uuid) :
    Except PyException Unit := do
  boundary.member_node_ids.forM fun member =>
    if member ∉ node_ids then
      .error (configurationError ("boundary " ++ TextRepr.repr boundary.boundary_id ++
        " references " ++ "unknown node " ++ Stdlib.str member))
    else .ok ()
  boundary.allowed_crossing_pairs.forM fun (source, target) =>
    if source ∉ node_ids ∨ target ∉ node_ids then
      .error (configurationError ("boundary " ++ TextRepr.repr boundary.boundary_id ++ " allowlist " ++
        "references unknown node"))
    else .ok ()

def post_init (d : TopologyDeclaration Uuid) : Except PyException Unit := do
  let node_ids := d.nodes.map (·.node_id)
  if d.nodes.isEmpty then
    .error (configurationError "CoordinationTopology requires at least one node")
  else if d.max_chain_depth ≤ 0 then
    .error (configurationError "CoordinationTopology.max_chain_depth must be positive")
  else if ¬ node_ids.Nodup then
    .error (configurationError "duplicate node_id in CoordinationTopology.nodes")
  else if ¬ (d.nodes.map (·.participant_id)).Nodup then
    .error (configurationError "duplicate participant_id in CoordinationTopology.nodes")
  else do
    d.edges.forM (check_edge node_ids)
    d.paths.forM (check_path d.edges)
    d.escalation_paths.forM (check_escalation_path d.edges)
    d.boundaries.forM (check_boundary node_ids)

end TopologyDeclaration

structure CoordinationTopology (Uuid : Type) [DecidableEq Uuid] [Stdlib Uuid] [TextRepr] extends
    TopologyDeclaration Uuid where
  accepted : toTopologyDeclaration.post_init = .ok ()

namespace CoordinationTopology

variable [Stdlib Uuid] [TextRepr]

def node_by_participant (topology : CoordinationTopology Uuid) (participant_id : String) :
    Option (CoordinationNode Uuid) :=
  topology.nodes.find? (·.participant_id = participant_id)

def edges_between (topology : CoordinationTopology Uuid) (source_node_id target_node_id : Uuid) :
    List (CoordinationEdge Uuid) :=
  topology.edges.filter fun edge =>
    edge.source_node_id = source_node_id && edge.target_node_id = target_node_id

end CoordinationTopology

end

end operious.coordination

-- A declared topology with all its fields, and the mapping that it is stored as.
namespace operious.coordination

open operious.agents.tools (JsonValue JsonObject)
open operious.arbitration (TextRepr)
open operious.governance (PyException)

/-! ## The vocabulary, as stored -/

inductive TopologyNodeKind
  | agent | supervisor | broadcast | system | external
  deriving DecidableEq, Repr

def TopologyNodeKind.value : TopologyNodeKind → String
  | agent => "agent"
  | supervisor => "supervisor"
  | broadcast => "broadcast"
  | system => "system"
  | external => "external"

def TopologyEdgeKind.value : TopologyEdgeKind → String
  | peer => "peer"
  | handoff => "handoff"
  | escalation => "escalation"
  | supervision => "supervision"
  | broadcast => "broadcast"
  | system => "system"

inductive TopologyBoundaryKind
  | tenant | governance_domain | operational_domain | environment
  deriving DecidableEq, Repr

def TopologyBoundaryKind.value : TopologyBoundaryKind → String
  | tenant => "tenant"
  | governance_domain => "governance_domain"
  | operational_domain => "operational_domain"
  | environment => "environment"

def TopologyBoundaryCrossing.value : TopologyBoundaryCrossing → String
  | forbidden => "forbidden"
  | declared_edges => "declared_edges"
  | allowlist => "allowlist"

/-! ## The records -/

namespace declared

structure CoordinationNode (Uuid F : Type) extends coordination.CoordinationNode Uuid where
  kind : TopologyNodeKind
  display_name : String
  tenant_id : Option String
  domain_id : Option String
  environment_id : Option String
  metadata : JsonObject F

structure CoordinationEdge (Uuid F : Type) extends coordination.CoordinationEdge Uuid where
  description : String
  metadata : JsonObject F

structure CoordinationPath (Uuid F : Type) extends coordination.CoordinationPath Uuid where
  description : String
  metadata : JsonObject F

structure EscalationPath (Uuid F : Type) extends coordination.EscalationPath Uuid where
  seniority_ordering : List String
  description : String
  metadata : JsonObject F

structure AuthorityBoundary (Uuid F : Type) extends coordination.AuthorityBoundary Uuid where
  kind : TopologyBoundaryKind
  display_name : String
  metadata : JsonObject F

structure Arguments (Uuid F : Type) where
  topology_id : Uuid
  name : String
  nodes : List (CoordinationNode Uuid F)
  edges : List (CoordinationEdge Uuid F)
  paths : List (CoordinationPath Uuid F)
  escalation_paths : List (EscalationPath Uuid F)
  boundaries : List (AuthorityBoundary Uuid F)
  max_chain_depth : Int
  version : String
  description : String
  metadata : JsonObject F

section

variable {Uuid F : Type}

/-- What `__post_init__` looks at. -/
def Arguments.declaration (args : Arguments Uuid F) : TopologyDeclaration Uuid where
  nodes := args.nodes.map (·.toCoordinationNode)
  edges := args.edges.map (·.toCoordinationEdge)
  paths := args.paths.map (·.toCoordinationPath)
  escalation_paths := args.escalation_paths.map (·.toEscalationPath)
  boundaries := args.boundaries.map (·.toAuthorityBoundary)
  max_chain_depth := args.max_chain_depth

variable [DecidableEq Uuid] [Stdlib Uuid] [TextRepr]

structure CoordinationTopology (Uuid F : Type) [DecidableEq Uuid] [Stdlib Uuid] [TextRepr] extends
    Arguments Uuid F where
  accepted : toArguments.declaration.post_init = .ok ()

/-- `CoordinationTopology(...)`. -/
def construct (args : Arguments Uuid F) : Except PyException (CoordinationTopology Uuid F) :=
  match h : args.declaration.post_init with
  | .ok () => .ok ⟨args, h⟩
  | .error exc => .error exc

theorem construct_eq_ok (topology : CoordinationTopology Uuid F) :
    construct topology.toArguments = .ok topology := by
  unfold construct
  split
  · rfl
  · rename_i exc h
    cases topology.accepted.symm.trans h

theorem arguments_of_construct {args : Arguments Uuid F} {topology : CoordinationTopology Uuid F}
    (h : construct args = .ok topology) : topology.toArguments = args := by
  unfold construct at h
  split at h
  · cases h
    rfl
  · cases h

end

/-! ## `to_dict` -/

section

variable {Uuid F : Type} [Stdlib Uuid]

/-- The text of an optional text. -/
def optional (t : Option String) : JsonValue F := (t.map .str).getD .null

def texts (l : List String) : JsonValue F := .list (l.map .str)

def ids (l : List Uuid) : JsonValue F := texts (l.map Stdlib.str)

def CoordinationNode.to_dict (node : CoordinationNode Uuid F) : List (String × JsonValue F) :=
  [("node_id", .str (Stdlib.str node.node_id)), ("participant_id", .str node.participant_id),
    ("kind", .str node.kind.value), ("display_name", .str node.display_name),
    ("tenant_id", optional node.tenant_id), ("domain_id", optional node.domain_id),
    ("environment_id", optional node.environment_id), ("metadata", .dict node.metadata.items)]

def CoordinationEdge.to_dict (edge : CoordinationEdge Uuid F) : List (String × JsonValue F) :=
  [("edge_id", .str (Stdlib.str edge.edge_id)),
    ("source_node_id", .str (Stdlib.str edge.source_node_id)),
    ("target_node_id", .str (Stdlib.str edge.target_node_id)), ("kind", .str edge.kind.value),
    ("direction", optional (edge.direction.map (·.value))),
    ("allowed_message_types", texts (edge.allowed_message_types.map (·.value))),
    ("crosses_boundary_id", optional edge.crosses_boundary_id),
    ("description", .str edge.description), ("priority", .int edge.priority),
    ("metadata", .dict edge.metadata.items)]

def CoordinationPath.to_dict (path : CoordinationPath Uuid F) : List (String × JsonValue F) :=
  [("path_id", .str path.path_id), ("node_ids", ids path.node_ids),
    ("description", .str path.description), ("metadata", .dict path.metadata.items)]

def EscalationPath.to_dict (path : EscalationPath Uuid F) : List (String × JsonValue F) :=
  [("path_id", .str path.path_id), ("node_ids", ids path.node_ids),
    ("seniority_ordering", texts path.seniority_ordering), ("description", .str path.description),
    ("metadata", .dict path.metadata.items)]

def AuthorityBoundary.to_dict (boundary : AuthorityBoundary Uuid F) :
    List (String × JsonValue F) :=
  [("boundary_id", .str boundary.boundary_id), ("kind", .str boundary.kind.value),
    ("display_name", .str boundary.display_name), ("member_node_ids", ids boundary.member_node_ids),
    ("crossing", .str boundary.crossing.value),
    ("allowed_crossing_pairs", .list (boundary.allowed_crossing_pairs.map fun pair =>
      ids [pair.1, pair.2])),
    ("metadata", .dict boundary.metadata.items)]

def Arguments.to_dict (args : Arguments Uuid F) : List (String × JsonValue F) :=
  [("topology_id", .str (Stdlib.str args.topology_id)), ("name", .str args.name),
    ("version", .str args.version), ("max_chain_depth", .int args.max_chain_depth),
    ("description", .str args.description), ("nodes", .list (args.nodes.map fun n => .dict n.to_dict)),
    ("edges", .list (args.edges.map fun e => .dict e.to_dict)),
    ("paths", .list (args.paths.map fun p => .dict p.to_dict)),
    ("escalation_paths", .list (args.escalation_paths.map fun p => .dict p.to_dict)),
    ("boundaries", .list (args.boundaries.map fun b => .dict b.to_dict)),
    ("metadata", .dict args.metadata.items)]

end

end declared

end operious.coordination
