-- Which topologies a tenant can come to have: those without a cycle, each of which loads as it was
-- accepted.
import Operious.Tenant.TopologyLoading

namespace operious.tenant

open depth_first effects
open operious.agents.tools (JsonValue JsonObject)
open operious.arbitration (TextRepr)
open operious.coordination
open operious.governance (PyException)

/-! ## Cycles of the declared edges -/

section cycles

variable {Uuid F : Type} [DecidableEq Uuid] [Stdlib Uuid] [TextRepr]

def Leads (args : declared.Arguments Uuid F) (a b : Uuid) : Prop :=
  ∃ edge ∈ args.edges, edge.source_node_id = a ∧ edge.target_node_id = b

/-- The declared edges have a directed cycle. -/
def HasCycle (args : declared.Arguments Uuid F) : Prop :=
  ∃ node_id, Relation.TransGen (Leads args) node_id node_id

def node_ids (args : declared.Arguments Uuid F) : List Uuid := args.nodes.map (·.node_id)

omit [Stdlib Uuid] [TextRepr] in
theorem edge_iff (args : declared.Arguments Uuid F) (a b : Uuid) :
    Edge (next_node_ids args.edges) a b ↔ Leads args a b := by
  simp [Edge, next_node_ids, Leads, and_assoc]

omit [Stdlib Uuid] [TextRepr] in
theorem onCycle_next (args : declared.Arguments Uuid F) (node_id : Uuid) :
    OnCycle (next_node_ids args.edges) node_id ↔ Relation.TransGen (Leads args) node_id node_id := by
  have h : Edge (next_node_ids args.edges) = Leads args := by
    funext a b
    exact propext (edge_iff args a b)
  unfold OnCycle
  rw [h]

omit [TextRepr] in
theorem of_forM {α : Type} {check : α → Except PyException Unit} {l : List α}
    (h : l.forM check = .ok ()) : ∀ a ∈ l, check a = .ok () := by
  induction l with
  | nil => exact fun a ha => absurd ha List.not_mem_nil
  | cons a l ih =>
    rw [List.forM_eq_forM, List.forM_cons] at h
    obtain ⟨⟨⟩, ha, h⟩ := bind_eq_ok.mp h
    exact List.forall_mem_cons.mpr ⟨ha, ih h⟩

omit [TextRepr] in
theorem forM_of_all {α : Type} {check : α → Except PyException Unit} {l : List α}
    (h : ∀ a ∈ l, check a = .ok ()) : l.forM check = .ok () := by
  induction l with
  | nil => rfl
  | cons a l ih =>
    obtain ⟨ha, hl⟩ := List.forall_mem_cons.mp h
    rw [List.forM_eq_forM, List.forM_cons, ha]
    exact ih hl

theorem ends_mem (topology : declared.CoordinationTopology Uuid F)
    {edge : declared.CoordinationEdge Uuid F} (h : edge ∈ topology.edges) :
    edge.source_node_id ∈ node_ids topology.toArguments ∧
      edge.target_node_id ∈ node_ids topology.toArguments := by
  have haccepted := topology.accepted
  unfold TopologyDeclaration.post_init at haccepted
  dsimp only at haccepted
  split_ifs at haccepted
  obtain ⟨⟨⟩, hedges, -⟩ := bind_eq_ok.mp haccepted
  have hcheck := of_forM hedges edge.toCoordinationEdge (List.mem_map_of_mem h)
  have hids : topology.declaration.nodes.map (·.node_id) = node_ids topology.toArguments := by
    simp only [declared.Arguments.declaration, List.map_map]
    rfl
  rw [hids] at hcheck
  unfold TopologyDeclaration.check_edge at hcheck
  split_ifs at hcheck with hsource htarget
  exact ⟨hsource, htarget⟩

theorem hasCycle_iff (topology : declared.CoordinationTopology Uuid F) :
    HasCycle topology.toArguments ↔
      ¬ Acyclic (next_node_ids topology.edges) (node_ids topology.toArguments) := by
  constructor
  · rintro ⟨v, hv⟩ hacyclic
    obtain ⟨w, hvw, -⟩ := Relation.TransGen.head'_iff.mp hv
    obtain ⟨edge, hedge, rfl, -⟩ := hvw
    exact hacyclic _ ⟨_, (ends_mem topology hedge).1, .refl⟩ ((onCycle_next _ _).mpr hv)
  · intro hcyclic
    unfold Acyclic at hcyclic
    push Not at hcyclic
    obtain ⟨v, -, hv⟩ := hcyclic
    exact ⟨v, (onCycle_next _ _).mp hv⟩

end cycles

/-! ## What is stored -/

section stored

variable {Uuid F : Type} [DecidableEq Uuid] [Stdlib Uuid] [TextRepr]
  {topologies : Topologies Uuid F} {record : TenantTopologyConfigurationRecord Uuid F} {room : Nat}

omit [DecidableEq Uuid] [Stdlib Uuid] [TextRepr] in
theorem mem_of_lift_bind {α β : Type} {x : Except PyException α}
    {f : α → Effect PyException (Topologies Uuid F) β}
    (h : record ∈ (run (lift x >>= f) topologies).2.values) :
    record ∈ topologies.values ∨
      ∃ a, x = .ok a ∧ record ∈ (run (f a) topologies).2.values := by
  rw [run_bind, run_lift] at h
  cases x with
  | error e => exact .inl h
  | ok a => exact .inr ⟨a, rfl, h⟩

variable {r : TenantTopologyConfigurationRecord Uuid F}

omit [Stdlib Uuid] [TextRepr] in
theorem mem_values_set {k : Uuid} (h : r ∈ (topologies.set k record).values) :
    r ∈ topologies.values ∨ r = record := by
  obtain ⟨k', hk'⟩ := (Dict.mem_values_iff _ _).mp h
  rw [Dict.get?_set] at hk'
  split at hk'
  · exact .inr (Option.some.inj hk').symm
  · exact .inl ((Dict.mem_values_iff _ _).mpr ⟨k', hk'⟩)

variable {tenant_id : String}

omit [Stdlib Uuid] [TextRepr] in
theorem mem_of_save
    (h : r ∈ (run (save_topology_configuration record tenant_id) topologies).2.values) :
    r ∈ topologies.values ∨ r = record := by
  unfold save_topology_configuration at h
  obtain hold | ⟨-, -, h⟩ := mem_of_lift_bind h
  · exact .inl hold
  · rw [run_bind_ok (run_get _)] at h
    split at h
    · rw [run_throw] at h
      exact .inl h
    · rw [run_modify] at h
      exact mem_values_set h

theorem mem_of_configure {configured_by : String} {topology_name : Option String}
    {topology : declared.CoordinationTopology Uuid F} {status : TenantTopologyStatus}
    {now : Instant}
    (h : record ∈ (run (configure_topology room tenant_id topology configured_by topology_name status
      now) topologies).2.values) :
    record ∈ topologies.values ∨
      (record.topology = .dict topology.to_dict ∧
        assert_topology_is_dag room topology.toArguments = .ok ()) := by
  unfold configure_topology at h
  obtain hold | ⟨name, -, h⟩ := mem_of_lift_bind h
  · exact .inl hold
  obtain hold | ⟨⟨⟩, hdag, h⟩ := mem_of_lift_bind h
  · exact .inl hold
  obtain hold | ⟨config_id, -, h⟩ := mem_of_lift_bind h
  · exact .inl hold
  rw [run_bind_ok (run_get _)] at h
  obtain hold | ⟨configured_by, -, h⟩ := mem_of_lift_bind h
  · exact .inl hold
  rw [run_bind_state (fun _ _ => rfl)] at h
  obtain hold | rfl := mem_of_save h
  · exact .inl hold
  · exact .inr ⟨rfl, hdag⟩

theorem not_hasCycle_of_assert {topology : declared.CoordinationTopology Uuid F}
    (h : assert_topology_is_dag room topology.toArguments = .ok ()) :
    ¬ HasCycle topology.toArguments := by
  unfold assert_topology_is_dag at h
  split at h
  · rename_i hsearch
    exact fun hcycle => (hasCycle_iff topology).mp hcycle (search_ok hsearch)
  · cases h
  · cases h

variable [Conversions Uuid F]

/-- A record is that of an acyclic topology that some request gave. -/
def Accepted (requests : List (TopologyRequest F))
    (record : TenantTopologyConfigurationRecord Uuid F) : Prop :=
  ∃ request ∈ requests, ∃ topology : declared.CoordinationTopology Uuid F,
    coordination_topology_from_mapping request.topology = .ok topology ∧
      record.topology = .dict topology.to_dict ∧ ¬ HasCycle topology.toArguments

theorem accepted_of_request {requests : List (TopologyRequest F)} {request : TopologyRequest F}
    (hall : ∀ r ∈ topologies.values, Accepted requests r) (hrequest : request ∈ requests) :
    ∀ r ∈ (run (configure_topology_from_mapping room request) topologies).2.values,
      Accepted requests r := by
  intro r hr
  obtain hold | ⟨topology, htopology, hr⟩ := mem_of_lift_bind hr
  · exact hall r hold
  · obtain hold | ⟨hmapping, hdag⟩ := mem_of_configure hr
    · exact hall r hold
    · exact ⟨request, hrequest, topology, htopology, hmapping, not_hasCycle_of_assert hdag⟩

theorem accepted_of_configured {requests served : List (TopologyRequest F)}
    (hserved : ∀ request ∈ served, request ∈ requests)
    (hall : ∀ r ∈ topologies.values, Accepted requests r) :
    ∀ r ∈ (configured room topologies served).values, Accepted requests r := by
  induction served generalizing topologies with
  | nil => exact hall
  | cons request served ih =>
    obtain ⟨hrequest, hserved⟩ := List.forall_mem_cons.mp hserved
    exact ih hserved (accepted_of_request hall hrequest)

omit [Stdlib Uuid] [TextRepr] [DecidableEq Uuid] [Conversions Uuid F] in
theorem mem_of_resolve
    (h : resolve_active_topology_configuration topologies tenant_id = some record) :
    record ∈ topologies.values := by
  unfold resolve_active_topology_configuration at h
  split at h
  · rename_i r hactive
    cases h
    have hmem : record ∈ active_of topologies tenant_id := by
      rw [hactive]
      exact List.mem_cons_self
    exact List.mem_of_mem_filter hmem
  · cases h

end stored

/-! ## What the claim of a stored topology comes to -/

section loading

variable {Uuid F : Type} [DecidableEq Uuid] [Stdlib Uuid] [TextRepr] [Conversions Uuid F]

def cycleError : PyException :=
  ⟨"TenantTopologyCycleError", "tenant topology contains a directed cycle"⟩

/-- The check finds the cycles, and nothing else keeps a topology out; what was read loads again. -/
structure LoadsAsDeclared (room : Nat) (topology : declared.CoordinationTopology Uuid F) : Prop where
  cycle_iff : assert_topology_is_dag room topology.toArguments = .error cycleError ↔
    HasCycle topology.toArguments
  only_cycle : ∀ exc, assert_topology_is_dag room topology.toArguments = .error exc →
    exc = cycleError
  loads : ∀ raw : JsonValue F, coordination_topology_from_mapping raw = .ok topology →
    coordination_topology_from_mapping (.dict topology.to_dict : JsonValue F) = .ok topology

/-- The interpreter's stack holds the search through the declared edges. -/
def Fits (room : Nat) (args : declared.Arguments Uuid F) : Prop :=
  ¬ TooDeep (next_node_ids args.edges) room (node_ids args)

omit [Conversions Uuid F] in
theorem fits_of_length {room : Nat} {topology : declared.CoordinationTopology Uuid F}
    (h : topology.nodes.length < room) : Fits room topology.toArguments := by
  refine not_tooDeep_of_length (fun _ h => h) (fun n c hc => ?_) (by simpa [node_ids] using h)
  obtain ⟨edge, hedge, rfl⟩ := List.mem_map.mp hc
  exact (ends_mem topology (List.mem_of_mem_filter hedge)).2

omit [Conversions Uuid F] in
theorem assert_exact_iff (room : Nat) (topology : declared.CoordinationTopology Uuid F) :
    ((assert_topology_is_dag room topology.toArguments = .error cycleError ↔
        HasCycle topology.toArguments) ∧
      ∀ exc, assert_topology_is_dag room topology.toArguments = .error exc → exc = cycleError) ↔
      Fits room topology.toArguments := by
  unfold Fits
  rw [← search_exact_iff, hasCycle_iff]
  unfold assert_topology_is_dag
  change _ ↔ (search (next_node_ids topology.edges) room (topology.nodes.map (·.node_id)) = _ ↔ _) ∧
    search (next_node_ids topology.edges) room (topology.nodes.map (·.node_id)) ≠ _
  cases search (next_node_ids topology.edges) room (topology.nodes.map (·.node_id)) with
  | ok finished => simp
  | error failure => cases failure <;> simp [cycleError]

/-- A topology of fewer nodes than calls fit on the stack is refused for a cycle only, and loads as declared. -/
theorem small_topologies_load [LawfulConversions Uuid F] {room : Nat}
    {topology : declared.CoordinationTopology Uuid F} (h : topology.nodes.length < room) :
    LoadsAsDeclared room topology := by
  obtain ⟨hcycle, honly⟩ := (assert_exact_iff room topology).mpr (fits_of_length h)
  exact ⟨hcycle, honly, fun _ => topology_round_trip⟩

/-- Topologies are checked exactly where the search fits on the stack, and then load as declared. In
every run each configuration that is active loads as the topology that some request gave. -/
theorem topologies_load [LawfulConversions Uuid F] :
    (∀ (room : Nat) (topology : declared.CoordinationTopology Uuid F),
      LoadsAsDeclared room topology ↔ Fits room topology.toArguments) ∧
    ∀ (room : Nat) (requests : List (TopologyRequest F)) (tenant_id : String),
      let topologies : Topologies Uuid F := configured room Dict.empty requests
      match resolve_active_topology_configuration topologies tenant_id with
      | none => load_active_coordination_topology topologies tenant_id = .ok none
      | some _ => ∃ request ∈ requests, ∃ topology : declared.CoordinationTopology Uuid F,
          coordination_topology_from_mapping request.topology = .ok topology ∧
          ¬ HasCycle topology.toArguments ∧
          load_active_coordination_topology topologies tenant_id = .ok (some topology) := by
  refine ⟨fun room topology => ?_, fun room requests tenant_id => ?_⟩
  · rw [← assert_exact_iff]
    exact ⟨fun h => ⟨h.cycle_iff, h.only_cycle⟩, fun h => ⟨h.1, h.2, fun _ => topology_round_trip⟩⟩
  · intro topologies
    unfold load_active_coordination_topology
    cases hresolve : resolve_active_topology_configuration topologies tenant_id with
    | none => rfl
    | some record =>
      have hempty : ∀ r ∈ (Dict.empty : Topologies Uuid F).values, Accepted requests r :=
        fun r hr => absurd hr List.not_mem_nil
      obtain ⟨request, hrequest, topology, hread, hmapping, hcycle⟩ :=
        accepted_of_configured (fun _ h => h) hempty record (mem_of_resolve hresolve)
      refine ⟨request, hrequest, topology, hread, hcycle, ?_⟩
      change (coordination_topology_from_mapping record.topology).map some = _
      rw [hmapping, topology_round_trip hread]
      rfl

end loading

/-! ## Long chains -/

section chains

@[reducible] def numbers : Stdlib Nat where
  uuid _ := 0
  uuid5 _ name := name.length
  str := Nat.repr
  isoformat := Int.repr
  fromisoformat _ := none
  parseInt _ := none
  lower := id

attribute [local instance] numbers

@[reducible] def readers : Conversions Nat Unit where
  str
    | .str s => .ok s
    | .int i => .ok i.repr
    | _ => .ok ""
  int
    | .int i => .ok i
    | _ => .error ⟨"TypeError", "int() argument must be a string or a real number"⟩
  uuid text :=
    if !text.isEmpty && text.toList.all Char.isDigit then .ok (Nat.ofDigitChars 10 text.toList 0)
    else .error ⟨"ValueError", "badly formed hexadecimal UUID string"⟩

attribute [local instance] readers

theorem isDigit_of_mem_repr {n : Nat} {c : Char} (h : c ∈ n.repr.toList) : c.isDigit = true := by
  rw [Nat.toList_repr] at h
  exact Nat.isDigit_of_mem_toDigits (by decide) (by decide) h

theorem repr_nonempty (n : Nat) : n.repr.isEmpty = false := by
  rw [String.isEmpty_eq_false_iff]
  intro h
  have hlist := congrArg String.toList h
  rw [Nat.toList_repr] at hlist
  exact Nat.toDigits_ne_nil hlist

theorem not_space_of_isDigit {c : Char} (h : c.isDigit = true) : isSpace c = false := by
  have hrange : 48 ≤ c.toNat ∧ c.toNat ≤ 57 := by
    simpa [Char.isDigit, UInt32.le_iff_toNat_le] using h
  simp only [isSpace]
  grind

theorem lawful_readers : LawfulConversions Nat Unit where
  str_str _ := rfl
  int_int _ := rfl
  uuid_str n := by
    have hdigits : n.repr.toList.all Char.isDigit = true :=
      List.all_eq_true.mpr fun _ hc => isDigit_of_mem_repr hc
    have hread : Nat.ofDigitChars 10 n.repr.toList 0 = n := by
      simp [Nat.repr]
    change (if !n.repr.isEmpty && n.repr.toList.all Char.isDigit then _ else _) = _
    rw [repr_nonempty, hdigits]
    exact congrArg Except.ok hread
  str_plain n :=
    ⟨strip_eq_self fun _ hc => not_space_of_isDigit (isDigit_of_mem_repr hc), repr_nonempty n⟩

/-! ### A chain of nodes -/

def chainNode (n : Nat) : declared.CoordinationNode Nat Unit where
  node_id := n
  participant_id := n.repr
  kind := .agent
  display_name := ""
  tenant_id := none
  domain_id := none
  environment_id := none
  metadata := Dict.empty

def chainEdge (n : Nat) : declared.CoordinationEdge Nat Unit where
  edge_id := n
  source_node_id := n
  target_node_id := n + 1
  kind := .peer
  description := ""
  metadata := Dict.empty

/-- A chain of `n + 1` nodes. -/
def chainArguments (n : Nat) : declared.Arguments Nat Unit where
  topology_id := 0
  name := "chain"
  nodes := (List.range (n + 1)).map chainNode
  edges := (List.range n).map chainEdge
  paths := []
  escalation_paths := []
  boundaries := []
  max_chain_depth := 4
  version := "v1"
  description := ""
  metadata := Dict.empty

theorem chain_accepted (n : Nat) : (chainArguments n).declaration.post_init = .ok () := by
  have hids : (chainArguments n).declaration.nodes.map (·.node_id) = List.range (n + 1) := by
    simp [chainArguments, declared.Arguments.declaration, chainNode, Function.comp_def]
  have hparticipants : ((chainArguments n).declaration.nodes.map (·.participant_id)).Nodup := by
    simp only [chainArguments, declared.Arguments.declaration, List.map_map, Function.comp_def,
      chainNode]
    exact List.nodup_range.map fun _ _ h => repr_inj h
  have hedges : (chainArguments n).declaration.edges.forM
      (TopologyDeclaration.check_edge (List.range (n + 1))) = .ok () := by
    refine forM_of_all fun edge hedge => ?_
    simp only [chainArguments, declared.Arguments.declaration, List.map_map, List.mem_map,
      List.mem_range] at hedge
    obtain ⟨k, hk, rfl⟩ := hedge
    unfold TopologyDeclaration.check_edge
    rw [if_neg, if_neg]
    · simp [chainEdge]
      omega
    · simp [chainEdge]
      omega
  unfold TopologyDeclaration.post_init
  rw [hids]
  dsimp only
  rw [if_neg, if_neg, if_neg, if_neg, hedges]
  · rfl
  · exact not_not_intro hparticipants
  · exact not_not_intro List.nodup_range
  · exact (by decide : ¬ (4 : Int) ≤ 0)
  · simp [chainArguments, declared.Arguments.declaration]

def chain (n : Nat) : declared.CoordinationTopology Nat Unit := ⟨chainArguments n, chain_accepted n⟩

theorem a_chain_of_four_loads : LoadsAsDeclared 5 (chain 3) :=
  have := lawful_readers
  small_topologies_load (by decide)

theorem next_of_chain {n k : Nat} (h : k < n) : next_node_ids (chain n).edges k = [k + 1] := by
  have hfilter : (List.range n).filter (fun m => m = k) = [k] := by
    rw [List.filter_eq, List.nodup_range.count, if_pos (List.mem_range.mpr h)]
    rfl
  unfold next_node_ids
  change (((List.range n).map chainEdge).filter fun edge => edge.source_node_id = k).map _ = _
  rw [List.filter_map]
  change (((List.range n).filter fun m => m = k).map chainEdge).map _ = _
  rw [hfilter]
  rfl

theorem opened_of_chain {n k : Nat} (h : k ≤ n) :
    Opened (next_node_ids (chain n).edges) (node_ids (chain n).toArguments) []
      (List.range (k + 1)).reverse := by
  induction k with
  | zero =>
    have hroots : candidates (next_node_ids (chain n).edges) (node_ids (chain n).toArguments) [] =
        [] ++ 0 :: (List.range n).map (· + 1) := by
      change ((List.range (n + 1)).map chainNode).map (·.node_id) = _
      rw [List.map_map, List.range_succ_eq_map]
      simp [chainNode]
    exact Opened.nil.cons hroots List.not_mem_nil acyclic_nil from_nil
  | succ k ih =>
    have hnext : candidates (next_node_ids (chain n).edges) (node_ids (chain n).toArguments)
        (List.range (k + 1)).reverse = [] ++ (k + 1) :: [] := by
      rw [List.range_succ, List.reverse_append]
      exact next_of_chain h
    have hnew : k + 1 ∉ (List.range (k + 1)).reverse := by simp
    have hopened := (ih (by omega)).cons hnext hnew acyclic_nil from_nil
    rw [List.range_succ, List.reverse_append]
    exact hopened

theorem not_hasCycle_chain (n : Nat) : ¬ HasCycle (chainArguments n) := by
  rintro ⟨v, hv⟩
  have hlt : ∀ a b, Relation.TransGen (Leads (chainArguments n)) a b → a < b := by
    have hstep : ∀ a b, Leads (chainArguments n) a b → a < b := by
      rintro a b ⟨edge, hedge, rfl, rfl⟩
      obtain ⟨k, -, rfl⟩ := List.mem_map.mp hedge
      exact Nat.lt_succ_self k
    intro a b h
    induction h with
    | single h => exact hstep _ _ h
    | tail _ h ih => exact ih.trans (hstep _ _ h)
  exact Nat.lt_irrefl v (hlt v v hv)

theorem chain_too_deep (room : Nat) : ¬ Fits (room + 1) (chainArguments (room + 1)) := by
  intro h
  refine h ⟨[], _, @opened_of_chain (room + 1) room (by omega), by simp, ?_⟩
  rw [List.range_succ, List.reverse_append]
  change next_node_ids (chain (room + 1)).edges room ≠ []
  rw [next_of_chain (Nat.lt_succ_self room)]
  exact List.cons_ne_nil _ _

attribute [local instance] lawful_readers

/-- Three nodes in a row load again. -/
theorem three_nodes_load : LoadsAsDeclared 3 (chain 2) := by
  refine (topologies_load.1 3 (chain 2)).mpr fun hdeep => ?_
  have hsearch := search_overflow.mpr hdeep
  revert hsearch
  decide +kernel

/-- A chain of a thousand and one nodes is deeper than the interpreter's stack. -/
theorem a_long_chain_is_refused :
    ¬ HasCycle (chainArguments 1000) ∧ ¬ LoadsAsDeclared 1000 (chain 1000) := by
  refine ⟨not_hasCycle_chain 1000, fun h => ?_⟩
  have hexact := (assert_exact_iff 1000 (chain 1000)).mp ⟨h.cycle_iff, h.only_cycle⟩
  exact chain_too_deep 999 hexact

end chains

end operious.tenant
