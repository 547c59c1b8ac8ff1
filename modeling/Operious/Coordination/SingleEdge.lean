-- Whether a dispatch that the topology allows goes along one edge that authorises it. The path and the
-- boundaries are checked over the edges between the nodes each on its own.
import Operious.Coordination.TopologyRuntime

namespace operious.coordination

open operious.agents.tools (sorted)
open operious.arbitration (TextRepr)

/-! ## The aggregation -/

section

variable {Uuid : Type} {findings : List (CoordinationTopologyFinding Uuid)}

variable {d : CoordinationTopologyDecision}

theorem precedence_lt_allowed :
    d.precedence < CoordinationTopologyDecision.allowed.precedence ↔ d ≠ .allowed := by
  cases d <;> decide

theorem foldl_lead_of_allowed (h : ∀ f ∈ findings, f.decision = .allowed) :
    findings.foldl lead (.allowed, none) = (.allowed, none) := by
  induction findings with
  | nil => rfl
  | cons f rest ih =>
    have hkeep : lead (.allowed, none) f = (.allowed, none) := by
      rw [lead, h f List.mem_cons_self, if_neg (Nat.lt_irrefl _)]
    rw [List.foldl_cons, hkeep]
    exact ih fun g hg => h g (List.mem_cons_of_mem _ hg)

theorem foldl_lead_le (acc : CoordinationTopologyDecision × Option (CoordinationTopologyFinding Uuid)) :
    (findings.foldl lead acc).1.precedence ≤ acc.1.precedence ∧
      ∀ f ∈ findings, (findings.foldl lead acc).1.precedence ≤ f.decision.precedence := by
  induction findings generalizing acc with
  | nil => exact ⟨Nat.le_refl _, fun f hf => absurd hf List.not_mem_nil⟩
  | cons f rest ih =>
    obtain ⟨hacc, hrest⟩ := ih (lead acc f)
    have hlead : (lead acc f).1.precedence ≤ acc.1.precedence ∧
        (lead acc f).1.precedence ≤ f.decision.precedence := by
      unfold lead
      split
      · rename_i hlt
        exact ⟨Nat.le_of_lt hlt, Nat.le_refl _⟩
      · rename_i hle
        exact ⟨Nat.le_refl _, Nat.not_lt.mp hle⟩
    refine ⟨Nat.le_trans hacc hlead.1, fun g hg => ?_⟩
    rcases List.mem_cons.mp hg with rfl | hg
    · exact Nat.le_trans hacc hlead.2
    · exact hrest g hg

theorem build_topology_decision_allowed :
    (build_topology_decision findings).1 = .allowed ↔ ∀ f ∈ findings, f.decision = .allowed := by
  cases findings with
  | nil => exact ⟨fun _ f hf => absurd hf List.not_mem_nil, fun _ => rfl⟩
  | cons first rest =>
    change ((first :: rest).foldl lead (.allowed, none)).1 = .allowed ↔ _
    constructor
    · intro hallowed f hf
      by_contra hnot
      have hle := (foldl_lead_le (.allowed, none)).2 f hf
      rw [hallowed] at hle
      exact absurd (precedence_lt_allowed.mpr hnot) (Nat.not_lt.mpr hle)
    · intro hall
      rw [foldl_lead_of_allowed hall]

theorem matched_edge_of_allowed {first : CoordinationTopologyFinding Uuid}
    {rest : List (CoordinationTopologyFinding Uuid)} (h : ∀ f ∈ first :: rest, f.decision = .allowed) :
    (build_topology_decision (first :: rest)).2.1 = first.edge_id := by
  change (((first :: rest).foldl lead (.allowed, none)).2.getD first).edge_id = _
  rw [foldl_lead_of_allowed h]
  rfl

end

section

variable {Uuid : Type} [DecidableEq Uuid] [Stdlib Uuid] [TextRepr]
variable (topology : CoordinationTopology Uuid) (request : CoordinationTopologyEvaluationRequest Uuid)

/-! ## What authorises a dispatch -/

/-- The edge authorises the dispatch on its own: it is declared between the nodes, it accepts the
dispatch, and it carries the id of every boundary between them that takes declared edges. -/
structure Authorises (sender recipient : CoordinationNode Uuid) (edge : CoordinationEdge Uuid) :
    Prop where
  declared : edge ∈ topology.edges_between sender.node_id recipient.node_id
  accepts : accepts request edge = true
  carries : ∀ boundary ∈ topology.boundaries,
    separates boundary sender.node_id recipient.node_id = true → boundary.crossing = .declared_edges →
      edge.crosses_boundary_id = some boundary.boundary_id

/-- The dispatch is between the nodes of declared participants, not too deep, and no escalation, and
the boundaries that list pairs or forbid crossings do not stand in its way. -/
structure InOrder (sender recipient : CoordinationNode Uuid) : Prop where
  sent : topology.node_by_participant request.sender_id = some sender
  received : topology.node_by_participant request.recipient_id = some recipient
  depth : request.chain_depth < topology.max_chain_depth
  plain : escalation_shaped topology request sender recipient = false
  listed : ∀ boundary ∈ topology.boundaries,
    separates boundary sender.node_id recipient.node_id = true → boundary.crossing = .allowlist →
      (sender.node_id, recipient.node_id) ∈ boundary.allowed_crossing_pairs
  unforbidden : ∀ boundary ∈ topology.boundaries,
    separates boundary sender.node_id recipient.node_id = true → boundary.crossing ≠ .forbidden

def FullyAuthorised : Prop :=
  ∃ sender recipient edge, InOrder topology request sender recipient ∧
    Authorises topology request sender recipient edge

/-- The verdict follows one edge: it allows exactly the dispatches that one edge authorises in full, and
the edge that it names is such a one. -/
structure FollowsOneEdge (result : CoordinationTopologyEvaluationResult Uuid) : Prop where
  allowed_iff : result.aggregate_decision = .allowed ↔ FullyAuthorised topology request
  matched : result.aggregate_decision = .allowed → ∃ sender recipient edge,
    InOrder topology request sender recipient ∧ Authorises topology request sender recipient edge ∧
      result.matched_edge_id = some edge.edge_id

/-- For each boundary between the nodes that takes declared edges, some edge between them carries its
id, whatever it accepts. -/
def CarriedBySome (sender recipient : CoordinationNode Uuid) : Prop :=
  ∀ boundary ∈ topology.boundaries,
    separates boundary sender.node_id recipient.node_id = true → boundary.crossing = .declared_edges →
      ∃ edge ∈ topology.edges_between sender.node_id recipient.node_id,
        edge.crosses_boundary_id = some boundary.boundary_id

/-- The first edge that accepts the dispatch, by its priority, has the id of one that carries the
boundaries as well, unless something else stops the dispatch. -/
def PickedCarries : Prop :=
  ∀ sender recipient picked, InOrder topology request sender recipient →
    (ordered (topology.edges_between sender.node_id recipient.node_id)).find? (accepts request) =
      some picked →
    CarriedBySome topology sender recipient →
    ∃ edge, Authorises topology request sender recipient edge ∧ edge.edge_id = picked.edge_id

/-! ## What each evaluator finds -/

variable {topology request} {sender recipient : CoordinationNode Uuid}

omit [DecidableEq Uuid] [Stdlib Uuid] [TextRepr] in
theorem mem_ordered {edges : List (CoordinationEdge Uuid)} {edge : CoordinationEdge Uuid} :
    edge ∈ ordered edges ↔ edge ∈ edges :=
  List.mem_insertionSort _

variable {picked : CoordinationEdge Uuid}

theorem allowed_path_of_picked (hs : topology.node_by_participant request.sender_id = some sender)
    (hr : topology.node_by_participant request.recipient_id = some recipient)
    (hpicked : (ordered (topology.edges_between sender.node_id recipient.node_id)).find?
      (accepts request) = some picked) :
    ∃ f, allowed_path topology request = [f] ∧ f.decision = .allowed ∧
      f.edge_id = some picked.edge_id := by
  unfold allowed_path
  simp only [hs, hr]
  split
  · rename_i hempty
    rw [hempty] at hpicked
    cases hpicked
  · simp only [hpicked]
    exact ⟨_, rfl, rfl, rfl⟩

theorem picked_of_allowed_path (h : ∀ f ∈ allowed_path topology request, f.decision = .allowed) :
    ∃ sender recipient picked, topology.node_by_participant request.sender_id = some sender ∧
      topology.node_by_participant request.recipient_id = some recipient ∧
      (ordered (topology.edges_between sender.node_id recipient.node_id)).find? (accepts request) =
        some picked := by
  unfold allowed_path at h
  cases hs : topology.node_by_participant request.sender_id with
  | none =>
    simp only [hs] at h
    cases h _ List.mem_cons_self
  | some sender =>
    cases hr : topology.node_by_participant request.recipient_id with
    | none =>
      simp only [hs, hr] at h
      cases h _ List.mem_cons_self
    | some recipient =>
      cases hpicked : (ordered (topology.edges_between sender.node_id recipient.node_id)).find?
        (accepts request) with
      | some picked => exact ⟨sender, recipient, picked, rfl, rfl, hpicked⟩
      | none =>
        simp only [hs, hr] at h
        split at h
        · cases h _ List.mem_cons_self
        · simp only [hpicked] at h
          have hdenied := h _ List.mem_cons_self
          unfold refusedPath at hdenied
          split at hdenied <;> cases hdenied

theorem boundary_isolation_allowed
    (hs : topology.node_by_participant request.sender_id = some sender)
    (hr : topology.node_by_participant request.recipient_id = some recipient) :
    (∀ f ∈ boundary_isolation topology request, f.decision = .allowed) ↔
      ∀ boundary ∈ topology.boundaries,
        separates boundary sender.node_id recipient.node_id = true →
          boundary.allows_crossing sender.node_id recipient.node_id
            ((topology.edges_between sender.node_id recipient.node_id).any fun edge =>
              edge.crosses_boundary_id = some boundary.boundary_id) = true := by
  unfold boundary_isolation
  simp only [hs, hr, List.mem_map, List.mem_filter]
  constructor
  · intro h boundary hmem hseparates
    by_contra hnot
    have hfound := h _ ⟨boundary, ⟨hmem, hseparates⟩, rfl⟩
    rw [crossing, if_neg hnot] at hfound
    cases hfound
  · rintro h _ ⟨boundary, ⟨hmem, hseparates⟩, rfl⟩
    rw [crossing, if_pos (h boundary hmem hseparates)]

theorem chain_depth_allowed :
    (∀ f ∈ chain_depth topology request, f.decision = .allowed) ↔
      request.chain_depth < topology.max_chain_depth := by
  unfold chain_depth
  split
  · rename_i hlt
    exact ⟨fun _ => hlt, fun _ f hf => absurd hf List.not_mem_nil⟩
  · rename_i hnot
    exact ⟨fun h => (by cases h _ List.mem_cons_self), fun hlt => absurd hlt hnot⟩

theorem escalation_path_allowed
    (hs : topology.node_by_participant request.sender_id = some sender)
    (hr : topology.node_by_participant request.recipient_id = some recipient) :
    (∀ f ∈ escalation_path topology request, f.decision = .allowed) ↔
      escalation_shaped topology request sender recipient = false := by
  unfold escalation_path
  simp only [hs, hr]
  cases escalation_shaped topology request sender recipient with
  | false => simp
  | true =>
    simp only [Bool.not_true, Bool.false_eq_true, if_false, reduceCtorEq, iff_false]
    intro h
    split at h
    · cases h _ List.mem_cons_self
    · cases h _ List.mem_cons_self

omit [Stdlib Uuid] [TextRepr] in
theorem allows_crossing_iff {boundary : AuthorityBoundary Uuid} {source target : Uuid} {carried : Bool} :
    boundary.allows_crossing source target carried = true ↔
      (boundary.crossing = .allowlist → (source, target) ∈ boundary.allowed_crossing_pairs) ∧
      boundary.crossing ≠ .forbidden ∧ (boundary.crossing = .declared_edges → carried = true) := by
  unfold AuthorityBoundary.allows_crossing
  cases boundary.crossing <;> simp

/-! ## The verdict of the four -/

/-- What all four evaluators find. -/
def foundByAll (topology : CoordinationTopology Uuid)
    (request : CoordinationTopologyEvaluationRequest Uuid) : List (CoordinationTopologyFinding Uuid) :=
  allowed_path topology request ++ (boundary_isolation topology request ++
    (chain_depth topology request ++ escalation_path topology request))

theorem foundByAll_allowed : (∀ f ∈ foundByAll topology request, f.decision = .allowed) ↔
    ∃ sender recipient picked, InOrder topology request sender recipient ∧
      (ordered (topology.edges_between sender.node_id recipient.node_id)).find? (accepts request) =
        some picked ∧ CarriedBySome topology sender recipient := by
  simp only [foundByAll, List.forall_mem_append, chain_depth_allowed]
  constructor
  · rintro ⟨hpath, hboundaries, hdepth, hescalation⟩
    obtain ⟨sender, recipient, picked, hs, hr, hpicked⟩ := picked_of_allowed_path hpath
    have hcrossings := (boundary_isolation_allowed hs hr).mp hboundaries
    refine ⟨sender, recipient, picked, ⟨hs, hr, hdepth, (escalation_path_allowed hs hr).mp hescalation,
      fun b hb hb' => ?_, fun b hb hb' => ?_⟩, hpicked, fun b hb hb' hdeclared => ?_⟩
    · exact (allows_crossing_iff.mp (hcrossings b hb hb')).1
    · exact (allows_crossing_iff.mp (hcrossings b hb hb')).2.1
    · have hcarried := (allows_crossing_iff.mp (hcrossings b hb hb')).2.2 hdeclared
      obtain ⟨edge, hedge, hcarries⟩ := List.any_eq_true.mp hcarried
      exact ⟨edge, hedge, of_decide_eq_true hcarries⟩
  · rintro ⟨sender, recipient, picked, horder, hpicked, hcarried⟩
    obtain ⟨f, hfound, hallowed, -⟩ := allowed_path_of_picked horder.sent horder.received hpicked
    refine ⟨fun g hg => ?_, (boundary_isolation_allowed horder.sent horder.received).mpr ?_,
      horder.depth, (escalation_path_allowed horder.sent horder.received).mpr horder.plain⟩
    · rw [hfound, List.mem_singleton] at hg
      exact hg ▸ hallowed
    · intro b hb hb'
      refine allows_crossing_iff.mpr ⟨horder.listed b hb hb', horder.unforbidden b hb hb',
        fun hdeclared => ?_⟩
      obtain ⟨edge, hedge, hcarries⟩ := hcarried b hb hb' hdeclared
      exact List.any_eq_true.mpr ⟨edge, hedge, decide_eq_true hcarries⟩

def builtin_runtime (topology : CoordinationTopology Uuid) : CoordinationTopologyRuntime Uuid where
  max_chain_depth := topology.max_chain_depth
  evaluators := builtin_evaluators topology
  nonempty := List.cons_ne_nil _ _
  names_sorted := (by decide : sorted ["allowed_path", "boundary_isolation", "chain_depth",
    "escalation_path"] = ["allowed_path", "boundary_isolation", "chain_depth", "escalation_path"])
  names_distinct := (by decide : ["allowed_path", "boundary_isolation", "chain_depth",
    "escalation_path"].Nodup)

theorem run_builtin : run_evaluators request (builtin_evaluators topology) =
    (foundByAll topology request, none) := by
  simp [run_evaluators, builtin_evaluators, foundByAll]

variable (topology request) in
theorem result_builtin_allowed :
    ((builtin_runtime topology).resultOf request (builtin_evaluators topology)).aggregate_decision =
      .allowed ↔ ∀ f ∈ foundByAll topology request, f.decision = .allowed := by
  simp only [CoordinationTopologyRuntime.resultOf, run_builtin]
  exact build_topology_decision_allowed

theorem matched_builtin (hallowed : ∀ f ∈ foundByAll topology request, f.decision = .allowed)
    (horder : InOrder topology request sender recipient)
    (hpicked : (ordered (topology.edges_between sender.node_id recipient.node_id)).find?
      (accepts request) = some picked) :
    ((builtin_runtime topology).resultOf request (builtin_evaluators topology)).matched_edge_id =
      some picked.edge_id := by
  simp only [CoordinationTopologyRuntime.resultOf, run_builtin]
  obtain ⟨f, hfound, -, hedge⟩ := allowed_path_of_picked horder.sent horder.received hpicked
  unfold foundByAll at hallowed ⊢
  rw [hfound, List.singleton_append] at hallowed ⊢
  exact (matched_edge_of_allowed hallowed).trans hedge

/-- A dispatch that all four evaluators look at goes along one edge that authorises it in full, exactly
where the edge that is picked carries the boundaries, unless something else stops it. -/
theorem follows_one_edge_iff {around : EvaluationAround}
    {result : CoordinationTopologyEvaluationResult Uuid} (hall : request.evaluator_names = none)
    (hresult : ((builtin_runtime topology).evaluate around request).result = some result) :
    FollowsOneEdge topology request result ↔ PickedCarries topology request := by
  obtain ⟨-, -, evaluators, hevaluators, rfl⟩ :=
    CoordinationTopologyRuntime.evaluate_result.mp hresult
  rw [hall] at hevaluators
  cases hevaluators
  change FollowsOneEdge topology request
    ((builtin_runtime topology).resultOf request (builtin_evaluators topology)) ↔ _
  have hapex := result_builtin_allowed topology request
  constructor
  · intro hfollows sender recipient picked horder hpicked hcarried
    have hallowed := foundByAll_allowed.mpr ⟨sender, recipient, picked, horder, hpicked, hcarried⟩
    obtain ⟨sender', recipient', edge, horder', hauthorises, hedge⟩ :=
      hfollows.matched (hapex.mpr hallowed)
    cases horder.sent.symm.trans horder'.sent
    cases horder.received.symm.trans horder'.received
    rw [matched_builtin hallowed horder hpicked] at hedge
    exact ⟨edge, hauthorises, (Option.some.inj hedge).symm⟩
  · intro hcarries
    constructor
    · constructor
      · intro hallowed
        obtain ⟨sender, recipient, picked, horder, hpicked, hcarried⟩ :=
          foundByAll_allowed.mp (hapex.mp hallowed)
        obtain ⟨edge, hauthorises, -⟩ := hcarries sender recipient picked horder hpicked hcarried
        exact ⟨sender, recipient, edge, horder, hauthorises⟩
      · rintro ⟨sender, recipient, edge, horder, hauthorises⟩
        refine hapex.mpr (foundByAll_allowed.mpr ?_)
        obtain ⟨picked, hpicked⟩ := Option.isSome_iff_exists.mp
          (List.find?_isSome.mpr ⟨edge, mem_ordered.mpr hauthorises.declared, hauthorises.accepts⟩)
        exact ⟨sender, recipient, picked, horder, hpicked, fun b hb hb' hdeclared =>
          ⟨edge, hauthorises.declared, hauthorises.carries b hb hb' hdeclared⟩⟩
    · intro hallowed
      have hall := hapex.mp hallowed
      obtain ⟨sender, recipient, picked, horder, hpicked, hcarried⟩ := foundByAll_allowed.mp hall
      obtain ⟨edge, hauthorises, hid⟩ := hcarries sender recipient picked horder hpicked hcarried
      refine ⟨sender, recipient, edge, horder, hauthorises, ?_⟩
      rw [matched_builtin hall horder hpicked, hid]

end

/-! ## Two edges between the same nodes -/

/-- The agent beyond the boundary takes requests along one edge, and the boundary is crossed by the other
one, which takes responses only. -/
def parallelTopology : CoordinationTopology String where
  nodes := [⟨"a", "agent:triage"⟩, ⟨"b", "agent:billing"⟩]
  edges := [
    { edge_id := "e1", source_node_id := "a", target_node_id := "b", kind := .peer
      allowed_message_types := [.request] },
    { edge_id := "e2", source_node_id := "a", target_node_id := "b", kind := .peer
      allowed_message_types := [.response], crosses_boundary_id := some "billing" }]
  boundaries := [
    { boundary_id := "billing", member_node_ids := ["b"], crossing := .declared_edges }]
  accepted := by decide

def billingRequest : CoordinationTopologyEvaluationRequest String where
  sender_id := "agent:triage"
  recipient_id := "agent:billing"
  direction := .agent_to_agent
  message_type := .request
  coordination_id := "c"
  coordination_message_id := "m"
  priority := 20

def billingResult : CoordinationTopologyEvaluationResult String :=
  (builtin_runtime parallelTopology).resultOf billingRequest (builtin_evaluators parallelTopology)

theorem follows_one_edge_iff_parallel :
    FollowsOneEdge parallelTopology billingRequest billingResult ↔
      PickedCarries parallelTopology billingRequest :=
  follows_one_edge_iff rfl (rfl : ((builtin_runtime parallelTopology).evaluate {} billingRequest).result = _)

/-- The request is let through by two edges, neither of which authorises it alone. -/
theorem parallel_edges_open :
    ((builtin_runtime parallelTopology).evaluate {} billingRequest).result = some billingResult ∧
      billingResult.aggregate_decision = .allowed ∧
      ¬ FollowsOneEdge parallelTopology billingRequest billingResult := by
  have hallowed : billingResult.aggregate_decision = .allowed := by decide
  refine ⟨rfl, hallowed, fun hfollows => ?_⟩
  obtain ⟨sender, recipient, edge, horder, hauthorises⟩ := hfollows.allowed_iff.mp hallowed
  have hsent : some ⟨"a", "agent:triage"⟩ = some sender := horder.sent
  have hreceived : some ⟨"b", "agent:billing"⟩ = some recipient := horder.received
  cases hsent
  cases hreceived
  have hcarries := hauthorises.carries _ List.mem_cons_self (by decide) rfl
  have hnone : ∀ e ∈ parallelTopology.edges_between "a" "b", accepts billingRequest e = true →
      e.crosses_boundary_id ≠ some "billing" := by
    decide
  exact hnone edge hauthorises.declared hauthorises.accepts hcarries

end operious.coordination
