-- A topology that was read from a mapping loads again from what is stored of it, and those with a cycle
-- are never stored.
import Operious.Tenant.Topologies

namespace operious.tenant

open operious.agents.tools (JsonValue JsonObject)
open operious.arbitration (TextRepr)
open operious.coordination
open operious.governance (PyException)

/-! ## What is read is read again -/

/-- What the readers rely on: a text is its own text, a whole number its own, and an id is read
from its text, which has no blanks around it. -/
class LawfulConversions (Uuid F : Type) [Stdlib Uuid] [Conversions Uuid F] : Prop where
  str_str : ∀ s, Conversions.str Uuid (.str s : JsonValue F) = .ok s
  int_int : ∀ i, Conversions.int Uuid (.int i : JsonValue F) = .ok i
  uuid_str : ∀ u : Uuid, Conversions.uuid F (Stdlib.str u) = .ok u
  str_plain : ∀ u : Uuid, strip (Stdlib.str u) = Stdlib.str u ∧ (Stdlib.str u).isEmpty = false

/-- A text as `_normalize_text` leaves it. -/
def Normal (t : String) : Prop := strip t = t ∧ t.isEmpty = false

theorem normalize_text_of_normal {t field_name : String} (h : Normal t) :
    normalize_text t field_name = .ok t := by
  unfold normalize_text
  rw [h.1, h.2]
  rfl

theorem normal_strip {raw : String} (h : (strip raw).isEmpty = false) : Normal (strip raw) :=
  ⟨strip_strip raw, h⟩

theorem normal_of_normalize {raw field_name t : String} (h : normalize_text raw field_name = .ok t) :
    Normal t := by
  unfold normalize_text at h
  split at h
  · cases h
  · rename_i hraw
    cases h
    exact normal_strip (Bool.eq_false_iff.mpr hraw)

theorem ofList_items {F : Type} (d : JsonObject F) : Dict.ofList d.items = d :=
  Dict.ext (Dict.items_ofList d.distinct)

theorem read_metadata_items {F : Type} (d : JsonObject F) :
    read_metadata (some (.dict d.items)) = .ok d := by
  unfold read_metadata
  exact congrArg _ (ofList_items d)

theorem mapM_map_ok {α β : Type} {f : β → Except PyException α} {g : α → β} {l : List α}
    (h : ∀ a ∈ l, f (g a) = .ok a) : (l.map g).mapM f = .ok l := by
  induction l with
  | nil => rfl
  | cons a l ih =>
    obtain ⟨ha, hl⟩ := List.forall_mem_cons.mp h
    rw [List.map_cons, List.mapM_cons, ha, ih hl]
    rfl

theorem mem_of_mapM {α β : Type} {f : β → Except PyException α} {items : List β} {l : List α}
    (h : items.mapM f = .ok l) : ∀ a ∈ l, ∃ item, f item = .ok a := by
  induction items generalizing l with
  | nil =>
    cases h
    exact fun a ha => absurd ha List.not_mem_nil
  | cons item items ih =>
    rw [List.mapM_cons] at h
    obtain ⟨a, ha, h⟩ := bind_eq_ok.mp h
    obtain ⟨as, has, h⟩ := bind_eq_ok.mp h
    cases h
    exact List.forall_mem_cons.mpr ⟨⟨item, ha⟩, ih has⟩

section kinds

variable [TextRepr]

theorem node_kind_value (kind : TopologyNodeKind) : node_kind kind.value = .ok kind := by
  cases kind <;> rfl

theorem edge_kind_value (kind : TopologyEdgeKind) : edge_kind kind.value = .ok kind := by
  cases kind <;> rfl

theorem boundary_kind_value (kind : TopologyBoundaryKind) : boundary_kind kind.value = .ok kind := by
  cases kind <;> rfl

theorem boundary_crossing_value (crossing : TopologyBoundaryCrossing) :
    boundary_crossing crossing.value = .ok crossing := by
  cases crossing <;> rfl

theorem coordination_direction_value (direction : CoordinationDirection) :
    coordination_direction direction.value = .ok direction := by
  cases direction <;> rfl

theorem coordination_message_type_value (message_type : CoordinationMessageType) :
    coordination_message_type message_type.value = .ok message_type := by
  cases message_type <;> rfl

end kinds

theorem normal_node_kind (kind : TopologyNodeKind) : Normal kind.value := by
  unfold Normal
  cases kind <;> decide

theorem normal_edge_kind (kind : TopologyEdgeKind) : Normal kind.value := by
  unfold Normal
  cases kind <;> decide

theorem normal_boundary_kind (kind : TopologyBoundaryKind) : Normal kind.value := by
  unfold Normal
  cases kind <;> decide

section fields

variable {Uuid F : Type} [Stdlib Uuid] [Conversions Uuid F] [LawfulConversions Uuid F]
  {raw : JsonObject F} {field_name : String}

theorem required_text_of_get {t : String} (h : raw.get? field_name = some (.str t)) (ht : Normal t) :
    required_text Uuid raw field_name = .ok t := by
  unfold required_text
  rw [h]
  change Conversions.str Uuid (.str t : JsonValue F) >>= _ = _
  rw [LawfulConversions.str_str]
  exact normalize_text_of_normal ht

omit [Stdlib Uuid] [LawfulConversions Uuid F] in
theorem normal_of_required {t : String} (h : required_text Uuid raw field_name = .ok t) :
    Normal t := by
  unfold required_text at h
  split at h
  · cases h
  · obtain ⟨text, -, h⟩ := bind_eq_ok.mp h
    exact normal_of_normalize h

theorem required_id_of_get {u : Uuid} (h : raw.get? field_name = some (.str (Stdlib.str u))) :
    required_id Uuid raw field_name = .ok u := by
  unfold required_id
  rw [required_text_of_get h (LawfulConversions.str_plain F u)]
  exact LawfulConversions.uuid_str u

theorem text_of_get {t default : String} (h : raw.get? field_name = some (.str t)) :
    text_of Uuid raw field_name default = .ok t := by
  unfold text_of
  rw [h]
  exact LawfulConversions.str_str t

theorem int_of_get {i default : Int} (h : raw.get? field_name = some (.int i)) :
    int_of Uuid raw field_name default = .ok i := by
  unfold int_of
  rw [h]
  exact LawfulConversions.int_int i

/-- An optional text as `_optional_text` leaves it. -/
def NormalOption (t : Option String) : Prop := ∀ s, t = some s → Normal s

theorem optional_text_optional {t : Option String} (h : NormalOption t) :
    optional_text Uuid (some (declared.optional t : JsonValue F)) = .ok t := by
  cases t with
  | none => rfl
  | some s =>
    obtain ⟨hstrip, hempty⟩ := h s rfl
    change Conversions.str Uuid (.str s : JsonValue F) >>= _ = _
    rw [LawfulConversions.str_str]
    change Except.ok (if (strip s).isEmpty then none else some (strip s)) = _
    rw [hstrip, hempty]
    rfl

omit [Stdlib Uuid] [LawfulConversions Uuid F] in
theorem normal_of_optional {value : Option (JsonValue F)} {t : Option String}
    (h : optional_text Uuid value = .ok t) : NormalOption t := by
  unfold optional_text at h
  split at h
  · cases h
    intro s hs
    cases hs
  · cases h
    intro s hs
    cases hs
  · obtain ⟨text, -, h⟩ := bind_eq_ok.mp h
    cases h
    intro s hs
    split at hs
    · cases hs
    · rename_i hempty
      cases hs
      exact normal_strip (Bool.eq_false_iff.mpr hempty)

theorem mapM_ids (l : List Uuid) :
    ((l.map Stdlib.str).map JsonValue.str).mapM (id_of Uuid (F := F)) = .ok l := by
  rw [List.map_map]
  refine mapM_map_ok fun u _ => ?_
  unfold id_of
  rw [Function.comp_apply, LawfulConversions.str_str]
  exact LawfulConversions.uuid_str u

omit [Stdlib Uuid] [Conversions Uuid F] [LawfulConversions Uuid F] in
theorem sequence_of_get {items : List (JsonValue F)} (h : raw.get? field_name = some (.list items)) :
    sequence_of raw field_name = .ok items := by
  unfold sequence_of
  rw [h]
  rfl

omit [Stdlib Uuid] [Conversions Uuid F] [LawfulConversions Uuid F] in
theorem required_sequence_of_get {items : List (JsonValue F)}
    (h : raw.get? field_name = some (.list items)) : required_sequence raw field_name = .ok items := by
  unfold required_sequence
  rw [h]
  rfl

/-! ### One record -/

variable [TextRepr]

structure NormalNode (node : declared.CoordinationNode Uuid F) : Prop where
  participant_id : Normal node.participant_id
  tenant_id : NormalOption node.tenant_id
  domain_id : NormalOption node.domain_id
  environment_id : NormalOption node.environment_id

variable {node : declared.CoordinationNode Uuid F}

omit [Stdlib Uuid] [LawfulConversions Uuid F] in
theorem normal_node (h : node_from_mapping raw = .ok node) : NormalNode node := by
  unfold node_from_mapping at h
  obtain ⟨node_id, -, h⟩ := bind_eq_ok.mp h
  obtain ⟨participant_id, hparticipant, h⟩ := bind_eq_ok.mp h
  obtain ⟨kind_text, -, h⟩ := bind_eq_ok.mp h
  obtain ⟨kind, -, h⟩ := bind_eq_ok.mp h
  obtain ⟨display_name, -, h⟩ := bind_eq_ok.mp h
  obtain ⟨tenant_id, htenant, h⟩ := bind_eq_ok.mp h
  obtain ⟨domain_id, hdomain, h⟩ := bind_eq_ok.mp h
  obtain ⟨environment_id, henvironment, h⟩ := bind_eq_ok.mp h
  obtain ⟨metadata, -, h⟩ := bind_eq_ok.mp h
  cases h
  exact ⟨normal_of_required hparticipant, normal_of_optional htenant, normal_of_optional hdomain,
    normal_of_optional henvironment⟩

omit [Conversions Uuid F] [LawfulConversions Uuid F] [TextRepr] in
theorem get_node (node : declared.CoordinationNode Uuid F) (k : String) :
    (Dict.ofList node.to_dict).get? k = Dict.find k node.to_dict :=
  Dict.get?_ofList (by simp [declared.CoordinationNode.to_dict]) k

theorem node_round_trip (h : NormalNode node) :
    node_from_mapping (Dict.ofList node.to_dict) = .ok node := by
  have get := get_node node
  unfold node_from_mapping
  refine bind_eq_ok.mpr ⟨_, required_id_of_get ((get _).trans rfl), ?_⟩
  refine bind_eq_ok.mpr ⟨_, required_text_of_get ((get _).trans rfl) h.participant_id, ?_⟩
  refine bind_eq_ok.mpr ⟨_, required_text_of_get ((get _).trans rfl) (normal_node_kind node.kind), ?_⟩
  refine bind_eq_ok.mpr ⟨_, node_kind_value node.kind, ?_⟩
  refine bind_eq_ok.mpr ⟨_, text_of_get ((get _).trans rfl), ?_⟩
  refine bind_eq_ok.mpr ⟨_, by rw [get]; exact optional_text_optional h.tenant_id, ?_⟩
  refine bind_eq_ok.mpr ⟨_, by rw [get]; exact optional_text_optional h.domain_id, ?_⟩
  refine bind_eq_ok.mpr ⟨_, by rw [get]; exact optional_text_optional h.environment_id, ?_⟩
  rw [get]
  exact bind_eq_ok.mpr ⟨_, read_metadata_items node.metadata, rfl⟩

variable {edge : declared.CoordinationEdge Uuid F}

omit [Stdlib Uuid] [LawfulConversions Uuid F] in
theorem normal_edge (h : edge_from_mapping raw = .ok edge) :
    NormalOption edge.crosses_boundary_id := by
  unfold edge_from_mapping at h
  obtain ⟨direction, -, h⟩ := bind_eq_ok.mp h
  obtain ⟨edge_id, -, h⟩ := bind_eq_ok.mp h
  obtain ⟨source_node_id, -, h⟩ := bind_eq_ok.mp h
  obtain ⟨target_node_id, -, h⟩ := bind_eq_ok.mp h
  obtain ⟨kind_text, -, h⟩ := bind_eq_ok.mp h
  obtain ⟨kind, -, h⟩ := bind_eq_ok.mp h
  obtain ⟨items, -, h⟩ := bind_eq_ok.mp h
  obtain ⟨allowed_message_types, -, h⟩ := bind_eq_ok.mp h
  obtain ⟨crosses_boundary_id, hcrosses, h⟩ := bind_eq_ok.mp h
  obtain ⟨description, -, h⟩ := bind_eq_ok.mp h
  obtain ⟨priority, -, h⟩ := bind_eq_ok.mp h
  obtain ⟨metadata, -, h⟩ := bind_eq_ok.mp h
  cases h
  exact normal_of_optional hcrosses

omit [Conversions Uuid F] [LawfulConversions Uuid F] [TextRepr] in
theorem get_edge (edge : declared.CoordinationEdge Uuid F) (k : String) :
    (Dict.ofList edge.to_dict).get? k = Dict.find k edge.to_dict :=
  Dict.get?_ofList (by simp [declared.CoordinationEdge.to_dict]) k

theorem read_direction_optional (direction : Option CoordinationDirection) :
    read_direction Uuid (some (declared.optional (direction.map (·.value)) : JsonValue F)) =
      .ok direction := by
  cases direction with
  | none => rfl
  | some direction =>
    change (do
      let text ← Conversions.str Uuid (.str direction.value : JsonValue F)
      let direction ← coordination_direction text
      return some direction) = _
    rw [LawfulConversions.str_str]
    change (do
      let direction ← coordination_direction direction.value
      return some direction) = _
    rw [coordination_direction_value]
    rfl

theorem mapM_message_types (l : List CoordinationMessageType) :
    ((l.map (·.value)).map JsonValue.str).mapM (fun item : JsonValue F => do
      coordination_message_type (← Conversions.str Uuid item)) = .ok l := by
  rw [List.map_map]
  refine mapM_map_ok fun message_type _ => ?_
  rw [Function.comp_apply, LawfulConversions.str_str]
  exact coordination_message_type_value message_type

theorem edge_round_trip (h : NormalOption edge.crosses_boundary_id) :
    edge_from_mapping (Dict.ofList edge.to_dict) = .ok edge := by
  have get := get_edge edge
  unfold edge_from_mapping
  refine bind_eq_ok.mpr ⟨_, by rw [get]; exact read_direction_optional edge.direction, ?_⟩
  refine bind_eq_ok.mpr ⟨_, required_id_of_get ((get _).trans rfl), ?_⟩
  refine bind_eq_ok.mpr ⟨_, required_id_of_get ((get _).trans rfl), ?_⟩
  refine bind_eq_ok.mpr ⟨_, required_id_of_get ((get _).trans rfl), ?_⟩
  refine bind_eq_ok.mpr ⟨_, required_text_of_get ((get _).trans rfl) (normal_edge_kind edge.kind), ?_⟩
  refine bind_eq_ok.mpr ⟨_, edge_kind_value edge.kind, ?_⟩
  refine bind_eq_ok.mpr ⟨_, sequence_of_get ((get _).trans rfl), ?_⟩
  refine bind_eq_ok.mpr ⟨_, mapM_message_types edge.allowed_message_types, ?_⟩
  refine bind_eq_ok.mpr ⟨_, by rw [get]; exact optional_text_optional h, ?_⟩
  refine bind_eq_ok.mpr ⟨_, text_of_get ((get _).trans rfl), ?_⟩
  refine bind_eq_ok.mpr ⟨_, int_of_get ((get _).trans rfl), ?_⟩
  rw [get]
  exact bind_eq_ok.mpr ⟨_, read_metadata_items edge.metadata, rfl⟩

variable {path : declared.CoordinationPath Uuid F}

omit [Stdlib Uuid] [LawfulConversions Uuid F] [TextRepr] in
theorem normal_path (h : path_from_mapping raw = .ok path) : Normal path.path_id := by
  unfold path_from_mapping at h
  obtain ⟨path_id, hpath, h⟩ := bind_eq_ok.mp h
  obtain ⟨items, -, h⟩ := bind_eq_ok.mp h
  obtain ⟨node_ids, -, h⟩ := bind_eq_ok.mp h
  obtain ⟨description, -, h⟩ := bind_eq_ok.mp h
  obtain ⟨metadata, -, h⟩ := bind_eq_ok.mp h
  cases h
  exact normal_of_required hpath

omit [Conversions Uuid F] [LawfulConversions Uuid F] [TextRepr] in
theorem get_path (path : declared.CoordinationPath Uuid F) (k : String) :
    (Dict.ofList path.to_dict).get? k = Dict.find k path.to_dict :=
  Dict.get?_ofList (by simp [declared.CoordinationPath.to_dict]) k

omit [TextRepr] in
theorem path_round_trip (h : Normal path.path_id) :
    path_from_mapping (Dict.ofList path.to_dict) = .ok path := by
  have get := get_path path
  unfold path_from_mapping
  refine bind_eq_ok.mpr ⟨_, required_text_of_get ((get _).trans rfl) h, ?_⟩
  refine bind_eq_ok.mpr ⟨_, required_sequence_of_get ((get _).trans rfl), ?_⟩
  refine bind_eq_ok.mpr ⟨_, mapM_ids path.node_ids, ?_⟩
  refine bind_eq_ok.mpr ⟨_, text_of_get ((get _).trans rfl), ?_⟩
  rw [get]
  exact bind_eq_ok.mpr ⟨_, read_metadata_items path.metadata, rfl⟩

omit [Stdlib Uuid] [LawfulConversions Uuid F] [TextRepr] in
theorem normal_escalation_path {path : declared.EscalationPath Uuid F}
    (h : escalation_path_from_mapping raw = .ok path) : Normal path.path_id := by
  unfold escalation_path_from_mapping at h
  obtain ⟨path_id, hpath, h⟩ := bind_eq_ok.mp h
  obtain ⟨items, -, h⟩ := bind_eq_ok.mp h
  obtain ⟨node_ids, -, h⟩ := bind_eq_ok.mp h
  obtain ⟨texts, -, h⟩ := bind_eq_ok.mp h
  obtain ⟨seniority_ordering, -, h⟩ := bind_eq_ok.mp h
  obtain ⟨description, -, h⟩ := bind_eq_ok.mp h
  obtain ⟨metadata, -, h⟩ := bind_eq_ok.mp h
  cases h
  exact normal_of_required hpath

omit [Conversions Uuid F] [LawfulConversions Uuid F] [TextRepr] in
theorem get_escalation_path (path : declared.EscalationPath Uuid F) (k : String) :
    (Dict.ofList path.to_dict).get? k = Dict.find k path.to_dict :=
  Dict.get?_ofList (by simp [declared.EscalationPath.to_dict]) k

omit [TextRepr] in
theorem escalation_path_round_trip {path : declared.EscalationPath Uuid F} (h : Normal path.path_id) :
    escalation_path_from_mapping (Dict.ofList path.to_dict) = .ok path := by
  have get := get_escalation_path path
  have htexts : (path.seniority_ordering.map JsonValue.str).mapM (Conversions.str Uuid (F := F)) =
      .ok path.seniority_ordering := mapM_map_ok fun t _ => LawfulConversions.str_str t
  unfold escalation_path_from_mapping
  refine bind_eq_ok.mpr ⟨_, required_text_of_get ((get _).trans rfl) h, ?_⟩
  refine bind_eq_ok.mpr ⟨_, required_sequence_of_get ((get _).trans rfl), ?_⟩
  refine bind_eq_ok.mpr ⟨_, mapM_ids path.node_ids, ?_⟩
  refine bind_eq_ok.mpr ⟨_, sequence_of_get ((get _).trans rfl), ?_⟩
  refine bind_eq_ok.mpr ⟨_, htexts, ?_⟩
  refine bind_eq_ok.mpr ⟨_, text_of_get ((get _).trans rfl), ?_⟩
  rw [get]
  exact bind_eq_ok.mpr ⟨_, read_metadata_items path.metadata, rfl⟩

variable {boundary : declared.AuthorityBoundary Uuid F}

omit [Stdlib Uuid] [LawfulConversions Uuid F] in
theorem normal_boundary (h : boundary_from_mapping raw = .ok boundary) :
    Normal boundary.boundary_id := by
  unfold boundary_from_mapping at h
  obtain ⟨boundary_id, hboundary, h⟩ := bind_eq_ok.mp h
  obtain ⟨kind_text, -, h⟩ := bind_eq_ok.mp h
  obtain ⟨kind, -, h⟩ := bind_eq_ok.mp h
  obtain ⟨display_name, -, h⟩ := bind_eq_ok.mp h
  obtain ⟨members, -, h⟩ := bind_eq_ok.mp h
  obtain ⟨member_node_ids, -, h⟩ := bind_eq_ok.mp h
  obtain ⟨crossing_text, -, h⟩ := bind_eq_ok.mp h
  obtain ⟨crossing, -, h⟩ := bind_eq_ok.mp h
  obtain ⟨pairs, -, h⟩ := bind_eq_ok.mp h
  obtain ⟨allowed_crossing_pairs, -, h⟩ := bind_eq_ok.mp h
  obtain ⟨metadata, -, h⟩ := bind_eq_ok.mp h
  cases h
  exact normal_of_required hboundary

omit [Conversions Uuid F] [LawfulConversions Uuid F] [TextRepr] in
theorem get_boundary (boundary : declared.AuthorityBoundary Uuid F) (k : String) :
    (Dict.ofList boundary.to_dict).get? k = Dict.find k boundary.to_dict :=
  Dict.get?_ofList (by simp [declared.AuthorityBoundary.to_dict]) k

omit [TextRepr] in
theorem mapM_pairs (l : List (Uuid × Uuid)) :
    (l.map fun pair => declared.ids [pair.1, pair.2]).mapM
      (crossing_pair_from_sequence (F := F)) = .ok l := by
  refine mapM_map_ok fun pair _ => ?_
  have hid : ∀ u : Uuid, id_of Uuid (.str (Stdlib.str u) : JsonValue F) = .ok u := by
    intro u
    unfold id_of
    rw [LawfulConversions.str_str]
    exact LawfulConversions.uuid_str u
  change (do
    let source ← id_of Uuid (.str (Stdlib.str pair.1) : JsonValue F)
    let target ← id_of Uuid (.str (Stdlib.str pair.2) : JsonValue F)
    return (source, target)) = _
  rw [hid, hid]
  rfl

theorem boundary_round_trip (h : Normal boundary.boundary_id) :
    boundary_from_mapping (Dict.ofList boundary.to_dict) = .ok boundary := by
  have get := get_boundary boundary
  unfold boundary_from_mapping
  refine bind_eq_ok.mpr ⟨_, required_text_of_get ((get _).trans rfl) h, ?_⟩
  refine bind_eq_ok.mpr ⟨_, required_text_of_get ((get _).trans rfl)
    (normal_boundary_kind boundary.kind), ?_⟩
  refine bind_eq_ok.mpr ⟨_, boundary_kind_value boundary.kind, ?_⟩
  refine bind_eq_ok.mpr ⟨_, text_of_get ((get _).trans rfl), ?_⟩
  refine bind_eq_ok.mpr ⟨_, sequence_of_get ((get _).trans rfl), ?_⟩
  refine bind_eq_ok.mpr ⟨_, mapM_ids boundary.member_node_ids, ?_⟩
  refine bind_eq_ok.mpr ⟨_, text_of_get ((get _).trans rfl), ?_⟩
  refine bind_eq_ok.mpr ⟨_, boundary_crossing_value boundary.crossing, ?_⟩
  refine bind_eq_ok.mpr ⟨_, sequence_of_get ((get _).trans rfl), ?_⟩
  refine bind_eq_ok.mpr ⟨_, mapM_pairs boundary.allowed_crossing_pairs, ?_⟩
  rw [get]
  exact bind_eq_ok.mpr ⟨_, read_metadata_items boundary.metadata, rfl⟩

end fields

/-! ### The whole -/

section whole

variable {Uuid F : Type} [DecidableEq Uuid] [Stdlib Uuid] [Conversions Uuid F]
  [LawfulConversions Uuid F] [TextRepr] {raw : JsonValue F}

structure NormalArguments (args : declared.Arguments Uuid F) : Prop where
  name : Normal args.name
  nodes : ∀ node ∈ args.nodes, NormalNode node
  edges : ∀ edge ∈ args.edges, NormalOption edge.crosses_boundary_id
  paths : ∀ path ∈ args.paths, Normal path.path_id
  escalation_paths : ∀ path ∈ args.escalation_paths, Normal path.path_id
  boundaries : ∀ boundary ∈ args.boundaries, Normal boundary.boundary_id

omit [DecidableEq Uuid] [Stdlib Uuid] [Conversions Uuid F] [LawfulConversions Uuid F] [TextRepr] in
theorem normal_of_records {α : Type} {read : JsonObject F → Except PyException α}
    {items : List (JsonValue F)} {field_name : String} {l : List α} {P : α → Prop}
    (h : records_of read items field_name = .ok l) (hread : ∀ raw a, read raw = .ok a → P a) :
    ∀ a ∈ l, P a := by
  intro a ha
  obtain ⟨item, hitem⟩ := mem_of_mapM h a ha
  obtain ⟨raw, -, hraw⟩ := bind_eq_ok.mp hitem
  exact hread raw a hraw

omit [DecidableEq Uuid] [Stdlib Uuid] [Conversions Uuid F] [LawfulConversions Uuid F] [TextRepr] in
theorem records_round_trip {α : Type} {read : JsonObject F → Except PyException α}
    {to_dict : α → List (String × JsonValue F)} {l : List α} (field_name : String)
    (h : ∀ a ∈ l, read (Dict.ofList (to_dict a)) = .ok a) :
    records_of read (l.map fun a => .dict (to_dict a)) field_name = .ok l :=
  mapM_map_ok h

variable {args : declared.Arguments Uuid F}

omit [DecidableEq Uuid] [Stdlib Uuid] [LawfulConversions Uuid F] in
theorem normal_arguments (h : arguments_from_mapping raw = .ok args) : NormalArguments args := by
  unfold arguments_from_mapping at h
  obtain ⟨data, -, h⟩ := bind_eq_ok.mp h
  obtain ⟨node_items, -, h⟩ := bind_eq_ok.mp h
  obtain ⟨nodes, hnodes, h⟩ := bind_eq_ok.mp h
  obtain ⟨edge_items, -, h⟩ := bind_eq_ok.mp h
  obtain ⟨edges, hedges, h⟩ := bind_eq_ok.mp h
  obtain ⟨path_items, -, h⟩ := bind_eq_ok.mp h
  obtain ⟨paths, hpaths, h⟩ := bind_eq_ok.mp h
  obtain ⟨escalation_items, -, h⟩ := bind_eq_ok.mp h
  obtain ⟨escalation_paths, hescalation, h⟩ := bind_eq_ok.mp h
  obtain ⟨boundary_items, -, h⟩ := bind_eq_ok.mp h
  obtain ⟨boundaries, hboundaries, h⟩ := bind_eq_ok.mp h
  obtain ⟨topology_id, -, h⟩ := bind_eq_ok.mp h
  obtain ⟨name, hname, h⟩ := bind_eq_ok.mp h
  obtain ⟨version, -, h⟩ := bind_eq_ok.mp h
  obtain ⟨max_chain_depth, -, h⟩ := bind_eq_ok.mp h
  obtain ⟨description, -, h⟩ := bind_eq_ok.mp h
  obtain ⟨metadata, -, h⟩ := bind_eq_ok.mp h
  cases h
  exact {
    name := normal_of_required hname
    nodes := normal_of_records hnodes fun _ _ => normal_node
    edges := normal_of_records hedges fun _ _ => normal_edge
    paths := normal_of_records hpaths fun _ _ => normal_path
    escalation_paths := normal_of_records hescalation fun _ _ => normal_escalation_path
    boundaries := normal_of_records hboundaries fun _ _ => normal_boundary }

omit [DecidableEq Uuid] [Conversions Uuid F] [LawfulConversions Uuid F] [TextRepr] in
theorem get_arguments (args : declared.Arguments Uuid F) (k : String) :
    (Dict.ofList args.to_dict).get? k = Dict.find k args.to_dict :=
  Dict.get?_ofList (by simp [declared.Arguments.to_dict]) k

omit [DecidableEq Uuid] in
theorem arguments_round_trip (h : NormalArguments args) :
    arguments_from_mapping (.dict args.to_dict) = .ok args := by
  have get := get_arguments args
  unfold arguments_from_mapping
  refine bind_eq_ok.mpr ⟨_, rfl, ?_⟩
  refine bind_eq_ok.mpr ⟨_, required_sequence_of_get ((get _).trans rfl), ?_⟩
  refine bind_eq_ok.mpr ⟨_, records_round_trip "nodes" fun n hn => node_round_trip (h.nodes n hn), ?_⟩
  refine bind_eq_ok.mpr ⟨_, sequence_of_get ((get _).trans rfl), ?_⟩
  refine bind_eq_ok.mpr ⟨_, records_round_trip "edges" fun e he => edge_round_trip (h.edges e he), ?_⟩
  refine bind_eq_ok.mpr ⟨_, sequence_of_get ((get _).trans rfl), ?_⟩
  refine bind_eq_ok.mpr ⟨_, records_round_trip "paths" fun p hp => path_round_trip (h.paths p hp), ?_⟩
  refine bind_eq_ok.mpr ⟨_, sequence_of_get ((get _).trans rfl), ?_⟩
  refine bind_eq_ok.mpr ⟨_, records_round_trip "escalation_paths" fun p hp =>
    escalation_path_round_trip (h.escalation_paths p hp), ?_⟩
  refine bind_eq_ok.mpr ⟨_, sequence_of_get ((get _).trans rfl), ?_⟩
  refine bind_eq_ok.mpr ⟨_, records_round_trip "boundaries" fun b hb =>
    boundary_round_trip (h.boundaries b hb), ?_⟩
  refine bind_eq_ok.mpr ⟨_, required_id_of_get ((get _).trans rfl), ?_⟩
  refine bind_eq_ok.mpr ⟨_, required_text_of_get ((get _).trans rfl) h.name, ?_⟩
  refine bind_eq_ok.mpr ⟨_, text_of_get ((get _).trans rfl), ?_⟩
  refine bind_eq_ok.mpr ⟨_, int_of_get ((get _).trans rfl), ?_⟩
  refine bind_eq_ok.mpr ⟨_, text_of_get ((get _).trans rfl), ?_⟩
  rw [get]
  exact bind_eq_ok.mpr ⟨_, read_metadata_items args.metadata, rfl⟩

variable {topology : declared.CoordinationTopology Uuid F}

omit [LawfulConversions Uuid F] in
theorem coordination_topology_eq_ok (h : coordination_topology_from_mapping raw = .ok topology) :
    arguments_from_mapping raw = .ok topology.toArguments := by
  unfold coordination_topology_from_mapping at h
  cases hread : (arguments_from_mapping raw >>= declared.construct :
    Except PyException (declared.CoordinationTopology Uuid F)) with
  | error exc =>
    rw [hread] at h
    cases h
  | ok topology' =>
    rw [hread] at h
    cases h
    obtain ⟨args, hargs, hconstruct⟩ := bind_eq_ok.mp hread
    rw [hargs, declared.arguments_of_construct hconstruct]

theorem topology_round_trip (h : coordination_topology_from_mapping raw = .ok topology) :
    coordination_topology_from_mapping (.dict topology.to_dict : JsonValue F) = .ok topology := by
  unfold coordination_topology_from_mapping
  rw [arguments_round_trip (normal_arguments (coordination_topology_eq_ok h))]
  change (declared.construct topology.toArguments).mapError invalid = _
  rw [declared.construct_eq_ok]
  rfl

end whole

end operious.tenant
