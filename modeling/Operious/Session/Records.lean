-- The payloads of timeline events and their canonical form: keys in order, sequences as lists, and
-- everything that JSON does not know as a text.
import Mathlib.Data.List.Sort
import Mathlib.Data.String.Basic
import Operious.Python

namespace operious.session

/-- A value of a payload. A float is its literal. A set is its items in the order that
`canonicalize_payload` gives them, and any other object is the text that it becomes there. -/
inductive PayloadValue
  | none
  | bool (b : Bool)
  | int (i : Int)
  | float (literal : String)
  | str (s : String)
  | list (items : List PayloadValue)
  | tuple (items : List PayloadValue)
  | set (items : List PayloadValue)
  | dict (items : List (String × PayloadValue))
  | object (text : String)

abbrev Payload := Dict String PayloadValue

namespace PayloadValue

def ofOption : Option String → PayloadValue
  | some s => str s
  | .none => none

/-- `isinstance(value, str)`. -/
def text? : PayloadValue → Option String
  | str s => some s
  | _ => .none

end PayloadValue

/-- The items of a mapping in the order of their keys. -/
def sortedItems (items : List (String × PayloadValue)) : List (String × PayloadValue) :=
  items.insertionSort fun a b => a.1 ≤ b.1

mutual

def canonicalize_payload : PayloadValue → PayloadValue
  | .dict items => .dict (sortedItems (canonicalizeItems items))
  | .list items => .list (canonicalizeList items)
  | .tuple items => .list (canonicalizeList items)
  | .set items => .list (canonicalizeList items)
  | .object text => .str text
  | .none => .none
  | .bool b => .bool b
  | .int i => .int i
  | .float literal => .float literal
  | .str s => .str s

def canonicalizeList : List PayloadValue → List PayloadValue
  | [] => []
  | v :: vs => canonicalize_payload v :: canonicalizeList vs

def canonicalizeItems : List (String × PayloadValue) → List (String × PayloadValue)
  | [] => []
  | (k, v) :: rest => (k, canonicalize_payload v) :: canonicalizeItems rest

end

variable (items : List (String × PayloadValue))

theorem canonicalizeItems_eq_map :
    canonicalizeItems items = items.map fun p => (p.1, canonicalize_payload p.2) := by
  induction items with
  | nil => rfl
  | cons p rest ih => simp only [canonicalizeItems, List.map_cons, ih]

theorem sortedItems_perm :
    (sortedItems (canonicalizeItems items)).Perm
      (items.map fun p => (p.1, canonicalize_payload p.2)) := by
  rw [← canonicalizeItems_eq_map]
  exact List.perm_insertionSort _ _

/-- `canonicalize_payload` of a mapping, which is `canonicalize_attributes`. -/
def canonicalize_attributes (attributes : Payload) : Payload where
  items := sortedItems (canonicalizeItems attributes.items)
  distinct := by
    have h := (sortedItems_perm attributes.items).map Prod.fst
    rw [h.nodup_iff, List.map_map]
    exact attributes.distinct

@[simp] theorem get?_canonicalize_attributes (attributes : Payload) (key : String) :
    (canonicalize_attributes attributes).get? key =
      (attributes.get? key).map canonicalize_payload := by
  unfold Dict.get? canonicalize_attributes
  have hperm := sortedItems_perm attributes.items
  have hdistinct : ((attributes.items.map fun p => (p.1, canonicalize_payload p.2)).map
      Prod.fst).Nodup := by
    rw [List.map_map]
    exact attributes.distinct
  rw [← Dict.find_perm hperm.symm hdistinct, Dict.find_map_values]

/-! ## Canonical values stay as they are -/

theorem sortedItems_of_pairwise {items : List (String × PayloadValue)}
    (h : items.Pairwise fun a b => a.1 ≤ b.1) : sortedItems items = items :=
  List.Pairwise.insertionSort_eq h

theorem pairwise_sortedItems :
    (sortedItems items).Pairwise fun a b => a.1 ≤ b.1 := by
  have : Std.Total fun a b : String × PayloadValue => a.1 ≤ b.1 :=
    ⟨fun a b => le_total a.1 b.1⟩
  have : IsTrans (String × PayloadValue) fun a b => a.1 ≤ b.1 :=
    ⟨fun _ _ _ hab hbc => le_trans hab hbc⟩
  exact List.pairwise_insertionSort _ items

mutual

theorem canonicalize_idem (v : PayloadValue) :
    canonicalize_payload (canonicalize_payload v) = canonicalize_payload v := by
  cases v with
  | dict items =>
    simp only [canonicalize_payload]
    have hvalues : canonicalizeItems (sortedItems (canonicalizeItems items)) =
        sortedItems (canonicalizeItems items) := by
      rw [canonicalizeItems_eq_map]
      conv_rhs => rw [← List.map_id (sortedItems (canonicalizeItems items))]
      apply List.map_congr_left
      intro p hp
      have hmem : p ∈ canonicalizeItems items := (List.perm_insertionSort _ _).mem_iff.mp hp
      rw [canonicalizeItems_idem items p hmem]
      rfl
    rw [hvalues, sortedItems_of_pairwise (pairwise_sortedItems _)]
  | list items => simp only [canonicalize_payload, canonicalizeList_idem items]
  | tuple items => simp only [canonicalize_payload, canonicalizeList_idem items]
  | set items => simp only [canonicalize_payload, canonicalizeList_idem items]
  | object text => rfl
  | none => rfl
  | bool b => rfl
  | int i => rfl
  | float literal => rfl
  | str s => rfl

theorem canonicalizeList_idem (vs : List PayloadValue) :
    canonicalizeList (canonicalizeList vs) = canonicalizeList vs := by
  cases vs with
  | nil => rfl
  | cons v vs =>
    simp only [canonicalizeList, canonicalize_idem v, canonicalizeList_idem vs]

theorem canonicalizeItems_idem (items : List (String × PayloadValue)) :
    ∀ p ∈ canonicalizeItems items, canonicalize_payload p.2 = p.2 := by
  cases items with
  | nil => intro p hp; cases hp
  | cons q rest =>
    intro p hp
    obtain ⟨k, v⟩ := q
    rcases List.mem_cons.mp hp with rfl | hp
    · exact canonicalize_idem v
    · exact canonicalizeItems_idem rest p hp

end

end operious.session

-- Sessions: the vocabulary, the models the runtime works on and the records that persistence keeps.
-- A model carries what its constructor checks.
namespace operious.session

/-! ## Vocabulary -/

inductive SessionLifecyclePhase
  | initiated | active | dormant | terminated | archived
  deriving DecidableEq, Repr

def SessionLifecyclePhase.value : SessionLifecyclePhase → String
  | initiated => "initiated"
  | active => "active"
  | dormant => "dormant"
  | terminated => "terminated"
  | archived => "archived"

theorem SessionLifecyclePhase.value_inj {p q : SessionLifecyclePhase} (h : p.value = q.value) :
    p = q := by
  cases p <;> cases q <;> first | rfl | (simp [value] at h)

inductive SessionScope
  | tenant | principal | operational_domain | global
  deriving DecidableEq, Repr

def SessionScope.value : SessionScope → String
  | tenant => "tenant"
  | principal => "principal"
  | operational_domain => "operational_domain"
  | global => "global"

inductive SessionEventKind
  | session_opened | context_attached | correlation_recorded | lineage_linked
  | lifecycle_reclassified | dormancy_recorded | resumption_recorded | termination_recorded
  | archival_recorded | operational_observation | customer_message | assistant_response
  deriving DecidableEq, Repr

inductive SessionContinuityMode
  | synchronous | deferred | reconstructed
  deriving DecidableEq, Repr

inductive SessionReconstructionStatus
  | pristine | partly | drift_detected | not_found | error
  deriving DecidableEq, Repr

inductive SessionCorrelationKind
  | governance | topology | policy | coordination | agent_execution | supervisor | arbitration
  | boundary | memory | external | generic
  deriving DecidableEq, Repr

def SessionCorrelationKind.value : SessionCorrelationKind → String
  | governance => "governance"
  | topology => "topology"
  | policy => "policy"
  | coordination => "coordination"
  | agent_execution => "agent_execution"
  | supervisor => "supervisor"
  | arbitration => "arbitration"
  | boundary => "boundary"
  | memory => "memory"
  | external => "external"
  | generic => "generic"

/-- What a call of the substrate may raise, with its message. -/
inductive SessionException
  | validation_error (message : String)
  | not_found_error (message : String)
  | lifecycle_error (message : String)
  | lineage_error (message : String)
  | persistence_error (message : String)
  | configuration_error (message : String)
  | reconstruction_error (message : String)
  | capability_denied (message : String)
  | value_error (message : String)
  | type_error (message : String)
  deriving DecidableEq, Repr

/-- A datetime. `tzinfo` is none when it is not aware. -/
structure Datetime where
  instant : Instant
  aware : Bool
  deriving DecidableEq, Repr

/-- `datetime.now(tz=timezone.utc)` at an instant. -/
def Datetime.utc (t : Instant) : Datetime := ⟨t, true⟩

/-! ## Identifiers -/

section

variable {Uuid : Type} [Stdlib Uuid]

def SESSION_NAMESPACE : Uuid := Stdlib.uuid "5e551001-0001-4001-8001-000000000001"
def EVENT_NAMESPACE : Uuid := Stdlib.uuid "5e551001-0002-4002-8002-000000000002"
def LINEAGE_NAMESPACE : Uuid := Stdlib.uuid "5e551001-0003-4003-8003-000000000003"
def CORRELATION_NAMESPACE : Uuid := Stdlib.uuid "5e551001-0004-4004-8004-000000000004"

def project_optional_str : Option String → String
  | some value => value
  | none => "\x00<none>\x00"

def derive_session_id (scope : String) (tenant_id principal_id : Option String)
    (external_handle : String) : Except SessionException Uuid :=
  if scope = "" then
    .error (.value_error "derive_session_id requires a non-empty `scope`")
  else if external_handle = "" then
    .error (.value_error "derive_session_id requires a non-empty `external_handle`")
  else
    .ok (Stdlib.uuid5 SESSION_NAMESPACE (scope ++ "|" ++ project_optional_str tenant_id ++ "|" ++
      project_optional_str principal_id ++ "|" ++ external_handle))

/-- `derive_event_id` of a sequence that is not negative. -/
def derive_event_id (session_id : Uuid) (sequence : Nat) : Uuid :=
  Stdlib.uuid5 EVENT_NAMESPACE (Stdlib.str session_id ++ "|" ++ sequence.repr)

def derive_lineage_id (root_session_id : Uuid) : Uuid :=
  Stdlib.uuid5 LINEAGE_NAMESPACE (Stdlib.str root_session_id)

def derive_correlation_id (session_id : Uuid) (kind external_id : String) :
    Except SessionException Uuid :=
  if kind = "" ∨ external_id = "" then
    .error (.value_error "derive_correlation_id requires non-empty `kind` and `external_id`")
  else
    .ok (Stdlib.uuid5 CORRELATION_NAMESPACE
      (Stdlib.str session_id ++ "|" ++ kind ++ "|" ++ external_id))

/-- `generate_event_id` of a process: its boot id and its count. -/
def generate_event_id (boot_id : String) (count : Nat) : Uuid :=
  Stdlib.uuid5 EVENT_NAMESPACE ("runtime|event|" ++ boot_id ++ "|" ++ count.repr)

theorem derive_event_id_inj [LawfulStdlib Uuid] {s t : Uuid} {m n : Nat}
    (h : derive_event_id s m = derive_event_id t n) : s = t ∧ m = n := by
  unfold derive_event_id at h
  have hl := congrArg String.toList (LawfulStdlib.uuid5_inj _ h)
  have hbar : "|".toList = ['|'] := rfl
  simp only [String.toList_append, List.append_assoc, hbar, List.singleton_append] at hl
  obtain ⟨hs, hn⟩ := cut_at_bar (LawfulStdlib.str_no_bar s) (LawfulStdlib.str_no_bar t) hl
  exact ⟨LawfulStdlib.str_inj (String.toList_injective hs),
    repr_inj (String.toList_injective hn)⟩

end

/-! ## Models -/

section

variable (Uuid : Type)

structure SessionContext where
  environment : Option String
  labels : List String
  attributes : Payload
  notes : Option String

structure SessionLifecycle where
  phase : SessionLifecyclePhase
  recorded_at : Datetime
  reason : Option String

structure SessionIdentity where
  session_id : Uuid
  scope : SessionScope
  external_handle : String
  tenant_id : Option String
  principal_id : Option String
  handle_nonempty : external_handle ≠ ""

structure SessionLineage where
  lineage_id : Uuid
  session_id : Uuid
  root_session_id : Uuid
  parent_session_id : Option Uuid
  ancestor_session_ids : List Uuid
  depth : Nat
  acyclic : session_id ∉ ancestor_session_ids
  depth_eq : depth = ancestor_session_ids.length
  parent_last : parent_session_id ≠ none → ancestor_session_ids.getLast? = parent_session_id
  own_root : parent_session_id = none → session_id = root_session_id

structure OperationalSession where
  identity : SessionIdentity Uuid
  opened_at : Datetime
  lifecycle : SessionLifecycle
  lineage : SessionLineage Uuid
  context : Option SessionContext
  sequence_head : Int
  revision : Nat
  opened_aware : opened_at.aware = true
  head_ge : -1 ≤ sequence_head
  lineage_own : lineage.session_id = identity.session_id

structure SessionTimelineEvent where
  event_id : Uuid
  session_id : Uuid
  sequence : Nat
  kind : SessionEventKind
  continuity_mode : SessionContinuityMode
  occurred_at : Datetime
  recorded_at : Datetime
  payload : Payload
  correlation_id : Option Uuid
  annotation : Option String
  idempotency_key : Option String
  occurred_aware : occurred_at.aware = true
  recorded_aware : recorded_at.aware = true
  key_nonempty : idempotency_key ≠ some ""

structure SessionCorrelation where
  correlation_id : Uuid
  session_id : Uuid
  kind : SessionCorrelationKind
  external_id : String
  recorded_at : Datetime
  external_correlation_id : Option String
  annotation : Option String
  attributes : Payload
  external_nonempty : external_id ≠ ""

/-! ## Records -/

structure SessionRecord where
  session_id : Uuid
  scope : SessionScope
  external_handle : String
  tenant_id : Option String
  principal_id : Option String
  opened_at : Datetime
  lifecycle_phase : SessionLifecyclePhase
  lifecycle_recorded_at : Datetime
  lifecycle_reason : Option String
  lineage_id : Uuid
  root_session_id : Uuid
  parent_session_id : Option Uuid
  ancestor_session_ids : List Uuid
  lineage_depth : Nat
  sequence_head : Int
  revision : Nat
  context_environment : Option String
  context_labels : List String
  context_attributes : Payload
  context_notes : Option String
  metadata : Payload
  customer_identity_id : Option Uuid

/-- The fields that the substrate fills. -/
structure SessionEventRecord where
  event_id : Uuid
  session_id : Uuid
  sequence : Nat
  kind : SessionEventKind
  continuity_mode : SessionContinuityMode
  occurred_at : Datetime
  recorded_at : Datetime
  payload : Payload
  correlation_id : Option Uuid
  annotation : Option String
  idempotency_key : Option String

structure SessionCorrelationRecord where
  correlation_id : Uuid
  session_id : Uuid
  kind : SessionCorrelationKind
  external_id : String
  recorded_at : Datetime
  external_correlation_id : Option String
  annotation : Option String
  attributes : Payload

end

/-! ## Constructors that check -/

section

variable {Uuid : Type}

def SessionIdentity.new (session_id : Uuid) (scope : SessionScope) (external_handle : String)
    (tenant_id principal_id : Option String) : Except SessionException (SessionIdentity Uuid) :=
  if h : external_handle = "" then
    .error (.value_error "SessionIdentity.external_handle must be a non-empty string")
  else .ok ⟨session_id, scope, external_handle, tenant_id, principal_id, h⟩

def SessionLineage.new [DecidableEq Uuid] (lineage_id session_id root_session_id : Uuid)
    (parent_session_id : Option Uuid) (ancestor_session_ids : List Uuid) (depth : Nat) :
    Except SessionException (SessionLineage Uuid) :=
  if acyclic : session_id ∈ ancestor_session_ids then
    .error (.value_error "SessionLineage cycle detected: session cannot be its own ancestor")
  else if depth_eq : depth ≠ ancestor_session_ids.length then
    .error (.value_error "SessionLineage.depth must equal len(ancestor_session_ids)")
  else if last : parent_session_id ≠ none ∧
      ancestor_session_ids.getLast? ≠ parent_session_id then
    .error (.value_error
      "SessionLineage.parent_session_id must be the last entry in ancestor_session_ids")
  else if own : parent_session_id = none ∧ session_id ≠ root_session_id then
    .error (.value_error "SessionLineage with no parent must be its own root")
  else
    .ok ⟨lineage_id, session_id, root_session_id, parent_session_id, ancestor_session_ids, depth,
      acyclic, not_not.mp depth_eq, fun hp => not_not.mp fun hne => last ⟨hp, hne⟩,
      fun hp => not_not.mp fun hne => own ⟨hp, hne⟩⟩

def OperationalSession.new [DecidableEq Uuid] (identity : SessionIdentity Uuid)
    (opened_at : Datetime) (lifecycle : SessionLifecycle) (lineage : SessionLineage Uuid)
    (context : Option SessionContext) (sequence_head : Int) (revision : Nat) :
    Except SessionException (OperationalSession Uuid) :=
  if aware : opened_at.aware = true then
    if head : sequence_head < -1 then
      .error (.value_error "OperationalSession.sequence_head must be >= -1")
    else if own : lineage.session_id = identity.session_id then
      .ok ⟨identity, opened_at, lifecycle, lineage, context, sequence_head, revision, aware,
        not_lt.mp head, own⟩
    else
      .error (.value_error
        "OperationalSession.lineage.session_id must equal identity.session_id")
  else
    .error (.value_error "OperationalSession.opened_at must be timezone-aware (UTC)")

def SessionTimelineEvent.new (event_id session_id : Uuid) (sequence : Nat)
    (kind : SessionEventKind) (continuity_mode : SessionContinuityMode)
    (occurred_at recorded_at : Datetime) (payload : Payload) (correlation_id : Option Uuid)
    ( annotation idempotency_key : Option String) :
    Except SessionException (SessionTimelineEvent Uuid) :=
  if occurred : occurred_at.aware = true then
    if recorded : recorded_at.aware = true then
      if key : idempotency_key = some "" then
        .error (.value_error "SessionTimelineEvent.idempotency_key must be non-empty")
      else
        .ok ⟨event_id, session_id, sequence, kind, continuity_mode, occurred_at, recorded_at,
          payload, correlation_id, annotation, idempotency_key, occurred, recorded, key⟩
    else
      .error (.value_error "SessionTimelineEvent.recorded_at must be timezone-aware (UTC)")
  else
    .error (.value_error "SessionTimelineEvent.occurred_at must be timezone-aware (UTC)")

def SessionCorrelation.new (correlation_id session_id : Uuid) (kind : SessionCorrelationKind)
    (external_id : String) (recorded_at : Datetime)
    (external_correlation_id annotation : Option String) (attributes : Payload) :
    Except SessionException (SessionCorrelation Uuid) :=
  if h : external_id = "" then
    .error (.value_error "SessionCorrelation.external_id must be a non-empty string")
  else
    .ok ⟨correlation_id, session_id, kind, external_id, recorded_at, external_correlation_id,
      annotation, attributes, h⟩

/-! ## Lineage -/

variable [Stdlib Uuid]

def build_lineage_for_root (session_id : Uuid) : SessionLineage Uuid where
  lineage_id := derive_lineage_id session_id
  session_id := session_id
  root_session_id := session_id
  parent_session_id := none
  ancestor_session_ids := []
  depth := 0
  acyclic := by simp
  depth_eq := rfl
  parent_last h := absurd rfl h
  own_root _ := rfl

def build_lineage_for_child [DecidableEq Uuid] (session_id : Uuid)
    (parent_lineage : SessionLineage Uuid) : Except SessionException (SessionLineage Uuid) :=
  if ancestor : session_id ∈ parent_lineage.ancestor_session_ids then
    .error (.lineage_error "cycle detected: proposed session id is already an ancestor")
  else if parent : session_id = parent_lineage.session_id then
    .error (.lineage_error "cycle detected: proposed session id equals parent session id")
  else
    .ok
      { lineage_id := parent_lineage.lineage_id
        session_id := session_id
        root_session_id := parent_lineage.root_session_id
        parent_session_id := some parent_lineage.session_id
        ancestor_session_ids := parent_lineage.ancestor_session_ids ++ [parent_lineage.session_id]
        depth := parent_lineage.depth + 1
        acyclic := by simp [ancestor, parent]
        depth_eq := by simp [parent_lineage.depth_eq]
        parent_last := fun _ => by simp
        own_root := fun h => nomatch h }

omit [Stdlib Uuid] in
theorem build_lineage_for_child_session_id [DecidableEq Uuid] {session_id : Uuid}
    {parent lineage : SessionLineage Uuid}
    (h : build_lineage_for_child session_id parent = .ok lineage) :
    lineage.session_id = session_id := by
  unfold build_lineage_for_child at h
  split at h
  · cases h
  · split at h
    · cases h
    · cases h
      rfl

end

end operious.session
