-- A captured delivery, and the dispatch outbox row that it is due: only a new, well-formed message with an
-- event and a channel is dispatched.
import Mathlib.Data.List.MinMax
import Mathlib.Data.Prod.Lex
import Operious.Ingress.DispatchOutbox

namespace operious.boundary

open operious.ingress (IngressDispatchOutboxRecord)

inductive BoundarySourceType
  | zendesk | whatsapp | twilio_voice | twilio_sms | email | shulex | lark | slack | rest_api | generic
  deriving DecidableEq, Repr

def BoundarySourceType.value : BoundarySourceType → String
  | zendesk => "zendesk"
  | whatsapp => "whatsapp"
  | twilio_voice => "twilio_voice"
  | twilio_sms => "twilio_sms"
  | email => "email"
  | shulex => "shulex"
  | lark => "lark"
  | slack => "slack"
  | rest_api => "rest_api"
  | generic => "generic"

inductive BoundaryMessageType
  | message_received | message_delivered | status_update | event_created | event_updated | stream_frame
  | presence_update | unknown
  deriving DecidableEq, Repr

inductive BoundaryNormalizationStatus
  | ok | malformed | unauthenticated | unsupported_type | adapter_error
  deriving DecidableEq, Repr

inductive BoundaryReplayDisposition
  | new | replay_of_known | lineage_drift | invalid_key
  deriving DecidableEq, Repr

/-- The persisted shape of one `ingest`. -/
structure BoundaryIngressRecord (Uuid : Type) where
  ingress_id : Uuid
  runtime_instance_id : Uuid
  sequence : Int
  source_type : BoundarySourceType
  source_id : String
  tenant_id : Option String
  adapter_name : String
  normalization_status : BoundaryNormalizationStatus
  message_type : BoundaryMessageType
  replay_disposition : BoundaryReplayDisposition
  replay_key : Option Uuid
  event_id : Option Uuid
  original_event_id : Option Uuid
  external_message_id : Option String
  external_conversation_id : Option String
  received_at : Instant
  correlation_id : Option String
  request_id : Option String
  canonical_payload : Metadata
  error : Option String
  source_language : String := "en"
  metadata : Metadata := .empty
  deriving DecidableEq

section

variable {Uuid : Type} [Stdlib Uuid] (record : BoundaryIngressRecord Uuid)

def ALLOWED_CHANNELS : List String := ["email", "whatsapp", "shopify"]

def channelKeys : List String :=
  ["tenant_channel.channel_type", "batch.channel_type", "ticket.channel", "channel_type", "channel"]

def channel_candidates : List String :=
  let values := [record.metadata, record.canonical_payload].flatMap fun mapping =>
    channelKeys.filterMap fun key =>
      match mapping.get? key with
      | some (.str raw) => some (Stdlib.lower Uuid (strip raw))
      | _ => none
  (values ++ [record.source_type.value]).filter (· ≠ "")

def dispatch_channel_for_ingress : Option String :=
  if record.source_type = .twilio_voice then none
  else
    match (channel_candidates record).find? fun candidate =>
        candidate = "voice" || candidate ∈ ALLOWED_CHANNELS with
    | some candidate => if candidate = "voice" then none else some candidate
    | none =>
      if record.source_type = .email ∨ record.source_type = .whatsapp then some record.source_type.value
      else none

def is_dispatch_outbox_eligible : Bool :=
  record.tenant_id.any (fun tenant_id => strip tenant_id ≠ "") &&
    record.normalization_status = .ok &&
    record.replay_disposition = .new &&
    record.event_id.isSome &&
    (dispatch_channel_for_ingress record).isSome

def derive_ingress_dispatch_outbox_id (ingress_id : Uuid) : Uuid :=
  Stdlib.uuid5 (Stdlib.uuid "69a1124a-3f94-4e5f-94b3-4c68a4c567a0") (Stdlib.str ingress_id)

def make_ingress_dispatch_outbox_record (created_at : Option Instant) :
    Option (IngressDispatchOutboxRecord Uuid) :=
  if is_dispatch_outbox_eligible record = false then none
  else
    match dispatch_channel_for_ingress record, record.tenant_id with
    | some channel, some tenant_id =>
      let ts := created_at.getD record.received_at
      some {
        outbox_id := derive_ingress_dispatch_outbox_id record.ingress_id
        ingress_id := record.ingress_id
        tenant_id, channel
        status := .pending
        created_at := ts
        next_attempt_at := some ts
        metadata := Dict.ofList
          [("boundary.ingress_id", .str (Stdlib.str record.ingress_id)),
            ("boundary.event_id", .ofOptStr (record.event_id.map Stdlib.str)),
            ("boundary.source_type", .str record.source_type.value),
            ("boundary.external_message_id", .ofOptStr record.external_message_id)] }
    | _, _ => none

variable {record}

theorem outbox_ids {created_at : Option Instant} {outbox : IngressDispatchOutboxRecord Uuid}
    (h : make_ingress_dispatch_outbox_record record created_at = some outbox) :
    outbox.ingress_id = record.ingress_id ∧
      outbox.outbox_id = derive_ingress_dispatch_outbox_id record.ingress_id := by
  unfold make_ingress_dispatch_outbox_record at h
  split at h
  · cases h
  · split at h
    · cases h
      exact ⟨rfl, rfl⟩
    · cases h

theorem derive_outbox_id_inj [LawfulStdlib Uuid] {a b : Uuid}
    (h : derive_ingress_dispatch_outbox_id a = derive_ingress_dispatch_outbox_id b) : a = b :=
  LawfulStdlib.str_inj (LawfulStdlib.uuid5_inj _ h)

end

end operious.boundary

-- The two stores of captured deliveries: dicts with an index for each further key, and tables with unique
-- indexes. In both an ingress row comes with the outbox row it is due.
namespace operious.boundary

open operious.ingress (IngressDispatchOutboxRecord)

variable {Uuid : Type}

/-! ## In memory -/

structure InMemoryBoundaryPersistence (Uuid : Type) where
  ingress : Dict Uuid (BoundaryIngressRecord Uuid) := .empty
  ingress_by_replay_key : Dict Uuid Uuid := .empty
  ingress_by_event_id : Dict Uuid Uuid := .empty
  ingress_dispatch_outbox : Dict Uuid (IngressDispatchOutboxRecord Uuid) := .empty
  ingress_dispatch_outbox_by_ingress : Dict Uuid Uuid := .empty

namespace InMemoryBoundaryPersistence

variable [DecidableEq Uuid] (s : InMemoryBoundaryPersistence Uuid)
  (record : BoundaryIngressRecord Uuid)

def resolve_duplicate_ingress : Option (BoundaryIngressRecord Uuid) :=
  (s.ingress.get? record.ingress_id).or <|
    ((record.replay_key.bind s.ingress_by_replay_key.get?).bind s.ingress.get?).or
      ((record.event_id.bind s.ingress_by_event_id.get?).bind s.ingress.get?)

/-- The record is put under its three keys. -/
def index : InMemoryBoundaryPersistence Uuid :=
  { s with
    ingress := s.ingress.set record.ingress_id record
    ingress_by_replay_key := match record.replay_key with
      | some replay_key => s.ingress_by_replay_key.set replay_key record.ingress_id
      | none => s.ingress_by_replay_key
    ingress_by_event_id := match record.event_id with
      | some event_id => s.ingress_by_event_id.set event_id record.ingress_id
      | none => s.ingress_by_event_id }

variable [Stdlib Uuid]

/-- `_create_ingress_dispatch_outbox_locked`. -/
def create_ingress_dispatch_outbox (created_at : Option Instant) : InMemoryBoundaryPersistence Uuid :=
  match s.ingress_dispatch_outbox_by_ingress.get? record.ingress_id with
  | some _ => s
  | none =>
    match make_ingress_dispatch_outbox_record record created_at with
    | none => s
    | some outbox => { s with
        ingress_dispatch_outbox := s.ingress_dispatch_outbox.set outbox.outbox_id outbox
        ingress_dispatch_outbox_by_ingress :=
          s.ingress_dispatch_outbox_by_ingress.set record.ingress_id outbox.outbox_id }

def save_ingress : BoundaryIngressRecord Uuid × InMemoryBoundaryPersistence Uuid :=
  match s.resolve_duplicate_ingress record with
  | some existing => (existing, s)
  | none => (record, (s.index record).create_ingress_dispatch_outbox record none)

/-- `bulk_insert_ingress_records`. The set of ids is in the order of insertion. -/
def bulk_insert_ingress_records (s : InMemoryBoundaryPersistence Uuid) :
    List (BoundaryIngressRecord Uuid) → List Uuid × InMemoryBoundaryPersistence Uuid
  | [] => ([], s)
  | record :: records =>
    match s.resolve_duplicate_ingress record with
    | some _ => bulk_insert_ingress_records s records
    | none =>
      let (inserted, s') := bulk_insert_ingress_records
        ((s.index record).create_ingress_dispatch_outbox record none) records
      (record.ingress_id :: inserted, s')

end InMemoryBoundaryPersistence

/-! ## In Postgres -/

/-- What a call of the store raises. -/
inductive BoundaryStoreError
  | integrity_error
  | boundary_persistence_error (reason : String)
  deriving DecidableEq, Repr

/-- The rows of the two tables, in the order of insertion. -/
structure PostgresBoundaryPersistence (Uuid : Type) where
  ingress : List (BoundaryIngressRecord Uuid) := []
  outbox : List (IngressDispatchOutboxRecord Uuid) := []

/-- Two keys are both there and the same, as a partial unique index compares them. -/
def sameKey [DecidableEq Uuid] (a b : Option Uuid) : Bool := a.isSome && a = b

/-- A stored row stands in the way of a record: it has one of its unique keys. -/
def sharesKey [DecidableEq Uuid] (record row : BoundaryIngressRecord Uuid) : Bool :=
  row.ingress_id = record.ingress_id || sameKey row.replay_key record.replay_key ||
    sameKey row.event_id record.event_id

namespace PostgresBoundaryPersistence

section

variable [DecidableEq Uuid]

/-- An insert that leaves out a row whose ingress has one already. -/
def insertOutbox (outbox : List (IngressDispatchOutboxRecord Uuid))
    (created : IngressDispatchOutboxRecord Uuid) :
    Except BoundaryStoreError (List (IngressDispatchOutboxRecord Uuid)) :=
  if outbox.any (·.ingress_id = created.ingress_id) then .ok outbox
  else if outbox.any (·.outbox_id = created.outbox_id) then .error .integrity_error
  else .ok (outbox ++ [created])

variable [Stdlib Uuid]

def create_outbox_for_ingress (outbox : List (IngressDispatchOutboxRecord Uuid))
    (record : BoundaryIngressRecord Uuid) :
    Except BoundaryStoreError (List (IngressDispatchOutboxRecord Uuid)) :=
  match make_ingress_dispatch_outbox_record record none with
  | none => .ok outbox
  | some created => insertOutbox outbox created

def bulk_create_outbox_for_ingress (outbox : List (IngressDispatchOutboxRecord Uuid))
    (records : List (BoundaryIngressRecord Uuid)) :
    Except BoundaryStoreError (List (IngressDispatchOutboxRecord Uuid)) :=
  records.foldlM create_outbox_for_ingress outbox

/-- The insert of a batch that leaves out the rows whose ingress id is taken. Another key that is taken
fails it. The ids are those of the rows that came in. -/
def insertBatch (rows : List (BoundaryIngressRecord Uuid)) :
    List (BoundaryIngressRecord Uuid) →
      Except BoundaryStoreError (List Uuid × List (BoundaryIngressRecord Uuid))
  | [] => .ok ([], rows)
  | record :: records =>
    if rows.any (·.ingress_id = record.ingress_id) then insertBatch rows records
    else if rows.any (sharesKey record) then .error .integrity_error
    else do
      let (inserted, rows) ← insertBatch (rows ++ [record]) records
      return (record.ingress_id :: inserted, rows)

def bulk_insert_ingress_records (s : PostgresBoundaryPersistence Uuid)
    (records : List (BoundaryIngressRecord Uuid)) :
    Except BoundaryStoreError (List Uuid × PostgresBoundaryPersistence Uuid) := do
  let (inserted, ingress) ← insertBatch s.ingress records
  let outbox ← bulk_create_outbox_for_ingress s.outbox (records.filter (·.ingress_id ∈ inserted))
  return (inserted, { ingress, outbox })

end

/-- Of the orders of the integers the one that computes. -/
@[reducible] def intPreorder : Preorder Int := Int.instLinearOrder.toPreorder

attribute [local instance] intPreorder

variable [LinearOrder Uuid] (s : PostgresBoundaryPersistence Uuid) (record : BoundaryIngressRecord Uuid)

/-- The order of `_find_duplicate_ingress`. -/
def arrival (row : BoundaryIngressRecord Uuid) : Instant ×ₗ Uuid ×ₗ Int :=
  toLex (row.received_at, toLex (row.runtime_instance_id, row.sequence))

def find_duplicate_ingress : Option (BoundaryIngressRecord Uuid) :=
  (s.ingress.filter (sharesKey record)).argmin arrival

variable [Stdlib Uuid]

def save_ingress :
    Except BoundaryStoreError (BoundaryIngressRecord Uuid) × PostgresBoundaryPersistence Uuid :=
  let inserted : Except BoundaryStoreError (PostgresBoundaryPersistence Uuid) :=
    if s.ingress.any (sharesKey record) then .error .integrity_error
    else do
      let outbox ← create_outbox_for_ingress s.outbox record
      return { ingress := s.ingress ++ [record], outbox }
  match inserted with
  | .ok s' => (.ok record, s')
  | .error _ =>
    match s.find_duplicate_ingress record with
    | some existing => (.ok existing, s)
    | none => (.error (.boundary_persistence_error
        ("duplicate ingress record: ingress_id=" ++ Stdlib.str record.ingress_id)), s)

end PostgresBoundaryPersistence

end operious.boundary
