-- `BoundaryIngressRuntime.ingest`: a delivery is normalised, classified against the registry of replay
-- keys, entered there, and only then saved. Between any two of these steps other deliveries may run.
import Operious.Governance.Engine
import Operious.Identity.RuntimeIds
import Operious.Ingress.BoundaryStores
import Operious.Lib.Raising
import Operious.Session.Records

namespace operious.boundary

open awaits
open json (Json textLe escapeUnit commas)
open operious.governance (PyException)
open operious.identity (Component derive_runtime_id)
open operious.session (project_optional_str)
open utf8

/-! ## Texts from outside -/

/-- A text as a string of the store. It is the same text when that can be encoded. -/
def stringOf (t : Text) : String := String.ofList (t.map Char.ofNat)

/-- `uuid.uuid5` of a text, which has to be encoded for it. A `UnicodeEncodeError` is a `ValueError`. -/
def uuid5 {Uuid : Type} [Stdlib Uuid] (name_space : Uuid) (name : Text) : Except PyException Uuid :=
  match name.mapM toChar? with
  | some chars => .ok (Stdlib.uuid5 name_space (String.ofList chars))
  | none => .error ⟨"UnicodeEncodeError", "surrogates not allowed"⟩

class Sha256Hex where
  /-- `hashlib.sha256(data).hexdigest()`. -/
  sha256_hex : List UInt8 → String

mutual

def canonicalize_payload : Json → Json
  | .dict items => .dict ((canonicalizeItems items).insertionSort fun a b => textLe a.1 b.1 = true)
  | .list xs => .list (canonicalizeList xs)
  | v => v

def canonicalizeList : List Json → List Json
  | [] => []
  | v :: rest => canonicalize_payload v :: canonicalizeList rest

def canonicalizeItems : List (Text × Json) → List (Text × Json)
  | [] => []
  | (k, v) :: rest => (k, canonicalize_payload v) :: canonicalizeItems rest

end

/-- What stands for a character in a string with `ensure_ascii=False`. -/
def escapeRaw (c : Nat) : Text :=
  if c = 34 then [92, 34]
  else if c = 92 then [92, 92]
  else if c = 10 then [92, 110]
  else if c = 13 then [92, 114]
  else if c = 9 then [92, 116]
  else if c = 12 then [92, 102]
  else if c = 8 then [92, 98]
  else if c < 32 then escapeUnit c
  else [c]

def quoteRaw (t : Text) : Text := 34 :: (t.flatMap escapeRaw ++ [34])

mutual

/-- `dumps(value, ensure_ascii=False, separators=(",", ":"))`. -/
def blob : Json → Text
  | .null => ofString "null"
  | .bool true => ofString "true"
  | .bool false => ofString "false"
  | .num literal => literal
  | .str t => quoteRaw t
  | .list xs => 91 :: (commas (blobs xs) ++ [93])
  | .dict items => 123 :: (commas (blobItems items) ++ [125])

def blobs : List Json → List Text
  | [] => []
  | v :: rest => blob v :: blobs rest

def blobItems : List (Text × Json) → List Text
  | [] => []
  | (k, v) :: rest => (quoteRaw k ++ 58 :: blob v) :: blobItems rest

end

def content_fingerprint [Sha256Hex] (value : Json) : Except PyException String :=
  match encode (blob (canonicalize_payload value)) with
  | some bytes => .ok (Sha256Hex.sha256_hex bytes)
  | none => .error ⟨"UnicodeEncodeError", "surrogates not allowed"⟩

/-! ## Deliveries -/

def BoundaryNormalizationStatus.value : BoundaryNormalizationStatus → String
  | ok => "ok"
  | malformed => "malformed"
  | unauthenticated => "unauthenticated"
  | unsupported_type => "unsupported_type"
  | adapter_error => "adapter_error"

def BoundaryMessageType.value : BoundaryMessageType → String
  | message_received => "message_received"
  | message_delivered => "message_delivered"
  | status_update => "status_update"
  | event_created => "event_created"
  | event_updated => "event_updated"
  | stream_frame => "stream_frame"
  | presence_update => "presence_update"
  | unknown => "unknown"

def BoundaryReplayDisposition.value : BoundaryReplayDisposition → String
  | new => "new"
  | replay_of_known => "replay_of_known"
  | lineage_drift => "lineage_drift"
  | invalid_key => "invalid_key"

/-- What an adapter makes of a payload. -/
structure BoundaryNormalizationResult where
  status : BoundaryNormalizationStatus
  message_type : BoundaryMessageType := .unknown
  external_message_id : Option Text := none
  external_conversation_id : Option Text := none
  canonical_payload : Json := .dict []
  error : Option String := none

inductive AdapterFailure
  | authentication (exc : PyException)
  | normalization (exc : PyException)
  | other (exc : PyException)

/-- One call of `ingest`: its request, the number and the time that the runtime gives it, and what the
adapter that it names makes of the payload. There is none where no ingress adapter has the name. -/
structure Delivery (Uuid : Type) where
  source_type : BoundarySourceType
  source_id : String
  source_tenant_id : Option Text
  authority_tenant_id : Option Text := none
  adapter_name : String
  content_type : Option String := none
  body : Component Uuid
  correlation_id : Option String := none
  request_id : Option String := none
  ingress_id_override : Option Uuid := none
  metadata : Metadata := .empty
  adapter : Option (Except AdapterFailure BoundaryNormalizationResult)
  runtime_instance_id : Uuid
  sequence : Int
  started_at : Instant

section

variable {Uuid : Type}

/-- `BoundaryNormalizer.normalize`. -/
def normalize (adapter_name : String) :
    Except AdapterFailure BoundaryNormalizationResult → BoundaryNormalizationResult
  | .error (.authentication exc) => { status := .unauthenticated, error := some exc.text }
  | .error (.normalization exc) => { status := .malformed, error := some exc.text }
  | .error (.other exc) =>
    { status := .adapter_error
      error := some ("adapter '" ++ adapter_name ++ "' raised " ++ exc.describe) }
  | .ok raw => { raw with canonical_payload := canonicalize_payload raw.canonical_payload }

namespace Delivery

variable (d : Delivery Uuid)

/-- The tenant that `request_authority_resolution` settles on. -/
def tenant_id : Option Text := d.authority_tenant_id.or d.source_tenant_id

def normalization : Option BoundaryNormalizationResult := d.adapter.map (normalize d.adapter_name)

def message_id (n : BoundaryNormalizationResult) : Option Text :=
  if n.status = .ok then n.external_message_id.filter (· ≠ []) else none

/-- The seed of the replay key and of the event. -/
def seed (message_id : Text) : Text :=
  ofString d.source_type.value ++ 124 :: ((d.tenant_id.getD (ofString (project_optional_str none))) ++
    124 :: message_id)

variable [Stdlib Uuid]

def optional (text : Option String) : Component Uuid :=
  match text with
  | some text => .str text
  | none => .null

def ingress_id : Uuid :=
  d.ingress_id_override.getD <|
    derive_runtime_id (Stdlib.uuid "e4ed8a1a-13be-4ac1-bd19-1a2dbe506010") (d.tenant_id.map stringOf)
      [.str "boundary_ingress", .str d.source_type.value, .str d.source_id, .str d.adapter_name,
        optional d.content_type, d.body, optional d.correlation_id, optional d.request_id]

def derive_event_id (message_id : Text) : Except PyException Uuid :=
  uuid5 (Stdlib.uuid "b0c1d2e3-0001-4001-8001-000000000001") (d.seed message_id)

def derive_replay_key (message_id : Text) : Except PyException Uuid :=
  uuid5 (Stdlib.uuid "b0c1d2e3-0004-4004-8004-000000000004") (d.seed message_id)

def replay_key (n : BoundaryNormalizationResult) : Option Uuid :=
  (message_id n).bind fun id => (d.derive_replay_key id).toOption

/-- The event id. Where it cannot be derived the call raises. -/
def event_id (n : BoundaryNormalizationResult) : Except PyException (Option Uuid) :=
  match message_id n with
  | none => .ok none
  | some id => (d.derive_event_id id).map some

end Delivery

/-! ## The registry -/

structure BoundaryReplayRecord (Uuid : Type) where
  replay_key : Uuid
  event_id : Uuid
  source_type : BoundarySourceType
  external_message_id : Text
  tenant_id : Option Text
  content_fingerprint : String
  first_seen_at : Instant
  last_seen_at : Instant
  observation_count : Nat
  last_disposition : BoundaryReplayDisposition
  metadata : Metadata := .empty

abbrev BoundaryIdempotencyRegistry (Uuid : Type) := Dict Uuid (BoundaryReplayRecord Uuid)

structure BoundaryReplayDecision (Uuid : Type) where
  disposition : BoundaryReplayDisposition
  original_event_id : Option Uuid := none

/-- `BoundaryReplayDetector.classify` of a key, from what the registry has under it. -/
def classify (existing : Option (BoundaryReplayRecord Uuid)) (content_fingerprint : String) :
    BoundaryReplayDecision Uuid :=
  match existing with
  | none => { disposition := .new }
  | some existing =>
    { disposition := if existing.content_fingerprint = content_fingerprint then .replay_of_known
        else .lineage_drift
      original_event_id := some existing.event_id }

def BoundaryReplayRecord.observed (existing : BoundaryReplayRecord Uuid)
    (disposition : BoundaryReplayDisposition) (observed_fingerprint : String) (seen_at : Instant) :
    BoundaryReplayRecord Uuid :=
  let observation := "observation." ++ toString (existing.observation_count + 1)
  { existing with
    last_seen_at := seen_at
    observation_count := existing.observation_count + 1
    last_disposition := disposition
    metadata := existing.metadata.update
      [(observation ++ ".fingerprint", .str observed_fingerprint),
        (observation ++ ".disposition", .str disposition.value)] }

variable [DecidableEq Uuid] [Stdlib Uuid]

def record_first_seen (registry : BoundaryIdempotencyRegistry Uuid)
    (record : BoundaryReplayRecord Uuid) : Except PyException (BoundaryIdempotencyRegistry Uuid) :=
  match registry.get? record.replay_key with
  | some _ => .error ⟨"ValueError",
      "replay key already registered: " ++ Stdlib.str record.replay_key⟩
  | none => .ok (registry.set record.replay_key record)

def record_observation (registry : BoundaryIdempotencyRegistry Uuid) (replay_key : Uuid)
    (disposition : BoundaryReplayDisposition) (observed_fingerprint : String) (seen_at : Instant) :
    Except PyException (BoundaryIdempotencyRegistry Uuid) :=
  match registry.get? replay_key with
  | none => .error ⟨"KeyError", "replay key not registered: " ++ Stdlib.str replay_key⟩
  | some existing =>
    .ok (registry.set replay_key (existing.observed disposition observed_fingerprint seen_at))

/-! ## Calls -/

inductive Call (Uuid : Type)
  | get (replay_key : Uuid)
  | record_first_seen (record : BoundaryReplayRecord Uuid)
  | record_observation (replay_key : Uuid) (disposition : BoundaryReplayDisposition)
      (observed_fingerprint : String) (seen_at : Instant)
  | save_ingress (record : BoundaryIngressRecord Uuid)

@[reducible] def Call.Answer : Call Uuid → Type
  | .get _ => Option (BoundaryReplayRecord Uuid)
  | .record_first_seen _ => Except PyException Unit
  | .record_observation .. => Except PyException Unit
  | .save_ingress _ => Except PyException (BoundaryIngressRecord Uuid)

/-- What the calls of `ingest` share. -/
structure World (Uuid : Type) where
  registry : BoundaryIdempotencyRegistry Uuid := .empty
  store : InMemoryBoundaryPersistence Uuid := {}

/-- A change that may be refused. A refusal changes nothing. -/
def World.changed (w : World Uuid) :
    Except PyException (BoundaryIdempotencyRegistry Uuid) → Except PyException Unit × World Uuid
  | .ok registry => (.ok (), { w with registry })
  | .error exc => (.error exc, w)

def perform : (c : Call Uuid) → World Uuid → c.Answer × World Uuid
  | .get replay_key, w => (w.registry.get? replay_key, w)
  | .record_first_seen record, w => w.changed (boundary.record_first_seen w.registry record)
  | .record_observation replay_key disposition fingerprint seen_at, w =>
    w.changed (boundary.record_observation w.registry replay_key disposition fingerprint seen_at)
  | .save_ingress record, w =>
    (.ok (w.store.save_ingress record).1, { w with store := (w.store.save_ingress record).2 })

/-- The persistence raises, and stores nothing. -/
def Refuses : (c : Call Uuid) → c.Answer → Prop
  | .save_ingress _, r => ∃ exc, r = .error exc
  | _, _ => False

def exec (c : Call Uuid) (w : World Uuid) (r : c.Answer) (w' : World Uuid) : Prop :=
  perform c w = (r, w') ∨ Refuses c r ∧ w' = w

/-! ## The record of a delivery -/

/-- The entries of a payload that are texts: the readers of a record look up no others. -/
def flat : Json → Metadata
  | .dict items => Dict.ofList (items.filterMap fun (key, value) =>
      match value with
      | .str text => some (stringOf key, .str (stringOf text))
      | _ => none)
  | _ => .empty

def setdefault (m : Metadata) (key : String) (value : Value) : Metadata :=
  match m.get? key with
  | some _ => m
  | none => m.set key value

def entry (key : String) (text : Option String) : List (String × Value) :=
  match text with
  | some text => if text = "" then [] else [(key, .str text)]
  | none => []

/-- What classification and registration have left of the ids. -/
structure Lineage (Uuid : Type) where
  disposition : BoundaryReplayDisposition
  event_id : Option Uuid
  original_event_id : Option Uuid

namespace Delivery

variable (d : Delivery Uuid) (n : BoundaryNormalizationResult) (lineage : Lineage Uuid)

def build_metadata : Metadata := d.metadata.update <|
  [("boundary.direction", .str "ingress"),
    ("boundary.ingress_id", .str (Stdlib.str d.ingress_id)),
    ("boundary.source_type", .str d.source_type.value),
    ("boundary.source_id", .str d.source_id),
    ("boundary.adapter_name", .str d.adapter_name),
    ("boundary.normalization_status", .str n.status.value),
    ("boundary.message_type", .str n.message_type.value),
    ("boundary.replay_disposition", .str lineage.disposition.value)] ++
  entry "boundary.replay_key" ((d.replay_key n).map Stdlib.str) ++
  entry "boundary.event_id" (lineage.event_id.map Stdlib.str) ++
  entry "boundary.original_event_id" (lineage.original_event_id.map Stdlib.str) ++
  entry "boundary.external_message_id" (n.external_message_id.map stringOf) ++
  entry "boundary.external_conversation_id" (n.external_conversation_id.map stringOf) ++
  entry "boundary.tenant_id" (d.tenant_id.map stringOf) ++
  entry "boundary.correlation_id" d.correlation_id ++
  entry "boundary.request_id" d.request_id

/-- `_source_language_from_metadata`. -/
def source_language (m : Metadata) : String :=
  match m.get? "source_language" with
  | some (.str language) => if strip language = "" then "en" else strip language
  | _ => "en"

/-- The result of the delivery, as the record that it is saved as. -/
def candidate : BoundaryIngressRecord Uuid :=
  let metadata := d.build_metadata n lineage
  let source_language := source_language metadata
  { ingress_id := d.ingress_id
    runtime_instance_id := d.runtime_instance_id
    sequence := d.sequence
    source_type := d.source_type
    source_id := d.source_id
    tenant_id := d.tenant_id.map stringOf
    adapter_name := d.adapter_name
    normalization_status := n.status
    message_type := n.message_type
    replay_disposition := lineage.disposition
    replay_key := d.replay_key n
    event_id := lineage.event_id
    original_event_id := lineage.original_event_id
    external_message_id := n.external_message_id.map stringOf
    external_conversation_id := n.external_conversation_id.map stringOf
    received_at := d.started_at
    correlation_id := d.correlation_id
    request_id := d.request_id
    canonical_payload := setdefault (flat n.canonical_payload) "source_language" (.str source_language)
    error := none
    source_language
    metadata := setdefault metadata "source_language" (.str source_language) }

end Delivery

/-! ## The runtime -/

/-- What a call returns. A result is given as its record: rehydrated from the stored one where that is
another. -/
structure BoundaryIngressEnvelope (Uuid : Type) where
  result : Option (BoundaryIngressRecord Uuid)
  error : Option PyException

abbrev Coroutine (Uuid α : Type) := Raising PyException (Call Uuid) Call.Answer α

def classify_replay (replay_key : Option Uuid) (fingerprint : String) :
    Coroutine Uuid (BoundaryReplayDecision Uuid) :=
  match replay_key with
  | none => pure { disposition := .invalid_key }
  | some replay_key => do
    let existing : Option (BoundaryReplayRecord Uuid) ← Raising.call (Call.get replay_key)
    return classify existing fingerprint

def Delivery.first_seen (d : Delivery Uuid) (n : BoundaryNormalizationResult)
    (replay_key event_id : Uuid) (fingerprint : String) : BoundaryReplayRecord Uuid where
  replay_key
  event_id
  source_type := d.source_type
  external_message_id := n.external_message_id.getD []
  tenant_id := d.tenant_id
  content_fingerprint := fingerprint
  first_seen_at := d.started_at
  last_seen_at := d.started_at
  observation_count := 1
  last_disposition := .new

/-- The bookkeeping of a new key. Another call may have registered it in between. -/
def register (d : Delivery Uuid) (n : BoundaryNormalizationResult) (fingerprint : String)
    (replay_key event_id : Uuid) : Coroutine Uuid (Lineage Uuid) := do
  let registered : Except PyException Unit ←
    Raising.call (Call.record_first_seen (d.first_seen n replay_key event_id fingerprint))
  match registered with
  | .ok _ => return ⟨.new, some event_id, some event_id⟩
  | .error _ =>
    let existing : Option (BoundaryReplayRecord Uuid) ← Raising.call (Call.get replay_key)
    match existing with
    | none => return ⟨.new, some event_id, some event_id⟩
    | some existing =>
      let decision ← classify_replay (some replay_key) fingerprint
      return ⟨decision.disposition, some existing.event_id, some existing.event_id⟩

/-- The bookkeeping of a decision. A replay inherits the event of the first delivery. -/
def keep_books (d : Delivery Uuid) (n : BoundaryNormalizationResult) (fingerprint : String)
    (decision : BoundaryReplayDecision Uuid) (event_id : Option Uuid) :
    Coroutine Uuid (Lineage Uuid) :=
  match decision.disposition, event_id, d.replay_key n with
  | .new, some event_id, some replay_key => register d n fingerprint replay_key event_id
  | .replay_of_known, _, some replay_key | .lineage_drift, _, some replay_key => do
    let observed : Except PyException Unit ← Raising.call
      (Call.record_observation replay_key decision.disposition fingerprint d.started_at)
    Raising.compute observed
    return ⟨decision.disposition, decision.original_event_id, decision.original_event_id⟩
  | disposition, event_id, _ => return ⟨disposition, event_id, none⟩

/-- The save. Where it raises the envelope has the error beside the result. -/
def persist (candidate : BoundaryIngressRecord Uuid) : Coroutine Uuid (BoundaryIngressEnvelope Uuid) := do
  let saved : Except PyException (BoundaryIngressRecord Uuid) ← Raising.call (Call.save_ingress candidate)
  match saved with
  | .ok persisted => return ⟨some persisted, none⟩
  | .error exc => return ⟨some candidate, some exc⟩

def ingest [Sha256Hex] (d : Delivery Uuid) : Coroutine Uuid (BoundaryIngressEnvelope Uuid) :=
  match d.normalization with
  | none => return ⟨none, some ⟨"BoundaryConfigurationError",
      "unknown ingress adapter: '" ++ d.adapter_name ++ "'"⟩⟩
  | some n => do
    let fingerprint ← Raising.compute (content_fingerprint n.canonical_payload)
    let decision ← classify_replay (d.replay_key n) fingerprint
    let event_id ← Raising.compute (d.event_id n)
    let lineage ← keep_books d n fingerprint decision event_id
    persist (d.candidate n lineage)

end

end operious.boundary
