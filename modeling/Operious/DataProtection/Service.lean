-- What the data protection service reads and writes: the rows of data keys, legal holds and erasure
-- requests, the ring of master keys, and what it takes from the platform: an AEAD, randomness and
-- the texts of values.
import Operious.Lib.Base64
import Operious.Lib.Effects
import Operious.Lib.Json
import Operious.Python

namespace operious.data_protection

open utf8 json effects

abbrev Bytes := List UInt8

def ascii (s : String) : Bytes := s.toList.map fun c => UInt8.ofNat c.toNat

def dataKeyBytes : Nat := 32
def nonceBytes : Nat := 12
def tenantScopeId : String := "__tenant__"
def jsonMarker : Text := ofString "__op_dp__"
def jsonMarkerVersion : Text := ofString "v1"
def textPrefix : Text := ofString "opdp:v1:"
def bytesPrefix : Bytes := ascii "OPDP1:"
def wrappedKeyPrefix : Bytes := ascii "OPDK1:"

def sensitiveJsonKeys : List Text :=
  ["body", "canonical_payload", "content", "customer_message", "customer_reply", "draft_body",
    "message", "notes", "phase_a_response", "proposed_customer_reply", "reply", "safe_excerpt",
    "source_text", "summary", "synthesis_text", "text", "transcript", "transcript_text"].map ofString

inductive ServiceError
  | dataProtection (message : String)
  | legalHoldBlocked (message : String)
  | legalHoldNotFound (message : String)
  | erasureRequestNotFound (message : String)
  | erasureRequestLifecycle (message : String)
  | erasureRequestSeparation (message : String)
  /-- The database refuses a row. -/
  | integrity
  /-- A text that has no UTF-8, or bytes that are no UTF-8. -/
  | unicode
  /-- The `ValueError` of a key or a nonce of a length that AES-GCM does not take. -/
  | value
  /-- The `AttributeError` of a parsed marker that is no object. -/
  | attribute
  deriving DecidableEq, Repr

inductive AeadError
  | invalidTag
  | value

/-! ## What the service takes from the platform -/

class Platform (Uuid : Type) where
  /-- `AESGCM(key).encrypt(nonce, data, aad)`. -/
  encrypt : (key nonce data aad : Bytes) → Except AeadError Bytes
  /-- `AESGCM(key).decrypt(nonce, data, aad)`. -/
  decrypt : (key nonce data aad : Bytes) → Except AeadError Bytes
  /-- What `os.urandom` gives when it is asked for some bytes, as the draws before it left it. -/
  urandom : (draw length : Nat) → Bytes
  uuid4 : (draw : Nat) → Uuid
  /-- `uuid.UUID(text)`. -/
  parse : Text → Option Uuid
  /-- `str(value)` of a parsed JSON value. -/
  str : Json → Text
  /-- `repr(text)`. -/
  repr : String → String
  /-- `data.decode(json.detect_encoding(data), "surrogatepass")`. -/
  decode : Bytes → Option Text

/-- What the service relies on: an ideal AEAD, which takes every payload under a data key and a
nonce of the right lengths and opens what it sealed; and the documented texts. -/
class LawfulPlatform (Uuid : Type) [Stdlib Uuid] [Platform Uuid] : Prop where
  seals : ∀ {key nonce : Bytes} (data aad : Bytes), key.length = dataKeyBytes →
    nonce.length = nonceBytes → ∃ sealed, Platform.encrypt Uuid key nonce data aad = .ok sealed ∧
      Platform.decrypt Uuid key nonce sealed aad = .ok data
  urandom_length : ∀ draw length, (Platform.urandom Uuid draw length).length = length
  parse_str : ∀ id : Uuid, Platform.parse (ofString (Stdlib.str id)) = some id
  str_text : ∀ t : Text, Platform.str Uuid (.str t) = t
  decode_ascii : ∀ {t : Text}, Ascii t → Platform.decode Uuid (t.map UInt8.ofNat) = some t

/-! ## The rows -/

inductive KeyScope
  | tenant
  | subject
  deriving DecidableEq, Repr

def KeyScope.value : KeyScope → String
  | .tenant => "tenant"
  | .subject => "subject"

structure DataProtectionDataKeyRow (Uuid : Type) where
  data_key_id : Uuid
  tenant_id : String
  scope : KeyScope
  scope_id : String
  master_key_version : String
  encrypted_key : Bytes
  rewrapped_at : Option Instant := none
  deriving DecidableEq

/-- What the unique constraint of the table is about. -/
def DataProtectionDataKeyRow.scopeKey {Uuid : Type} (row : DataProtectionDataKeyRow Uuid) :
    String × KeyScope × String :=
  (row.tenant_id, row.scope, row.scope_id)

/-- The table of data keys. Its two constraints hold of every value. -/
structure DataKeys (Uuid : Type) where
  rows : List (DataProtectionDataKeyRow Uuid)
  ids_distinct : (rows.map (·.data_key_id)).Nodup
  scopes_distinct : (rows.map (·.scopeKey)).Nodup

inductive HoldScope
  | tenant
  | subject
  | session
  deriving DecidableEq, Repr

structure DataProtectionLegalHoldRow (Uuid : Type) where
  hold_id : Uuid
  tenant_id : String
  scope : HoldScope
  scope_id : String
  reason : String
  created_by : String
  created_at : Instant
  lifted_at : Option Instant := none
  lifted_by : Option String := none
  deriving DecidableEq

inductive ErasureRequestStatus
  | proposed
  | approved
  | rejected
  | executed
  deriving DecidableEq, Repr

def ErasureRequestStatus.value : ErasureRequestStatus → String
  | .proposed => "proposed"
  | .approved => "approved"
  | .rejected => "rejected"
  | .executed => "executed"

structure DataProtectionErasureRequestRow (Uuid : Type) where
  request_id : Uuid
  tenant_id : String
  subject_id : String
  status : ErasureRequestStatus
  reason : String
  proposed_by : String
  proposed_at : Instant
  approved_by : Option String := none
  approved_at : Option Instant := none
  executed_at : Option Instant := none
  blocked_reason : Option String := none
  deriving DecidableEq

/-! ## The table of data keys -/

namespace DataKeys

variable {Uuid : Type}

def empty : DataKeys Uuid := ⟨[], List.nodup_nil, List.nodup_nil⟩

def insert [DecidableEq Uuid] (keys : DataKeys Uuid) (row : DataProtectionDataKeyRow Uuid) :
    Option (DataKeys Uuid) :=
  if h : row.data_key_id ∉ keys.rows.map (·.data_key_id) ∧
      row.scopeKey ∉ keys.rows.map (·.scopeKey) then
    some
      { rows := keys.rows ++ [row]
        ids_distinct := by simpa [List.nodup_append] using ⟨keys.ids_distinct, by simpa using h.1⟩
        scopes_distinct := by
          simpa [List.nodup_append] using ⟨keys.scopes_distinct, by simpa using h.2⟩ }
  else none

/-- A DELETE of the rows that pass `p`. -/
def delete (keys : DataKeys Uuid) (p : DataProtectionDataKeyRow Uuid → Bool) : DataKeys Uuid where
  rows := keys.rows.filter fun row => !p row
  ids_distinct := keys.ids_distinct.sublist (List.filter_sublist.map _)
  scopes_distinct := keys.scopes_distinct.sublist (List.filter_sublist.map _)

/-- The wrapping of one key written over. -/
def rewrap [DecidableEq Uuid] (keys : DataKeys Uuid) (id : Uuid) (version : String)
    (encrypted : Bytes) (now : Instant) : DataKeys Uuid where
  rows := keys.rows.map fun row =>
    if row.data_key_id = id then
      { row with master_key_version := version, encrypted_key := encrypted, rewrapped_at := some now }
    else row
  ids_distinct := by
    have h := keys.ids_distinct
    rw [List.map_map]
    convert h using 2
    funext row
    simp only [Function.comp_apply]
    split <;> rfl
  scopes_distinct := by
    have h := keys.scopes_distinct
    rw [List.map_map]
    convert h using 2
    funext row
    simp only [Function.comp_apply]
    split <;> rfl

def byScope (keys : DataKeys Uuid) (tenant_id : String) (scope : KeyScope) (scope_id : String) :
    Option (DataProtectionDataKeyRow Uuid) :=
  keys.rows.find? fun row => row.scopeKey = (tenant_id, scope, scope_id)

def get? [DecidableEq Uuid] (keys : DataKeys Uuid) (id : Uuid) :
    Option (DataProtectionDataKeyRow Uuid) :=
  keys.rows.find? fun row => row.data_key_id = id

theorem get?_of_mem [DecidableEq Uuid] {keys : DataKeys Uuid}
    {row : DataProtectionDataKeyRow Uuid} (h : row ∈ keys.rows) :
    keys.get? row.data_key_id = some row := by
  have hd := keys.ids_distinct
  unfold get?
  generalize keys.rows = rows at h hd
  induction rows with
  | nil => cases h
  | cons r rows ih =>
    simp only [List.map_cons, List.nodup_cons] at hd
    rcases List.mem_cons.mp h with rfl | h
    · simp
    · have hne : r.data_key_id ≠ row.data_key_id :=
        fun heq => hd.1 (List.mem_map.mpr ⟨row, h, heq.symm⟩)
      rw [List.find?_cons_of_neg (by simpa using hne)]
      exact ih h hd.2

end DataKeys

/-! ## The service -/

/-- The ring as its constructor leaves it: the active version is in it and keys are cut to size. -/
structure MasterKeyRing where
  active_version : String
  keys : Dict String Bytes
  legacy_keys : Dict String Bytes := Dict.empty
  active_in_ring : (keys.get? active_version).isSome
  keys_cut : ∀ key ∈ keys.values, key.length = dataKeyBytes
  legacy_keys_cut : ∀ key ∈ legacy_keys.values, key.length = dataKeyBytes

/-- A lift of a hold that is set on its object and not yet flushed. -/
structure Lift (Uuid : Type) where
  hold_id : Uuid
  lifted_at : Instant
  lifted_by : Option String := none

/-- The service with the tables of its session. Sessions do not flush on their own: a query for
holds sees no lift before the next flush. -/
structure DataProtectionService (Uuid : Type) where
  ring : MasterKeyRing
  data_keys : DataKeys Uuid := DataKeys.empty
  legal_holds : Dict Uuid (DataProtectionLegalHoldRow Uuid) := Dict.empty
  erasure_requests : Dict Uuid (DataProtectionErasureRequestRow Uuid) := Dict.empty
  unflushed : List (Lift Uuid) := []
  /-- The draws taken from the random source. -/
  drawn : Nat := 0

/-- A computation of the service. What it wrote before an error stays written. -/
abbrev Session (Uuid : Type) := Effect ServiceError (DataProtectionService Uuid)

section

variable {Uuid : Type}

/-- The service once something more was drawn. -/
def DataProtectionService.draw (svc : DataProtectionService Uuid) : DataProtectionService Uuid :=
  { svc with drawn := svc.drawn + 1 }

variable (svc : DataProtectionService Uuid)

@[simp] theorem draw_ring : svc.draw.ring = svc.ring := rfl

@[simp] theorem draw_data_keys :
    svc.draw.data_keys = svc.data_keys := rfl

@[simp] theorem draw_drawn :
    svc.draw.drawn = svc.drawn + 1 := rfl

def DataProtectionService.withKeys (svc : DataProtectionService Uuid) (data_keys : DataKeys Uuid) :
    DataProtectionService Uuid :=
  { svc with data_keys }

@[simp] theorem withKeys_ring (keys : DataKeys Uuid) :
    (svc.withKeys keys).ring = svc.ring := rfl

@[simp] theorem withKeys_data_keys (keys : DataKeys Uuid) :
    (svc.withKeys keys).data_keys = keys := rfl

def urandom [Platform Uuid] (length : Nat) : Session Uuid Bytes := do
  let svc ← get
  modify DataProtectionService.draw
  return Platform.urandom Uuid svc.drawn length

def uuid4 [Platform Uuid] : Session Uuid Uuid := do
  let svc ← get
  modify DataProtectionService.draw
  return Platform.uuid4 svc.drawn

@[simp] theorem run_urandom [Platform Uuid] (length : Nat) (svc : DataProtectionService Uuid) :
    run (urandom length) svc = (.ok (Platform.urandom Uuid svc.drawn length), svc.draw) := rfl

@[simp] theorem run_uuid4 [Platform Uuid] :
    run uuid4 svc = (.ok (Platform.uuid4 svc.drawn), svc.draw) := rfl

def liftHold [DecidableEq Uuid] (holds : Dict Uuid (DataProtectionLegalHoldRow Uuid))
    (l : Lift Uuid) : Dict Uuid (DataProtectionLegalHoldRow Uuid) :=
  match holds.get? l.hold_id with
  | none => holds
  | some hold =>
    holds.set l.hold_id { hold with lifted_at := some l.lifted_at, lifted_by := l.lifted_by }

/-- The service once the lifts are in the table. -/
def DataProtectionService.flushed [DecidableEq Uuid] (svc : DataProtectionService Uuid) :
    DataProtectionService Uuid :=
  { svc with legal_holds := svc.unflushed.foldl liftHold svc.legal_holds, unflushed := [] }

@[simp] theorem flushed_ring [DecidableEq Uuid] :
    svc.flushed.ring = svc.ring := rfl

@[simp] theorem flushed_data_keys [DecidableEq Uuid] :
    svc.flushed.data_keys = svc.data_keys := rfl

@[simp] theorem flushed_drawn [DecidableEq Uuid] :
    svc.flushed.drawn = svc.drawn := rfl

def flush [DecidableEq Uuid] : Session Uuid Unit := modify DataProtectionService.flushed

@[simp] theorem run_flush [DecidableEq Uuid] :
    run flush svc = (.ok (), svc.flushed) := rfl

/-- `_ensure_tenant`. The registry takes no empty tenant id. -/
def ensureTenant [DecidableEq Uuid] (tenant_id : String) : Session Uuid Unit :=
  if tenant_id.isEmpty then throw .integrity else flush

theorem run_ensureTenant [DecidableEq Uuid] {tenant_id : String}
    (h : tenant_id.isEmpty = false) (svc : DataProtectionService Uuid) :
    run (ensureTenant tenant_id) svc = (.ok (), svc.flushed) := by
  simp [ensureTenant, h]

end

end operious.data_protection
