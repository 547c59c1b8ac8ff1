-- Data keys: how the ring wraps one and unwraps a row, and how the service finds the key of a scope
-- or makes one. A key that was wrapped is what its row unwraps to.
import Operious.DataProtection.Service

namespace operious.data_protection

open utf8 json effects

/-! ## The texts that markers and envelopes are made of -/

def b64e (value : Bytes) : Text := base64.unpadded (base64.b2a value)

/-- `_b64d`, or none where it raises. -/
def b64d (value : Text) : Option Bytes :=
  if value.all (· < 128) then base64.a2b 0 0 0 (base64.padded value) else none

/-- `_json_bytes`. What is written is ASCII, and its UTF-8 is itself. -/
def jsonBytes (value : List (Text × Text)) : Bytes := (dumps value).map UInt8.ofNat

/-- The UTF-8 of a text of the database. -/
def stringBytes (s : String) : Bytes := s.toByteArray.data.toList

section

variable {Uuid : Type} [Platform Uuid]

/-- `json.loads` of bytes, or none where it raises. -/
def loadsBytes (Uuid : Type) [Platform Uuid] (b : Bytes) : Option Json :=
  (Platform.decode Uuid b).bind loads

/-- `str(body[key])`, or none where it raises. -/
def textAt (Uuid : Type) [Platform Uuid] (body : Json) (key : String) : Option Text :=
  match body with
  | .dict items => (Dict.find (ofString key) items).map (Platform.str Uuid)
  | _ => none

variable [Stdlib Uuid]

def dataKeyAad (tenant_id : String) (scope : KeyScope) (scope_id : String) (data_key_id : Uuid)
    (master_key_version : String) : Bytes :=
  stringBytes ("opdp.datakey.v1|" ++ Stdlib.str data_key_id ++ "|" ++ tenant_id ++ "|" ++
    scope.value ++ "|" ++ scope_id ++ "|" ++ master_key_version)

/-! ## The ring -/

def MasterKeyRing.master (Uuid : Type) [Platform Uuid] (ring : MasterKeyRing) (version : String) :
    Except ServiceError Bytes :=
  match ring.keys.get? version with
  | some key => .ok key
  | none =>
    .error (.dataProtection ("master key version " ++ Platform.repr Uuid version ++
      " is unavailable"))

/-- The errors of `AESGCM` where the service does not catch them. -/
def raised {α : Type} : Except AeadError α → Except ServiceError α
  | .ok a => .ok a
  | .error _ => .error .value

def MasterKeyRing.wrapKey (ring : MasterKeyRing) (data_key : Bytes) (tenant_id : String)
    (scope : KeyScope) (scope_id : String) (data_key_id : Uuid) (version : Option String) :
    Session Uuid (String × Bytes) := do
  let master_version := (version.filter (· ≠ "")).getD ring.active_version
  let master ← lift (ring.master Uuid master_version)
  let nonce ← urandom nonceBytes
  let aad := dataKeyAad tenant_id scope scope_id data_key_id master_version
  let ciphertext ← lift (raised (Platform.encrypt Uuid master nonce data_key aad))
  let body := [(ofString "n", b64e nonce), (ofString "ct", b64e ciphertext)]
  return (master_version, wrappedKeyPrefix ++ jsonBytes body)

def readEnvelope (Uuid : Type) [Platform Uuid] (b : Bytes) : Option (Bytes × Bytes) := do
  let body ← loadsBytes Uuid b
  let nonce ← b64d (← textAt Uuid body "n")
  let ciphertext ← b64d (← textAt Uuid body "ct")
  some (nonce, ciphertext)

def MasterKeyRing.unwrapKey (ring : MasterKeyRing) (row : DataProtectionDataKeyRow Uuid) :
    Except ServiceError Bytes :=
  if !wrappedKeyPrefix.isPrefixOf row.encrypted_key then
    .error (.dataProtection "data key row has an unsupported envelope")
  else
    match readEnvelope Uuid (row.encrypted_key.drop wrappedKeyPrefix.length) with
    | none => .error (.dataProtection "data key row envelope is invalid")
    | some (nonce, ciphertext) => do
      let master ← ring.master Uuid row.master_key_version
      let aad := dataKeyAad row.tenant_id row.scope row.scope_id row.data_key_id
        row.master_key_version
      match Platform.decrypt Uuid master nonce ciphertext aad with
      | .ok key => .ok key
      | .error .value => .error .value
      | .error .invalidTag =>
        match ring.legacy_keys.get? row.master_key_version with
        | none => .error (.dataProtection "data key could not be authenticated")
        | some legacy_master =>
          match Platform.decrypt Uuid legacy_master nonce ciphertext aad with
          | .ok key => .ok key
          | .error .value => .error .value
          | .error .invalidTag => .error (.dataProtection "data key could not be authenticated")

/-! ## The key of a scope -/

structure DataKey (Uuid : Type) where
  data_key_id : Uuid
  tenant_id : String
  scope : KeyScope
  scope_id : String
  key : Bytes

def MasterKeyRing.dataKey (ring : MasterKeyRing) (row : DataProtectionDataKeyRow Uuid) :
    Except ServiceError (DataKey Uuid) := do
  let key ← ring.unwrapKey row
  .ok
    { data_key_id := row.data_key_id, tenant_id := row.tenant_id, scope := row.scope
      scope_id := row.scope_id, key }

section

variable [DecidableEq Uuid]

def createDataKey (tenant_id : String) (scope : KeyScope) (scope_id : String) :
    Session Uuid (DataProtectionDataKeyRow Uuid) := do
  ensureTenant tenant_id
  let data_key_id ← uuid4
  let data_key ← urandom dataKeyBytes
  let svc ← get
  let (master_key_version, encrypted_key) ←
    svc.ring.wrapKey data_key tenant_id scope scope_id data_key_id none
  let row : DataProtectionDataKeyRow Uuid :=
    { data_key_id, tenant_id, scope, scope_id, master_key_version, encrypted_key }
  let svc ← get
  match svc.data_keys.insert row with
  | some data_keys => do
    set (svc.withKeys data_keys)
    return row
  | none =>
    -- another writer was first, or the id is taken
    match svc.data_keys.byScope tenant_id scope scope_id with
    | some existing => return existing
    | none => throw .integrity

def requireKey (tenant_id : String) (subject_id : Option String) (tenant_scoped : Bool) :
    Session Uuid (DataKey Uuid) := do
  let scope := if tenant_scoped then KeyScope.tenant else KeyScope.subject
  let scope_identifier := if tenant_scoped then tenantScopeId else strip (subject_id.getD "")
  if scope_identifier.isEmpty then
    throw (.dataProtection "subject_id is required for subject-scoped encryption")
  else do
    let svc ← get
    let row ← match svc.data_keys.byScope tenant_id scope scope_identifier with
      | some row => pure row
      | none => createDataKey tenant_id scope scope_identifier
    lift (svc.ring.dataKey row)

end

/-! ## What was written is read back -/

theorem b64d_b64e (value : Bytes) : b64d (b64e value) = some value := by
  have hascii : (base64.digits value).all (· < 128) = true := by
    rw [List.all_eq_true]
    exact fun d hd => decide_eq_true (base64.isDigit_digits value d hd).2
  unfold b64d b64e
  rw [base64.unpadded_b2a, if_pos hascii, base64.a2b_padded_digits]

theorem b64e_encodable (value : Bytes) : Encodable (b64e value) := by
  intro d hd
  rw [b64e, base64.unpadded_b2a] at hd
  have hlt := (base64.isDigit_digits value d hd).2
  exact Or.inl (by omega)

section

variable [LawfulPlatform Uuid]

variable {items : List (Text × Text)}

theorem loadsBytes_jsonBytes (hne : items ≠ []) (henc : ∀ p ∈ items, Encodable p.1 ∧ Encodable p.2)
    (hd : (items.map Prod.fst).Nodup) :
    loadsBytes Uuid (jsonBytes items) =
      some (.dict ((sorted items).map fun p => (p.1, .str p.2))) := by
  unfold loadsBytes jsonBytes
  rw [LawfulPlatform.decode_ascii (dumps_ascii henc), Option.bind_some, loads_dumps hne henc hd]

theorem textAt_written (hd : (items.map Prod.fst).Nodup) {key : String} {t : Text}
    (h : Dict.find (ofString key) items = some t) :
    textAt Uuid (.dict ((sorted items).map fun p => (p.1, .str p.2))) key = some t := by
  unfold textAt
  simp only [find_sorted hd, h, Option.map_some, LawfulPlatform.str_text]

theorem readEnvelope_written (nonce ciphertext : Bytes) :
    readEnvelope Uuid (jsonBytes [(ofString "n", b64e nonce), (ofString "ct", b64e ciphertext)]) =
      some (nonce, ciphertext) := by
  have hd : ([(ofString "n", b64e nonce), (ofString "ct", b64e ciphertext)].map Prod.fst).Nodup := by
    simp only [List.map_cons, List.map_nil]
    decide
  have henc : ∀ p ∈ [(ofString "n", b64e nonce), (ofString "ct", b64e ciphertext)],
      Encodable p.1 ∧ Encodable p.2 := by
    simp only [List.forall_mem_cons]
    exact ⟨⟨encodable_ofString _, b64e_encodable _⟩, ⟨encodable_ofString _, b64e_encodable _⟩, by simp⟩
  have hn : textAt Uuid _ "n" = some (b64e nonce) := textAt_written hd rfl
  have hct : textAt Uuid _ "ct" = some (b64e ciphertext) := textAt_written hd rfl
  unfold readEnvelope
  rw [loadsBytes_jsonBytes (List.cons_ne_nil _ _) henc hd]
  simp only [Option.bind_eq_bind, Option.bind_some, hn, hct, b64d_b64e]

/-! ## A wrapped key unwraps -/

def Usable (ring : MasterKeyRing) (row : DataProtectionDataKeyRow Uuid) : Prop :=
  ∃ key, ring.unwrapKey row = .ok key ∧ key.length = dataKeyBytes

omit [Stdlib Uuid] [Platform Uuid] [LawfulPlatform Uuid] in
theorem master_active (Uuid : Type) [Platform Uuid] (ring : MasterKeyRing) :
    ∃ master, ring.master Uuid ring.active_version = .ok master ∧ master.length = dataKeyBytes := by
  obtain ⟨master, hmaster⟩ := Option.isSome_iff_exists.mp ring.active_in_ring
  refine ⟨master, ?_, ring.keys_cut master ((Dict.mem_values_iff _ _).mpr ⟨_, hmaster⟩)⟩
  unfold MasterKeyRing.master
  rw [hmaster]

theorem wrapKey_active (ring : MasterKeyRing) (data_key : Bytes) (tenant_id : String)
    (scope : KeyScope) (scope_id : String) (data_key_id : Uuid) (svc : DataProtectionService Uuid) :
    ∃ envelope, run (ring.wrapKey data_key tenant_id scope scope_id data_key_id none) svc =
        (.ok (ring.active_version, envelope), svc.draw) ∧
      ∀ rewrapped_at, ring.unwrapKey
        { data_key_id, tenant_id, scope, scope_id, master_key_version := ring.active_version
          encrypted_key := envelope, rewrapped_at } = .ok data_key := by
  obtain ⟨master, hmaster, hmlen⟩ := master_active Uuid ring
  obtain ⟨ct, henc, hdec⟩ := @LawfulPlatform.seals Uuid _ _ _ _ _ data_key
    (dataKeyAad tenant_id scope scope_id data_key_id ring.active_version) hmlen
    (@LawfulPlatform.urandom_length Uuid _ _ _ svc.drawn nonceBytes)
  refine ⟨wrappedKeyPrefix ++ jsonBytes [(ofString "n", b64e (Platform.urandom Uuid svc.drawn
    nonceBytes)), (ofString "ct", b64e ct)], ?_, ?_⟩
  · simp only [MasterKeyRing.wrapKey, Option.filter_none, Option.getD_none, run_bind, run_lift,
      hmaster, run_urandom, henc, raised, run_pure]
  · intro rewrapped_at
    have hprefix : ∀ b : Bytes, wrappedKeyPrefix.isPrefixOf (wrappedKeyPrefix ++ b) = true := by
      intro b
      exact List.isPrefixOf_iff_prefix.mpr (List.prefix_append _ _)
    simp only [MasterKeyRing.unwrapKey, hprefix, Bool.not_true, Bool.false_eq_true, if_false,
      List.drop_left, readEnvelope_written, hmaster, bind, Except.bind, hdec]

/-! ## The key of a scope is found or made -/

end

def KeysPresent (svc : DataProtectionService Uuid) : Prop :=
  ∀ row ∈ svc.data_keys.rows, Usable svc.ring row

def Present (svc : DataProtectionService Uuid) (k : DataKey Uuid) : Prop :=
  k.key.length = dataKeyBytes ∧
    ∃ row ∈ svc.data_keys.rows, row.data_key_id = k.data_key_id ∧ svc.ring.dataKey row = .ok k

theorem dataKey_of_usable {ring : MasterKeyRing} {row : DataProtectionDataKeyRow Uuid}
    (h : Usable ring row) : ∃ k, ring.dataKey row = .ok k ∧ k.data_key_id = row.data_key_id ∧
      k.key.length = dataKeyBytes := by
  obtain ⟨key, hkey, hlen⟩ := h
  refine ⟨⟨row.data_key_id, row.tenant_id, row.scope, row.scope_id, key⟩, ?_, rfl, hlen⟩
  simp only [MasterKeyRing.dataKey, hkey, bind, Except.bind]

/-- What an encryption asks of the service: a tenant, a subject where the key is a subject's, and
an id for a new key that no key has. -/
structure Ready (svc : DataProtectionService Uuid) (tenant_id : String)
    (subject_id : Option String) (tenant_scoped : Bool) : Prop where
  keys : KeysPresent svc
  tenant : tenant_id.isEmpty = false
  subject : tenant_scoped = false → (strip (subject_id.getD "")).isEmpty = false
  fresh : ∀ row ∈ svc.data_keys.rows, row.data_key_id ≠ Platform.uuid4 svc.drawn

variable [DecidableEq Uuid]

omit [Platform Uuid] [Stdlib Uuid] in
theorem insert_eq_some (keys : DataKeys Uuid) (row : DataProtectionDataKeyRow Uuid)
    (hid : ∀ r ∈ keys.rows, r.data_key_id ≠ row.data_key_id)
    (hscope : keys.byScope row.tenant_id row.scope row.scope_id = none) :
    ∃ keys', keys.insert row = some keys' ∧ keys'.rows = keys.rows ++ [row] := by
  have hfresh : row.data_key_id ∉ keys.rows.map (·.data_key_id) ∧
      row.scopeKey ∉ keys.rows.map (·.scopeKey) := by
    constructor
    · intro hm
      obtain ⟨r, hr, heq⟩ := List.mem_map.mp hm
      exact hid r hr heq
    · intro hm
      obtain ⟨r, hr, heq⟩ := List.mem_map.mp hm
      exact absurd (decide_eq_true heq) (List.find?_eq_none.mp hscope r hr)
  unfold DataKeys.insert
  rw [dif_pos hfresh]
  exact ⟨_, rfl, rfl⟩

variable [LawfulPlatform Uuid]

variable {svc : DataProtectionService Uuid}

theorem createDataKey_ready {tenant_id scope_id : String} {scope : KeyScope}
    (htenant : tenant_id.isEmpty = false)
    (hfresh : ∀ row ∈ svc.data_keys.rows, row.data_key_id ≠ Platform.uuid4 svc.drawn)
    (hnone : svc.data_keys.byScope tenant_id scope scope_id = none) :
    ∃ row keys, run (createDataKey tenant_id scope scope_id) svc =
        (.ok row, svc.flushed.draw.draw.draw.withKeys keys) ∧
      keys.rows = svc.data_keys.rows ++ [row] ∧ Usable svc.ring row := by
  have hkey := @LawfulPlatform.urandom_length Uuid _ _ _ (svc.drawn + 1) dataKeyBytes
  obtain ⟨envelope, hwrap, hunwrap⟩ := wrapKey_active svc.ring
    (Platform.urandom Uuid (svc.drawn + 1) dataKeyBytes) tenant_id scope scope_id
    (Platform.uuid4 svc.drawn) svc.flushed.draw.draw
  obtain ⟨keys, hinsert, hrows⟩ := insert_eq_some svc.data_keys
    { data_key_id := Platform.uuid4 svc.drawn, tenant_id, scope, scope_id
      master_key_version := svc.ring.active_version, encrypted_key := envelope }
    hfresh hnone
  refine ⟨_, keys, ?_, hrows, _, hunwrap none, hkey⟩
  unfold createDataKey
  rw [run_bind_ok (run_ensureTenant htenant svc), run_bind_ok (run_uuid4 _),
    run_bind_ok (run_urandom _ _), run_bind_ok (run_get _)]
  simp only [flushed_drawn, draw_drawn, draw_ring, flushed_ring]
  rw [run_bind_ok hwrap, run_bind_ok (run_get _)]
  simp only [draw_data_keys, flushed_data_keys, hinsert]
  rfl

theorem requireKey_ready {tenant_id : String} {subject_id : Option String} {tenant_scoped : Bool}
    (h : Ready svc tenant_id subject_id tenant_scoped) :
    ∃ k svc', run (requireKey tenant_id subject_id tenant_scoped) svc = (.ok k, svc') ∧
      Present svc' k ∧ KeysPresent svc' := by
  have hid : (if tenant_scoped then tenantScopeId else strip (subject_id.getD "")).isEmpty =
      false := by
    cases tenant_scoped with
    | true => rfl
    | false => exact h.subject rfl
  unfold requireKey
  simp only [hid, Bool.false_eq_true, if_false]
  rw [run_bind_ok (run_get _)]
  cases hrow : svc.data_keys.byScope tenant_id (if tenant_scoped then .tenant else .subject)
    (if tenant_scoped then tenantScopeId else strip (subject_id.getD "")) with
  | some row =>
    have hm : row ∈ svc.data_keys.rows := List.mem_of_find?_eq_some hrow
    obtain ⟨k, hk, hkid, hlen⟩ := dataKey_of_usable (h.keys row hm)
    refine ⟨k, svc, ?_, ⟨hlen, row, hm, hkid.symm, hk⟩, h.keys⟩
    rw [run_bind_ok (run_pure _ _), run_lift, hk]
  | none =>
    obtain ⟨row, keys, hrun, hrows, husable⟩ := createDataKey_ready h.tenant h.fresh hrow
    obtain ⟨k, hk, hkid, hlen⟩ := dataKey_of_usable husable
    refine ⟨k, svc.flushed.draw.draw.draw.withKeys keys, ?_, ⟨hlen, row, ?_, hkid.symm, hk⟩, ?_⟩
    · rw [run_bind_ok hrun, run_lift, hk]
    · simp [hrows]
    · intro r hr
      simp only [withKeys_data_keys, hrows, List.mem_append, List.mem_singleton] at hr
      rcases hr with hr | rfl
      · exact h.keys r hr
      · exact husable

end

end operious.data_protection

-- Encryption and decryption of texts, bytes and JSON objects. A protected value is a marker that
-- names its key; texts and bytes carry it after a prefix, and objects in the place of the text.
namespace operious.data_protection

open utf8 json effects

section

variable {Uuid : Type}

/-! ## Markers -/

/-- `value.encode("utf-8")`. -/
def encodeUtf8 (value : Text) : Except ServiceError Bytes :=
  match utf8.encode value with
  | some b => .ok b
  | none => .error .unicode

/-- `value.decode("utf-8")`. -/
def decodeUtf8 (value : Bytes) : Except ServiceError Text :=
  match utf8.decode value with
  | some t => .ok t
  | none => .error .unicode

def isMarkerVersion : Json → Bool
  | .str t => t = jsonMarkerVersion
  | _ => false

/-- Whether `value.get("__op_dp__") == "v1"`. -/
def isJsonMarker (items : List (Text × Json)) : Bool :=
  (Dict.find jsonMarker items).any isMarkerVersion

def isTextMarker (value : Text) : Bool := textPrefix.isPrefixOf value

def markerItems (marker : List (Text × Text)) : List (Text × Json) :=
  marker.map fun p => (p.1, .str p.2)

variable [Stdlib Uuid]

def payloadAad (data_key : DataKey Uuid) (field : Text) : Except ServiceError Bytes :=
  encodeUtf8 (ofString ("opdp.payload.v1|" ++ Stdlib.str data_key.data_key_id ++ "|" ++
    data_key.tenant_id ++ "|" ++ data_key.scope.value ++ "|" ++ data_key.scope_id ++ "|") ++ field)

variable [Platform Uuid]

def encryptMarker (plaintext : Bytes) (data_key : DataKey Uuid) (field : Text) :
    Session Uuid (List (Text × Text)) := do
  let nonce ← urandom nonceBytes
  let aad ← lift (payloadAad data_key field)
  let ciphertext ← lift (raised (Platform.encrypt Uuid data_key.key nonce plaintext aad))
  return [(jsonMarker, jsonMarkerVersion), (ofString "kid", ofString (Stdlib.str data_key.data_key_id)),
    (ofString "f", field), (ofString "n", b64e nonce), (ofString "ct", b64e ciphertext)]

def readMarker (Uuid : Type) [Platform Uuid] (marker : Json) :
    Option (Uuid × Text × Bytes × Bytes) := do
  let data_key_id ← Platform.parse (← textAt Uuid marker "kid")
  let field ← textAt Uuid marker "f"
  let nonce ← b64d (← textAt Uuid marker "n")
  let ciphertext ← b64d (← textAt Uuid marker "ct")
  some (data_key_id, field, nonce, ciphertext)

variable [DecidableEq Uuid]

def decryptMarker (svc : DataProtectionService Uuid) (marker : Json) :
    Except ServiceError Bytes :=
  match marker with
  | .dict items =>
    if !isJsonMarker items then
      .error (.dataProtection "encrypted marker version is unsupported")
    else
      match readMarker Uuid marker with
      | none => .error (.dataProtection "encrypted marker is invalid")
      | some (data_key_id, field, nonce, ciphertext) =>
        match svc.data_keys.get? data_key_id with
        | none => .error (.dataProtection "data key is unavailable or erased")
        | some row => do
          let data_key ← svc.ring.dataKey row
          let aad ← payloadAad data_key field
          match Platform.decrypt Uuid data_key.key nonce ciphertext aad with
          | .ok plaintext => .ok plaintext
          | .error .value => .error .value
          | .error .invalidTag =>
            .error (.dataProtection "encrypted payload could not be authenticated")
  | _ => .error .attribute

/-! ## Texts and bytes -/

def encryptText (value : Text) (tenant_id : String) (subject_id : Option String) (field : Text)
    (tenant_scoped : Bool) : Session Uuid Text :=
  if isTextMarker value then return value
  else do
    let data_key ← requireKey tenant_id subject_id tenant_scoped
    let plaintext ← lift (encodeUtf8 value)
    let marker ← encryptMarker plaintext data_key field
    return textPrefix ++ b64e (jsonBytes marker)

def decryptText (svc : DataProtectionService Uuid) (value : Text) : Except ServiceError Text :=
  if !isTextMarker value then .ok value
  else
    match (b64d (value.drop textPrefix.length)).bind (loadsBytes Uuid) with
    | none => .error (.dataProtection "encrypted text marker is invalid")
    | some marker => do
      let plaintext ← decryptMarker svc marker
      decodeUtf8 plaintext

def encryptBytes (value : Bytes) (tenant_id : String) (subject_id : Option String) (field : Text)
    (tenant_scoped : Bool) : Session Uuid Bytes :=
  if bytesPrefix.isPrefixOf value then return value
  else do
    let data_key ← requireKey tenant_id subject_id tenant_scoped
    let marker ← encryptMarker value data_key field
    return bytesPrefix ++ jsonBytes marker

def decryptBytes (svc : DataProtectionService Uuid) (value : Bytes) :
    Except ServiceError Bytes :=
  if !bytesPrefix.isPrefixOf value then .ok value
  else
    match loadsBytes Uuid (value.drop bytesPrefix.length) with
    | none => .error (.dataProtection "encrypted bytes marker is invalid")
    | some marker => decryptMarker svc marker

/-! ## JSON objects -/

/-- The field path of an item. -/
def childField (field key : Text) : Text := field ++ ofString "." ++ key

def elementField (field : Text) : Text := field ++ ofString "[]"

mutual

def encryptJsonMapping (data_key : DataKey Uuid) (field : Text) :
    List (Text × Json) → Session Uuid (List (Text × Json))
  | [] => return []
  | (key, item) :: rest => do
    let encrypted ← encryptJsonItem data_key field key item
    let rest ← encryptJsonMapping data_key field rest
    return (key, encrypted) :: rest

def encryptJsonItem (data_key : DataKey Uuid) (field key : Text) : Json → Session Uuid Json
  | .str t =>
    if key ∈ sensitiveJsonKeys then do
      let plaintext ← lift (encodeUtf8 t)
      let marker ← encryptMarker plaintext data_key (childField field key)
      return .dict (markerItems marker)
    else return .str t
  | .dict items => do
    let items ← encryptJsonMapping data_key (childField field key) items
    return .dict items
  | .list xs => do
    let xs ← encryptJsonElements data_key (elementField (childField field key)) xs
    return .list xs
  | item => return item

def encryptJsonValue (data_key : DataKey Uuid) (field : Text) : Json → Session Uuid Json
  | .dict items => do
    let items ← encryptJsonMapping data_key field items
    return .dict items
  | .list xs => do
    let xs ← encryptJsonElements data_key (elementField field) xs
    return .list xs
  | value => return value

def encryptJsonElements (data_key : DataKey Uuid) (field : Text) :
    List Json → Session Uuid (List Json)
  | [] => return []
  | x :: xs => do
    let x ← encryptJsonValue data_key field x
    let xs ← encryptJsonElements data_key field xs
    return x :: xs

end

def encryptJsonValues (value : List (Text × Json)) (tenant_id : String)
    (subject_id : Option String) (field : Text) (tenant_scoped : Bool) :
    Session Uuid (List (Text × Json)) := do
  let data_key ← requireKey tenant_id subject_id tenant_scoped
  encryptJsonMapping data_key field value

mutual

def decryptJsonValue (svc : DataProtectionService Uuid) : Json → Except ServiceError Json
  | .dict items =>
    if isJsonMarker items then do
      let plaintext ← decryptMarker svc (.dict items)
      let text ← decodeUtf8 plaintext
      .ok (.str text)
    else do
      let items ← decryptJsonItems svc items
      .ok (.dict items)
  | .list xs => do
    let xs ← decryptJsonElements svc xs
    .ok (.list xs)
  | value => .ok value

def decryptJsonItems (svc : DataProtectionService Uuid) :
    List (Text × Json) → Except ServiceError (List (Text × Json))
  | [] => .ok []
  | (key, item) :: rest => do
    let item ← decryptJsonValue svc item
    let rest ← decryptJsonItems svc rest
    .ok ((key, item) :: rest)

def decryptJsonElements (svc : DataProtectionService Uuid) :
    List Json → Except ServiceError (List Json)
  | [] => .ok []
  | x :: xs => do
    let x ← decryptJsonValue svc x
    let xs ← decryptJsonElements svc xs
    .ok (x :: xs)

end

/-- An object that is a marker itself comes back as a text. -/
def decryptJsonValues (svc : DataProtectionService Uuid) (value : List (Text × Json)) :
    Except ServiceError Json :=
  decryptJsonValue svc (.dict value)

end

end operious.data_protection
