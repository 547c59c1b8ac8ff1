-- Tenant-owned version history: the digest of a payload, the ids of versions, and the approval that
-- every change needs.
import Operious.Governance.Engine
import Operious.Identity.RuntimeIds
import Operious.Resolution.Records

namespace operious.tenant

open operious.governance (PyException)
open json utf8
open operious.identity
open operious.resolution (Sha256 sha256_text)

/-! ## Digests -/

/-- The items of a mapping whose keys are strings, as a payload has them. -/
abbrev Payload (Uuid : Type) := List (Key × Component Uuid)

def key (text : String) : Key := ⟨text, true⟩

section

variable {Uuid : Type}

mutual

/-- `json.dumps` takes what `_json_safe` leaves of the value. -/
def serializable : Component Uuid → Bool
  | .set _ | .bytes _ | .other _ => false
  | .list items | .tuple items => serializableAll items
  | .mapping items => serializableItems items
  | _ => true

def serializableAll : List (Component Uuid) → Bool
  | [] => true
  | v :: rest => serializable v && serializableAll rest

def serializableItems : Payload Uuid → Bool
  | [] => true
  | (_, v) :: rest => serializable v && serializableItems rest

end

theorem serializableItems_append (a b : Payload Uuid) :
    serializableItems (a ++ b) = (serializableItems a && serializableItems b) := by
  induction a with
  | nil => rfl
  | cons p rest ih => rw [List.cons_append, serializableItems, serializableItems, ih, Bool.and_assoc]

variable [Stdlib Uuid] [Sha256]

/-- `canonical_sha256`. On what can be dumped, `_json_safe` is the projection of seeds. -/
def canonical_sha256 (payload : Payload Uuid) : Except PyException String :=
  if serializableItems payload then
    .ok (sha256_text (json.asciiString (json.write (json_safe (.mapping payload)))))
  else .error ⟨"TypeError", "Object is not JSON serializable"⟩

variable {payload payload' : Payload Uuid} {digest : String}

theorem canonical_sha256_isOk (h : serializableItems payload) :
    ∃ digest, canonical_sha256 payload = .ok digest := ⟨_, if_pos h⟩

theorem serializable_of_canonical_sha256 (h : canonical_sha256 payload = .ok digest) :
    serializableItems payload := by
  unfold canonical_sha256 at h
  split at h
  · assumption
  · cases h

theorem canonical_sha256_inj (hfree : Function.Injective sha256_text)
    (h : canonical_sha256 payload = .ok digest) (h' : canonical_sha256 payload' = .ok digest) :
    json_safe (.mapping payload) = json_safe (.mapping payload') := by
  unfold canonical_sha256 at h h'
  rw [if_pos (serializable_of_canonical_sha256 h)] at h
  rw [if_pos (serializable_of_canonical_sha256 h')] at h'
  exact json.asciiString_write_inj (normal_json_safe _) (normal_json_safe _)
    (hfree (Except.ok.inj (h.trans h'.symm)))

omit [Sha256] in
theorem find_byKey {V : Type} {items : List (String × V)} (hd : (items.map Prod.fst).Nodup)
    (k : String) : Dict.find k (byKey items) = Dict.find k items := by
  have hperm : (sortKeys items).Perm items := List.perm_insertionSort _ _
  have hsorted : ((sortKeys items).map Prod.fst).Nodup := (hperm.map Prod.fst).nodup_iff.mpr hd
  exact (Dict.get?_ofList hsorted k).trans (Dict.find_perm hperm hsorted k)

omit [Sha256] in
theorem find_of_json_safe_eq (hd : ((safe_items payload).map Prod.fst).Nodup)
    (hd' : ((safe_items payload').map Prod.fst).Nodup)
    (h : json_safe (.mapping payload) = json_safe (.mapping payload')) (k : String) :
    Dict.find k (safe_items payload) = Dict.find k (safe_items payload') := by
  rw [json_safe, json_safe] at h
  have hinj : Function.Injective fun p : String × json.Json => (ofString p.1, p.2) := by
    rintro ⟨a, v⟩ ⟨b, w⟩ heq
    simp only [Prod.mk.injEq] at heq
    exact Prod.ext (ofString_injective heq.1) heq.2
  have heq := List.map_injective_iff.mpr hinj (json.Json.dict.inj h)
  rw [← find_byKey hd, ← find_byKey hd', heq]

end

/-! ## Ids -/

/-- `coerce_tenant_id`, for a string. -/
def coerce_tenant_id (raw : String) : Except PyException String :=
  if (strip raw).isEmpty then .error ⟨"IdentityError", "tenant_id must be a non-empty string"⟩
  else .ok (strip raw)

theorem named_of_coerce_tenant_id {raw tenant_id : String} (h : coerce_tenant_id raw = .ok tenant_id) :
    (strip raw).isEmpty = false := by
  unfold coerce_tenant_id at h
  split at h
  · cases h
  · rename_i hnot
    exact Bool.eq_false_iff.mpr hnot

def normalize_identity_text (raw field_name : String) : Except PyException String :=
  if (strip raw).isEmpty then .error ⟨"ValueError", field_name ++ " must be a non-empty string"⟩
  else .ok (strip raw)

/-! ## Approvals -/

/-- `ApprovalRecord`, as far as the history of a tenant reads it. -/
structure ApprovalRecord where
  approval_id : String
  tenant_id : String
  status : String

def require_approval (approval : Option ApprovalRecord) (tenant_id : String) :
    Except PyException ApprovalRecord :=
  match approval with
  | none => .error ⟨"ApprovalRequiredError", "tenant chronology mutation requires approval"⟩
  | some approval =>
    if approval.tenant_id ≠ tenant_id then
      .error ⟨"ApprovalRequiredError", "approval tenant does not match mutation tenant"⟩
    else if approval.status ≠ "approved" then
      .error ⟨"ApprovalRequiredError", "approval must be approved before mutation"⟩
    else .ok approval

def assert_write_tenant (record_tenant_id expected_tenant_id : String) : Except PyException Unit :=
  if record_tenant_id ≠ expected_tenant_id then
    .error ⟨"TenantConfigurationPersistenceError",
      "record tenant_id does not match expected_tenant_id"⟩
  else .ok ()

end operious.tenant
