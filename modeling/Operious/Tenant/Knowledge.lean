-- Knowledge documents of tenants and the versions that are kept of them: creating, updating, applying
-- a reviewed change, rolling back, indexing and archiving, and the check of the chronology.
import Operious.Lib.Effects
import Operious.Tenant.Chronology

namespace operious.tenant

open effects
open operious.governance (PyException)
open operious.identity (Component strLe)
open operious.resolution (Sha256)

/-! ## The records -/

inductive TenantKnowledgeDocumentType
  | sop | policy | product_guide | faq | escalation_matrix | template
  deriving DecidableEq, Repr

def TenantKnowledgeDocumentType.value : TenantKnowledgeDocumentType → String
  | sop => "sop"
  | policy => "policy"
  | product_guide => "product_guide"
  | faq => "faq"
  | escalation_matrix => "escalation_matrix"
  | template => "template"

inductive TenantKnowledgeDocumentStatus
  | active | archived | pending_index | indexing | index_failed
  deriving DecidableEq, Repr

def TenantKnowledgeDocumentStatus.value : TenantKnowledgeDocumentStatus → String
  | active => "active"
  | archived => "archived"
  | pending_index => "pending_index"
  | indexing => "indexing"
  | index_failed => "index_failed"

theorem TenantKnowledgeDocumentStatus.value_inj {s t : TenantKnowledgeDocumentStatus}
    (h : s.value = t.value) : s = t := by
  cases s <;> cases t <;> first | rfl | (revert h; decide)

inductive TenantKnowledgeReviewStatus
  | quarantined | approved | rejected
  deriving DecidableEq, Repr

def TenantKnowledgeReviewStatus.value : TenantKnowledgeReviewStatus → String
  | quarantined => "quarantined"
  | approved => "approved"
  | rejected => "rejected"

structure TenantKnowledgeDocumentRecord (Uuid : Type) where
  document_id : Uuid
  tenant_id : String
  title : String
  content : String
  document_type : TenantKnowledgeDocumentType
  status : TenantKnowledgeDocumentStatus
  version : Nat
  uploaded_by : String
  vector_indexed_at : Option Instant
  created_at : Instant
  review_status : TenantKnowledgeReviewStatus
  template_purpose : Option String
  template_channel : Option String

structure TenantKnowledgeDocumentVersionRecord (Uuid : Type) where
  version_id : Uuid
  tenant_id : String
  document_id : Uuid
  version : Nat
  title : String
  content : String
  document_type : TenantKnowledgeDocumentType
  status : TenantKnowledgeDocumentStatus
  uploaded_by : String
  source_approval_id : String
  content_sha256 : String
  previous_version_sha256 : Option String
  created_at : Instant
  metadata : Payload Uuid

/-! ## The repository -/

structure Knowledge (Uuid : Type) where
  documents : Dict Uuid (TenantKnowledgeDocumentRecord Uuid)
  versions : Dict (Uuid × Nat) (TenantKnowledgeDocumentVersionRecord Uuid)

def Knowledge.new {Uuid : Type} : Knowledge Uuid := ⟨.empty, .empty⟩

structure TenantKnowledgeDocumentVersionQuery (Uuid : Type) where
  document_id : Option Uuid := none
  version : Option Nat := none
  status : Option TenantKnowledgeDocumentStatus := none
  source_approval_id : Option String := none
  limit : Option Nat := none
  offset : Nat := 0

section

variable {Uuid : Type} [DecidableEq Uuid]

def save_knowledge_document (record : TenantKnowledgeDocumentRecord Uuid)
    (expected_tenant_id : String) : Effect PyException (Knowledge Uuid) Unit := do
  lift (assert_write_tenant record.tenant_id expected_tenant_id)
  modify fun w => { w with documents := w.documents.set record.document_id record }

def get_knowledge_document (w : Knowledge Uuid) (document_id : Uuid) (expected_tenant_id : String) :
    Option (TenantKnowledgeDocumentRecord Uuid) :=
  (w.documents.get? document_id).filter (·.tenant_id = expected_tenant_id)

/-- A version that is there stays, and one with another digest under its key is refused. -/
def save_knowledge_document_version (record : TenantKnowledgeDocumentVersionRecord Uuid)
    (expected_tenant_id : String) : Effect PyException (Knowledge Uuid) Unit := do
  lift (assert_write_tenant record.tenant_id expected_tenant_id)
  match (← get).versions.get? (record.document_id, record.version) with
  | some existing =>
    if existing.content_sha256 ≠ record.content_sha256 then
      throw ⟨"ChronologyImmutabilityError", "knowledge document version is append-only"⟩
  | none =>
    modify fun w => { w with
      versions := w.versions.set (record.document_id, record.version) record }

def get_knowledge_document_version (w : Knowledge Uuid) (document_id : Uuid) (version : Nat)
    (expected_tenant_id : String) : Option (TenantKnowledgeDocumentVersionRecord Uuid) :=
  (w.versions.get? (document_id, version)).filter (·.tenant_id = expected_tenant_id)

/-- `(str(a.document_id), a.version) <= (str(b.document_id), b.version)`. -/
def versionListedBefore [Stdlib Uuid] (a b : TenantKnowledgeDocumentVersionRecord Uuid) : Bool :=
  if Stdlib.str a.document_id = Stdlib.str b.document_id then a.version ≤ b.version
  else strLe (Stdlib.str a.document_id) (Stdlib.str b.document_id)

def list_knowledge_document_versions [Stdlib Uuid] (w : Knowledge Uuid)
    (query : TenantKnowledgeDocumentVersionQuery Uuid) (expected_tenant_id : String) :
    List (TenantKnowledgeDocumentVersionRecord Uuid) :=
  let rows := w.versions.values.filter fun r =>
    r.tenant_id = expected_tenant_id && query.document_id.all (r.document_id = ·) &&
      query.version.all (r.version = ·) && query.status.all (r.status = ·) &&
      query.source_approval_id.all (r.source_approval_id = ·)
  let sliced := (rows.insertionSort fun a b => versionListedBefore a b = true).drop query.offset
  match query.limit with
  | some limit => sliced.take limit
  | none => sliced

/-- The rows that are active get the status of archived ones, and keep their digests. -/
def archive_current_knowledge_document_versions (document_id : Uuid) (expected_tenant_id : String) :
    Effect PyException (Knowledge Uuid) Unit :=
  modify fun w => { w with
    versions := w.versions.items.foldl (fun versions item =>
      if item.2.tenant_id = expected_tenant_id ∧ item.2.document_id = document_id ∧
          item.2.status = .active then
        versions.set item.1 { item.2 with status := .archived }
      else versions) w.versions }

end

/-! ## Digests and ids -/

section

variable {Uuid : Type} [Stdlib Uuid]

def derive_knowledge_document_id (tenant_id title : String)
    (document_type : TenantKnowledgeDocumentType) : Except PyException Uuid := do
  let tenant ← coerce_tenant_id tenant_id
  let normalized_title ← normalize_identity_text title "title"
  return Stdlib.uuid5 (Stdlib.uuid "25a0c0f1-0002-4002-8002-000000000002")
    (tenant ++ "|" ++ document_type.value ++ "|" ++ normalized_title)

def derive_knowledge_document_version_id (tenant_id : String) (document_id : Uuid) (version : Nat) :
    Except PyException Uuid := do
  let tenant ← coerce_tenant_id tenant_id
  if version < 1 then .error ⟨"ValueError", "version must be >= 1"⟩
  else
    return Stdlib.uuid5 (Stdlib.uuid "25a0c0f1-0005-4005-8005-000000000005")
      (tenant ++ "|" ++ Stdlib.str document_id ++ "|v" ++ version.repr)

/-- What the digest of a version is taken of. -/
def versionPayload (tenant_id : String) (document_id : Uuid) (version : Nat) (title content : String)
    (document_type : TenantKnowledgeDocumentType) (status : TenantKnowledgeDocumentStatus)
    (uploaded_by source_approval_id : String) (metadata : Payload Uuid) : Payload Uuid :=
  [(key "tenant_id", .str tenant_id), (key "document_id", .str (Stdlib.str document_id)),
   (key "version", .int version), (key "title", .str title), (key "content", .str content),
   (key "document_type", .str document_type.value), (key "status", .str status.value),
   (key "uploaded_by", .str uploaded_by), (key "source_approval_id", .str source_approval_id),
   (key "metadata", .mapping metadata)]

variable [Sha256]

def knowledge_document_content_sha256 (record : TenantKnowledgeDocumentRecord Uuid)
    (source_approval_id : String) (metadata : Payload Uuid) : Except PyException String :=
  canonical_sha256 (versionPayload record.tenant_id record.document_id record.version record.title
    record.content record.document_type record.status record.uploaded_by source_approval_id metadata)

def knowledge_version_content_sha256 (record : TenantKnowledgeDocumentVersionRecord Uuid) :
    Except PyException String :=
  canonical_sha256 (versionPayload record.tenant_id record.document_id record.version record.title
    record.content record.document_type record.status record.uploaded_by record.source_approval_id
    record.metadata)

/-- The version record of a document as it is, with its digest: `_version_record_from_document`, and
what `_record_knowledge_document_version` saves. -/
def version_record_from_document (document : TenantKnowledgeDocumentRecord Uuid)
    (source_approval_id : String) (previous_version_sha256 : Option String) (created_at : Instant)
    (metadata : Payload Uuid) : Except PyException (TenantKnowledgeDocumentVersionRecord Uuid) := do
  let version_metadata := metadata ++ [(key "review_status", .str document.review_status.value)]
  let content_sha256 ← knowledge_document_content_sha256 document source_approval_id version_metadata
  let version_id ← derive_knowledge_document_version_id document.tenant_id document.document_id
    document.version
  return {
    version_id
    tenant_id := document.tenant_id
    document_id := document.document_id
    version := document.version
    title := document.title
    content := document.content
    document_type := document.document_type
    status := document.status
    uploaded_by := document.uploaded_by
    source_approval_id
    content_sha256
    previous_version_sha256
    created_at
    metadata := version_metadata }

end

/-! ## The runtime of the tenant's configuration -/

structure ChronologyVerificationResult where
  valid : Bool
  broken_at_version : Option Nat := none
  deriving DecidableEq

structure CreateKnowledgeDocument where
  tenant_id : String
  title : String
  content : String
  document_type : TenantKnowledgeDocumentType
  uploaded_by : String
  status : TenantKnowledgeDocumentStatus := .pending_index
  approval : Option ApprovalRecord := none
  template_purpose : Option String := none
  template_channel : Option String := none

structure UpdateKnowledgeDocument (Uuid : Type) where
  tenant_id : String
  document_id : Uuid
  uploaded_by : String
  content : Option String := none
  status : Option TenantKnowledgeDocumentStatus := none
  review_status : Option TenantKnowledgeReviewStatus := none
  approval : Option ApprovalRecord := none

def validated_template_fields (document_type : TenantKnowledgeDocumentType)
    (template_purpose template_channel : Option String) :
    Except PyException (Option String × Option String) :=
  if document_type = .template then
    let purpose := strip (template_purpose.getD "")
    let channel := strip (template_channel.getD "")
    if purpose.isEmpty || channel.isEmpty then
      .error ⟨"TenantConfigurationError", "template_purpose and template_channel are required when " ++
        "document_type is TEMPLATE"⟩
    else .ok (some purpose, some channel)
  else if template_purpose.isSome || template_channel.isSome then
    .error ⟨"TenantConfigurationError", "template_purpose/template_channel are only valid when " ++
      "document_type is TEMPLATE"⟩
  else .ok (none, none)

section

variable {Uuid : Type} [DecidableEq Uuid] [Stdlib Uuid] [Sha256]

/-- The loop of `verify_chronology_chain`, with the digest of the version before. -/
def verifyVersions : Option String → List (TenantKnowledgeDocumentVersionRecord Uuid) →
    Except PyException ChronologyVerificationResult
  | _, [] => .ok { valid := true }
  | previous_sha256, version :: rest => do
    let expected ← knowledge_version_content_sha256 version
    if version.content_sha256 ≠ expected ∨ version.previous_version_sha256 ≠ previous_sha256 then
      return { valid := false, broken_at_version := some version.version }
    else verifyVersions (some version.content_sha256) rest

def verify_chronology_chain (w : Knowledge Uuid) (tenant_id : String) (document_id : Uuid) :
    Except PyException ChronologyVerificationResult :=
  verifyVersions none ((list_knowledge_document_versions w { document_id := some document_id }
    tenant_id).insertionSort fun a b => a.version ≤ b.version)

/-- `_record_knowledge_document_version`, for an approval that is there. -/
def record_knowledge_document_version (record : TenantKnowledgeDocumentRecord Uuid)
    (source_approval_id : String) (previous_version_sha256 : Option String) (metadata : Payload Uuid)
    (now : Instant) : Effect PyException (Knowledge Uuid) Unit := do
  let version ← lift (version_record_from_document record source_approval_id previous_version_sha256
    now metadata)
  save_knowledge_document_version version record.tenant_id

def create_knowledge_document (args : CreateKnowledgeDocument) (now : Instant) :
    Effect PyException (Knowledge Uuid) (TenantKnowledgeDocumentRecord Uuid) := do
  let approval_record ← lift (require_approval args.approval args.tenant_id)
  let (template_purpose, template_channel) ← lift (validated_template_fields args.document_type
    args.template_purpose args.template_channel)
  let document_id ← lift (derive_knowledge_document_id args.tenant_id args.title args.document_type)
  let existing := get_knowledge_document (← get) document_id args.tenant_id
  let record : TenantKnowledgeDocumentRecord Uuid :=
    { document_id
      tenant_id := args.tenant_id
      title := args.title
      content := args.content
      document_type := args.document_type
      status := args.status
      review_status := .quarantined
      version := (existing.map (·.version + 1)).getD 1
      uploaded_by := args.uploaded_by
      vector_indexed_at := existing.bind (·.vector_indexed_at)
      created_at := (existing.map (·.created_at)).getD now
      template_purpose
      template_channel }
  save_knowledge_document record args.tenant_id
  let w ← get
  let previous := existing.bind fun existing =>
    get_knowledge_document_version w existing.document_id existing.version args.tenant_id
  record_knowledge_document_version record approval_record.approval_id
    (previous.map (·.content_sha256)) [(key "origin", .str "tenant_configuration")] now
  return record

/-- `_require_document`, of the runtime of the configuration. -/
def require_document (document_id : Uuid) (tenant_id : String) :
    Effect PyException (Knowledge Uuid) (TenantKnowledgeDocumentRecord Uuid) := do
  match get_knowledge_document (← get) document_id tenant_id with
  | none => throw ⟨"TenantConfigurationNotFoundError", "knowledge document not found"⟩
  | some record => return record

def updatedDocument (existing : TenantKnowledgeDocumentRecord Uuid)
    (args : UpdateKnowledgeDocument Uuid) : TenantKnowledgeDocumentRecord Uuid :=
  { existing with
    content := args.content.getD existing.content
    status := args.status.getD existing.status
    review_status := match args.content with
      | some _ => .quarantined
      | none => args.review_status.getD existing.review_status
    version := existing.version + 1
    uploaded_by := args.uploaded_by }

def update_knowledge_document (args : UpdateKnowledgeDocument Uuid) (now : Instant) :
    Effect PyException (Knowledge Uuid) (TenantKnowledgeDocumentRecord Uuid) := do
  let approval_record ← lift (require_approval args.approval args.tenant_id)
  let existing ← require_document args.document_id args.tenant_id
  let previous := get_knowledge_document_version (← get) existing.document_id existing.version
    args.tenant_id
  let record := updatedDocument existing args
  save_knowledge_document record args.tenant_id
  record_knowledge_document_version record approval_record.approval_id
    (previous.map (·.content_sha256)) [(key "origin", .str "tenant_configuration")] now
  return record

end

end operious.tenant

-- Reviewed changes of knowledge documents: applying an approved change, rolling back to an earlier
-- version, and what the indexer writes on the row of a document.
namespace operious.tenant

open effects
open operious.governance (PyException)
open operious.identity (Component)
open operious.resolution (Sha256)

inductive ApprovalStatus
  | pending_review | approved | rejected | applied
  deriving DecidableEq, Repr

/-- `ApprovalStatus(value)`. -/
def ApprovalStatus.ofValue (value : String) : Except PyException ApprovalStatus :=
  if value = "pending_review" then .ok .pending_review
  else if value = "approved" then .ok .approved
  else if value = "rejected" then .ok .rejected
  else if value = "applied" then .ok .applied
  else .error ⟨"ValueError", value ++ " is not a valid ApprovalStatus"⟩

/-- The approval of a proposed change, as far as applying it reads the record. -/
structure ProposedChange (Uuid : Type) where
  approval_id : String
  document_id : Uuid
  proposed_change : String
  status : String
  metadata : Payload Uuid

/-- `s.rstrip()`. -/
def rstrip (s : String) : String :=
  String.ofList ((s.toList.reverse.dropWhile isSpace).reverse)

def apply_change (existing_content proposed_change : String) : String :=
  let base := rstrip existing_content
  let change := strip proposed_change
  if base.isEmpty then change else base ++ "\n\nApproved SOP update:\n" ++ change

section

variable {Uuid : Type} [DecidableEq Uuid] [Stdlib Uuid] [Sha256]

def bootstrap_approval_id (Uuid : Type) [Stdlib Uuid] : String :=
  Stdlib.str (Stdlib.uuid5 (Stdlib.uuid "c7b7bfc2-5b44-5a25-9b10-4ab18c18e537" : Uuid)
    "operious:bootstrap:initial")

/-- `_require_document`, of the runtime of reviewed changes. -/
def require_reviewed_document (document_id : Uuid) (tenant_id : String) :
    Effect PyException (Knowledge Uuid) (TenantKnowledgeDocumentRecord Uuid) := do
  match get_knowledge_document (← get) document_id tenant_id with
  | none => throw ⟨"CognitionNotFoundError", "tenant knowledge document not found"⟩
  | some record => return record

/-- `_ensure_current_version`; `_archive_current_document_version` is this, for one origin. -/
def ensure_current_version (tenant_id : String) (document : TenantKnowledgeDocumentRecord Uuid)
    (origin : String) (now : Instant) :
    Effect PyException (Knowledge Uuid) (TenantKnowledgeDocumentVersionRecord Uuid) := do
  match get_knowledge_document_version (← get) document.document_id document.version tenant_id with
  | some existing => return existing
  | none => do
    let record ← lift (version_record_from_document document (bootstrap_approval_id Uuid) none now
      [(key "origin", .str origin)])
    save_knowledge_document_version record tenant_id
    return record

def archive_current_document_version (tenant_id : String)
    (document : TenantKnowledgeDocumentRecord Uuid) (now : Instant) :
    Effect PyException (Knowledge Uuid) (TenantKnowledgeDocumentVersionRecord Uuid) :=
  ensure_current_version tenant_id document "bootstrap_current_version" now

def reviewedDocument (document : TenantKnowledgeDocumentRecord Uuid) (content uploaded_by : String) :
    TenantKnowledgeDocumentRecord Uuid :=
  { document with
    content
    status := .active
    review_status := .approved
    version := document.version + 1
    uploaded_by
    vector_indexed_at := none }

/-- The record of the version is made before the document is saved. -/
def publish (tenant_id : String) (document : TenantKnowledgeDocumentRecord Uuid)
    (source_approval_id : String) (previous_version_sha256 : Option String) (now : Instant)
    (metadata : Payload Uuid) : Effect PyException (Knowledge Uuid) Unit := do
  let version ← lift (version_record_from_document document source_approval_id
    previous_version_sha256 now metadata)
  save_knowledge_document document tenant_id
  save_knowledge_document_version version tenant_id

/-- `apply_approval`: `found` is the approval that the store has, and `updated` what comes of saving
it as applied. -/
def apply_approval (tenant_id : String) (found : Option (ProposedChange Uuid)) (applied_by : String)
    (updated : Except PyException Unit) (now : Instant) :
    Effect PyException (Knowledge Uuid) (TenantKnowledgeDocumentRecord Uuid) := do
  match found with
  | none => throw ⟨"CognitionNotFoundError", "approval record not found"⟩
  | some approval =>
    match ← lift (ApprovalStatus.ofValue approval.status) with
    | .pending_review =>
      throw ⟨"CognitionLifecycleError", "approval must be approved before it can be applied"⟩
    | .rejected => throw ⟨"CognitionLifecycleError", "rejected approval cannot be applied"⟩
    -- What was applied before is only looked up.
    | .applied => require_reviewed_document approval.document_id tenant_id
    | .approved => do
      let document ← require_reviewed_document approval.document_id tenant_id
      let previous_version ← archive_current_document_version tenant_id document now
      let updated_document := reviewedDocument document
        (apply_change document.content approval.proposed_change) applied_by
      publish tenant_id updated_document approval.approval_id (some previous_version.content_sha256)
        now
        [(key "origin", .str "approval_apply"),
         (key "approval_id", .str approval.approval_id),
         (key "applied_by", .str applied_by),
         (key "previous_version", .int document.version),
         (key "pattern_id", (Dict.find (key "pattern_id") approval.metadata).getD .null),
         (key "source_failure_pattern",
          (Dict.find (key "failure_pattern") approval.metadata).getD (.bool false))]
      match updated with
      | .error _ => throw ⟨"CognitionPersistenceError", "approval lifecycle update failed"⟩
      | .ok () => return updated_document

def rollback_document (tenant_id : String) (document_id : Uuid) (target_version : Nat)
    (rolled_back_by : String) (approval : ApprovalRecord) (now : Instant) :
    Effect PyException (Knowledge Uuid) (TenantKnowledgeDocumentRecord Uuid) := do
  if approval.tenant_id ≠ tenant_id ∨ approval.status ≠ "approved" then
    throw ⟨"CognitionLifecycleError", "rollback requires approved approval lineage"⟩
  else do
    let document ← require_reviewed_document document_id tenant_id
    match get_knowledge_document_version (← get) document_id target_version tenant_id with
    | none => throw ⟨"CognitionNotFoundError", "target knowledge document version not found"⟩
    | some target =>
      if document.content = target.content then do
        let _ ← ensure_current_version tenant_id document "rollback_idempotent" now
        return document
      else do
        let archived ← archive_current_document_version tenant_id document now
        let rolled_back_document := reviewedDocument document target.content rolled_back_by
        publish tenant_id rolled_back_document approval.approval_id (some archived.content_sha256) now
          [(key "origin", .str "rollback"),
           (key "rolled_back_by", .str rolled_back_by),
           (key "rollback_from_version", .int document.version),
           (key "rollback_to_version", .int target.version),
           (key "rollback_source_approval_id", .str target.source_approval_id)]
        return rolled_back_document

/-! ## What the indexer writes -/

/-- How the indexing of a document ends: held for a review, indexed, or raised before its row is
written. -/
inductive Indexing
  | held
  | indexed (review_status : TenantKnowledgeReviewStatus) (now : Instant)
  | raised (exc : PyException)

/-- `ingest_document`, with what the scanner, the check for contradictions, the embedding and the
index make of the document as one outcome. -/
def ingest_document (tenant_id : String) (document_id : Uuid) (indexing : Indexing) :
    Effect PyException (Knowledge Uuid) Unit := do
  match get_knowledge_document (← get) document_id tenant_id with
  | none => throw ⟨"KnowledgeDocumentNotFoundError", "knowledge document not found"⟩
  | some document =>
    if document.status = .archived then
      throw ⟨"KnowledgeDocumentNotIndexableError", "archived knowledge document cannot be indexed"⟩
    else
      match indexing with
      | .raised exc => throw exc
      | .held =>
        save_knowledge_document { document with status := .active, review_status := .quarantined }
          tenant_id
      | .indexed review_status now =>
        save_knowledge_document
          { document with status := .active, review_status, vector_indexed_at := some now } tenant_id

def persist_index_failed (tenant_id : String) (document_id : Uuid) :
    Effect PyException (Knowledge Uuid) Unit := do
  match get_knowledge_document (← get) document_id tenant_id with
  | none => return ()
  | some record => save_knowledge_document { record with status := .index_failed } tenant_id

end

end operious.tenant
