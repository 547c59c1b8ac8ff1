-- The two stores of case approvals: dicts with an index for each further key, and tables with unique keys,
-- checks and foreign keys.
import Operious.Approvals.Records
import Mathlib.Data.Prod.Lex

namespace operious.approvals

def CaseApprovalStatus.value : CaseApprovalStatus → String
  | pending_sme_review => "pending_sme_review"
  | awaiting_approval => "awaiting_approval"
  | guidance_in_progress => "guidance_in_progress"
  | approved => "approved"
  | rejected => "rejected"
  | escalated => "escalated"
  | failed => "failed"

namespace persistence

/-! ## The records -/

inductive CaseApprovalEntryCategory
  | resolution_require_approval | resolution_needs_human_approval | refund_warranty | low_confidence
  | coordination_human_review | crisis_action | fraud_risk_high
  deriving DecidableEq, Repr

def CaseApprovalEntryCategory.value : CaseApprovalEntryCategory → String
  | resolution_require_approval => "resolution_require_approval"
  | resolution_needs_human_approval => "resolution_needs_human_approval"
  | refund_warranty => "refund_warranty"
  | low_confidence => "low_confidence"
  | coordination_human_review => "coordination_human_review"
  | crisis_action => "crisis_action"
  | fraud_risk_high => "fraud_risk_high"

inductive CaseApprovalOutboxStatus
  | pending | publishing | published | failed
  deriving DecidableEq, Repr

def CaseApprovalOutboxStatus.value : CaseApprovalOutboxStatus → String
  | pending => "pending"
  | publishing => "publishing"
  | published => "published"
  | failed => "failed"

/-- A case as the stores have it. `details` are the fields that they carry and do not read. -/
structure CaseApprovalRecord (Uuid Details : Type) where
  approval_case_id : Uuid
  tenant_id : String
  session_id : Option Uuid
  execution_id : Option Uuid
  dispatch_id : Option Uuid
  resolution_proposal_id : Option Uuid := none
  entry_category : CaseApprovalEntryCategory
  status : CaseApprovalStatus
  requested_at : Instant
  dedup_key : String
  guidance_round : Int := 0
  governance_decision_id : Option Uuid := none
  details : Details
  deriving DecidableEq

structure CaseApprovalOutboxRecord (Uuid : Type) where
  outbox_id : Uuid
  approval_case_id : Uuid
  tenant_id : String
  status : CaseApprovalOutboxStatus
  created_at : Instant
  claimed_at : Option Instant := none
  published_at : Option Instant := none
  publisher_id : Option String := none
  claim_id : Option Uuid := none
  republish_count : Int := 0
  dead_letter : Bool := false
  last_error : Option String := none
  metadata : Metadata := .empty
  deriving DecidableEq

structure CaseApprovalQuery (Uuid : Type) where
  tenant_id : Option String := none
  session_id : Option Uuid := none
  execution_id : Option Uuid := none
  dispatch_id : Option Uuid := none
  resolution_proposal_id : Option Uuid := none
  status : Option String := none
  entry_category : Option String := none
  limit : Int := 50
  offset : Int := 0

structure CaseApprovalOutboxQuery where
  tenant_id : Option String := none
  status : Option String := none
  dead_letter : Option Bool := none
  limit : Int := 100
  offset : Int := 0

/-- A page of cases or of outbox rows. -/
structure Page (α : Type) where
  items : List α
  total : Nat
  limit : Int
  offset : Int
  deriving DecidableEq

inductive CaseStoreError
  | case_approval_persistence_error (reason : String)
  | integrity_error
  | value_error (reason : String)
  | key_error
  deriving DecidableEq, Repr

section

variable {Uuid Details : Type} [DecidableEq Uuid]

/-- `_assert_tenant` of the one store and `_enforce_expected_tenant` of the other. -/
def assert_tenant (tenant_id expected_tenant_id : String) : Except CaseStoreError Unit :=
  if tenant_id ≠ expected_tenant_id then
    .error (.case_approval_persistence_error "case approval tenant mismatch")
  else .ok ()

/-- A filter that is not set lets everything through. -/
def wanted {α : Type} [DecidableEq α] (filter : Option α) (value : Option α) : Bool :=
  filter.isNone || filter = value

/-- `_matches_case`, and the filters of the table. -/
def matches_case (query : CaseApprovalQuery Uuid) (expected_tenant_id : String)
    (record : CaseApprovalRecord Uuid Details) : Bool :=
  record.tenant_id = expected_tenant_id && wanted query.tenant_id (some record.tenant_id) &&
    wanted query.session_id record.session_id && wanted query.execution_id record.execution_id &&
    wanted query.dispatch_id record.dispatch_id &&
    wanted query.resolution_proposal_id record.resolution_proposal_id &&
    wanted query.status (some record.status.value) &&
    wanted query.entry_category (some record.entry_category.value)

/-- `_matches_outbox`, and the filters of the table. -/
def matches_outbox (query : CaseApprovalOutboxQuery) (expected_tenant_id : Option String)
    (record : CaseApprovalOutboxRecord Uuid) : Bool :=
  wanted expected_tenant_id (some record.tenant_id) && wanted query.tenant_id (some record.tenant_id) &&
    wanted query.status (some record.status.value) && wanted query.dead_letter (some record.dead_letter)

variable [Stdlib Uuid]

/-- `repr` of an id. -/
def quoted (id : Uuid) : String := "'" ++ Stdlib.str id ++ "'"

/-- The record that a resolved claim leaves. -/
def terminal (record : CaseApprovalOutboxRecord Uuid) (status : CaseApprovalOutboxStatus)
    (published_at : Option Instant) (error : Option String) (dead_letter : Bool)
    (failed_at : Option Instant) : CaseApprovalOutboxRecord Uuid :=
  { record with
    status, published_at, dead_letter
    last_error := error
    metadata := match failed_at with
      | some failed_at => record.metadata.set "failed_at" (.str (Stdlib.isoformat Uuid failed_at))
      | none => record.metadata }

def reset (existing : CaseApprovalOutboxRecord Uuid) (metadata : Metadata) :
    CaseApprovalOutboxRecord Uuid :=
  { existing with
    status := .pending
    claimed_at := none
    published_at := none
    publisher_id := none
    claim_id := none
    dead_letter := false
    last_error := none
    metadata }

def claimed (record : CaseApprovalOutboxRecord Uuid) (publisher_id : String) (claim_id : Uuid)
    (claimed_at : Instant) : CaseApprovalOutboxRecord Uuid :=
  { record with
    status := .publishing
    claimed_at := some claimed_at
    publisher_id := some publisher_id
    claim_id := some claim_id
    republish_count := record.republish_count + 1
    last_error := none }

end

/-! ## In memory -/

/-- The index that a slice reaches, from the end where it is negative. -/
def sliceIndex (length : Nat) (i : Int) : Nat :=
  if i < 0 then (length + i).toNat else min i.toNat length

/-- `rows[start:stop]`. -/
def slice {α : Type} (rows : List α) (start stop : Int) : List α :=
  (rows.take (sliceIndex rows.length stop)).drop (sliceIndex rows.length start)

structure InMemoryCaseApprovalPersistence (Uuid Details : Type) where
  cases : Dict Uuid (CaseApprovalRecord Uuid Details) := .empty
  dedup : Dict (String × String) Uuid := .empty
  outbox_by_id : Dict Uuid (CaseApprovalOutboxRecord Uuid) := .empty
  outbox_by_case : Dict Uuid Uuid := .empty

namespace InMemoryCaseApprovalPersistence

variable {Uuid Details : Type} [DecidableEq Uuid] (s : InMemoryCaseApprovalPersistence Uuid Details)

/-- What a call returns or raises, and the store after it. -/
abbrev Answer (Uuid Details α : Type) :=
  Except CaseStoreError α × InMemoryCaseApprovalPersistence Uuid Details

def create_case (record : CaseApprovalRecord Uuid Details) (expected_tenant_id : String) :
    Answer Uuid Details (CaseApprovalRecord Uuid Details) :=
  match assert_tenant record.tenant_id expected_tenant_id with
  | .error e => (.error e, s)
  | .ok () =>
    let dedup_key := (record.tenant_id, record.dedup_key)
    match s.dedup.get? dedup_key with
    | some existing_id =>
      match s.cases.get? existing_id with
      | some existing => (.ok existing, s)
      | none => (.error .key_error, s)
    | none => (.ok record, { s with
        cases := s.cases.set record.approval_case_id record
        dedup := s.dedup.set dedup_key record.approval_case_id })

variable [Stdlib Uuid]

def update_case (record : CaseApprovalRecord Uuid Details) (expected_tenant_id : String) :
    Answer Uuid Details (CaseApprovalRecord Uuid Details) :=
  match assert_tenant record.tenant_id expected_tenant_id with
  | .error e => (.error e, s)
  | .ok () =>
    match (s.cases.get? record.approval_case_id).filter (·.tenant_id = expected_tenant_id) with
    | none => (.error (.case_approval_persistence_error
        ("unknown approval case " ++ quoted record.approval_case_id)), s)
    | some _ => (.ok record, { s with
        cases := s.cases.set record.approval_case_id record
        dedup := s.dedup.set (record.tenant_id, record.dedup_key) record.approval_case_id })

/-- The cases are sorted by time and id, the newest first. -/
def list_cases [LinearOrder Uuid] (query : CaseApprovalQuery Uuid) (expected_tenant_id : String) :
    Page (CaseApprovalRecord Uuid Details) :=
  let key (record : CaseApprovalRecord Uuid Details) := toLex (record.requested_at, record.approval_case_id)
  let rows := ((s.cases.values.filter (matches_case query expected_tenant_id)).insertionSort
    fun a b => key a ≤ key b).reverse
  { items := slice rows query.offset (query.offset + query.limit)
    total := rows.length
    limit := query.limit
    offset := query.offset }

def save_outbox (record : CaseApprovalOutboxRecord Uuid) (expected_tenant_id : String) :
    Answer Uuid Details (CaseApprovalOutboxRecord Uuid) :=
  match assert_tenant record.tenant_id expected_tenant_id with
  | .error e => (.error e, s)
  | .ok () =>
    match s.outbox_by_case.get? record.approval_case_id with
    | some existing_id =>
      match s.outbox_by_id.get? existing_id with
      | some existing => (.ok existing, s)
      | none => (.error .key_error, s)
    | none => (.ok record, { s with
        outbox_by_id := s.outbox_by_id.set record.outbox_id record
        outbox_by_case := s.outbox_by_case.set record.approval_case_id record.outbox_id })

def get_outbox_by_case (approval_case_id : Uuid) (expected_tenant_id : String) :
    Option (CaseApprovalOutboxRecord Uuid) :=
  ((s.outbox_by_case.get? approval_case_id).bind s.outbox_by_id.get?).filter
    (·.tenant_id = expected_tenant_id)

def republish_outbox (record : CaseApprovalOutboxRecord Uuid) (expected_tenant_id : String) :
    Answer Uuid Details (CaseApprovalOutboxRecord Uuid) :=
  match assert_tenant record.tenant_id expected_tenant_id with
  | .error e => (.error e, s)
  | .ok () =>
    match s.outbox_by_case.get? record.approval_case_id with
    | none => (.ok record, { s with
        outbox_by_id := s.outbox_by_id.set record.outbox_id record
        outbox_by_case := s.outbox_by_case.set record.approval_case_id record.outbox_id })
    | some existing_id =>
      match s.outbox_by_id.get? existing_id with
      | none => (.error .key_error, s)
      | some existing =>
        let updated := reset existing record.metadata
        (.ok updated, { s with outbox_by_id := s.outbox_by_id.set existing_id updated })

def claim_outbox (approval_case_id : Uuid) (publisher_id : String) (claim_id : Uuid)
    (claimed_at : Instant) (expected_tenant_id : String) :
    Answer Uuid Details (Option (CaseApprovalOutboxRecord Uuid)) :=
  match (s.get_outbox_by_case approval_case_id expected_tenant_id).filter (·.status = .pending) with
  | none => (.ok none, s)
  | some record =>
    let updated := claimed record publisher_id claim_id claimed_at
    (.ok (some updated), { s with outbox_by_id := s.outbox_by_id.set updated.outbox_id updated })

def mark_outbox_terminal (outbox_id claim_id : Uuid) (status : CaseApprovalOutboxStatus)
    (expected_tenant_id : String) (published_at : Option Instant) (error : Option String)
    (dead_letter : Bool) (failed_at : Option Instant) :
    Answer Uuid Details (CaseApprovalOutboxRecord Uuid) :=
  match (s.outbox_by_id.get? outbox_id).filter (·.tenant_id = expected_tenant_id) with
  | none => (.error (.case_approval_persistence_error
      ("unknown approval outbox " ++ quoted outbox_id)), s)
  | some record =>
    if record.claim_id ≠ some claim_id then
      (.error (.case_approval_persistence_error "approval outbox claim does not match"), s)
    else
      let updated := terminal record status published_at error dead_letter failed_at
      (.ok updated, { s with outbox_by_id := s.outbox_by_id.set outbox_id updated })

def mark_outbox_published (outbox_id claim_id : Uuid) (published_at : Instant)
    (expected_tenant_id : String) : Answer Uuid Details (CaseApprovalOutboxRecord Uuid) :=
  s.mark_outbox_terminal outbox_id claim_id .published expected_tenant_id (some published_at) none false none

def mark_outbox_failed (outbox_id claim_id : Uuid) (error : String) (failed_at : Instant)
    (dead_letter : Bool) (expected_tenant_id : String) :
    Answer Uuid Details (CaseApprovalOutboxRecord Uuid) :=
  s.mark_outbox_terminal outbox_id claim_id .failed expected_tenant_id none (some error) dead_letter
    (some failed_at)

def list_outbox [LinearOrder Uuid] (query : CaseApprovalOutboxQuery) (expected_tenant_id : Option String) :
    Page (CaseApprovalOutboxRecord Uuid) :=
  let key (record : CaseApprovalOutboxRecord Uuid) := toLex (record.created_at, record.outbox_id)
  let rows := (s.outbox_by_id.values.filter (matches_outbox query expected_tenant_id)).insertionSort
    fun a b => key a ≤ key b
  { items := slice rows query.offset (query.offset + query.limit)
    total := rows.length
    limit := query.limit
    offset := query.offset }

end InMemoryCaseApprovalPersistence

/-! ## In Postgres -/

/-- The rows of other tables that a case and an outbox row must name: tenants, sessions, proposals and
decisions. -/
structure References (Uuid Details : Type) where
  ofCase : CaseApprovalRecord Uuid Details → Bool
  tenant : String → Bool

structure PostgresCaseApprovalPersistence (Uuid Details : Type) where
  cases : List (CaseApprovalRecord Uuid Details) := []
  outbox : List (CaseApprovalOutboxRecord Uuid) := []

def normalize_page_bounds (limit offset : Int) : Except CaseStoreError Unit :=
  if offset < 0 then .error (.value_error "offset must be >= 0")
  else if limit < 1 then .error (.value_error "limit must be >= 1")
  else if 500 < limit then .error (.value_error "limit must be <= 500")
  else .ok ()

/-- `fetch_scalar_page`, of rows in order. -/
def fetch_scalar_page {α : Type} (rows : List α) (limit offset : Int) : Except CaseStoreError (Page α) :=
  match normalize_page_bounds limit offset with
  | .error e => .error e
  | .ok () => .ok { items := (rows.drop offset.toNat).take limit.toNat, total := rows.length, limit, offset }

/-- The leading sort key of the cases. -/
def statusRank : CaseApprovalStatus → Nat
  | .awaiting_approval => 0
  | .pending_sme_review => 1
  | _ => 2

namespace PostgresCaseApprovalPersistence

variable {Uuid Details : Type} (references : References Uuid Details)

/-- The checks and the foreign keys of a case. -/
def storable (record : CaseApprovalRecord Uuid Details) : Bool :=
  record.tenant_id ≠ "" && record.dedup_key ≠ "" && record.entry_category ≠ .fraud_risk_high &&
    (record.guidance_round = 0 || record.guidance_round = 1) && references.ofCase record

variable [DecidableEq Uuid] (s : PostgresCaseApprovalPersistence Uuid Details)

/-- What a call returns or raises, and the tables after it. -/
abbrev Answer (Uuid Details α : Type) :=
  Except CaseStoreError α × PostgresCaseApprovalPersistence Uuid Details

def get_case_by_dedup_key (dedup_key expected_tenant_id : String) :
    Option (CaseApprovalRecord Uuid Details) :=
  s.cases.find? fun row => row.dedup_key = dedup_key && row.tenant_id = expected_tenant_id

def create_case (record : CaseApprovalRecord Uuid Details) (expected_tenant_id : String) :
    Answer Uuid Details (CaseApprovalRecord Uuid Details) :=
  match assert_tenant record.tenant_id expected_tenant_id with
  | .error e => (.error e, s)
  | .ok () =>
    let taken := s.cases.any fun row => row.approval_case_id = record.approval_case_id ||
      (row.tenant_id = record.tenant_id && row.dedup_key = record.dedup_key)
    if storable references record && !taken then
      (.ok record, { s with cases := s.cases ++ [record] })
    else
      match s.get_case_by_dedup_key record.dedup_key expected_tenant_id with
      | some existing => (.ok existing, s)
      | none => (.error .integrity_error, s)

def list_cases [LinearOrder Uuid] (query : CaseApprovalQuery Uuid) (expected_tenant_id : String) :
    Except CaseStoreError (Page (CaseApprovalRecord Uuid Details)) :=
  let key (record : CaseApprovalRecord Uuid Details) := toLex (statusRank record.status,
    OrderDual.toDual (toLex (record.requested_at, record.approval_case_id)))
  fetch_scalar_page ((s.cases.filter (matches_case query expected_tenant_id)).insertionSort
    fun a b => key a ≤ key b) query.limit query.offset

def get_outbox_by_case (approval_case_id : Uuid) (expected_tenant_id : String) :
    Option (CaseApprovalOutboxRecord Uuid) :=
  s.outbox.find? fun row => row.approval_case_id = approval_case_id && row.tenant_id = expected_tenant_id

def putOutbox (updated : CaseApprovalOutboxRecord Uuid) : PostgresCaseApprovalPersistence Uuid Details :=
  { s with outbox := s.outbox.map fun row => if row.outbox_id = updated.outbox_id then updated else row }

def list_outbox [LinearOrder Uuid] (query : CaseApprovalOutboxQuery) (expected_tenant_id : Option String) :
    Except CaseStoreError (Page (CaseApprovalOutboxRecord Uuid)) :=
  let key (record : CaseApprovalOutboxRecord Uuid) := toLex (record.created_at, record.outbox_id)
  fetch_scalar_page ((s.outbox.filter (matches_outbox query expected_tenant_id)).insertionSort
    fun a b => key a ≤ key b) query.limit query.offset

def claim_outbox (approval_case_id : Uuid) (publisher_id : String) (claim_id : Uuid)
    (claimed_at : Instant) (expected_tenant_id : String) :
    Answer Uuid Details (Option (CaseApprovalOutboxRecord Uuid)) :=
  match s.outbox.find? fun row => row.approval_case_id = approval_case_id &&
      row.tenant_id = expected_tenant_id && row.status = .pending with
  | none => (.ok none, s)
  | some row =>
    let s' := s.putOutbox (claimed row publisher_id claim_id claimed_at)
    (.ok (s'.get_outbox_by_case approval_case_id expected_tenant_id), s')

variable [Stdlib Uuid]

def update_case (record : CaseApprovalRecord Uuid Details) (expected_tenant_id : String) :
    Answer Uuid Details (CaseApprovalRecord Uuid Details) :=
  match assert_tenant record.tenant_id expected_tenant_id with
  | .error e => (.error e, s)
  | .ok () =>
    if s.cases.any fun row => row.approval_case_id = record.approval_case_id &&
        row.tenant_id = expected_tenant_id then
      if !storable references record || s.cases.any fun row =>
          row.approval_case_id ≠ record.approval_case_id && row.tenant_id = record.tenant_id &&
            row.dedup_key = record.dedup_key then
        (.error .integrity_error, s)
      else (.ok record, { s with cases := s.cases.map fun row =>
          if row.approval_case_id = record.approval_case_id then record else row })
    else (.error (.case_approval_persistence_error
        ("unknown approval case " ++ quoted record.approval_case_id)), s)

/-- An outbox row must name a stored case and a tenant, and has its case and its id to itself. -/
def insertsOutbox (record : CaseApprovalOutboxRecord Uuid) : Bool :=
  record.tenant_id ≠ "" && 0 ≤ record.republish_count && references.tenant record.tenant_id &&
    s.cases.any (·.approval_case_id = record.approval_case_id) &&
    !s.outbox.any fun row => row.outbox_id = record.outbox_id ||
      row.approval_case_id = record.approval_case_id

def save_outbox (record : CaseApprovalOutboxRecord Uuid) (expected_tenant_id : String) :
    Answer Uuid Details (CaseApprovalOutboxRecord Uuid) :=
  match assert_tenant record.tenant_id expected_tenant_id with
  | .error e => (.error e, s)
  | .ok () =>
    match s.get_outbox_by_case record.approval_case_id expected_tenant_id with
    | some existing => (.ok existing, s)
    | none =>
      if s.insertsOutbox references record then
        (.ok record, { s with outbox := s.outbox ++ [record] })
      else (.error (.case_approval_persistence_error
        ("approval outbox " ++ quoted record.outbox_id ++ " could not be persisted")), s)

def republish_outbox (record : CaseApprovalOutboxRecord Uuid) (expected_tenant_id : String) :
    Answer Uuid Details (CaseApprovalOutboxRecord Uuid) :=
  match assert_tenant record.tenant_id expected_tenant_id with
  | .error e => (.error e, s)
  | .ok () =>
    match s.get_outbox_by_case record.approval_case_id expected_tenant_id with
    | none => s.save_outbox references record expected_tenant_id
    | some existing =>
      let s' := s.putOutbox (reset existing record.metadata)
      match s'.get_outbox_by_case record.approval_case_id expected_tenant_id with
      | some refreshed => (.ok refreshed, s')
      | none => (.error (.case_approval_persistence_error
          ("approval outbox for case " ++ quoted record.approval_case_id ++ " missing")), s)

def mark_outbox (outbox_id claim_id : Uuid) (status : CaseApprovalOutboxStatus)
    (expected_tenant_id : String) (published_at : Option Instant) (error : Option String)
    (dead_letter : Bool) (failed_at : Option Instant) :
    Answer Uuid Details (CaseApprovalOutboxRecord Uuid) :=
  match s.outbox.find? fun row => row.outbox_id = outbox_id && row.tenant_id = expected_tenant_id with
  | none => (.error (.case_approval_persistence_error
      ("unknown approval outbox " ++ quoted outbox_id)), s)
  | some current =>
    if current.claim_id ≠ some claim_id then
      (.error (.case_approval_persistence_error "approval outbox claim does not match"), s)
    else if current.status ≠ .publishing then
      (.error (.case_approval_persistence_error
        "only the active approval outbox claim can be resolved"), s)
    else
      let updated := terminal current status published_at error dead_letter failed_at
      (.ok updated, s.putOutbox updated)

def mark_outbox_published (outbox_id claim_id : Uuid) (published_at : Instant)
    (expected_tenant_id : String) : Answer Uuid Details (CaseApprovalOutboxRecord Uuid) :=
  s.mark_outbox outbox_id claim_id .published expected_tenant_id (some published_at) none false none

def mark_outbox_failed (outbox_id claim_id : Uuid) (error : String) (failed_at : Instant)
    (dead_letter : Bool) (expected_tenant_id : String) :
    Answer Uuid Details (CaseApprovalOutboxRecord Uuid) :=
  s.mark_outbox outbox_id claim_id .failed expected_tenant_id none (some error) dead_letter (some failed_at)

end PostgresCaseApprovalPersistence

end persistence

end operious.approvals
