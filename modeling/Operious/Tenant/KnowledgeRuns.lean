-- Runs of the calls on knowledge documents: the chronology verifies after every call, and no version
-- can be changed behind their back, where no call archives a version that is active.
import Operious.Tenant.KnowledgeChain

namespace operious.tenant

open chain effects
open operious.governance (PyException)
open operious.identity
open operious.resolution (Sha256 sha256_text)

section

variable {Uuid : Type} [DecidableEq Uuid] [Stdlib Uuid] [Sha256]
variable {w w' : Knowledge Uuid} {document_id : Uuid} {tenant_id : String}
  {d : TenantKnowledgeDocumentRecord Uuid} {now : Instant}

/-! ## Each call keeps the chains -/

omit [Stdlib Uuid] [Sha256] in
theorem get_knowledge_document_eq_some :
    get_knowledge_document w document_id tenant_id = some d ↔
      w.documents.get? document_id = some d ∧ d.tenant_id = tenant_id := by
  simp [get_knowledge_document, Option.filter_eq_some_iff]

namespace Chronicle

theorem create_knowledge_document (hw : Chronicle w) (args : CreateKnowledgeDocument)
    (hown : ∀ id e, derive_knowledge_document_id args.tenant_id args.title args.document_type = .ok id →
      w.documents.get? id = some e → e.tenant_id = args.tenant_id) :
    Chronicle (run (tenant.create_knowledge_document args now) w).2 := by
  unfold tenant.create_knowledge_document
  rw [run_bind, run_lift]
  cases require_approval args.approval args.tenant_id with
  | error e => exact hw
  | ok approval =>
    simp only
    rw [run_bind, run_lift]
    cases validated_template_fields args.document_type args.template_purpose args.template_channel with
    | error e => exact hw
    | ok fields =>
      simp only
      rw [run_bind, run_lift]
      cases hid : (derive_knowledge_document_id args.tenant_id args.title args.document_type :
          Except PyException Uuid) with
      | error e => exact hw
      | ok id =>
        obtain ⟨hversion, howned, hprevious⟩ := hw.existing fun e => hown id e hid
        have hnamed : (strip args.tenant_id).isEmpty = false := by
          simp only [derive_knowledge_document_id, bind_eq_ok] at hid
          obtain ⟨tenant, htenant, -⟩ := hid
          exact named_of_coerce_tenant_id htenant
        simp only
        rw [run_bind, run_get]
        simp only
        rw [run_bind, run_save_knowledge_document w rfl]
        simp only
        rw [run_bind, run_get]
        simp only
        rw [run_discard]
        refine hw.record hnamed howned hversion ?_ rfl
        exact congrArg _ hprevious

variable {e : TenantKnowledgeDocumentRecord Uuid}

theorem next_version (hw : Chronicle w) (he : get_knowledge_document w document_id tenant_id = some e) :
    e.document_id = document_id ∧ (strip e.tenant_id).isEmpty = false ∧
      e.version + 1 = (rowsOf w document_id).length + 1 ∧
      (∀ x ∈ rowsOf w document_id, x.tenant_id = e.tenant_id) ∧
      get_knowledge_document_version w e.document_id e.version tenant_id =
        (rowsOf w document_id).getLast? := by
  obtain ⟨hget, htenant⟩ := get_knowledge_document_eq_some.mp he
  have hrecorded := hw.recorded document_id e hget
  have hown : ∀ x, w.documents.get? document_id = some x → x.tenant_id = tenant_id := by
    intro x hx
    rw [hget] at hx
    cases hx
    exact htenant
  obtain ⟨hversion, howned, hprevious⟩ := hw.existing hown
  rw [he] at hversion hprevious
  exact ⟨hrecorded.keyed, hrecorded.named, hversion, fun x hx => (howned x hx).trans htenant.symm,
    hprevious⟩

theorem update_knowledge_document (hw : Chronicle w) (args : UpdateKnowledgeDocument Uuid) :
    Chronicle (run (tenant.update_knowledge_document args now) w).2 := by
  unfold tenant.update_knowledge_document
  rw [run_bind, run_lift]
  cases require_approval args.approval args.tenant_id with
  | error e => exact hw
  | ok approval =>
    simp only
    rw [run_bind, require_document, run_bind, run_get]
    cases he : get_knowledge_document w args.document_id args.tenant_id with
    | none =>
      simp only [he]
      exact hw
    | some e =>
      obtain ⟨hkeyed, hnamed, hversion, howned, hprevious⟩ := hw.next_version he
      have htenant := (get_knowledge_document_eq_some.mp he).2
      simp only [he, run_pure]
      rw [run_bind, run_get]
      simp only
      rw [run_bind, run_save_knowledge_document w (d := updatedDocument e args) htenant]
      simp only
      rw [run_discard]
      refine hw.record hnamed (hkeyed ▸ howned) (hkeyed ▸ hversion) ?_ rfl
      change _ = (rowsOf w e.document_id).getLast?.map _
      rw [hprevious, hkeyed]

theorem run_ensure_current_version (hw : Chronicle w) (now : Instant) (origin : String)
    (he : get_knowledge_document w document_id tenant_id = some e) :
    ∃ r, (rowsOf w document_id).getLast? = some r ∧
      run (ensure_current_version tenant_id e origin now) w = (.ok r, w) := by
  obtain ⟨hkeyed, -, hversion, -, hprevious⟩ := hw.next_version he
  have hpositive := (hw.recorded document_id e (get_knowledge_document_eq_some.mp he).1).positive
  obtain ⟨r, hr⟩ := Option.isSome_iff_exists.mp
    (List.getLast?_isSome.mpr (List.ne_nil_of_length_pos (by omega : 0 < (rowsOf w document_id).length)))
  refine ⟨r, hr, ?_⟩
  rw [hr] at hprevious
  unfold ensure_current_version
  rw [run_bind, run_get]
  simp only [hprevious, run_pure]

theorem publish_reviewed (hw : Chronicle w) {r : Version Uuid} {content uploaded_by : String}
    {source_approval_id : String} {metadata : Payload Uuid}
    (he : get_knowledge_document w document_id tenant_id = some e)
    (hr : (rowsOf w document_id).getLast? = some r) :
    Chronicle (run (tenant.publish tenant_id (reviewedDocument e content uploaded_by)
      source_approval_id (some r.content_sha256) now metadata) w).2 := by
  obtain ⟨hkeyed, hnamed, hversion, howned, -⟩ := hw.next_version he
  refine hw.publish (get_knowledge_document_eq_some.mp he).2 hnamed (hkeyed ▸ howned)
    (hkeyed ▸ hversion) ?_
  change _ = (rowsOf w e.document_id).getLast?.map _
  rw [hkeyed, hr, Option.map_some]

theorem apply_approval (hw : Chronicle w) (found : Option (ProposedChange Uuid)) (applied_by : String)
    (updated : Except PyException Unit) :
    Chronicle (run (tenant.apply_approval tenant_id found applied_by updated now) w).2 := by
  cases found with
  | none => exact hw
  | some approval =>
    unfold tenant.apply_approval
    simp only
    rw [run_bind, run_lift]
    cases ApprovalStatus.ofValue approval.status with
    | error e => exact hw
    | ok status =>
      cases status with
      | pending_review => exact hw
      | rejected => exact hw
      | applied =>
        simp only [require_reviewed_document]
        rw [run_bind, run_get]
        cases he : get_knowledge_document w approval.document_id tenant_id <;> simp only [he] <;>
          exact hw
      | approved =>
        simp only
        rw [run_bind, require_reviewed_document, run_bind, run_get]
        cases he : get_knowledge_document w approval.document_id tenant_id with
        | none =>
          simp only [he]
          exact hw
        | some e =>
          obtain ⟨r, hr, hrun⟩ := hw.run_ensure_current_version now
            "bootstrap_current_version" he
          simp only [he, run_pure]
          rw [run_bind, archive_current_document_version, hrun]
          simp only
          rw [run_bind_state fun _ _ => by cases updated <;> rfl]
          exact hw.publish_reviewed he hr

theorem rollback_document (hw : Chronicle w) (target_version : Nat) (rolled_back_by : String)
    (approval : ApprovalRecord) :
    Chronicle (run (tenant.rollback_document tenant_id document_id target_version rolled_back_by
      approval now) w).2 := by
  unfold tenant.rollback_document
  split
  · exact hw
  · rw [run_bind, require_reviewed_document, run_bind, run_get]
    cases he : get_knowledge_document w document_id tenant_id with
    | none =>
      simp only [he]
      exact hw
    | some e =>
      simp only [he, run_pure]
      rw [run_bind, run_get]
      simp only
      cases get_knowledge_document_version w document_id target_version tenant_id with
      | none => exact hw
      | some target =>
        simp only
        split
        · obtain ⟨r, -, hrun⟩ := hw.run_ensure_current_version now "rollback_idempotent" he
          rw [run_discard, hrun]
          exact hw
        · obtain ⟨r, hr, hrun⟩ := hw.run_ensure_current_version now
            "bootstrap_current_version" he
          rw [run_bind, archive_current_document_version, hrun]
          simp only
          rw [run_discard]
          exact hw.publish_reviewed he hr

theorem run_resave (hw : Chronicle w) (he : get_knowledge_document w document_id tenant_id = some e)
    (hid : d.document_id = e.document_id) (htenant : d.tenant_id = e.tenant_id)
    (hversion : d.version = e.version) :
    Chronicle (run (save_knowledge_document d tenant_id) w).2 := by
  obtain ⟨hget, hown⟩ := get_knowledge_document_eq_some.mp he
  have hkeyed := (hw.recorded document_id e hget).keyed
  rw [run_save_knowledge_document w (htenant.trans hown), hid, hkeyed]
  exact hw.resave hget hid htenant hversion

theorem ingest_document (hw : Chronicle w) (indexing : Indexing) :
    Chronicle (run (tenant.ingest_document tenant_id document_id indexing) w).2 := by
  unfold tenant.ingest_document
  rw [run_bind, run_get]
  cases he : get_knowledge_document w document_id tenant_id with
  | none =>
    simp only [he]
    exact hw
  | some e =>
    simp only [he]
    split
    · exact hw
    · cases indexing with
      | raised exc => exact hw
      | held => exact hw.run_resave he rfl rfl rfl
      | indexed review_status indexed_at => exact hw.run_resave he rfl rfl rfl

theorem persist_index_failed (hw : Chronicle w) :
    Chronicle (run (tenant.persist_index_failed tenant_id document_id) w).2 := by
  unfold tenant.persist_index_failed
  rw [run_bind, run_get]
  cases he : get_knowledge_document w document_id tenant_id with
  | none =>
    simp only [he]
    exact hw
  | some e =>
    simp only [he]
    exact hw.run_resave he rfl rfl rfl

end Chronicle

omit [Stdlib Uuid] [Sha256] in
theorem archive_none_active
    (h : ∀ k r, w.versions.get? k = some r → r.tenant_id = tenant_id → r.document_id = document_id →
      r.status ≠ .active) :
    (run (archive_current_knowledge_document_versions document_id tenant_id) w).2 = w := by
  have hfold : ∀ (items : List ((Uuid × Nat) × Version Uuid)), (∀ p ∈ items, p ∈ w.versions.items) →
      items.foldl (fun versions item =>
        if item.2.tenant_id = tenant_id ∧ item.2.document_id = document_id ∧
            item.2.status = .active then
          versions.set item.1 { item.2 with status := .archived }
        else versions) w.versions = w.versions := by
    intro items hitems
    induction items with
    | nil => rfl
    | cons p rest ih =>
      have hp := (Dict.get?_eq_some_iff w.versions p.1 p.2).mpr (hitems p List.mem_cons_self)
      rw [List.foldl_cons, if_neg fun hall => h p.1 p.2 hp hall.1 hall.2.1 hall.2.2]
      exact ih fun q hq => hitems q (List.mem_cons_of_mem _ hq)
  unfold archive_current_knowledge_document_versions
  rw [run_modify, hfold _ fun _ hp => hp]

/-! ## The calls -/

inductive KnowledgeCall (Uuid : Type)
  | create (args : CreateKnowledgeDocument) (now : Instant)
  | update (args : UpdateKnowledgeDocument Uuid) (now : Instant)
  | apply_approval (tenant_id : String) (found : Option (ProposedChange Uuid)) (applied_by : String)
    (updated : Except PyException Unit) (now : Instant)
  | rollback (tenant_id : String) (document_id : Uuid) (target_version : Nat) (rolled_back_by : String)
    (approval : ApprovalRecord) (now : Instant)
  | ingest (tenant_id : String) (document_id : Uuid) (indexing : Indexing)
  | index_failed (tenant_id : String) (document_id : Uuid)
  | archive_current (tenant_id : String) (document_id : Uuid)

namespace KnowledgeCall

/-- A call as a step: what it leaves, whether it returns or raises. -/
def next (w : Knowledge Uuid) : KnowledgeCall Uuid → Option (Knowledge Uuid)
  | create args now => some (run (create_knowledge_document args now) w).2
  | update args now => some (run (update_knowledge_document args now) w).2
  | .apply_approval tenant_id found applied_by updated now =>
    some (run (tenant.apply_approval tenant_id found applied_by updated now) w).2
  | rollback tenant_id document_id target_version rolled_back_by approval now =>
    some (run (rollback_document tenant_id document_id target_version rolled_back_by approval now) w).2
  | ingest tenant_id document_id indexing =>
    some (run (ingest_document tenant_id document_id indexing) w).2
  | index_failed tenant_id document_id =>
    some (run (persist_index_failed tenant_id document_id) w).2
  | archive_current tenant_id document_id =>
    some (run (archive_current_knowledge_document_versions document_id tenant_id) w).2

def Verifies (_ : Knowledge Uuid) (_ : KnowledgeCall Uuid) (w : Knowledge Uuid) : Prop :=
  (∀ tenant_id document_id,
    verify_chronology_chain w tenant_id document_id = .ok { valid := true }) ∧
  ∀ w' tenant_id document_id, Altered w w' tenant_id document_id →
    ∃ n, verify_chronology_chain w' tenant_id document_id =
      .ok { valid := false, broken_at_version := some n }

/-- The call archives no version that is active, and makes no document under an id that another
tenant has a document under. -/
def Keeps (w : Knowledge Uuid) : KnowledgeCall Uuid → Prop
  | create args _ => ∀ id e,
    derive_knowledge_document_id args.tenant_id args.title args.document_type = .ok id →
      w.documents.get? id = some e → e.tenant_id = args.tenant_id
  | archive_current tenant_id document_id => ∀ k r, w.versions.get? k = some r →
    r.tenant_id = tenant_id → r.document_id = document_id → r.status ≠ .active
  | _ => True

theorem chronicle_next {call : KnowledgeCall Uuid} (hw : Chronicle w) (hkeeps : Keeps w call)
    (hu : next w call = some w') : Chronicle w' := by
  cases call with
  | create args now =>
    cases hu
    exact hw.create_knowledge_document args hkeeps
  | update args now =>
    cases hu
    exact hw.update_knowledge_document args
  | apply_approval tenant_id found applied_by updated now =>
    cases hu
    exact hw.apply_approval found applied_by updated
  | rollback tenant_id document_id target_version rolled_back_by approval now =>
    cases hu
    exact hw.rollback_document target_version rolled_back_by approval
  | ingest tenant_id document_id indexing =>
    cases hu
    exact hw.ingest_document indexing
  | index_failed tenant_id document_id =>
    cases hu
    exact hw.persist_index_failed
  | archive_current tenant_id document_id =>
    cases hu
    rw [archive_none_active hkeeps]
    exact hw

theorem chronicle_new : Chronicle (.new : Knowledge Uuid) where
  keyed _ _ h := by cases h
  digested _ _ h := by cases h
  linked _ := trivial
  recorded _ _ h := by cases h
  unrecorded _ _ := rfl

/-- After every call of a run the chronology of every document verifies, and no version can be
altered unseen, where no call archives a version that is active. -/
theorem verifies_along (hfree : Function.Injective sha256_text) (calls : List (KnowledgeCall Uuid))
    (hkeeps : runs.Meets next Keeps .new calls) : runs.Along next Verifies .new calls := by
  refine runs.along_when (I := Chronicle) ?_ chronicle_new hkeeps
  intro w call w' hw hc hu
  have hw' := chronicle_next hw hc hu
  exact ⟨hw', fun _ _ => hw'.verify, fun _ _ _ haltered => hw'.verify_altered hfree haltered⟩

end KnowledgeCall

end

/-! ## A version archived -/

def knowledgeApproval : ApprovalRecord := ⟨"a", "t", "approved"⟩

def faq : CreateKnowledgeDocument where
  tenant_id := "t"
  title := "f"
  content := "c"
  document_type := .faq
  uploaded_by := "u"
  status := .active
  approval := some knowledgeApproval

def disableFaq : KnowledgeCall String :=
  .update { tenant_id := "t", document_id := "t|faq|f", uploaded_by := "u", status := some .archived
            approval := some knowledgeApproval } 1

/-- A document that is made and then disabled verifies. -/
theorem KnowledgeCall.disabled_verifies :
    letI : Sha256 := ⟨id⟩
    runs.Along KnowledgeCall.next KnowledgeCall.Verifies .new [.create faq 0, disableFaq] := by
  let _ : Sha256 := ⟨id⟩
  refine KnowledgeCall.verifies_along Function.injective_id [.create faq 0, disableFaq] ?_
  exact fun _ _ => ⟨fun _ _ _ hget => (nomatch hget), fun _ _ => ⟨trivial, trivial⟩⟩

/-- The version that is archived keeps the digest of an active one. -/
theorem KnowledgeCall.archived_does_not_verify :
    letI : Sha256 := ⟨id⟩
    ¬ runs.Along KnowledgeCall.next KnowledgeCall.Verifies .new
      [.create faq 0, .archive_current "t" "t|faq|f"] := by
  let _ : Sha256 := ⟨id⟩
  let w : Knowledge String := (run (create_knowledge_document faq 0) .new).2
  let w' := (run (archive_current_knowledge_document_versions "t|faq|f" "t") w).2
  intro h
  change runs.Along KnowledgeCall.next _ _ ([.create faq 0] ++ [.archive_current "t" "t|faq|f"]) at h
  have hvalid : verify_chronology_chain w' "t" "t|faq|f" = .ok { valid := true } :=
    (h.last rfl rfl).1 "t" "t|faq|f"
  have hcreated : Chronicle w :=
    chronicle_new.create_knowledge_document faq fun _ _ _ hget => (nomatch hget)
  have hlisted : ∃ r, listed w "t" "t|faq|f" = [r] ∧ r.status = .active := ⟨_, rfl, rfl⟩
  obtain ⟨r, hr, hactive⟩ := hlisted
  have haltered : Altered w w' "t" "t|faq|f" := by
    refine ⟨fun r => ⟨r.version, r.title, r.content, .archived, r.previous_version_sha256⟩,
      .of_eq rfl, r, by rw [hr]; exact List.mem_singleton_self r, fun heq => ?_⟩
    have hstatus := congrArg (·.status) heq
    simp [Alteration.apply, hactive] at hstatus
  obtain ⟨n, hbroken⟩ := hcreated.verify_altered Function.injective_id haltered
  cases hvalid.symm.trans hbroken

end operious.tenant
