-- When the checks of the channel service pass for a row of the send gate. The service wants the
-- texts of the decision as they are, where the gate strips them, and it looks at a localized reply
-- that the gate does not see.
import Operious.Reply.SendGates

namespace operious.auto_send

open operious.customer_reply
open operious.customer_reply.SendDraft
open operious.governance (PyException)
open operious.outbound
open operious.resolution

/-! ## The channel service, called from a row -/

section

variable {Uuid Json : Type}

/-- The stores as a channel service reads them. -/
def Stores.repositories (stores : Stores Uuid Json)
    (load_channel_credentials : String → Except PyException Metadata)
    (resolve_active_channel : String → String → Except PyException Bool) :
    Repositories Uuid Json where
  get_resolution_outbound_draft id tenant_id :=
    .ok (stores.get_resolution_outbound_draft id tenant_id)
  get_resolution_proposal id tenant_id := .ok (stores.get_resolution_proposal id tenant_id)
  get_decision id tenant_id := .ok (stores.get_decision id tenant_id)
  load_channel_credentials
  resolve_active_channel_for_routing_address := resolve_active_channel

/-- The arguments of `_send_email_outbox`. -/
def send_email_outbox (outbox : OutboundSendOutboxRecord Uuid) : EmailSend Uuid where
  draft_id := outbox.draft_id
  tenant_id := outbox.tenant_id
  expected_tenant_id := outbox.tenant_id
  recipient_email_address := outbox.recipient
  subject := (metadata_text outbox.metadata "subject").getD "Re: Support request"
  source_email_address := metadata_text outbox.metadata "source"
  in_reply_to_message_id := metadata_text outbox.metadata "in_reply_to_message_id"
  references_header := metadata_text outbox.metadata "references_header"
  guards := ⟨some outbox.governance_decision_id, some outbox.draft_body_sha256⟩
  allow_failed_delivery_retry := true

/-- The arguments of `_send_whatsapp_outbox`. -/
def send_whatsapp_outbox (outbox : OutboundSendOutboxRecord Uuid) : WhatsAppSend Uuid where
  draft_id := outbox.draft_id
  tenant_id := outbox.tenant_id
  expected_tenant_id := outbox.tenant_id
  recipient_phone_number := outbox.recipient
  phone_number_id := orStr (metadata_text outbox.metadata "source")
    (metadata_text outbox.metadata "phone_number_id")
  guards := ⟨some outbox.governance_decision_id, some outbox.draft_body_sha256⟩
  allow_failed_delivery_retry := true

end

/-! ## Calls that raise no governance error -/

/-- Whatever it raises, it is no governance error. -/
def Ungoverned {α : Type} (x : Except SendError α) : Prop := ∀ text, x ≠ .error (.governance text)

theorem Ungoverned.bind {α β : Type} {x : Except SendError α} {f : α → Except SendError β}
    (hx : Ungoverned x) (hf : ∀ a, x = .ok a → Ungoverned (f a)) : Ungoverned (x >>= f) := by
  cases x with
  | error e =>
    intro text h
    cases h
    exact hx text rfl
  | ok a => exact hf a rfl

theorem Ungoverned.ok {α : Type} (a : α) : Ungoverned (.ok a) := fun _ h => by cases h

/-- A step that some gate decides, before steps that refuse nothing. -/
theorem ungoverned_bind_iff {α β : Type} {x : Except SendError α} {f : α → Except SendError β}
    {p : Prop} {a : α} (hok : p → x = .ok a)
    (hrefused : ¬ p → ∃ text, x = .error (.governance text)) (hf : Ungoverned (f a)) : Ungoverned (x >>= f) ↔ p := by
  constructor
  · intro hungoverned
    by_contra hnot
    obtain ⟨text, htext⟩ := hrefused hnot
    rw [htext] at hungoverned
    exact hungoverned text rfl
  · intro h
    rwa [hok h]

theorem ungoverned_lift {α : Type} (x : Except PyException α) : Ungoverned (lift x) := by
  intro text h
  cases x with
  | error e => cases h
  | ok a => cases h

theorem ungoverned_required_text (name value : String) : Ungoverned (required_text name value) := by
  intro text h
  unfold required_text at h
  cases hr : requiredText name value with
  | error e =>
    rw [hr] at h
    cases h
  | ok a =>
    rw [hr] at h
    cases h

theorem ungoverned_credential_string (channel : String) (credentials : Metadata) (key : String)
    (others : List String) : Ungoverned (credential_string channel credentials key others) := by
  intro text h
  unfold credential_string at h
  split at h <;> cases h

section

variable {Uuid Json : Type} [Stdlib Uuid]

theorem ungoverned_source (credentials : Metadata) (requested : Option String) :
    Ungoverned (resolved_source_email_address Uuid credentials requested) := by
  intro text h
  unfold resolved_source_email_address at h
  simp only at h
  split at h
  · split at h <;> cases h
  all_goals cases h

theorem ungoverned_phone_number_id (credentials : Metadata) (requested : Option String) :
    Ungoverned (resolved_phone_number_id credentials requested) := by
  intro text h
  unfold resolved_phone_number_id at h
  simp only at h
  split at h
  · split at h <;> cases h
  all_goals cases h

theorem ungoverned_ses_credentials (repositories : Repositories Uuid Json) (tenant_id : String)
    (source : Option String) : Ungoverned (load_ses_credentials repositories tenant_id source) := by
  unfold load_ses_credentials
  refine (ungoverned_lift _).bind fun credentials _ => ?_
  refine (ungoverned_source credentials source).bind fun address _ => ?_
  refine (ungoverned_lift _).bind fun routed _ => ?_
  split
  · intro text h
    cases h
  · refine (ungoverned_credential_string _ _ _ _).bind fun _ _ => ?_
    refine (ungoverned_credential_string _ _ _ _).bind fun _ _ => ?_
    refine (ungoverned_credential_string _ _ _ _).bind fun _ _ => ?_
    exact Ungoverned.ok _

omit [Stdlib Uuid] in
theorem ungoverned_whatsapp_credentials (repositories : Repositories Uuid Json) (tenant_id : String)
    (phone_number_id : Option String) :
    Ungoverned (load_whatsapp_credentials repositories tenant_id phone_number_id) := by
  unfold load_whatsapp_credentials
  refine (ungoverned_lift _).bind fun credentials _ => ?_
  refine (ungoverned_phone_number_id credentials phone_number_id).bind fun resolved _ => ?_
  refine (ungoverned_lift _).bind fun routed _ => ?_
  split
  · intro text h
    cases h
  · refine (ungoverned_credential_string _ _ _ _).bind fun _ _ => ?_
    refine (ungoverned_credential_string _ _ _ _).bind fun _ _ => ?_
    exact Ungoverned.ok _

end

/-! ## The checks of the records -/

section

variable {Uuid Json : Type} [DecidableEq Uuid] [Stdlib Uuid] [Sha256]

/-- What the two gates must find alike in a reply and its decision: no localized reply apart from the
body, no blank text for a canonical reply, and the two texts of the decision as they were written,
not padded. -/
structure GatesAgree (draft : ResolutionOutboundDraftRecord Uuid)
    (decision : GovernanceDecisionRecord Uuid) : Prop where
  localized : ∀ text, textEntry draft.metadata "localized_reply" = some text →
    text = draft.draft_body
  canonical : ∀ text, textEntry draft.metadata "canonical_reply" = some text → text ≠ "" →
    strip text = "" → sha256_text text = sha256_text draft.draft_body
  proposal : strip (strOf (decision.metadata.get? "proposal_id")) =
    strOf (decision.metadata.get? "proposal_id")
  digest : ∃ text, decision.metadata.get? "proposed_reply_sha256" = some (.str text) ∧
    strip text = text

omit [DecidableEq Uuid] [Stdlib Uuid] [Sha256] in
theorem metadata_text_some {metadata : Metadata} {key text : String}
    (h : metadata_text metadata key = some text) : strip (strOf (metadata.get? key)) = text := by
  unfold metadata_text at h
  split at h
  · cases h
  · cases h
  · simp only [optional_text, Option.bind_some] at h
    split at h
    · cases h
    · exact Option.some.inj h

omit [DecidableEq Uuid] [Stdlib Uuid] in
theorem governed_digest_iff (draft : ResolutionOutboundDraftRecord Uuid) :
    sha256_text (governed_reply draft) = sha256_text (canonical_reply_for_governance draft) ↔
      ∀ text, textEntry draft.metadata "canonical_reply" = some text → text ≠ "" →
        strip text = "" → sha256_text text = sha256_text draft.draft_body := by
  have hempty : strip "" = "" := strip_eq_self (by simp)
  unfold governed_reply canonical_reply_for_governance textEntry
  cases draft.metadata.get? "canonical_reply" with
  | none => simp [orStr]
  | some value =>
    cases value with
    | str text =>
      by_cases hne : text = ""
      · subst hne
        simp [orStr, hempty]
      · by_cases hblank : strip text = ""
        · simp [orStr, hne, hblank]
        · simp [orStr, hne, hblank]
    | _ => simp [orStr]

variable {stores : Stores Uuid Json} {draft : ResolutionOutboundDraftRecord Uuid}
  {proposal : ResolutionProposalRecord Uuid Json} {call : SendCall}
  {decision : GovernanceDecisionRecord Uuid} {row : OutboundSendOutboxRecord Uuid}

omit [DecidableEq Uuid] in
theorem Granted.proposal_iff (h : Granted stores draft proposal call decision row) :
    strOf (decision.metadata.get? "proposal_id") = Stdlib.str proposal.proposal_id ↔
      strip (strOf (decision.metadata.get? "proposal_id")) =
        strOf (decision.metadata.get? "proposal_id") := by
  obtain ⟨thread, -, -, -, -, hproposal, -⟩ := h.allows
  rw [metadata_text_some hproposal, eq_comm]

omit [DecidableEq Uuid] in
theorem Granted.digest_iff [LawfulSha256] (h : Granted stores draft proposal call decision row) :
    decision.metadata.get? "proposed_reply_sha256" =
        some (.str (sha256_text (governed_reply draft))) ↔
      (∃ text, decision.metadata.get? "proposed_reply_sha256" = some (.str text) ∧
        strip text = text) ∧
      sha256_text (governed_reply draft) = sha256_text (canonical_reply_for_governance draft) := by
  obtain ⟨thread, -, -, -, -, -, -, -, -, -, -, -, -, -, hdigest⟩ := h.allows
  have hstrip := metadata_text_some hdigest
  constructor
  · intro hentry
    rw [hentry] at hstrip
    exact ⟨⟨_, hentry, strip_digest _⟩, (strip_digest _).symm.trans hstrip⟩
  · rintro ⟨⟨text, hentry, htext⟩, hsame⟩
    rw [hentry] at hstrip
    have hvalue : text = sha256_text (canonical_reply_for_governance draft) := htext.symm.trans hstrip
    rw [hentry, hvalue, hsame]

section

variable (credentials : String → Except PyException Metadata)
  (routes : String → String → Except PyException Bool)

section

omit [DecidableEq Uuid]

theorem Granted.load_draft (h : Granted stores draft proposal call decision row)
    (hdraft : stores.drafts draft.draft_id = some draft) :
    load_sendable_draft (stores.repositories credentials routes) row.draft_id row.tenant_id =
      if (textEntry draft.metadata "localized_reply").any (· ≠ draft.draft_body) then
        .error (.governance "outbound draft localized reply mismatch")
      else .ok draft := by
  obtain ⟨htenant, -, -, -, -, -, hdecided, -, hready, -, hbody, -⟩ := h.exact
  have hget : stores.get_resolution_outbound_draft row.draft_id row.tenant_id = some draft := by
    simp [Stores.get_resolution_outbound_draft, h.draft_id, hdraft, h.tenant_id, htenant]
  simp only [load_sendable_draft, Stores.repositories, hget, lift, Except.mapError, bind, Except.bind]
  rw [if_neg (not_not.mpr hready), if_neg hdecided, if_neg (not_not.mpr hbody)]
  rfl

theorem Granted.load_proposal (h : Granted stores draft proposal call decision row)
    (hproposal : stores.proposals proposal.proposal_id = some proposal) :
    load_sendable_proposal (stores.repositories credentials routes) draft.proposal_id row.tenant_id =
      .ok proposal := by
  obtain ⟨-, htenant, hid, -, -, -, hdecided, hsame, -, heligible, -, -⟩ := h.exact
  have hget : stores.get_resolution_proposal draft.proposal_id row.tenant_id = some proposal := by
    simp [Stores.get_resolution_proposal, hid, hproposal, h.tenant_id, htenant]
  have hok : ¬ (proposal.status ≠ .send_eligible ∨ proposal.governance_decision_id = none) := by
    rintro (hstatus | hnone)
    · exact hstatus heligible
    · exact hdecided (hsame.trans hnone)
  simp only [load_sendable_proposal, Stores.repositories, hget, lift, Except.mapError, bind,
    Except.bind]
  rw [if_neg hok]
  rfl

theorem Granted.allow (h : Granted stores draft proposal call decision row) :
    assert_persisted_governance_allow (stores.repositories credentials routes) draft proposal
        row.tenant_id =
      if strOf (decision.metadata.get? "proposal_id") ≠ Stdlib.str proposal.proposal_id then
        .error (.governance "governance decision proposal mismatch")
      else if decision.metadata.get? "proposed_reply_sha256" ≠
          some (.str (sha256_text (governed_reply draft))) then
        .error (.governance "governance decision reply hash mismatch")
      else .ok () := by
  obtain ⟨id, hid, hdecision⟩ := h.decided
  obtain ⟨thread, -, htenant, hallow, -⟩ := h.allows
  rw [← h.tenant_id] at hdecision htenant
  simp only [assert_persisted_governance_allow, Stores.repositories, hid, hdecision, lift,
    Except.mapError, bind, Except.bind]
  rw [if_neg (not_not.mpr hallow), if_neg (not_not.mpr htenant)]
  rfl

end

end

omit [DecidableEq Uuid] in
theorem Granted.digest_eq [AsciiLower Uuid] [LawfulSha256]
    (h : Granted stores draft proposal call decision row) :
    row.draft_body_sha256 = sha256_text draft.draft_body := by
  obtain ⟨-, -, -, -, -, -, -, -, -, -, hbody, -⟩ := h.exact
  have hdigest := h.digest
  rw [hbody, requiredSha256_digest] at hdigest
  exact (Except.ok.inj hdigest).symm

theorem Granted.guards [AsciiLower Uuid] [LawfulSha256]
    (h : Granted stores draft proposal call decision row) :
    assert_expected_outbox_guards draft
        ⟨some row.governance_decision_id, some row.draft_body_sha256⟩ = .ok () ∧
      assert_draft_and_proposal_lineage draft proposal = .ok () := by
  obtain ⟨htenant, hptenant, hid, -, -, -, -, hsame, -, -, hbody, -⟩ := h.exact
  constructor
  · simp [assert_expected_outbox_guards, h.governance_decision_id, h.digest_eq, hbody, strip_digest,
      lower_digest, pure, Except.pure]
  · simp [assert_draft_and_proposal_lineage, htenant, hptenant, hid, hsame, pure, Except.pure]

/-- What the checks of the records come to, for a row that was granted. -/
theorem Granted.sendable_eq [AsciiLower Uuid] [LawfulSha256]
    (h : Granted stores draft proposal call decision row)
    (hdraft : stores.drafts draft.draft_id = some draft)
    (hproposal : stores.proposals proposal.proposal_id = some proposal)
    (credentials : String → Except PyException Metadata)
    (routes : String → String → Except PyException Bool) :
    (GatesAgree draft decision →
      sendable (stores.repositories credentials routes) row.draft_id row.tenant_id
        ⟨some row.governance_decision_id, some row.draft_body_sha256⟩ =
          .ok (draft, row.governance_decision_id)) ∧
    (¬ GatesAgree draft decision → ∃ text,
      sendable (stores.repositories credentials routes) row.draft_id row.tenant_id
        ⟨some row.governance_decision_id, some row.draft_body_sha256⟩ =
          .error (.governance text)) := by
  obtain ⟨hguards, hlineage⟩ := h.guards
  have hlocalized : (textEntry draft.metadata "localized_reply").any (· ≠ draft.draft_body) = false ↔
      ∀ text, textEntry draft.metadata "localized_reply" = some text → text = draft.draft_body := by
    cases textEntry draft.metadata "localized_reply" <;> simp
  unfold sendable
  rw [h.load_draft credentials routes hdraft]
  by_cases h1 : ∀ text, textEntry draft.metadata "localized_reply" = some text →
      text = draft.draft_body
  · rw [if_neg (by simp only [hlocalized.mpr h1]; decide)]
    simp only [bind, Except.bind, h.load_proposal credentials routes hproposal, hguards, hlineage,
      h.allow credentials routes, h.governance_decision_id]
    by_cases h2 : strOf (decision.metadata.get? "proposal_id") = Stdlib.str proposal.proposal_id
    · rw [if_neg (not_not.mpr h2)]
      by_cases h3 : decision.metadata.get? "proposed_reply_sha256" =
          some (.str (sha256_text (governed_reply draft)))
      · rw [if_neg (not_not.mpr h3)]
        obtain ⟨hdigest, hsame⟩ := h.digest_iff.mp h3
        refine ⟨fun _ => rfl, fun hnot => absurd ?_ hnot⟩
        exact ⟨h1, (governed_digest_iff draft).mp hsame, h.proposal_iff.mp h2, hdigest⟩
      · rw [if_pos h3]
        refine ⟨fun hagree => absurd ?_ h3, fun _ => ⟨_, rfl⟩⟩
        exact h.digest_iff.mpr ⟨hagree.digest, (governed_digest_iff draft).mpr hagree.canonical⟩
    · rw [if_pos h2]
      exact ⟨fun hagree => absurd (h.proposal_iff.mpr hagree.proposal) h2, fun _ => ⟨_, rfl⟩⟩
  · rw [if_pos (by rw [← Bool.not_eq_false, hlocalized]; exact h1)]
    exact ⟨fun hagree => absurd hagree.localized h1, fun _ => ⟨_, rfl⟩⟩

end

end operious.auto_send
