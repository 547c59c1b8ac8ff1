-- The send gate: a reply gets an outbox row only when a persisted decision allows exactly this reply
-- to exactly this recipient.
import Mathlib.Data.List.Infix
import Operious.Reply.AtMostOnce

namespace operious.auto_send

open operious.outbound
open operious.resolution

/-! ## The stores -/

structure Stores (Uuid Json : Type) where
  drafts : Uuid → Option (ResolutionOutboundDraftRecord Uuid)
  proposals : Uuid → Option (ResolutionProposalRecord Uuid Json)
  decisions : Uuid → Option (GovernanceDecisionRecord Uuid)
  draft_key : ∀ {id d}, drafts id = some d → d.draft_id = id
  proposal_key : ∀ {id p}, proposals id = some p → p.proposal_id = id

section

variable {Uuid Json : Type}

/-- `get_decision`: a decision of another tenant is not seen. -/
def Stores.get_decision (stores : Stores Uuid Json) (decision_id : Uuid)
    (expected_tenant_id : String) : Option (GovernanceDecisionRecord Uuid) :=
  (stores.decisions decision_id).filter (·.tenant_id = some expected_tenant_id)

def Stores.get_resolution_outbound_draft (stores : Stores Uuid Json) (draft_id : Uuid)
    (expected_tenant_id : String) : Option (ResolutionOutboundDraftRecord Uuid) :=
  (stores.drafts draft_id).filter (·.tenant_id = expected_tenant_id)

def Stores.get_resolution_proposal (stores : Stores Uuid Json) (proposal_id : Uuid)
    (expected_tenant_id : String) : Option (ResolutionProposalRecord Uuid Json) :=
  (stores.proposals proposal_id).filter (·.tenant_id = expected_tenant_id)

end

/-! ## Requests -/

def customerReplySendAction : String := "customer_reply.send"
def supportedAutoSendChannels : List String := ["email", "whatsapp"]
def communicationSubjectKind : String := "communication"

structure OutboundSendTarget where
  channel : String
  recipient : String
  source : Option String := none
  subject : Option String := none
  thread_context : Option String := none
  in_reply_to_message_id : Option String := none
  references_header : Option String := none
  metadata : Metadata := .empty

structure OutboundAutoSendRefusalReason where
  code : String
  message : String
  deriving DecidableEq

structure OutboundAutoSendRequestResult (Uuid : Type) where
  outbox : Option (OutboundSendOutboxRecord Uuid)
  reason : Option OutboundAutoSendRefusalReason := none

section

variable {Uuid Json : Type} [DecidableEq Uuid] [Stdlib Uuid] [Sha256]

def contains_unresolved_placeholder_marker (text : String) : Bool :=
  ascii.chars "[missing: " <:+: ascii.chars text

def canonical_reply_for_governance (draft : ResolutionOutboundDraftRecord Uuid) : String :=
  match draft.metadata.get? "canonical_reply" with
  | some (.str value) => if (strip value).isEmpty then draft.draft_body else value
  | _ => draft.draft_body

def governance_denied_reason (stores : Stores Uuid Json)
    (draft : ResolutionOutboundDraftRecord Uuid) (tenant_id : String) :
    OutboundAutoSendRefusalReason :=
  let decision := draft.governance_decision_id.bind (stores.get_decision · tenant_id)
  let rule_ids := (decision.elim [] (·.violations)).filterMap fun v =>
    if v.decision = "deny" then some v.rule_id else none
  { code := "proposal_governance_denied"
    message := "auto-send held for review: " ++
      (if rule_ids.isEmpty then "governance denied" else String.intercalate ", " rule_ids) }

def non_sendable_reason (draft : ResolutionOutboundDraftRecord Uuid)
    (proposal : ResolutionProposalRecord Uuid Json) : Option OutboundAutoSendRefusalReason :=
  if proposal.status = .pending_human_approval ∨ draft.status = .pending_human_approval then
    some ⟨"require_approval", "governed auto-send is waiting for human approval"⟩
  else if proposal.status = .failed ∨ draft.status = .failed then
    some ⟨"delivery_unavailable", "governed auto-send cannot proceed from a failed draft"⟩
  else none

def draft_and_proposal_are_exact (draft : ResolutionOutboundDraftRecord Uuid)
    (proposal : ResolutionProposalRecord Uuid Json) (expected_tenant_id : String) : Prop :=
  draft.tenant_id = expected_tenant_id ∧ proposal.tenant_id = expected_tenant_id ∧
  draft.proposal_id = proposal.proposal_id ∧ some draft.session_id = proposal.session_id ∧
  some draft.execution_id = proposal.execution_id ∧ draft.dispatch_id = proposal.dispatch_id ∧
  draft.governance_decision_id ≠ none ∧
  draft.governance_decision_id = proposal.governance_decision_id ∧
  draft.status = .ready ∧ proposal.status = .send_eligible ∧
  draft.draft_body_sha256 = sha256_text draft.draft_body ∧
  derive_resolution_outbound_draft_id expected_tenant_id proposal.proposal_id = .ok draft.draft_id

instance (draft : ResolutionOutboundDraftRecord Uuid) (proposal : ResolutionProposalRecord Uuid Json)
    (expected_tenant_id : String) :
    Decidable (draft_and_proposal_are_exact draft proposal expected_tenant_id) := by
  unfold draft_and_proposal_are_exact
  infer_instance

/-- `_decision_is_exact_send_allow`, for a target that is supported. -/
def decision_is_exact_send_allow (decision : GovernanceDecisionRecord Uuid) (tenant_id : String)
    (proposal : ResolutionProposalRecord Uuid Json) (draft : ResolutionOutboundDraftRecord Uuid)
    (channel recipient thread_context canonical_reply : String) : Prop :=
  decision.tenant_id = some tenant_id ∧ decision.decision = "allow" ∧
  decision.subject_kind = communicationSubjectKind ∧
  metadata_text decision.metadata "proposal_id" = some (Stdlib.str proposal.proposal_id) ∧
  metadata_text decision.metadata "session_id" = some (strip draft.session_id) ∧
  metadata_text decision.metadata "execution_id" = some (strip draft.execution_id) ∧
  metadata_text decision.metadata "dispatch_id" = some (strip draft.dispatch_id) ∧
  metadata_text decision.metadata "draft_id" = some (Stdlib.str draft.draft_id) ∧
  metadata_text decision.metadata "governed_action" = some customerReplySendAction ∧
  metadata_text decision.metadata "source_channel" = some channel ∧
  metadata_text decision.metadata "reply_recipient" = some recipient ∧
  metadata_text decision.metadata "reply_thread_context" = some thread_context ∧
  metadata_text decision.metadata "proposed_reply_sha256" = some (sha256_text canonical_reply)
  deriving Decidable

def secretKeyFragments : List String :=
  ["authorization", "credential", "key", "password", "secret", "token"]

def is_sensitive_metadata_key (Uuid : Type) [Stdlib Uuid] (key : String) : Bool :=
  secretKeyFragments.any fun fragment => ascii.chars fragment <:+: ascii.chars (Stdlib.lower Uuid key)

/-- `_safe_outbox_metadata`: what the target adds writes over what the reply has, and `None` is left
out. -/
def safe_outbox_metadata (target : OutboundSendTarget)
    (proposal : ResolutionProposalRecord Uuid Json) (draft : ResolutionOutboundDraftRecord Uuid)
    (channel : String) : Metadata :=
  let metadata : Metadata := (Dict.ofList
    [("source", .ofOptStr (optional_text target.source)),
     ("subject", .ofOptStr (optional_text target.subject)),
     ("reply_recipient", .ofOptStr (optional_text (some target.recipient))),
     ("reply_thread_context", .ofOptStr (optional_text target.thread_context)),
     ("in_reply_to_message_id", .ofOptStr (optional_text target.in_reply_to_message_id)),
     ("references_header", .ofOptStr (optional_text target.references_header)),
     ("source_channel", .str channel),
     ("proposal_id", .str (Stdlib.str proposal.proposal_id)),
     ("session_id", .str draft.session_id),
     ("execution_id", .str draft.execution_id),
     ("dispatch_id", .str draft.dispatch_id)]).update
    (target.metadata.items.filter fun item => !is_sensitive_metadata_key Uuid item.1)
  Dict.ofList (metadata.items.filter fun item => item.2 ≠ .none)

/-- What is asked of the outbox for a reply that is allowed. -/
def sendRequest (draft : ResolutionOutboundDraftRecord Uuid)
    (proposal : ResolutionProposalRecord Uuid Json) (target : OutboundSendTarget)
    (tenant_id channel recipient : String) (governance_decision_id : Uuid) (created_at : Instant) :
    SendRequest Uuid where
  tenant_id
  channel
  action := customerReplySendAction
  draft_id := draft.draft_id
  proposal_id := proposal.proposal_id
  session_id := strip draft.session_id
  dispatch_id := strip draft.dispatch_id
  governance_decision_id
  recipient
  draft_body_sha256 := draft.draft_body_sha256
  created_at
  metadata := safe_outbox_metadata target proposal draft channel

def refused (code message : String) : OutboundAutoSendRequestResult Uuid :=
  { outbox := none, reason := some ⟨code, message⟩ }

/-- `request_auto_send`, with the outbox it leaves. An error is the text of a `ValueError`. -/
def request_auto_send (stores : Stores Uuid Json)
    (outbox : InMemoryOutboundSendOutboxPersistence Uuid)
    (draft : ResolutionOutboundDraftRecord Uuid) (proposal : ResolutionProposalRecord Uuid Json)
    (target : OutboundSendTarget) (expected_tenant_id : String) (created_at : Instant) :
    Except String (OutboundAutoSendRequestResult Uuid ×
      InMemoryOutboundSendOutboxPersistence Uuid) :=
  let tenant_id := strip expected_tenant_id
  let channel := Stdlib.lower Uuid (strip target.channel)
  if tenant_id.isEmpty then .error "expected_tenant_id must be non-empty"
  else
    match optional_text (some target.recipient), optional_text target.thread_context with
    | some recipient, some thread_context =>
      if channel ∉ supportedAutoSendChannels then
        .ok (refused "unsupported_target" "governed auto-send target is unsupported", outbox)
      else if proposal.status = .denied ∧ draft.status = .denied then
        .ok ({ outbox := none, reason := some (governance_denied_reason stores draft tenant_id) },
          outbox)
      else
        match non_sendable_reason draft proposal with
        | some reason => .ok ({ outbox := none, reason := some reason }, outbox)
        | none =>
          if ¬ draft_and_proposal_are_exact draft proposal tenant_id then
            .ok (refused "governance_miss" "governed auto-send missed exact proposal/draft lineage",
              outbox)
          else
            match draft.governance_decision_id with
            | none => .ok (refused "governance_miss"
                "governed auto-send missed governance decision linkage", outbox)
            | some governance_decision_id =>
              match stores.get_decision governance_decision_id tenant_id with
              | none => .ok (refused "governance_miss"
                  "governed auto-send decision was not found", outbox)
              | some decision =>
                if contains_unresolved_placeholder_marker draft.draft_body then
                  .ok (refused "unresolved_placeholder"
                    ("auto-send held for review: rendered reply contains " ++
                      "an unresolved template placeholder"), outbox)
                else if ¬ decision_is_exact_send_allow decision tenant_id proposal draft channel
                    recipient thread_context (canonical_reply_for_governance draft) then
                  .ok (refused "governance_miss"
                    "governed auto-send decision was not an exact allow", outbox)
                else do
                  let record ← makeOutboundSendOutboxRecord (sendRequest draft proposal target
                    tenant_id channel recipient governance_decision_id created_at)
                  match outbox.createOutboundSendOutbox record with
                  | (some row, outbox) => .ok ({ outbox := some row }, outbox)
                  | (none, _) => .error "the row of the key is gone"
    | _, _ => .ok (refused "unsupported_target" "governed auto-send target is unsupported", outbox)

end

end operious.auto_send

-- The send gate and the channel services: what a row of the gate is bound to, and when the checks of
-- the channel service pass for it too.
namespace operious.auto_send

open operious.customer_reply
open operious.governance (PyException)
open operious.outbound
open operious.resolution

variable {Uuid Json : Type} [DecidableEq Uuid] [Stdlib Uuid] [Sha256]

/-! ## What a row is bound to -/

omit [DecidableEq Uuid] [Stdlib Uuid] [Sha256] in
theorem requiredText_ok {name value text : String} (h : requiredText name value = .ok text) :
    text = strip value ∧ text ≠ "" := by
  unfold requiredText at h
  simp only at h
  split at h
  · cases h
  · rename_i hne
    cases h
    exact ⟨rfl, by simpa using hne⟩

omit [DecidableEq Uuid] [Sha256] in
theorem makeOutboundSendOutboxRecord_ok {r : SendRequest Uuid}
    {record : OutboundSendOutboxRecord Uuid} (h : makeOutboundSendOutboxRecord r = .ok record) :
    record.tenant_id = strip r.tenant_id ∧ record.channel = Stdlib.lower Uuid (strip r.channel) ∧
      record.action = strip r.action ∧ record.draft_id = r.draft_id ∧
      record.proposal_id = r.proposal_id ∧ record.session_id = strip r.session_id ∧
      record.dispatch_id = strip r.dispatch_id ∧
      record.governance_decision_id = r.governance_decision_id ∧
      record.recipient = strip r.recipient ∧ record.recipient ≠ "" ∧
      requiredSha256 Uuid r.draft_body_sha256 = .ok record.draft_body_sha256 := by
  simp only [makeOutboundSendOutboxRecord, bind_eq_ok] at h
  obtain ⟨tenant, ht, channel, hc, action, ha, recipient, hr, digest, hd, id, -, session, hs,
    dispatch, hdis, h⟩ := h
  cases h
  exact ⟨(requiredText_ok ht).1, congrArg _ (requiredText_ok hc).1, (requiredText_ok ha).1, rfl, rfl,
    (requiredText_ok hs).1, (requiredText_ok hdis).1, rfl, (requiredText_ok hr).1,
    (requiredText_ok hr).2, hd⟩

/-- A call of the gate for one reply. -/
structure SendCall where
  target : OutboundSendTarget
  expected_tenant_id : String
  created_at : Instant

/-- What the gate has found where it comes to write a row. -/
structure Granted (stores : Stores Uuid Json) (draft : ResolutionOutboundDraftRecord Uuid)
    (proposal : ResolutionProposalRecord Uuid Json) (call : SendCall)
    (decision : GovernanceDecisionRecord Uuid) (record : OutboundSendOutboxRecord Uuid) : Prop where
  exact : draft_and_proposal_are_exact draft proposal (strip call.expected_tenant_id)
  decided : ∃ id, draft.governance_decision_id = some id ∧
    stores.get_decision id (strip call.expected_tenant_id) = some decision
  supported : record.channel ∈ supportedAutoSendChannels
  allows : ∃ thread_context, optional_text call.target.thread_context = some thread_context ∧
    decision_is_exact_send_allow decision (strip call.expected_tenant_id) proposal draft
      record.channel record.recipient thread_context (canonical_reply_for_governance draft)
  tenant_id : record.tenant_id = strip call.expected_tenant_id
  action : record.action = customerReplySendAction
  draft_id : record.draft_id = draft.draft_id
  proposal_id : record.proposal_id = proposal.proposal_id
  session_id : record.session_id = strip draft.session_id
  dispatch_id : record.dispatch_id = strip draft.dispatch_id
  governance_decision_id : draft.governance_decision_id = some record.governance_decision_id
  digest : requiredSha256 Uuid draft.draft_body_sha256 = .ok record.draft_body_sha256
  recipient : strip record.recipient = record.recipient ∧ record.recipient ≠ ""

omit [DecidableEq Uuid] [Stdlib Uuid] [Sha256] in
theorem optional_text_stripped {value : Option String} {text : String}
    (h : optional_text value = some text) : strip text = text := by
  obtain ⟨s, -, hs⟩ := Option.bind_eq_some_iff.mp h
  split at hs
  · cases hs
  · cases hs
    exact strip_strip s

omit [DecidableEq Uuid] [Sha256] in
theorem lower_supported [AsciiLower Uuid] {channel : String}
    (h : channel ∈ supportedAutoSendChannels) : Stdlib.lower Uuid (strip channel) = channel := by
  have hplain : supportedAutoSendChannels.all (fun name => name.toList.all fun c =>
      !isSpace c && c.toNat < 128 && !c.isUpper) = true := by decide
  have hchar : ∀ c ∈ channel.toList, isSpace c = false ∧ c.toNat < 128 ∧ c.isUpper = false := by
    intro c hc
    have hplain := List.all_eq_true.mp (List.all_eq_true.mp hplain channel h) c hc
    simpa [and_assoc] using hplain
  rw [strip_eq_self fun c hc => (hchar c hc).1]
  exact AsciiLower.lower_ascii channel fun c hc => (hchar c hc).2

omit [Sha256] in
theorem strip_action : strip customerReplySendAction = customerReplySendAction :=
  rfl

variable {outbox : InMemoryOutboundSendOutboxPersistence Uuid}

theorem request_auto_send_cases [AsciiLower Uuid] {stores : Stores Uuid Json}
    {outbox' : InMemoryOutboundSendOutboxPersistence Uuid}
    {draft : ResolutionOutboundDraftRecord Uuid} {proposal : ResolutionProposalRecord Uuid Json}
    {call : SendCall} {result : OutboundAutoSendRequestResult Uuid}
    (h : request_auto_send stores outbox draft proposal call.target call.expected_tenant_id
      call.created_at = .ok (result, outbox')) :
    (result.outbox = none ∧ outbox' = outbox) ∨
      ∃ row decision record, result.outbox = some row ∧
        Granted stores draft proposal call decision record ∧
        outbox.createOutboundSendOutbox record = (some row, outbox') := by
  unfold request_auto_send at h
  simp only at h
  split at h
  · cases h
  split at h
  · rename_i recipient thread_context hrecipient hthread
    split at h
    · cases h; exact .inl ⟨rfl, rfl⟩
    rename_i hsupported
    split at h
    · cases h; exact .inl ⟨rfl, rfl⟩
    split at h
    · cases h; exact .inl ⟨rfl, rfl⟩
    split at h
    · cases h; exact .inl ⟨rfl, rfl⟩
    rename_i hexact
    split at h
    · cases h; exact .inl ⟨rfl, rfl⟩
    rename_i id hid
    split at h
    · cases h; exact .inl ⟨rfl, rfl⟩
    rename_i decision hdecision
    split at h
    · cases h; exact .inl ⟨rfl, rfl⟩
    split at h
    · cases h; exact .inl ⟨rfl, rfl⟩
    rename_i hallow
    obtain ⟨record, hmake, h⟩ := bind_eq_ok.mp h
    split at h
    · rename_i row written hcreate
      cases h
      obtain ⟨htenant, hchannel, haction, hdraft, hproposal, hsession, hdispatch, hdecided, hto, hne,
        hdigest⟩ := makeOutboundSendOutboxRecord_ok hmake
      have hlower : record.channel = Stdlib.lower Uuid (strip call.target.channel) := by
        rw [hchannel]
        exact lower_supported (not_not.mp hsupported)
      have hrecipient : record.recipient = recipient := hto.trans (optional_text_stripped hrecipient)
      refine .inr ⟨row, decision, record, rfl, ?_, hcreate⟩
      exact
        { exact := not_not.mp hexact
          decided := ⟨id, hid, hdecision⟩
          supported := hlower ▸ not_not.mp hsupported
          allows := ⟨thread_context, hthread, by rw [hlower, hrecipient]; exact not_not.mp hallow⟩
          tenant_id := htenant.trans (strip_strip _)
          action := haction.trans strip_action
          draft_id := hdraft
          proposal_id := hproposal
          session_id := hsession.trans (strip_strip _)
          dispatch_id := hdispatch.trans (strip_strip _)
          governance_decision_id := hdecided ▸ hid
          digest := hdigest
          recipient := ⟨by rw [hto, strip_strip], hne⟩ }
    · cases h
  · cases h; exact .inl ⟨rfl, rfl⟩

/-! ## Calls for one reply -/

/-- The rows that calls for one reply get, each with its call. -/
def obtained (stores : Stores Uuid Json) (draft : ResolutionOutboundDraftRecord Uuid)
    (proposal : ResolutionProposalRecord Uuid Json) :
    InMemoryOutboundSendOutboxPersistence Uuid → List SendCall →
      List (SendCall × OutboundSendOutboxRecord Uuid)
  | _, [] => []
  | outbox, call :: calls =>
    match request_auto_send stores outbox draft proposal call.target call.expected_tenant_id
        call.created_at with
    | .error _ => obtained stores draft proposal outbox calls
    | .ok (result, outbox) =>
      result.outbox.toList.map (call, ·) ++ obtained stores draft proposal outbox calls

section

variable {stores : Stores Uuid Json} {draft : ResolutionOutboundDraftRecord Uuid}
  {proposal : ResolutionProposalRecord Uuid Json} {call call' : SendCall}
  {decision decision' : GovernanceDecisionRecord Uuid} {row row' : OutboundSendOutboxRecord Uuid}

section

omit [DecidableEq Uuid]

theorem Granted.same_decision (h : Granted stores draft proposal call decision row)
    (h' : Granted stores draft proposal call' decision' row') : decision = decision' := by
  obtain ⟨id, hid, hd⟩ := h.decided
  obtain ⟨id', hid', hd'⟩ := h'.decided
  rw [hid] at hid'
  cases hid'
  rw [← h.exact.1] at hd
  rw [← h'.exact.1] at hd'
  exact Option.some.inj (hd.symm.trans hd')

theorem Granted.transport (h : Granted stores draft proposal call decision row)
    (h' : Granted stores draft proposal call' decision' row') :
    Granted stores draft proposal call decision row' := by
  have hdecision := h.same_decision h'
  subst hdecision
  obtain ⟨thread, hthread, hallow⟩ := h.allows
  obtain ⟨thread', -, hallow'⟩ := h'.allows
  obtain ⟨h1, h2, h3, h4, h5, h6, h7, h8, h9, h10, h11, h12, h13⟩ := hallow
  obtain ⟨-, -, -, -, -, -, -, -, -, h10', h11', -, -⟩ := hallow'
  have hchannel : row.channel = row'.channel := Option.some.inj (h10.symm.trans h10')
  have hrecipient : row.recipient = row'.recipient := Option.some.inj (h11.symm.trans h11')
  have htenant : strip call'.expected_tenant_id = strip call.expected_tenant_id :=
    h'.exact.1.symm.trans h.exact.1
  exact
    { exact := h.exact
      decided := h.decided
      supported := h'.supported
      allows := ⟨thread, hthread, h1, h2, h3, h4, h5, h6, h7, h8, h9, hchannel ▸ h10,
        hrecipient ▸ h11, h12, h13⟩
      tenant_id := h'.tenant_id.trans htenant
      action := h'.action
      draft_id := h'.draft_id
      proposal_id := h'.proposal_id
      session_id := h'.session_id
      dispatch_id := h'.dispatch_id
      governance_decision_id := h'.governance_decision_id
      digest := h'.digest
      recipient := h'.recipient }

theorem Granted.same_key (h : Granted stores draft proposal call decision row)
    (h' : Granted stores draft proposal call' decision' row') : row.uniqueKey = row'.uniqueKey := by
  obtain ⟨thread, -, hallow⟩ := h.allows
  obtain ⟨thread', -, hallow'⟩ := (h.transport h').allows
  obtain ⟨-, -, -, -, -, -, -, -, -, hchannel, hrecipient, -, -⟩ := hallow
  obtain ⟨-, -, -, -, -, -, -, -, -, hchannel', hrecipient', -, -⟩ := hallow'
  unfold OutboundSendOutboxRecord.uniqueKey
  rw [h.tenant_id, (h.transport h').tenant_id, h.draft_id, h'.draft_id, h.action, h'.action,
    Option.some.inj (hchannel.symm.trans hchannel'),
    Option.some.inj (hrecipient.symm.trans hrecipient')]

end

def Held (outbox : InMemoryOutboundSendOutboxPersistence Uuid)
    (row : OutboundSendOutboxRecord Uuid) : Prop :=
  outbox.by_unique.get? row.uniqueKey = some row.outbox_id ∧
    outbox.records.get? row.outbox_id = some row

variable {calls : List SendCall}

theorem obtained_held [AsciiLower Uuid] (hheld : Held outbox row)
    (hrow : Granted stores draft proposal call decision row) :
    ∀ x ∈ obtained stores draft proposal outbox calls,
      x.2 = row ∧ ∃ d, Granted stores draft proposal x.1 d row := by
  induction calls with
  | nil => exact fun x hx => absurd hx (List.not_mem_nil)
  | cons c calls ih =>
    unfold obtained
    cases hc : request_auto_send stores outbox draft proposal c.target c.expected_tenant_id
        c.created_at with
    | error e => exact ih
    | ok out =>
      obtain ⟨result, outbox'⟩ := out
      rcases request_auto_send_cases hc with
        ⟨hresult, rfl⟩ | ⟨written, d, record, hresult, hgranted, hcreate⟩
      · simpa [hresult] using ih
      · have hkey := hgranted.same_key hrow
        simp only [InMemoryOutboundSendOutboxPersistence.createOutboundSendOutbox, hkey, hheld.1,
          hheld.2, Prod.mk.injEq, Option.some.injEq] at hcreate
        obtain ⟨rfl, rfl⟩ := hcreate
        intro x hx
        simp only [hresult, Option.toList_some, List.map_cons, List.map_nil, List.cons_append,
          List.nil_append, List.mem_cons] at hx
        rcases hx with rfl | hx
        · exact ⟨rfl, d, hgranted.transport hrow⟩
        · exact ih x hx

/-- Calls for one reply, from an outbox that has no row of it yet, get rows that were granted, and
all of them the same one. -/
theorem obtained_spec [AsciiLower Uuid]
    (hnew : ∀ key id, outbox.by_unique.get? key = some id → key.2.1 ≠ draft.draft_id) :
    (∀ x ∈ obtained stores draft proposal outbox calls,
      ∃ d, Granted stores draft proposal x.1 d x.2) ∧
    ∀ x ∈ obtained stores draft proposal outbox calls,
      ∀ y ∈ obtained stores draft proposal outbox calls, x.2 = y.2 := by
  induction calls with
  | nil => simp [obtained]
  | cons c calls ih =>
    unfold obtained
    cases hc : request_auto_send stores outbox draft proposal c.target c.expected_tenant_id
        c.created_at with
    | error e => exact ih
    | ok out =>
      obtain ⟨result, outbox'⟩ := out
      rcases request_auto_send_cases hc with
        ⟨hresult, rfl⟩ | ⟨written, d, record, hresult, hgranted, hcreate⟩
      · simpa [hresult] using ih
      · have hfree : outbox.by_unique.get? record.uniqueKey = none := by
          cases hget : outbox.by_unique.get? record.uniqueKey with
          | none => rfl
          | some id => exact absurd hgranted.draft_id (hnew _ id hget)
        simp only [InMemoryOutboundSendOutboxPersistence.createOutboundSendOutbox, hfree,
          Prod.mk.injEq, Option.some.injEq] at hcreate
        obtain ⟨rfl, rfl⟩ := hcreate
        have hheld : Held ⟨outbox.records.set record.outbox_id record,
            outbox.by_unique.set record.uniqueKey record.outbox_id⟩ record :=
          ⟨Dict.get?_set_self _ _ _, Dict.get?_set_self _ _ _⟩
        have hall : ∀ x ∈ (c, record) :: obtained stores draft proposal
            ⟨outbox.records.set record.outbox_id record,
              outbox.by_unique.set record.uniqueKey record.outbox_id⟩ calls,
            x.2 = record ∧ ∃ d, Granted stores draft proposal x.1 d record := by
          intro x hx
          rcases List.mem_cons.mp hx with rfl | hx
          · exact ⟨rfl, d, hgranted⟩
          · exact obtained_held hheld hgranted x hx
        simp only [hresult, Option.toList_some, List.map_cons, List.map_nil, List.cons_append,
          List.nil_append]
        refine ⟨fun x hx => ?_, fun x hx y hy => (hall x hx).1.trans (hall y hy).1.symm⟩
        obtain ⟨hx, hd⟩ := hall x hx
        rw [hx]
        exact hd

end

end operious.auto_send
