-- The send gate and the sender agree: what the gate obtains a row for, and when no send from that
-- row ends in a governance error of the channel service.
import Operious.Reply.SenderAgrees

namespace operious.customer_reply.SendDraft

open operious.auto_send (Ungoverned)

/-! ## Sends that are prepared alike -/

section

variable {Uuid Target F : Type} [DecidableEq Uuid]

/-- The sends of a run are prepared alike: their arguments and what is stored stay as they are. -/
def PreparedAs (prepared : Except SendError (Prepared Uuid Target)) :
    Action Uuid Target F → Prop
  | .send _ p => p = prepared
  | _ => True

/-- No call has ended in a governance error. -/
def NoRefusal (w : World Uuid Target) : Prop :=
  ∀ caller text, w.calls.get? caller ≠ some (.done (.error (.governance text)))

/-- No send of the channel, in any interleaving of callers, ends in a governance error. -/
def Unrefused [Stdlib Uuid] (channel : ReplyChannel F Target)
    (prepared : Except SendError (Prepared Uuid Target)) : Prop :=
  ∀ as : List (Action Uuid Target F),
    runs.Meets (next channel) (fun _ a => PreparedAs prepared a) World.start as →
      runs.Along (next channel) (fun _ _ w => NoRefusal w) World.start as

/-- A call that sends what was prepared, or has ended, not in a governance error. -/
def UnderWay (prepared : Except SendError (Prepared Uuid Target)) : Pc Uuid Target → Prop
  | .reserving p | .transmitting p | .marking p _ => prepared = .ok p
  | .done result => Ungoverned result
  | .crashed => True

def Asks (prepared : Except SendError (Prepared Uuid Target))
    (row : CustomerReplyDeliveryRecord Uuid Target) : Prop :=
  ∃ p, prepared = .ok p ∧ row.target = p.target ∧ row.draft_body_sha256 = p.draft_body_sha256

structure AllAlike (prepared : Except SendError (Prepared Uuid Target)) (w : World Uuid Target) :
    Prop where
  calls : ∀ caller pc, w.calls.get? caller = some pc → UnderWay prepared pc
  rows : ∀ key row, w.ledger.get? key = some row → Asks prepared row

variable {prepared : Except SendError (Prepared Uuid Target)} {w u : World Uuid Target}
  {channel : ReplyChannel F Target}

theorem AllAlike.no_refusal (h : AllAlike prepared w) : NoRefusal w :=
  fun caller text hcall => h.calls caller _ hcall text rfl

variable {pc : Pc Uuid Target}

theorem AllAlike.set_call (h : AllAlike prepared w) {caller : Nat} (hpc : UnderWay prepared pc) :
    AllAlike prepared { w with calls := w.calls.set caller pc } where
  calls other _ hget := by
    rcases get?_set_calls hget with ⟨-, rfl⟩ | ⟨-, hold⟩
    · exact hpc
    · exact h.calls other _ hold
  rows := h.rows

variable {row : CustomerReplyDeliveryRecord Uuid Target}

theorem AllAlike.set_row (h : AllAlike prepared w) {key : String × Uuid}
    (hrow : Asks prepared row) : AllAlike prepared { w with ledger := w.ledger.set key row } where
  calls := h.calls
  rows other _ hget := by
    rcases Dict.get?_set_cases hget with ⟨-, rfl⟩ | ⟨-, hold⟩
    · exact hrow
    · exact h.rows other _ hold

section

omit [DecidableEq Uuid]

theorem underWay_reply (h : UnderWay prepared pc) (reply : Reply) :
    UnderWay prepared (reply.pc pc) := by
  cases reply with
  | returns => exact h
  | raises stored exc => exact fun text hraised => by cases hraised

theorem underWay_afterReserve (hself : ∀ x, channel.conflict x x = none) {p : Prepared Uuid Target}
    (hp : prepared = .ok p) (hrow : Asks prepared row) (created : Bool) :
    UnderWay prepared (afterReserve channel p row created) := by
  obtain ⟨q, hq, htarget, hdigest⟩ := hrow
  cases hp.symm.trans hq
  unfold afterReserve
  rw [htarget, hdigest, hself]
  cases created with
  | true => exact hp
  | false =>
    cases row.status with
    | failed =>
      simp only [Bool.false_eq_true, if_false]
      split
      · exact hp
      · intro text h
        cases h
    | _ =>
      intro text h
      cases h

theorem underWay_afterMark (mark : Mark) (record : CustomerReplyDeliveryRecord Uuid Target) :
    UnderWay prepared (.done (afterMark channel mark record)) := by
  intro text h
  cases mark with
  | sent message_id code => cases h
  | failed error_code code => cases code <;> cases h

theorem Asks.mark {row : CustomerReplyDeliveryRecord Uuid Target} (h : Asks prepared row)
    (mark : Mark) (now : Instant) : Asks prepared (mark.apply now row) := by
  cases mark <;> exact h

end

variable [Stdlib Uuid]

theorem AllAlike.step {a : Action Uuid Target F} (hself : ∀ x, channel.conflict x x = none)
    (hprepared : Ungoverned prepared) (h : AllAlike prepared w) (ha : PreparedAs prepared a)
    (hu : next channel w a = some u) : AllAlike prepared u := by
  cases a with
  | send caller p =>
    obtain ⟨-, rfl⟩ := next_send hu
    obtain rfl : p = prepared := ha
    cases p with
    | error e =>
      refine h.set_call ?_
      intro text hraised
      cases hraised
      exact hprepared text rfl
    | ok p => exact h.set_call rfl
  | reserve caller now reply =>
    obtain ⟨p, hcall, ⟨-, rfl⟩ | ⟨row, hrow, rfl⟩⟩ := next_reserve hu
    · have hp := h.calls caller _ hcall
      have hasks : Asks prepared (p.record channel now) := ⟨p, hp, rfl, rfl⟩
      have hpc := underWay_reply (underWay_afterReserve hself hp hasks true) reply
      cases reply.stored with
      | true => exact (h.set_row hasks).set_call hpc
      | false => exact h.set_call hpc
    · have hp := h.calls caller _ hcall
      exact h.set_call (underWay_reply (underWay_afterReserve hself hp (h.rows _ _ hrow) false) reply)
  | transmit caller reply =>
    obtain ⟨p, hcall, rfl⟩ := next_transmit hu
    have hp : prepared = .ok p := h.calls caller _ hcall
    have hpc : UnderWay prepared (.marking p (channel.outcome reply)) := hp
    exact ⟨(h.set_call hpc).calls, h.rows⟩
  | mark caller now reply =>
    obtain ⟨p, mark, hcall, ⟨-, rfl⟩ | ⟨row, hrow, rfl⟩⟩ := next_mark hu
    · refine h.set_call ?_
      intro text hraised
      cases hraised
    · have hpc : UnderWay prepared
          (reply.pc (.done (afterMark channel mark (mark.apply now row)))) :=
        underWay_reply (underWay_afterMark mark _) reply
      cases reply.stored with
      | true => exact (h.set_row ((h.rows _ _ hrow).mark mark now)).set_call hpc
      | false => exact h.set_call hpc
  | crash caller =>
    obtain rfl := next_crash hu
    exact h.set_call trivial

theorem unrefused_iff (hself : ∀ x, channel.conflict x x = none)
    (prepared : Except SendError (Prepared Uuid Target)) :
    Unrefused channel prepared ↔ Ungoverned prepared := by
  constructor
  · intro hall text hprepared
    have hstart := hall [.send 0 prepared] fun _ _ => ⟨rfl, trivial⟩
    refine (hstart _ rfl).1 0 text ?_
    rw [hprepared]
    rfl
  · intro hungoverned as has
    refine runs.along_when (I := AllAlike prepared) ?_ ?_ has
    · intro w a u h ha hu
      exact ⟨h.step hself hungoverned ha hu, (h.step hself hungoverned ha hu).no_refusal⟩
    · constructor
      · intro caller pc h
        cases h
      · intro key row h
        cases h

theorem email_unrefused_iff (prepared : Except SendError (Prepared Uuid EmailTarget)) :
    Unrefused (email (F := F)) prepared ↔ Ungoverned prepared :=
  unrefused_iff (fun x => by simp [email]) prepared

theorem whatsapp_unrefused_iff (prepared : Except SendError (Prepared Uuid WhatsAppTarget)) :
    Unrefused (whatsapp (F := F)) prepared ↔ Ungoverned prepared :=
  unrefused_iff (fun x => by simp [whatsapp]) prepared

end

end operious.customer_reply.SendDraft

namespace operious.auto_send

open operious.customer_reply
open operious.customer_reply.SendDraft
open operious.governance (PyException)
open operious.outbound
open operious.resolution

section

variable {Uuid Json : Type} [DecidableEq Uuid] [Stdlib Uuid] [Sha256]

/-- Whatever credentials and routes the tenant has, no send from the row by the service of its channel
ends in a governance error. -/
def SendsUnrefused (F : Type) (stores : Stores Uuid Json) (row : OutboundSendOutboxRecord Uuid) :
    Prop :=
  ∀ (credentials : String → Except PyException Metadata)
    (routes : String → String → Except PyException Bool),
    (row.channel = "email" → Unrefused (email (F := F))
      ((send_email_outbox row).prepare (stores.repositories credentials routes))) ∧
    (row.channel = "whatsapp" → Unrefused (whatsapp (F := F))
      ((send_whatsapp_outbox row).prepare (stores.repositories credentials routes)))

variable {text : String}

section

omit [DecidableEq Uuid] [Stdlib Uuid] [Sha256]

theorem required_text_eq_ok (name : String) (hstrip : strip text = text) (hne : text ≠ "") :
    required_text name text = .ok text := by
  simp [required_text, requiredText, hstrip, hne, Except.mapError]

theorem optional_text_ne {value : Option String} (h : optional_text value = some text) :
    text ≠ "" := by
  obtain ⟨s, -, hs⟩ := Option.bind_eq_some_iff.mp h
  split at hs
  · cases hs
  · rename_i hne
    cases hs
    simpa using hne

theorem required_subject (metadata : Metadata) : ∃ text,
    required_text "subject" ((metadata_text metadata "subject").getD "Re: Support request") =
      .ok text := by
  cases h : metadata_text metadata "subject" with
  | none =>
    exact ⟨"Re: Support request", rfl⟩
  | some text =>
    have hoptional : optional_text (some (strOf (metadata.get? "subject"))) = some text := by
      unfold metadata_text at h
      split at h
      · cases h
      · cases h
      · exact h
    exact ⟨text, required_text_eq_ok "subject" (optional_text_stripped hoptional)
      (optional_text_ne hoptional)⟩

end

omit [DecidableEq Uuid] [Sha256] in
theorem ungoverned_delivery_id (ns : Uuid) (tenant_id : String) (draft_id decision_id : Uuid) :
    Ungoverned (derive_delivery_id ns tenant_id draft_id decision_id) := by
  unfold derive_delivery_id
  refine (ungoverned_required_text _ _).bind fun _ _ => ?_
  exact Ungoverned.ok _

section

variable {stores : Stores Uuid Json} {draft : ResolutionOutboundDraftRecord Uuid}
  {proposal : ResolutionProposalRecord Uuid Json} {call : SendCall}
  {decision : GovernanceDecisionRecord Uuid} {row : OutboundSendOutboxRecord Uuid}
  [AsciiLower Uuid] [LawfulSha256]

theorem Granted.email_iff (h : Granted stores draft proposal call decision row)
    (hdraft : stores.drafts draft.draft_id = some draft)
    (hproposal : stores.proposals proposal.proposal_id = some proposal)
    (credentials : String → Except PyException Metadata)
    (routes : String → String → Except PyException Bool) :
    Ungoverned ((send_email_outbox row).prepare (stores.repositories credentials routes)) ↔
      GatesAgree draft decision := by
  obtain ⟨hok, hrefused⟩ := h.sendable_eq hdraft hproposal credentials routes
  obtain ⟨subject, hsubject⟩ := required_subject row.metadata
  have hrecipient := required_text_eq_ok "recipient_email_address" h.recipient.1 h.recipient.2
  unfold EmailSend.prepare
  simp only [send_email_outbox, hrecipient, hsubject, ne_eq, not_true_eq_false, if_false]
  change Ungoverned (sendable _ _ _ _ >>= _) ↔ _
  refine ungoverned_bind_iff hok hrefused ?_
  refine (ungoverned_ses_credentials _ _ _).bind fun _ _ => ?_
  refine (ungoverned_delivery_id _ _ _ _).bind fun _ _ => ?_
  exact Ungoverned.ok _

theorem Granted.whatsapp_iff (h : Granted stores draft proposal call decision row)
    (hdraft : stores.drafts draft.draft_id = some draft)
    (hproposal : stores.proposals proposal.proposal_id = some proposal)
    (credentials : String → Except PyException Metadata)
    (routes : String → String → Except PyException Bool) :
    Ungoverned ((send_whatsapp_outbox row).prepare (stores.repositories credentials routes)) ↔
      GatesAgree draft decision := by
  obtain ⟨hok, hrefused⟩ := h.sendable_eq hdraft hproposal credentials routes
  have hrecipient := required_text_eq_ok "recipient_phone_number" h.recipient.1 h.recipient.2
  unfold WhatsAppSend.prepare
  simp only [send_whatsapp_outbox, hrecipient, ne_eq, not_true_eq_false, if_false]
  change Ungoverned (sendable _ _ _ _ >>= _) ↔ _
  refine ungoverned_bind_iff hok hrefused ?_
  refine (ungoverned_whatsapp_credentials _ _ _).bind fun _ _ => ?_
  refine (ungoverned_delivery_id _ _ _ _).bind fun _ _ => ?_
  exact Ungoverned.ok _

theorem Granted.unrefused_iff (F : Type) (h : Granted stores draft proposal call decision row)
    (hdraft : stores.drafts draft.draft_id = some draft)
    (hproposal : stores.proposals proposal.proposal_id = some proposal) :
    SendsUnrefused F stores row ↔ GatesAgree draft decision := by
  constructor
  · intro hall
    obtain ⟨hemail, hwhatsapp⟩ := hall (fun _ => .ok .empty) (fun _ _ => .ok true)
    have hchannel : row.channel = "email" ∨ row.channel = "whatsapp" := by
      simpa [supportedAutoSendChannels] using h.supported
    rcases hchannel with hchannel | hchannel
    · exact (h.email_iff hdraft hproposal _ _).mp ((email_unrefused_iff _).mp (hemail hchannel))
    · exact (h.whatsapp_iff hdraft hproposal _ _).mp
        ((whatsapp_unrefused_iff _).mp (hwhatsapp hchannel))
  · intro hagree credentials routes
    refine ⟨fun _ => ?_, fun _ => ?_⟩
    · exact (email_unrefused_iff _).mpr ((h.email_iff hdraft hproposal _ _).mpr hagree)
    · exact (whatsapp_unrefused_iff _).mpr ((h.whatsapp_iff hdraft hproposal _ _).mpr hagree)

/-- Calls for a stored reply, from an outbox that has no row of it yet, get rows that a persisted
decision allows, and all of them one row; and no send from that row is refused by governance iff the
reply and its decision are what the two gates find alike. -/
theorem obtained_row_agrees (F : Type) (stores : Stores Uuid Json)
    (draft : ResolutionOutboundDraftRecord Uuid) (proposal : ResolutionProposalRecord Uuid Json)
    (outbox : InMemoryOutboundSendOutboxPersistence Uuid) (calls : List SendCall)
    (hdraft : stores.drafts draft.draft_id = some draft)
    (hproposal : stores.proposals proposal.proposal_id = some proposal)
    (hnew : ∀ key id, outbox.by_unique.get? key = some id → key.2.1 ≠ draft.draft_id) :
    (∀ x ∈ obtained stores draft proposal outbox calls, ∃ decision,
      Granted stores draft proposal x.1 decision x.2 ∧
        (SendsUnrefused F stores x.2 ↔ GatesAgree draft decision)) ∧
    ∀ x ∈ obtained stores draft proposal outbox calls,
      ∀ y ∈ obtained stores draft proposal outbox calls, x.2 = y.2 := by
  refine ⟨fun x hx => ?_, (obtained_spec hnew).2⟩
  obtain ⟨decision, hdecision⟩ := (obtained_spec hnew).1 x hx
  exact ⟨decision, hdecision, hdecision.unrefused_iff F hdraft hproposal⟩

end

end

/-! ## A reply that passes the gate -/

def storesFor (draft : ResolutionOutboundDraftRecord String)
    (proposal : ResolutionProposalRecord String Unit) (decision : GovernanceDecisionRecord String) :
    Stores String Unit where
  drafts id := if draft.draft_id = id then some draft else none
  proposals id := if proposal.proposal_id = id then some proposal else none
  decisions id := if decision.decision_id = id then some decision else none
  draft_key h := by
    split at h
    · cases h
      assumption
    · cases h
  proposal_key h := by
    split at h
    · cases h
      assumption
    · cases h

/-- A call of the gate for the thread that the decision names. -/
def autoSend : SendCall where
  target := { channel := "email", recipient := "ana@example.com", thread_context := some "thread" }
  expected_tenant_id := "t"
  created_at := 0

def emptyOutbox : InMemoryOutboundSendOutboxPersistence String := ⟨.empty, .empty⟩

theorem ready_reply_is_unrefused :
    (obtained (storesFor readyDraft eligibleProposal allowDecision) readyDraft eligibleProposal
      emptyOutbox [autoSend, autoSend]).length = 2 ∧
    ∀ x ∈ obtained (storesFor readyDraft eligibleProposal allowDecision) readyDraft eligibleProposal
      emptyOutbox [autoSend, autoSend],
      SendsUnrefused Int (storesFor readyDraft eligibleProposal allowDecision) x.2 := by
  refine ⟨by decide +kernel, ?_⟩
  intro x hx
  obtain ⟨decision, hgranted, hiff⟩ := (obtained_row_agrees Int
    (storesFor readyDraft eligibleProposal allowDecision) readyDraft eligibleProposal emptyOutbox
    [autoSend, autoSend] rfl rfl (fun key id h => by cases h)).1 x hx
  refine hiff.mpr ?_
  obtain ⟨id, hid, hdecision⟩ := hgranted.decided
  cases hid
  obtain rfl : allowDecision = decision :=
    Option.some.inj (Option.filter_eq_some_iff.mp hdecision).1
  constructor
  · intro text h
    cases h
  · intro text h
    cases h
  · decide
  · exact ⟨_, rfl, by decide⟩

/-- A reply with a localized text that is not its body. -/
def localizedDraft : ResolutionOutboundDraftRecord String :=
  { readyDraft with metadata := Dict.ofList [("localized_reply", .str "Gracias.")] }

/-- The gate obtains a row for the reply, and the send from that row is refused by governance. -/
theorem localized_reply_is_refused :
    ¬ ∀ x ∈ obtained (storesFor localizedDraft eligibleProposal allowDecision) localizedDraft
      eligibleProposal emptyOutbox [autoSend],
      SendsUnrefused Int (storesFor localizedDraft eligibleProposal allowDecision) x.2 := by
  intro h
  have hobtained : (obtained (storesFor localizedDraft eligibleProposal allowDecision) localizedDraft
      eligibleProposal emptyOutbox [autoSend]).length = 1 := by
    decide +kernel
  obtain ⟨x, hx⟩ := List.exists_mem_of_length_pos (hobtained ▸ Nat.one_pos)
  obtain ⟨decision, hgranted⟩ := (obtained_spec fun key id h => by cases h).1 x hx
  -- the text of the metadata is another one than the body
  have hagree := (hgranted.unrefused_iff Int rfl rfl).mp (h x hx)
  exact absurd (hagree.localized "Gracias." (by decide +kernel)) (by decide)

end operious.auto_send
