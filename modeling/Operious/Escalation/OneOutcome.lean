-- Two managers who decide at once: when the outcome of an escalation is final, and the reply of its denial
-- is released exactly where it is approved.
import Operious.Escalation.Resolving

namespace operious.escalation.resolving

open effects
open operious.approvals (Call Desk get_decision get_resolution_proposal record_decision
  update_resolution_proposal update_resolution_proposal_status update_draft_for_proposal
  update_resolution_outbound_draft_status_for_proposal)
open operious.auto_send
open operious.governance (PyException)
open operious.outbound (InMemoryOutboundSendOutboxPersistence OutboundSendOutboxRecord)
open operious.resolution

section

variable {Uuid Json : Type} [DecidableEq Uuid] [Stdlib Uuid] [Sha256]

/-! ## What must hold -/

/-- The proposal whose reply was denied, where the denial is of a reply. -/
def deniedProposal (w : World Uuid Json) : Option Uuid :=
  (get_decision w.desk w.escalation.governance_decision_id w.escalation.tenant_id).bind fun denied =>
    (resolution_proposal_id_from_decision denied).map Stdlib.uuid

/-- The proposal is eligible to be sent, and this escalation has queued its reply. -/
def Released (w : World Uuid Json) (proposal_id : Uuid) : Prop :=
  (∃ proposal ∈ w.desk.proposals.get? proposal_id, proposal.status = .send_eligible) ∧
    ∃ outbox_id, (proposal_id, outbox_id) ∈ w.releases ∧
      (w.desk.outbox.records.get? outbox_id).isSome

def ReleasedIffApproved (w : World Uuid Json) : Prop :=
  ∀ proposal_id, deniedProposal w = some proposal_id →
    (Released w proposal_id ↔ w.escalation.status = .approved)

def OutcomeKept (w w' : World Uuid Json) : Prop :=
  w.escalation.status.decided = true → w'.escalation.status = w.escalation.status

/-- No approval writes over a rejection, and no rejection over an approval. -/
def Unopposed (w : World Uuid Json) : Act → Prop
  | .approve .. => True
  | .reject .. => True
  | .commit manager => ∀ entry ∈ w.calls.find? (·.1 = manager),
    match entry.2.2 with
    | .approving _ => w.escalation.status ≠ .rejected
    | .rejecting _ => w.escalation.status ≠ .approved

/-- The rows of the outbox stand under their own ids. -/
def Keyed (desk : Desk Uuid Json) : Prop :=
  ∀ id row, desk.outbox.records.get? id = some row → row.outbox_id = id

structure Unresolved (w : World Uuid Json) : Prop where
  undecided : w.escalation.status.decided = false
  idle : w.calls = []
  unreleased : w.releases = []
  keyed : Keyed w.desk

/-! ## What the writes leave alone -/

/-- Decisions stay as they are recorded, and the rows of the outbox stand under their ids. -/
structure Onwards (desk desk' : Desk Uuid Json) : Prop where
  decisions : ∀ id d, desk.decisions.get? id = some d → desk'.decisions.get? id = some d
  keyed : Keyed desk → Keyed desk'

omit [Stdlib Uuid] [Sha256] in
theorem Onwards.refl (desk : Desk Uuid Json) : Onwards desk desk := ⟨fun _ _ h => h, id⟩

omit [Stdlib Uuid] [Sha256] in
theorem Onwards.trans {a b c : Desk Uuid Json} (h : Onwards a b) (h' : Onwards b c) : Onwards a c :=
  ⟨fun id d hd => h'.decisions id d (h.decisions id d hd), fun hkeyed => h'.keyed (h.keyed hkeyed)⟩

instance : IsPreorder (Desk Uuid Json) Onwards where
  refl := Onwards.refl
  trans _ _ _ := Onwards.trans

omit [Sha256] in
theorem keeps_record_decision (record : GovernanceDecisionRecord Uuid) :
    Keeps Onwards (record_decision record : Call Uuid Json Unit) := by
  refine Keeps.get_bind fun desk => ?_
  cases hfresh : desk.decisions.get? record.decision_id with
  | some _ => exact .refl desk
  | none =>
    refine ⟨fun id d hd => ?_, fun hkeyed => hkeyed⟩
    have hne : record.decision_id ≠ id := by
      rintro rfl
      cases hfresh.symm.trans hd
    exact (Dict.get?_set_ne _ _ hne).trans hd

omit [Sha256] in
theorem keeps_update_proposal (proposal_id : Uuid) (tenant_id : String)
    (change : ResolutionProposalRecord Uuid Json → ResolutionProposalRecord Uuid Json) :
    Keeps Onwards (update_resolution_proposal proposal_id tenant_id change) := by
  refine Keeps.get_bind fun desk => ?_
  cases get_resolution_proposal desk proposal_id tenant_id with
  | none => exact .refl desk
  | some record =>
    exact (Keeps.modify fun desk => ⟨fun _ _ hd => hd, fun hkeyed => hkeyed⟩).bind (fun _ => .pure _) desk

omit [Stdlib Uuid] [Sha256] in
theorem keeps_update_draft (proposal_id : Uuid) (tenant_id : String)
    (change : ResolutionOutboundDraftRecord Uuid → ResolutionOutboundDraftRecord Uuid) :
    Keeps Onwards (update_draft_for_proposal proposal_id tenant_id change : Call Uuid Json _) := by
  refine Keeps.get_bind fun desk => ?_
  cases desk.drafts.values.find? fun draft =>
      draft.proposal_id = proposal_id && draft.tenant_id = tenant_id with
  | none => exact .refl desk
  | some draft =>
    exact (Keeps.modify fun desk => ⟨fun _ _ hd => hd, fun hkeyed => hkeyed⟩).bind (fun _ => .pure _) desk

variable {proposal : ResolutionProposalRecord Uuid Json} {tenant_id : String}
  {outbox outbox' : InMemoryOutboundSendOutboxPersistence Uuid}
  {draft : ResolutionOutboundDraftRecord Uuid}

variable {target : OutboundSendTarget}

theorem request_auto_send_outbox {stores : Stores Uuid Json} {now : Instant}
    {result : OutboundAutoSendRequestResult Uuid}
    (h : request_auto_send stores outbox draft proposal target tenant_id now = .ok (result, outbox')) :
    (result.outbox = none ∧ outbox' = outbox) ∨
      ∃ record row, result.outbox = some row ∧
        outbox.createOutboundSendOutbox record = (some row, outbox') := by
  unfold request_auto_send at h
  simp only at h
  split at h
  · cases h
  split at h
  · -- no gate that refuses has touched the outbox
    iterate 8
      split at h
      · cases h; exact .inl ⟨rfl, rfl⟩
    obtain ⟨record, -, h⟩ := bind_eq_ok.mp h
    split at h
    · rename_i row written hcreate
      cases h
      exact .inr ⟨record, row, rfl, hcreate⟩
    · cases h
  · cases h; exact .inl ⟨rfl, rfl⟩

omit [Stdlib Uuid] [Sha256] in
theorem createOutboundSendOutbox_keyed {record row : OutboundSendOutboxRecord Uuid}
    (hkeyed : ∀ id row, outbox.records.get? id = some row → row.outbox_id = id)
    (h : outbox.createOutboundSendOutbox record = (some row, outbox')) :
    outbox'.records.get? row.outbox_id = some row ∧
      ∀ id row, outbox'.records.get? id = some row → row.outbox_id = id := by
  unfold InMemoryOutboundSendOutboxPersistence.createOutboundSendOutbox at h
  split at h
  · obtain ⟨hrow, rfl⟩ := Prod.mk.inj h
    rw [hkeyed _ _ hrow]
    exact ⟨hrow, hkeyed⟩
  · obtain ⟨hrow, rfl⟩ := Prod.mk.inj h
    cases hrow
    refine ⟨Dict.get?_set_self _ _ _, fun id row hget => ?_⟩
    rcases Dict.get?_set_cases hget with ⟨rfl, rfl⟩ | ⟨-, hold⟩
    · rfl
    · exact hkeyed id row hold

theorem keeps_send_released (proposal : ResolutionProposalRecord Uuid Json)
    (draft : ResolutionOutboundDraftRecord Uuid) (target : OutboundSendTarget) (ruling : Ruling) :
    Keeps Onwards (send_released proposal draft target ruling) := by
  refine Keeps.get_bind fun desk => ?_
  rw [run_bind, run_lift]
  cases hsent : request_auto_send desk.stores desk.outbox draft proposal target
      ruling.expected_tenant_id ruling.now with
  | error e => exact .refl desk
  | ok sent =>
    obtain ⟨result, outbox⟩ := sent
    have hkept : Onwards desk { desk with outbox } := by
      refine ⟨fun _ _ hd => hd, fun hkeyed => ?_⟩
      rcases request_auto_send_outbox hsent with ⟨-, rfl⟩ | ⟨record, row, -, hcreate⟩
      · exact hkeyed
      · exact (createOutboundSendOutbox_keyed hkeyed hcreate).2
    simp only [Except.mapError]
    rw [run_bind, run_set]
    cases result.reason <;> cases result.outbox <;> exact hkept

theorem keeps_write_approval (approval : Approval Uuid Json) (ruling : Ruling) :
    Keeps Onwards (write_approval approval ruling) := by
  unfold write_approval
  refine Keeps.bind (.ite (.pure _) (keeps_record_decision _)) fun _ => ?_
  cases approval.release with
  | none => exact .pure _
  | some release =>
    refine Keeps.bind ?_ fun _ => .pure _
    unfold release_resolution
    refine Keeps.bind (.ite (.pure _) (keeps_record_decision _)) fun _ =>
      (keeps_update_proposal _ _ _).bind fun _ => (keeps_update_draft _ _ _).bind fun draft => ?_
    cases draft with
    | none => exact .throw _
    | some draft => exact keeps_send_released _ _ _ _

/-! ## What an approval writes -/

variable {ruling : Ruling} {desk desk' : Desk Uuid Json} {row : OutboundSendOutboxRecord Uuid}

theorem send_released_ok (hkeyed : Keyed desk)
    (h : run (send_released proposal draft target ruling) desk = (.ok row, desk')) :
    desk'.proposals = desk.proposals ∧ desk'.outbox.records.get? row.outbox_id = some row := by
  unfold send_released at h
  obtain ⟨_, _, hget, h⟩ := run_bind_eq_ok.mp h
  cases hget
  obtain ⟨sent, _, hlift, h⟩ := run_bind_eq_ok.mp h
  rw [run_lift] at hlift
  obtain ⟨hsent, rfl⟩ := Prod.mk.inj hlift
  obtain ⟨result, outbox⟩ := sent
  obtain ⟨_, _, hset, h⟩ := run_bind_eq_ok.mp h
  cases hset
  cases hgate : request_auto_send desk.stores desk.outbox draft proposal target
      ruling.expected_tenant_id ruling.now with
  | error e =>
    rw [hgate] at hsent
    cases hsent
  | ok sent =>
    rw [hgate] at hsent
    cases hsent
    cases hreason : result.reason with
    | some reason =>
      rw [hreason] at h
      exact absurd h run_throw_ne
    | none =>
      rcases request_auto_send_outbox hgate with ⟨hnone, -⟩ | ⟨record, row', hrow, hcreate⟩
      · rw [hreason, hnone] at h
        exact absurd h run_throw_ne
      · rw [hreason, hrow] at h
        cases h
        exact ⟨rfl, (createOutboundSendOutbox_keyed hkeyed hcreate).1⟩

omit [Sha256] in
theorem update_proposal_ok {proposal_id : Uuid}
    {change : ResolutionProposalRecord Uuid Json → ResolutionProposalRecord Uuid Json}
    (h : run (update_resolution_proposal proposal_id tenant_id change) desk = (.ok proposal, desk')) :
    (∃ record, proposal = change record) ∧ desk'.proposals.get? proposal_id = some proposal := by
  unfold update_resolution_proposal at h
  obtain ⟨_, _, hget, h⟩ := run_bind_eq_ok.mp h
  cases hget
  cases hfound : get_resolution_proposal desk proposal_id tenant_id with
  | none =>
    rw [hfound] at h
    exact absurd h run_throw_ne
  | some record =>
    rw [hfound] at h
    obtain ⟨_, _, hmodify, h⟩ := run_bind_eq_ok.mp h
    cases hmodify
    cases h
    exact ⟨⟨record, rfl⟩, Dict.get?_set_self _ _ _⟩

omit [Stdlib Uuid] [Sha256] in
theorem update_draft_proposals (proposal_id : Uuid) (tenant_id : String)
    (change : ResolutionOutboundDraftRecord Uuid → ResolutionOutboundDraftRecord Uuid)
    (desk : Desk Uuid Json) :
    (run (update_draft_for_proposal proposal_id tenant_id change : Call Uuid Json _) desk).2.proposals =
      desk.proposals := by
  unfold update_draft_for_proposal
  rw [run_bind, run_get]
  simp only
  cases desk.drafts.values.find? fun draft =>
      draft.proposal_id = proposal_id && draft.tenant_id = tenant_id with
  | none => rfl
  | some draft => rfl

variable {approval : Approval Uuid Json}

theorem release_resolution_ok {release : Release Uuid Json} (hkeyed : Keyed desk)
    (h : run (release_resolution approval release ruling) desk = (.ok row, desk')) :
    (∃ proposal ∈ desk'.proposals.get? release.proposal_id, proposal.status = .send_eligible) ∧
      desk'.outbox.records.get? row.outbox_id = some row := by
  unfold release_resolution at h
  obtain ⟨_, decided, hdecided, h⟩ := run_bind_eq_ok.mp h
  obtain ⟨proposal, released, hreleased, h⟩ := run_bind_eq_ok.mp h
  obtain ⟨draft, drafted, hdrafted, h⟩ := run_bind_eq_ok.mp h
  have hkeyed : Keyed drafted := by
    have hfirst : Onwards desk decided :=
      Keeps.of_run (.ite (.pure _) (keeps_record_decision _)) hdecided
    have hsecond : Onwards decided released := (keeps_update_proposal _ _ _).of_run hreleased
    have hthird : Onwards released drafted := (keeps_update_draft _ _ _).of_run hdrafted
    exact ((hfirst.trans hsecond).trans hthird).keyed hkeyed
  have hproposals : drafted.proposals = released.proposals :=
    (congrArg (fun x => x.2.proposals) hdrafted).symm.trans (update_draft_proposals _ _ _ _)
  cases draft with
  | none => exact absurd h run_throw_ne
  | some draft =>
    obtain ⟨hsent, hrow⟩ := send_released_ok hkeyed h
    obtain ⟨⟨record, hchange⟩, hproposal⟩ := update_proposal_ok hreleased
    refine ⟨⟨proposal, ?_, by rw [hchange]⟩, hrow⟩
    rw [hsent, hproposals]
    exact hproposal

variable {released : Option (Release Uuid Json × OutboundSendOutboxRecord Uuid)}

theorem write_approval_ok (hkeyed : Keyed desk)
    (h : run (write_approval approval ruling) desk = (.ok released, desk')) :
    released.map (·.1) = approval.release ∧ ∀ sent ∈ released,
      (∃ proposal ∈ desk'.proposals.get? sent.1.proposal_id, proposal.status = .send_eligible) ∧
        desk'.outbox.records.get? sent.2.outbox_id = some sent.2 := by
  unfold write_approval at h
  obtain ⟨_, decided, hdecided, h⟩ := run_bind_eq_ok.mp h
  have hkept : Onwards desk decided :=
    Keeps.of_run (.ite (.pure _) (keeps_record_decision _)) hdecided
  cases hrelease : approval.release with
  | none =>
    rw [hrelease] at h
    cases h
    exact ⟨rfl, fun _ hsent => by cases hsent⟩
  | some release =>
    rw [hrelease] at h
    obtain ⟨row, _, hreleased, h⟩ := run_bind_eq_ok.mp h
    cases h
    refine ⟨rfl, ?_⟩
    rintro _ ⟨⟩
    exact release_resolution_ok (hkept.keyed hkeyed) hreleased

/-! ## Steps -/

omit [Sha256] in
theorem outcome_of_decided {status : EscalationStatus} (h : status.decided = true) :
    status = .approved ∨ status = .rejected := by
  cases status with
  | pending => cases h
  | reviewed => cases h
  | approved => exact .inl rfl
  | rejected => exact .inr rfl

variable {escalation : EscalationRecord Uuid}

omit [DecidableEq Uuid] [Sha256] in
theorem require_record_ok {record : EscalationRecord Uuid}
    (h : require_record escalation tenant_id = .ok record) :
    record = escalation ∧ tenant_id = escalation.tenant_id := by
  unfold require_record at h
  split at h
  · rename_i htenant
    cases h
    exact ⟨rfl, htenant.symm⟩
  · cases h

variable {record : EscalationRecord Uuid} {denied : GovernanceDecisionRecord Uuid}

omit [Stdlib Uuid] [Sha256] in
theorem require_source_denial_ok {desk : Desk Uuid Json}
    (h : require_source_denial desk record tenant_id = .ok denied) :
    get_decision desk record.governance_decision_id tenant_id = some denied := by
  unfold require_source_denial at h
  simp only at h
  split at h
  · cases h
  · split at h
    · cases h
    · rename_i hfound
      split at h
      · cases h
      · cases h
        exact hfound

variable {target : Except PyException OutboundSendTarget}

section

omit [Sha256]

theorem read_release_ok {desk : Desk Uuid Json} {release : Option (Release Uuid Json)}
    (h : read_release desk record denied target tenant_id = .ok release) :
    release.map (·.proposal_id) = (resolution_proposal_id_from_decision denied).map Stdlib.uuid := by
  unfold read_release at h
  split at h
  · rename_i hnone
    cases h
    exact hnone.symm
  · rename_i proposal_id hsome
    split at h
    · cases h
    · split at h
      · cases h
      · obtain ⟨_, -, h⟩ := bind_eq_ok.mp h
        cases h
        exact hsome.symm

theorem read_approval_ok {desk : Desk Uuid Json}
    (h : read_approval escalation desk target ruling = .ok (some approval)) :
    approval.record = escalation ∧
      ∃ denied ∈ get_decision desk escalation.governance_decision_id escalation.tenant_id,
        approval.release.map (·.proposal_id) =
          (resolution_proposal_id_from_decision denied).map Stdlib.uuid := by
  unfold read_approval at h
  obtain ⟨_, -, h⟩ := bind_eq_ok.mp h
  obtain ⟨_, -, h⟩ := bind_eq_ok.mp h
  obtain ⟨record, hrecord, h⟩ := bind_eq_ok.mp h
  split at h
  · cases h
  · obtain ⟨_, -, h⟩ := bind_eq_ok.mp h
    obtain ⟨denied, hdenied, h⟩ := bind_eq_ok.mp h
    obtain ⟨_, -, h⟩ := bind_eq_ok.mp h
    obtain ⟨release, hrelease, h⟩ := bind_eq_ok.mp h
    cases h
    obtain ⟨rfl, htenant⟩ := require_record_ok hrecord
    exact ⟨rfl, denied, htenant ▸ require_source_denial_ok hdenied, read_release_ok hrelease⟩

theorem read_rejection_ok {record : EscalationRecord Uuid} {desk : Desk Uuid Json}
    (h : read_rejection escalation desk ruling = .ok (some record)) : record = escalation := by
  unfold read_rejection at h
  obtain ⟨_, -, h⟩ := bind_eq_ok.mp h
  obtain ⟨_, -, h⟩ := bind_eq_ok.mp h
  obtain ⟨found, hfound, h⟩ := bind_eq_ok.mp h
  split at h
  · cases h
  · obtain ⟨_, -, h⟩ := bind_eq_ok.mp h
    obtain ⟨_, -, h⟩ := bind_eq_ok.mp h
    cases h
    exact (require_record_ok hfound).1

end

/-- A call in flight is about this escalation, and an approval about the proposal of its denial. -/
def FlightFits (w : World Uuid Json) : Flight Uuid Json → Prop
  | .approving approval =>
    approval.record.governance_decision_id = w.escalation.governance_decision_id ∧
    approval.record.tenant_id = w.escalation.tenant_id ∧
    ∃ denied ∈ get_decision w.desk w.escalation.governance_decision_id w.escalation.tenant_id,
      approval.release.map (·.proposal_id) =
        (resolution_proposal_id_from_decision denied).map Stdlib.uuid
  | .rejecting record =>
    record.governance_decision_id = w.escalation.governance_decision_id ∧
    record.tenant_id = w.escalation.tenant_id

/-- What every step keeps. -/
structure Sound (w : World Uuid Json) : Prop where
  keyed : Keyed w.desk
  outcome : ReleasedIffApproved w
  flights : ∀ entry ∈ w.calls, FlightFits w entry.2.2

variable {w : World Uuid Json}

omit [Sha256] in
theorem Unresolved.sound (h : Unresolved w) : Sound w where
  keyed := h.keyed
  outcome proposal_id _ := by
    refine iff_of_false ?_ fun happroved => ?_
    · rintro ⟨-, outbox_id, hmem, -⟩
      rw [h.unreleased] at hmem
      cases hmem
    · have hundecided := h.undecided
      rw [happroved] at hundecided
      cases hundecided
  flights entry hentry := by
    rw [h.idle] at hentry
    cases hentry

variable {flight : Flight Uuid Json} {manager : Nat}

omit [Sha256] in
theorem Sound.enter (h : Sound w) (hfits : FlightFits w flight) :
    Sound (w.enter manager ruling flight) where
  keyed := h.keyed
  outcome := h.outcome
  flights entry hentry := by
    rcases List.mem_cons.mp hentry with rfl | hold
    · cases flight <;> exact hfits
    · have hold := h.flights entry hold
      cases hflight : entry.2.2 <;> rw [hflight] at hold <;> exact hold

variable {w w' : World Uuid Json}

theorem commit_cases (h : step w (.commit manager) = some w') :
    ∃ entry ∈ w.calls.find? (·.1 = manager), entry ∈ w.calls ∧
      w'.calls = w.calls.filter (·.1 ≠ manager) ∧
      ((∃ approval released, entry.2.2 = .approving approval ∧
          run (write_approval approval entry.2.1) w.desk = (.ok released, w'.desk) ∧
          w'.escalation = approvedRecord approval entry.2.1 released ∧
          w'.releases =
            released.toList.map (fun (release, row) => (release.proposal_id, row.outbox_id)) ++
              w.releases) ∨
        ∃ record, entry.2.2 = .rejecting record ∧
          w' = { w with
            escalation := rejectedRecord record entry.2.1
            calls := w.calls.filter (·.1 ≠ manager) }) := by
  rw [step] at h
  cases hfind : w.calls.find? (·.1 = manager) with
  | none =>
    rw [hfind] at h
    cases h
  | some entry =>
    have hmem : entry ∈ w.calls := List.mem_of_find?_eq_some hfind
    obtain ⟨number, ruling, flight⟩ := entry
    rw [hfind] at h
    cases flight with
    | approving approval =>
      cases hrun : run (write_approval approval ruling) w.desk with
      | mk result desk =>
        simp only [hrun] at h
        cases result with
        | error e => cases h
        | ok released =>
          cases h
          exact ⟨_, rfl, hmem, rfl, .inl ⟨approval, released, rfl, hrun, rfl, rfl⟩⟩
    | rejecting record =>
      cases h
      exact ⟨_, rfl, hmem, rfl, .inr ⟨record, rfl, rfl⟩⟩

omit [Sha256] in
theorem FlightFits.keep (h : FlightFits w flight)
    (hdecision : w'.escalation.governance_decision_id = w.escalation.governance_decision_id)
    (htenant : w'.escalation.tenant_id = w.escalation.tenant_id) (hdesk : Onwards w.desk w'.desk) :
    FlightFits w' flight := by
  cases flight with
  | approving approval =>
    obtain ⟨hid, hown, denied, hdenied, hrelease⟩ := h
    refine ⟨hid.trans hdecision.symm, hown.trans htenant.symm, denied, ?_, hrelease⟩
    rw [hdecision, htenant]
    obtain ⟨hfound, hvisible⟩ := Option.filter_eq_some_iff.mp hdenied
    exact Option.filter_eq_some_iff.mpr ⟨hdesk.decisions _ _ hfound, hvisible⟩
  | rejecting record => exact ⟨h.1.trans hdecision.symm, h.2.trans htenant.symm⟩

theorem Sound.approved (h : Sound w) (hfits : FlightFits w (.approving approval))
    (hrun : run (write_approval approval ruling) w.desk = (.ok released, w'.desk))
    (hescalation : w'.escalation = approvedRecord approval ruling released)
    (hreleases : w'.releases =
      released.toList.map (fun (release, row) => (release.proposal_id, row.outbox_id)) ++ w.releases)
    (hcalls : ∀ entry ∈ w'.calls, entry ∈ w.calls) : Sound w' := by
  have hdesk : Onwards w.desk w'.desk := (keeps_write_approval approval ruling).of_run hrun
  obtain ⟨hid, hown, denied, hdenied, hrelease⟩ := hfits
  have hid' : w'.escalation.governance_decision_id = w.escalation.governance_decision_id := by
    rw [hescalation]
    exact hid
  have hown' : w'.escalation.tenant_id = w.escalation.tenant_id := by
    rw [hescalation]
    exact hown
  have hfits' : FlightFits w' (.approving approval) :=
    FlightFits.keep ⟨hid, hown, denied, hdenied, hrelease⟩ hid' hown' hdesk
  refine ⟨hdesk.keyed h.keyed, fun proposal_id hproposal => ?_,
    fun entry hentry => (h.flights entry (hcalls entry hentry)).keep hid' hown' hdesk⟩
  refine iff_of_true ?_ (by rw [hescalation]; rfl)
  obtain ⟨-, -, denied', hdenied', hrelease'⟩ := hfits'
  have hof : approval.release.map (·.proposal_id) = some proposal_id := by
    unfold deniedProposal at hproposal
    rw [hdenied'] at hproposal
    exact hrelease'.trans hproposal
  obtain ⟨release, hfound, rfl⟩ := Option.map_eq_some_iff.mp hof
  obtain ⟨hsame, hsent⟩ := write_approval_ok h.keyed hrun
  obtain ⟨sent, rfl, rfl⟩ := Option.map_eq_some_iff.mp (hsame.trans hfound)
  obtain ⟨heligible, hrow⟩ := hsent sent rfl
  refine ⟨heligible, sent.2.outbox_id, ?_, by rw [hrow]; rfl⟩
  rw [hreleases]
  exact List.mem_cons_self

omit [Sha256] in
theorem Sound.rejected (h : Sound w) (hfits : FlightFits w (.rejecting record))
    (hopen : w.escalation.status ≠ .approved)
    (hw' : w' = { w with escalation := rejectedRecord record ruling, calls := w'.calls })
    (hcalls : ∀ entry ∈ w'.calls, entry ∈ w.calls) : Sound w' := by
  have hdesk : w'.desk = w.desk := by rw [hw']
  have hreleases : w'.releases = w.releases := by rw [hw']
  have hid : w'.escalation.governance_decision_id = w.escalation.governance_decision_id := by
    rw [hw']
    exact hfits.1
  have hown : w'.escalation.tenant_id = w.escalation.tenant_id := by
    rw [hw']
    exact hfits.2
  refine ⟨hdesk ▸ h.keyed, fun proposal_id hproposal => ?_,
    fun entry hentry => (h.flights entry (hcalls entry hentry)).keep hid hown (hdesk ▸ .refl w.desk)⟩
  have hdenied : deniedProposal w = some proposal_id := by
    unfold deniedProposal at hproposal ⊢
    rwa [hdesk, hid, hown] at hproposal
  refine iff_of_false (fun hreleased => hopen ((h.outcome proposal_id hdenied).mp ?_)) ?_
  · unfold Released at hreleased ⊢
    rwa [hdesk, hreleases] at hreleased
  · rw [hw']
    exact fun hstatus => by cases hstatus

/-- A step from a sound world keeps the outcome, and what is released, exactly where it is unopposed; and
then the world stays sound. -/
theorem Sound.step {act : Act} (h : Sound w) (hstep : step w act = some w') :
    (OutcomeKept w w' ∧ ReleasedIffApproved w' ↔ Unopposed w act) ∧ (Unopposed w act → Sound w') := by
  cases act with
  | approve manager ruling target =>
    have hsound : Sound w' ∧ w'.escalation = w.escalation := by
      rw [resolving.step] at hstep
      split at hstep
      · cases hstep
      · cases hstep
        exact ⟨h, rfl⟩
      · rename_i approval hread
        cases hstep
        obtain ⟨hrecord, hdenied⟩ := read_approval_ok hread
        exact ⟨h.enter ⟨by rw [hrecord], by rw [hrecord], hdenied⟩, rfl⟩
    exact ⟨iff_of_true ⟨fun _ => by rw [hsound.2], hsound.1.outcome⟩ trivial, fun _ => hsound.1⟩
  | reject manager ruling =>
    have hsound : Sound w' ∧ w'.escalation = w.escalation := by
      rw [resolving.step] at hstep
      split at hstep
      · cases hstep
      · cases hstep
        exact ⟨h, rfl⟩
      · rename_i record hread
        cases hstep
        have hrecord : record = w.escalation := read_rejection_ok hread
        exact ⟨h.enter ⟨by rw [hrecord], by rw [hrecord]⟩, rfl⟩
    exact ⟨iff_of_true ⟨fun _ => by rw [hsound.2], hsound.1.outcome⟩ trivial, fun _ => hsound.1⟩
  | commit manager =>
    obtain ⟨entry, hfind, hmem, hcalls, hcommit⟩ := commit_cases hstep
    have hfits : FlightFits w entry.2.2 := h.flights entry hmem
    have hin : ∀ e ∈ w'.calls, e ∈ w.calls := by
      rw [hcalls]
      exact fun e he => List.mem_of_mem_filter he
    have hunopposed : Unopposed w (.commit manager) ↔ match entry.2.2 with
        | .approving _ => w.escalation.status ≠ .rejected
        | .rejecting _ => w.escalation.status ≠ .approved := by
      constructor
      · exact fun hall => hall entry hfind
      · intro hone other hother
        cases Option.mem_unique hfind hother
        exact hone
    rw [hunopposed]
    rcases hcommit with ⟨approval, released, hflight, hrun, hescalation, hreleases⟩ |
      ⟨record, hflight, hw'⟩
    · rw [hflight] at hfits ⊢
      have hsound : Sound w' := h.approved hfits hrun hescalation hreleases hin
      have hstatus : w'.escalation.status = .approved := by
        rw [hescalation]
        rfl
      refine ⟨⟨fun hkept hrejected => ?_, fun hopen => ⟨fun hdecided => ?_, hsound.outcome⟩⟩,
        fun _ => hsound⟩
      · have hsame := hkept.1 (by rw [hrejected]; rfl)
        rw [hrejected, hstatus] at hsame
        cases hsame
      · rw [hstatus]
        rcases outcome_of_decided hdecided with happroved | hrejected
        · exact happroved.symm
        · exact absurd hrejected hopen
    · rw [hflight] at hfits ⊢
      have hstatus : w'.escalation.status = .rejected := by
        rw [hw']
        rfl
      have hsound : w.escalation.status ≠ .approved → Sound w' :=
        fun hopen => h.rejected hfits hopen (by rw [hcalls]; exact hw') hin
      refine ⟨⟨fun hkept happroved => ?_, fun hopen => ⟨fun hdecided => ?_, (hsound hopen).outcome⟩⟩,
        hsound⟩
      · have hsame := hkept.1 (by rw [happroved]; rfl)
        rw [happroved, hstatus] at hsame
        cases hsame
      · rw [hstatus]
        rcases outcome_of_decided hdecided with happroved | hrejected
        · exact absurd happroved hopen
        · exact hrejected.symm

/-- However approvals and rejections overlap, no recorded decision is rewritten. -/
theorem decisions_are_written_once (h : runs.Reaches resolving.step w w') : Onwards w.desk w'.desk := by
  refine runs.invariant (I := fun v => Onwards w.desk v.desk) (fun v act v' hv hstep => ?_) (.refl _) h
  cases act with
  | commit manager =>
    obtain ⟨_, -, -, -, ⟨_, _, -, hrun, -⟩ | ⟨_, -, rfl⟩⟩ := commit_cases hstep
    · exact hv.trans ((keeps_write_approval _ _).of_run hrun)
    · exact hv
  | approve | reject =>
    rw [resolving.step] at hstep
    split at hstep <;> cases hstep <;> exact hv

end

/-! ## Two managers -/

def deniedReply : World String Unit where
  escalation :=
    { escalation_id := "e", session_id := "s", tenant_id := "t", reason := "denied"
      governance_decision_id := "denial", status := .pending, created_at := 0 }
  desk :=
    { cases := .empty
      actions := .empty
      proposals := Dict.empty.set "p"
        { customer_reply.eligibleProposal with status := .denied, governance_verdict := .deny
                                               governance_decision_id := some "denial" }
      drafts := Dict.empty.set "t|p" { customer_reply.readyDraft with status := .denied }
      decisions := Dict.empty.set "denial"
        { decision_id := "denial", decision := "deny", reason := "money promised", tenant_id := some "t"
          metadata := Dict.ofList [("proposal_id", .str "p")] }
      outbox := ⟨.empty, .empty⟩ }
  calls := []
  releases := []

theorem unresolved_deniedReply : Unresolved deniedReply where
  undecided := rfl
  idle := rfl
  unreleased := rfl
  keyed id row hrow := by cases hrow

def ann : Ruling := ⟨"checked", "ann", "t", 1⟩
def bob : Ruling := ⟨"not so", "bob", "t", 2⟩

def toCustomer : OutboundSendTarget where
  channel := "email"
  recipient := "ana@example.com"
  thread_context := some "thread"

/-- Both have read the escalation while it was pending. -/
def bothDecide : List Act :=
  [.approve 1 ann (.ok toCustomer), .reject 2 bob, .commit 1, .commit 2]

theorem the_denial_stays :
    ∃ w, runs.after step deniedReply bothDecide = some w ∧ Onwards deniedReply.desk w.desk := by
  obtain ⟨w, hw⟩ : ∃ w, runs.after step deniedReply bothDecide = some w :=
    Option.isSome_iff_exists.mp (by decide +kernel)
  exact ⟨w, hw, decisions_are_written_once ⟨_, hw⟩⟩

end operious.escalation.resolving
