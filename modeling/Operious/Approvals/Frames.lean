-- What the parts of an approval leave alone: the cases and actions where only a reply is governed and
-- released, and everything about a case but its decision where it is completed.
import Operious.Approvals.Services

namespace operious.approvals

open effects
open operious.auto_send (OutboundSendTarget)
open operious.governance (PyException)
open operious.resolution

section

variable {Uuid Json : Type} [DecidableEq Uuid]
variable {desk desk' : Desk Uuid Json} {tenant_id : String}

def Decides (tenant_id : String) (desk desk' : Desk Uuid Json) : Prop :=
  ∀ id d, desk'.decisions.get? id = some d →
    desk.decisions.get? id = some d ∨ d.tenant_id = some tenant_id

theorem Decides.refl (desk : Desk Uuid Json) : Decides tenant_id desk desk := fun _ _ => .inl

theorem Decides.trans {a b c : Desk Uuid Json} (h : Decides tenant_id a b)
    (h' : Decides tenant_id b c) : Decides tenant_id a c := by
  intro id d hd
  rcases h' id d hd with hold | hown
  · exact h id d hold
  · exact .inr hown

/-- What the delivery of the reply of the proposal `p` leaves alone. -/
structure Beside (tenant_id : String) (p : Option Uuid) (desk desk' : Desk Uuid Json) : Prop where
  cases : desk'.cases = desk.cases
  actions : desk'.actions = desk.actions
  proposals : ∀ q, p ≠ some q → desk'.proposals.get? q = desk.proposals.get? q
  decides : Decides tenant_id desk desk'

variable {p : Option Uuid}

theorem Beside.refl (desk : Desk Uuid Json) : Beside tenant_id p desk desk :=
  ⟨rfl, rfl, fun _ _ => rfl, .refl _⟩

theorem Beside.trans {a b c : Desk Uuid Json} (h : Beside tenant_id p a b)
    (h' : Beside tenant_id p b c) : Beside tenant_id p a c where
  cases := h'.cases.trans h.cases
  actions := h'.actions.trans h.actions
  proposals q hq := (h'.proposals q hq).trans (h.proposals q hq)
  decides := h.decides.trans h'.decides

instance : IsPreorder (Desk Uuid Json) (Beside tenant_id p) where
  refl := Beside.refl
  trans _ _ _ := Beside.trans

variable [Stdlib Uuid]

theorem keeps_record_decision {record : GovernanceDecisionRecord Uuid}
    (h : record.tenant_id = some tenant_id) :
    Keeps (Beside tenant_id p) (record_decision record : Call Uuid Json Unit) := by
  refine Keeps.get_bind fun desk => ?_
  cases desk.decisions.get? record.decision_id with
  | some _ => exact .refl desk
  | none =>
    refine ⟨rfl, rfl, fun _ _ => rfl, fun id d hd => ?_⟩
    rcases Dict.get?_set_cases hd with ⟨-, rfl⟩ | ⟨-, hd⟩
    · exact .inr h
    · exact .inl hd

theorem keeps_record_case_governance_decision (record : CaseApprovalRecord Uuid Json)
    (actor decision chain reason : String) (note : Option String) :
    Keeps (Beside record.tenant_id p)
      (record_case_governance_decision record actor decision chain reason note) := by
  refine Keeps.get_bind fun desk => ?_
  cases get_decision desk (case_decision_id record actor chain) record.tenant_id with
  | some _ => exact .refl desk
  | none => exact (keeps_record_decision rfl).bind (fun _ => .pure _) desk

theorem keeps_update_resolution_proposal (proposal_id : Uuid)
    (change : ResolutionProposalRecord Uuid Json → ResolutionProposalRecord Uuid Json) :
    Keeps (Beside tenant_id (some proposal_id))
      (update_resolution_proposal proposal_id tenant_id change) := by
  refine Keeps.get_bind fun desk => ?_
  cases get_resolution_proposal desk proposal_id tenant_id with
  | none => exact .refl desk
  | some record =>
    refine (Keeps.modify fun desk => ⟨rfl, rfl, fun q hq => ?_, .refl _⟩).bind (fun _ => .pure _) desk
    exact Dict.get?_set_ne _ _ fun heq => hq (congrArg some heq)

omit [Stdlib Uuid] in
theorem keeps_update_draft_for_proposal (proposal_id : Uuid)
    (change : ResolutionOutboundDraftRecord Uuid → ResolutionOutboundDraftRecord Uuid) :
    Keeps (Beside tenant_id p)
      (update_draft_for_proposal proposal_id tenant_id change : Call Uuid Json _) := by
  refine Keeps.get_bind fun desk => ?_
  cases desk.drafts.values.find? fun draft =>
      draft.proposal_id = proposal_id && draft.tenant_id = tenant_id with
  | none => exact .refl desk
  | some draft =>
    exact (Keeps.modify fun desk => ⟨rfl, rfl, fun _ _ => rfl, .refl _⟩).bind (fun _ => .pure _) desk

variable [Sha256]

theorem keeps_record_delivery_authorization_decision (record : CaseApprovalRecord Uuid Json)
    (proposal : ResolutionProposalRecord Uuid Json) (target : Option OutboundSendTarget) :
    Keeps (Beside tenant_id p)
      (record_delivery_authorization_decision record proposal tenant_id target) := by
  refine Keeps.get_bind fun desk => ?_
  cases get_decision desk (delivery_decision_id tenant_id proposal.proposal_id) tenant_id with
  | some _ => exact .refl desk
  | none =>
    exact (Keeps.lift _).bind (fun _ => Keeps.get.bind fun _ =>
      (keeps_record_decision rfl).bind fun _ => .pure _) desk

theorem keeps_trigger_auto_send (proposal : ResolutionProposalRecord Uuid Json)
    (draft : ResolutionOutboundDraftRecord Uuid) (target : OutboundSendTarget) (now : Instant) :
    Keeps (Beside tenant_id p) (trigger_auto_send proposal draft target tenant_id now) := by
  refine Keeps.get_bind fun desk => ?_
  rw [run_bind, run_lift]
  cases (auto_send.request_auto_send desk.stores desk.outbox draft proposal target tenant_id
    now).mapError fun e => (⟨"ValueError", e⟩ : PyException) with
  | error e => exact .refl desk
  | ok sent =>
    obtain ⟨result, outbox⟩ := sent
    have hsent : Beside tenant_id p desk { desk with outbox } := ⟨rfl, rfl, fun _ _ => rfl, .refl _⟩
    simp only
    rw [run_bind, run_set]
    cases result.reason <;> exact hsent

omit [Sha256] in
theorem keeps_revalidate_resolution_governance (around : Collaborators Uuid Json)
    (recommendation : Option (SmeRecommendation Json)) :
    Keeps (Beside tenant_id p)
      (revalidate_resolution_governance around tenant_id recommendation) := by
  unfold revalidate_resolution_governance
  refine Keeps.ite (.throw _) ?_
  cases around.gate with
  | none => exact .throw _
  | some gate =>
    refine (Keeps.lift _).bind fun result => ?_
    cases result.recorded with
    | none => exact (Keeps.pure _).bind fun _ => .ite (.pure _) (.throw _)
    | some decision =>
      exact (keeps_record_decision rfl).bind fun _ => .ite (.pure _) (.throw _)

theorem keeps_authorize_delivery (around : Collaborators Uuid Json)
    (record : CaseApprovalRecord Uuid Json) (proposal : ResolutionProposalRecord Uuid Json)
    (proposal_id : Uuid) (target : Option OutboundSendTarget) (decision_id : Uuid) :
    Keeps (Beside tenant_id (some proposal_id))
      (authorize_delivery around record proposal proposal_id tenant_id target decision_id) := by
  unfold authorize_delivery
  cases revisedReply record proposal with
  | none => exact keeps_record_delivery_authorization_decision record proposal target
  | some new_reply =>
    exact (keeps_revalidate_resolution_governance around _).bind fun _ =>
      (keeps_update_resolution_proposal proposal_id _).bind fun _ =>
        (keeps_update_draft_for_proposal proposal_id _).bind fun _ => .pure _

theorem keeps_deliver_resolution (tenant_id : String) (around : Collaborators Uuid Json)
    (record : CaseApprovalRecord Uuid Json) (proposal_id decision_id : Uuid) :
    Keeps (Beside tenant_id (some proposal_id))
      (deliver_resolution around record proposal_id tenant_id decision_id) := by
  refine Keeps.get_bind fun desk => ?_
  cases get_resolution_proposal desk proposal_id record.tenant_id with
  | none => exact .refl desk
  | some proposal =>
    refine ((Keeps.lift _).bind fun target => ?_) desk
    refine (keeps_authorize_delivery around record proposal proposal_id target decision_id).bind
      fun _ => (keeps_update_resolution_proposal proposal_id _).bind fun _ =>
        (keeps_update_draft_for_proposal proposal_id _).bind fun draft => ?_
    cases target with
    | none => exact .pure _
    | some target =>
      cases draft with
      | none => exact .pure _
      | some draft => exact keeps_trigger_auto_send _ _ _ _

variable (Json) in
omit [Sha256] in
theorem keeps_record_manager_approval_decision (approval : ActionApprovalRecord Uuid)
    (source : GovernanceDecisionRecord Uuid) (approved_by : String) (note : Option String) :
    Keeps (Beside approval.tenant_id p)
      (record_manager_approval_decision approval source approved_by note : Call Uuid Json Uuid) := by
  refine Keeps.get_bind fun desk => ?_
  cases get_decision desk _ approval.tenant_id with
  | some _ => exact .refl desk
  | none => exact (keeps_record_decision rfl).bind (fun _ => .pure _) desk

end

end operious.approvals
