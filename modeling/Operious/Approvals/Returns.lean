-- When the calls return: what has to be on the desk for a case to be reviewed, rejected or escalated,
-- and for an action to be approved or denied where at most one case follows.
import Operious.Approvals.Outcomes

namespace operious.approvals

open effects
open operious.governance (PyException)
open operious.resolution

section

variable {Uuid Json : Type} {desk desk' : Desk Uuid Json} {tenant_id : String}
  {record : CaseApprovalRecord Uuid Json} {action : ActionApprovalRecord Uuid}
  {around : Collaborators Uuid Json}

def Returns {α : Type} (x : Call Uuid Json α) (desk : Desk Uuid Json) : Prop :=
  ∃ a desk', run x desk = (.ok a, desk')

theorem Returns.bind {α β : Type} {x : Call Uuid Json α} {f : α → Call Uuid Json β}
    (hx : Returns x desk) (hf : ∀ a desk', run x desk = (.ok a, desk') → Returns (f a) desk') :
    Returns (x >>= f) desk := by
  obtain ⟨a, mid, hrun⟩ := hx
  obtain ⟨b, desk', hrest⟩ := hf a mid hrun
  exact ⟨b, desk', run_bind_eq_ok.mpr ⟨a, mid, hrun, hrest⟩⟩

theorem Returns.pure {α : Type} (a : α) (desk : Desk Uuid Json) :
    Returns (Pure.pure a : Call Uuid Json α) desk := ⟨a, desk, rfl⟩

theorem Returns.get_bind {α : Type} {f : Desk Uuid Json → Call Uuid Json α}
    (h : Returns (f desk) desk) : Returns (get >>= f) desk := by
  obtain ⟨a, desk', hrun⟩ := h
  exact ⟨a, desk', run_bind_eq_ok.mpr ⟨desk, desk, rfl, hrun⟩⟩

theorem returns_update_case (hrow : desk.cases.get? record.approval_case_id ≠ none)
    (hown : ∀ r, desk.cases.get? record.approval_case_id = some r → r.tenant_id = tenant_id)
    (htenant : record.tenant_id = tenant_id) : Returns (update_case record tenant_id) desk := by
  obtain ⟨r, hr⟩ := Option.ne_none_iff_exists'.mp hrow
  have hfound : get_case desk record.approval_case_id tenant_id = some r :=
    Option.filter_eq_some_iff.mpr ⟨hr, by simpa using hown r hr⟩
  refine ⟨record, desk.save_case record.approval_case_id record, ?_⟩
  simp [update_case, htenant, run_bind, hfound]
  rfl

variable {approval_id : String}

theorem require_pending_of_row (hrow : desk.actions.get? approval_id = some action)
    (htenant : action.tenant_id = tenant_id) (hpending : action.status = "pending") :
    run (require_pending approval_id tenant_id) desk = (.ok action, desk) := by
  have hfound : get_approval desk approval_id tenant_id = some action :=
    Option.filter_eq_some_iff.mpr ⟨hrow, by simpa using htenant⟩
  simp [require_pending, run_bind, hfound, hpending]

theorem returns_resolve_approval (status resolved_by : String) (resolved_at : Instant)
    (note : Option String) (metadata : Metadata)
    (hrow : desk.actions.get? approval_id = some action) (htenant : action.tenant_id = tenant_id)
    (hpending : action.status = "pending") :
    ∃ resolved, run (resolve_approval approval_id tenant_id status resolved_at resolved_by note
      metadata) desk = (.ok (some resolved),
        { desk with actions := desk.actions.set approval_id resolved }) ∧
      resolved.status = status ∧ resolved.approval_id = action.approval_id ∧
      resolved.tenant_id = tenant_id := by
  have hfound : get_approval desk approval_id tenant_id = some action :=
    Option.filter_eq_some_iff.mpr ⟨hrow, by simpa using htenant⟩
  refine ⟨{ action with
    status, resolved_at := some resolved_at, resolved_by := some resolved_by
    resolution_note := note, metadata }, ?_, rfl, rfl, htenant⟩
  simp [resolve_approval, run_bind, hfound, hpending]
  rfl

def OneClaimable (tenant_id action_approval_id : String)
    (cases : Dict String (CaseApprovalRecord Uuid Json)) : Prop :=
  ∀ k k' r r', cases.get? k = some r → claimable tenant_id action_approval_id r = true →
    cases.get? k' = some r' → claimable tenant_id action_approval_id r' = true → k = k'

variable {action_approval_id resolved_by : String} {status : CaseApprovalStatus}
  {resolved_at : Instant}

theorem returns_claim_case_for_action {note : String}
    (hone : OneClaimable tenant_id action_approval_id desk.cases) :
    Returns (claim_case_for_action tenant_id action_approval_id status resolved_at resolved_by note)
      desk := by
  have hsub : (desk.cases.items.filter fun item =>
      claimable tenant_id action_approval_id item.2).Sublist desk.cases.items := List.filter_sublist
  have hdistinct := (hsub.map Prod.fst).nodup desk.cases.distinct
  have hrow : ∀ k r, (k, r) ∈ (desk.cases.items.filter fun item =>
      claimable tenant_id action_approval_id item.2) →
      desk.cases.get? k = some r ∧ claimable tenant_id action_approval_id r = true := by
    intro k r hin
    obtain ⟨hitem, hclaim⟩ := List.mem_filter.mp hin
    exact ⟨(Dict.get?_eq_some_iff _ _ _).mpr hitem, hclaim⟩
  rcases hrows : desk.cases.items.filter fun item => claimable tenant_id action_approval_id item.2 with
    _ | ⟨⟨k, r⟩, _ | ⟨⟨k', r'⟩, rest⟩⟩
  · refine Returns.get_bind ?_
    simp only [hrows]
    exact .pure _ _
  · refine Returns.get_bind ?_
    simp only [hrows]
    exact ⟨_, _, rfl⟩
  · rw [hrows] at hdistinct hrow
    obtain ⟨hk, hclaim⟩ := hrow k r (by simp)
    obtain ⟨hk', hclaim'⟩ := hrow k' r' (by simp)
    exact absurd (hone k k' r r' hk hclaim hk' hclaim') (by simp at hdistinct; tauto)

variable [DecidableEq Uuid] [Stdlib Uuid]

theorem returns_record_decision {d : GovernanceDecisionRecord Uuid}
    (h : desk.decisions.get? d.decision_id = none) : Returns (record_decision d) desk := by
  refine ⟨(), { desk with decisions := desk.decisions.set d.decision_id d }, ?_⟩
  simp [record_decision, run_bind, h]

def Untaken (tenant_id : String) (desk : Desk Uuid Json) (id : Uuid) : Prop :=
  ∀ d, desk.decisions.get? id = some d → d.tenant_id = some tenant_id

omit [Stdlib Uuid] in
theorem Untaken.none_or {id : Uuid} (h : Untaken tenant_id desk id)
    (hnone : get_decision desk id tenant_id = none) : desk.decisions.get? id = none := by
  cases hget : desk.decisions.get? id with
  | none => rfl
  | some d =>
    have hfound : get_decision desk id tenant_id = some d :=
      Option.filter_eq_some_iff.mpr ⟨hget, by simpa using h d hget⟩
    cases hnone.symm.trans hfound

variable {note : Option String}

theorem returns_record_case_governance_decision {actor decision chain reason : String}
    (h : Untaken record.tenant_id desk (case_decision_id record actor chain)) :
    Returns (record_case_governance_decision record actor decision chain reason note) desk := by
  refine Returns.get_bind ?_
  cases hfound : get_decision desk (case_decision_id record actor chain) record.tenant_id with
  | some d => exact .pure _ _
  | none => exact (returns_record_decision (h.none_or hfound)).bind fun _ _ _ => .pure _ _

variable {source : GovernanceDecisionRecord Uuid}

variable {approved_by : String}

theorem returns_record_manager_approval_decision
    (h : Untaken action.tenant_id desk (Stdlib.uuid5 managerApprovalNamespace
      (action.tenant_id ++ "|" ++ action.approval_id ++ "|" ++ Stdlib.str source.decision_id))) :
    Returns (record_manager_approval_decision action source approved_by note) desk := by
  refine Returns.get_bind ?_
  split
  · exact .pure _ _
  · rename_i hfound
    exact (returns_record_decision (h.none_or hfound)).bind fun _ _ _ => .pure _ _

variable [Sha256]

/-- No reply is to be delivered with the action: it is denied, or no case follows. -/
def Quiet (tenant_id action_approval_id status : String)
    (cases : Dict String (CaseApprovalRecord Uuid Json)) : Prop :=
  followingStatus status ≠ .approved ∨
    ∀ k r, cases.get? k = some r → claimable tenant_id action_approval_id r = false

theorem returns_claim_and_complete {status note : String}
    (hone : OneClaimable tenant_id action_approval_id desk.cases)
    (hquiet : Quiet tenant_id action_approval_id status desk.cases) :
    Returns (claim_and_complete_case_for_action around action_approval_id tenant_id status resolved_by
      resolved_at note) desk := by
  refine (returns_claim_case_for_action hone).bind fun claimed desk' hclaim => ?_
  rcases claim_case_for_action_ok hclaim with ⟨rfl, -, -⟩ | ⟨id, r, r', rfl, hrow, hclaimed, -⟩
  · exact .pure _ _
  · simp only
    split
    · rename_i happroved
      rcases hquiet with hdenied | hfree
      · exact absurd (if_pos (by simpa using happroved)) hdenied
      · cases hclaimed.symm.trans (hfree id r hrow)
    · exact .pure _ _

theorem returns_resolve_and_complete (action : ActionApprovalRecord Uuid) {status : String}
    {metadata : Metadata} {approval : ActionApprovalRecord Uuid}
    (hrow : desk.actions.get? approval.approval_id = some action)
    (hid : action.approval_id = approval.approval_id) (htenant : action.tenant_id = tenant_id)
    (hpending : action.status = "pending")
    (hone : OneClaimable tenant_id approval.approval_id desk.cases)
    (hquiet : Quiet tenant_id approval.approval_id status desk.cases) :
    Returns (resolve_and_complete around approval tenant_id status resolved_by note metadata) desk := by
  obtain ⟨resolved, hresolve, hstatus, hid', htenant'⟩ := returns_resolve_approval
    status resolved_by around.now note metadata hrow htenant hpending
  refine Returns.bind ⟨_, _, hresolve⟩ fun found mid hfound => ?_
  obtain ⟨heq, rfl⟩ := Prod.mk.inj (hresolve.symm.trans hfound)
  cases heq
  refine Returns.bind ?_ fun _ _ _ => .pure _ _
  unfold complete_bound_case_if_any
  split
  · refine Returns.bind ?_ fun _ _ _ => .pure _ _
    rw [hid', htenant', hstatus, hid]
    exact returns_claim_and_complete hone hquiet
  · exact .pure _ _

theorem returns_deny_in_transaction (around : Collaborators Uuid Json) {denied_by reason : String}
    (hkeyed : Keyed desk) (hrow : desk.actions.get? approval_id = some action)
    (htenant : action.tenant_id = tenant_id) (hpending : action.status = "pending")
    (hnote : (strip reason).isEmpty = false) (hseparate : action.proposed_by ≠ some denied_by)
    (hone : OneClaimable tenant_id approval_id desk.cases) :
    Returns (deny_in_transaction around approval_id denied_by reason tenant_id tenant_id) desk := by
  have hid := hkeyed.actions approval_id action hrow
  refine Returns.bind ⟨(), desk, by rw [run_lift, assert_tenant, if_neg (not_not.mpr rfl)]⟩
    fun _ _ hassert => ?_
  obtain ⟨-, rfl⟩ := run_assert_tenant hassert
  simp only [hnote, Bool.false_eq_true, if_false]
  refine Returns.bind ⟨_, _, require_pending_of_row hrow htenant hpending⟩ fun found _ hfound => ?_
  obtain ⟨heq, rfl⟩ := Prod.mk.inj ((require_pending_of_row hrow htenant hpending).symm.trans hfound)
  cases heq
  rw [if_neg (Ne.symm hseparate)]
  refine Returns.get_bind ?_
  have hkeeps := (with_resolution_metadata_keeps desk action tenant_id).1.trans hid
  refine returns_resolve_and_complete action ?_ ?_ htenant hpending ?_ (.inl ?_)
  · rw [hkeeps]
    exact hrow
  · rw [hkeeps]
    exact hid
  · rw [hkeeps]
    exact hone
  · exact (by decide : followingStatus "denied" ≠ .approved)

theorem returns_approve_in_transaction (around : Collaborators Uuid Json) (note : Option String)
    {source_id : Uuid} (hkeyed : Keyed desk) (hrow : desk.actions.get? approval_id = some action)
    (htenant : action.tenant_id = tenant_id) (hpending : action.status = "pending")
    (hseparate : action.proposed_by ≠ some approved_by)
    (hid : action.governance_decision_id = some source_id)
    (hsource : get_decision desk source_id tenant_id = some source)
    (huntaken : Untaken tenant_id desk (Stdlib.uuid5 managerApprovalNamespace
      (tenant_id ++ "|" ++ approval_id ++ "|" ++ Stdlib.str source.decision_id)))
    (hexecuted : around.orchestration = .ok "executed")
    (hfree : ∀ k r, desk.cases.get? k = some r → claimable tenant_id approval_id r = false) :
    Returns (approve_in_transaction around approval_id approved_by note tenant_id tenant_id) desk := by
  have hkey := hkeyed.actions approval_id action hrow
  refine Returns.bind ⟨(), desk, by rw [run_lift, assert_tenant, if_neg (not_not.mpr rfl)]⟩
    fun _ _ hassert => ?_
  obtain ⟨-, rfl⟩ := run_assert_tenant hassert
  refine Returns.bind ⟨_, _, require_pending_of_row hrow htenant hpending⟩ fun found _ hfound => ?_
  obtain ⟨heq, rfl⟩ := Prod.mk.inj ((require_pending_of_row hrow htenant hpending).symm.trans hfound)
  cases heq
  rw [if_neg (Ne.symm hseparate)]
  have hfetch : run (source_decision action tenant_id) desk = (.ok source, desk) := by
    simp [source_decision, hid, run_bind, hsource]
  refine Returns.bind ⟨_, _, hfetch⟩ fun found _ hfound => ?_
  obtain ⟨heq, rfl⟩ := Prod.mk.inj (hfetch.symm.trans hfound)
  cases heq
  refine Returns.get_bind ?_
  obtain ⟨hkeep, hkeep'⟩ := with_resolution_metadata_keeps desk action tenant_id
  refine Returns.bind (returns_record_manager_approval_decision ?_) fun decision_id mid hmid => ?_
  · rw [hkeep, hkeep', hkey, htenant]
    exact huntaken
  · have hbeside := keeps_record_manager_approval_decision Json (p := none)
      (with_resolution_metadata desk action tenant_id) source approved_by note desk
    rw [hmid] at hbeside
    refine Returns.bind ⟨"executed", mid, by rw [run_lift, hexecuted]⟩ fun status _ hstatus => ?_
    rw [run_lift, hexecuted] at hstatus
    cases hstatus
    rw [if_neg (not_not.mpr rfl)]
    refine returns_resolve_and_complete action ?_ ?_ htenant hpending ?_ (.inr ?_)
    · rw [hkeep, hkey, hbeside.actions]
      exact hrow
    · exact hkeep.symm
    · rw [hkeep, hkey, hbeside.cases]
      exact fun k _ r _ hr hclaim _ _ => by cases (hfree k r hr).symm.trans hclaim
    · rw [hkeep, hkey, hbeside.cases]
      exact hfree

/-! ## Cases -/

omit [Sha256] in
theorem returns_escalate_record (reason : String) {escalated_by : String} {escalation_id : Option String}
    (hrow : desk.cases.get? record.approval_case_id = some record)
    (htenant : record.tenant_id = tenant_id) (hopen : record.status.terminal = false)
    (hescalated : create_escalation around record = .ok escalation_id)
    (huntaken : Untaken tenant_id desk (case_decision_id record escalated_by escalateChainId)) :
    Returns (escalate_record around tenant_id escalated_by reason record) desk := by
  subst htenant
  unfold escalate_record
  simp only [hopen, Bool.false_eq_true, if_false]
  refine (returns_record_case_governance_decision huntaken).bind fun decision_id mid hmid => ?_
  have hbeside := keeps_record_case_governance_decision (p := none) record escalated_by "escalate"
    escalateChainId "case_approval_escalated" (some reason) desk
  rw [hmid] at hbeside
  refine Returns.bind ⟨escalation_id, mid, by rw [run_lift, hescalated]⟩ fun _ _ hlift => ?_
  obtain ⟨-, rfl⟩ := Prod.mk.inj hlift
  have hrow' : mid.cases.get? record.approval_case_id = some record := hbeside.cases ▸ hrow
  exact returns_update_case (fun hnone => by cases hnone.symm.trans hrow')
    (fun r hr => by cases hrow'.symm.trans hr; rfl) rfl

omit [DecidableEq Uuid] [Stdlib Uuid] [Sha256] in
theorem returns_review_record (around : Collaborators Uuid Json)
    {recommendation : SmeRecommendation Json}
    (hrow : desk.cases.get? record.approval_case_id = some record)
    (htenant : record.tenant_id = tenant_id)
    (hstatus : record.status = .pending_sme_review ∨ record.status = .guidance_in_progress)
    (hrecommended : around.recommendation = .ok recommendation) :
    Returns (review_record around tenant_id record) desk := by
  subst htenant
  unfold review_record
  rw [if_neg fun hneither => hstatus.elim hneither.1 hneither.2]
  refine Returns.bind ⟨recommendation, desk, by rw [run_lift, hrecommended]⟩ fun _ _ hlift => ?_
  obtain ⟨-, rfl⟩ := Prod.mk.inj hlift
  exact returns_update_case (fun hnone => by cases hnone.symm.trans hrow)
    (fun r hr => by cases hrow.symm.trans hr; rfl) rfl

omit [DecidableEq Uuid] [Stdlib Uuid] [Sha256] in
theorem CasesFollow.kept {k : String} {cases cases' : Dict String (CaseApprovalRecord Uuid Json)}
    (h : CasesFollow tenant_id action_approval_id status resolved_by cases cases')
    (hrow : cases.get? k = some record) :
    ∃ r, cases'.get? k = some r ∧ r.tenant_id = record.tenant_id := by
  rcases h with ⟨-, hsame⟩ | ⟨id, r, r', hold, -, -, hnew, hmoved, hothers⟩
  · exact ⟨record, (hsame k).trans hrow, rfl⟩
  · by_cases hk : k = id
    · subst hk
      cases hold.symm.trans hrow
      exact ⟨r', hnew, hmoved.tenant⟩
    · exact ⟨record, (hothers k hk).trans hrow, rfl⟩

omit [Sha256] in
theorem denialNote_some (reason : Option String) : (strip (denialNote reason)).isEmpty = false := by
  unfold denialNote
  split
  · exact (congrArg String.isEmpty (strip_ofList _)).trans (by decide)
  · rename_i hreason
    rw [strip_strip]
    exact Bool.eq_false_of_not_eq_true hreason

theorem returns_reject_record (around : Collaborators Uuid Json) (reason : Option String)
    {rejected_by : String} (hkeyed : Keyed desk)
    (hrow : desk.cases.get? record.approval_case_id = some record)
    (htenant : record.tenant_id = tenant_id) (hawaiting : record.status = .awaiting_approval)
    (hbound : record.boundAction = some action_approval_id)
    (haction : desk.actions.get? action_approval_id = some action)
    (hown : action.tenant_id = tenant_id) (hpending : action.status = "pending")
    (hseparate : action.proposed_by ≠ some rejected_by)
    (hone : OneClaimable tenant_id action_approval_id desk.cases)
    (huntaken : Untaken tenant_id desk (case_decision_id record rejected_by rejectChainId)) :
    Returns (reject_record around tenant_id rejected_by reason record) desk := by
  subst htenant
  unfold reject_record
  rw [if_neg (not_not.mpr hawaiting)]
  refine (returns_record_case_governance_decision huntaken).bind fun decision_id mid hmid => ?_
  have hbeside := keeps_record_case_governance_decision (p := none) record rejected_by "deny"
    rejectChainId "case_approval_rejected" reason desk
  rw [hmid] at hbeside
  have hkeyed' := hkeyed.beside hbeside
  unfold deny_recommended_action_if_bound
  rw [hbound]
  refine Returns.bind (Returns.bind (returns_deny_in_transaction around hkeyed' (hbeside.actions ▸ haction)
    hown hpending (denialNote_some reason) hseparate (hbeside.cases ▸ hone)) fun _ _ _ => .pure _ _)
    fun _ after hdenied => ?_
  obtain ⟨resolved, _, hdenied, hreturn⟩ := run_bind_eq_ok.mp hdenied
  cases hreturn
  obtain ⟨-, -, -, hresolved⟩ := deny_in_transaction_ok hkeyed' hdenied
  obtain ⟨r, hr, htenant⟩ := hresolved.cases.kept (hbeside.cases ▸ hrow)
  exact returns_update_case (fun hnone => by cases hnone.symm.trans hr)
    (fun x hx => by cases hr.symm.trans hx; exact htenant) rfl

end

end operious.approvals
