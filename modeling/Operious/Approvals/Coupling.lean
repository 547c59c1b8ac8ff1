-- A case that is bound to an action and the action it is bound to: whether they are resolved alike.
import Operious.Approvals.Returns

namespace operious.approvals

open effects runs
open operious.governance (PyException)
open operious.resolution

section

def Together (status : CaseApprovalStatus) (action_status : String) : Prop :=
  (action_status = "approved" ↔ status = .approved) ∧ (action_status = "denied" ↔ status = .rejected) ∧
    (action_status = "pending" ↔ status.terminal = false)

instance (status : CaseApprovalStatus) (action_status : String) :
    Decidable (Together status action_status) :=
  inferInstanceAs (Decidable (_ ∧ _ ∧ _))

theorem Together.open_iff {status : CaseApprovalStatus} {action_status : String}
    (h : Together status action_status) : action_status = "pending" ↔ status.terminal = false := h.2.2

variable {Uuid Json : Type} [DecidableEq Uuid]

def CaseApprovalRecord.claimedAction (record : CaseApprovalRecord Uuid Json) : Option Value :=
  record.recommended_action.bind (·.get? "action_approval_id")

variable [Stdlib Uuid]

/-- The ids under which resolutions of the case `c` and of the action `a` are decided. -/
inductive Derived (tenant_id c a : String) : Uuid → Prop
  | case (chain actor : String) (guidance_round : Nat) : Derived tenant_id c a
    (Stdlib.uuid5 caseApprovalNamespace
      (tenant_id ++ "|" ++ c ++ "|" ++ chain ++ "|" ++ actor ++ "|" ++ guidance_round.repr))
  | manager (source : Uuid) : Derived tenant_id c a
    (Stdlib.uuid5 managerApprovalNamespace (tenant_id ++ "|" ++ a ++ "|" ++ Stdlib.str source))

/-- The case `c` is bound to the action `a`, no other case is, and the two are resolved alike. -/
structure Coupled (tenant_id c a : String) (record : CaseApprovalRecord Uuid Json)
    (action : ActionApprovalRecord Uuid) (desk : Desk Uuid Json) : Prop where
  keyed : Keyed desk
  case_row : desk.cases.get? c = some record
  case_tenant : record.tenant_id = tenant_id
  bound : record.boundAction = some a
  claimed : record.claimedAction = some (.str a)
  alone : ∀ k r, desk.cases.get? k = some r → r.claimedAction = some (.str a) → k = c
  action_row : desk.actions.get? a = some action
  action_tenant : action.tenant_id = tenant_id
  together : Together record.status action.status
  /-- No other tenant has a decision under an id that is derived for the two. -/
  derived : ∀ id d, Derived tenant_id c a id → desk.decisions.get? id = some d →
    d.tenant_id = some tenant_id

variable {tenant_id c a : String} {record record' : CaseApprovalRecord Uuid Json}
  {action action' : ActionApprovalRecord Uuid} {desk desk' mid : Desk Uuid Json}
  {around : Collaborators Uuid Json}

omit [DecidableEq Uuid] [Stdlib Uuid] in
theorem claimable_iff : claimable tenant_id a record = true ↔
    record.tenant_id = tenant_id ∧ record.status = .awaiting_approval ∧
      record.claimedAction = some (.str a) := by
  simp [claimable, CaseApprovalRecord.claimedAction, and_assoc]

structure Rebound (record record' : CaseApprovalRecord Uuid Json) : Prop where
  id : record'.approval_case_id = record.approval_case_id
  tenant : record'.tenant_id = record.tenant_id
  action : record'.recommended_action = record.recommended_action

variable {status resolved_by : String}

namespace Coupled

theorem move (h : Coupled tenant_id c a record action desk) (hrebound : Rebound record record')
    (hcase : desk'.cases.get? c = some record')
    (hcases : ∀ k, k ≠ c → desk'.cases.get? k = desk.cases.get? k)
    (haction : desk'.actions.get? a = some action') (hid : action'.approval_id = action.approval_id)
    (htenant : action'.tenant_id = action.tenant_id)
    (hactions : ∀ k, k ≠ a → desk'.actions.get? k = desk.actions.get? k)
    (hdecides : Decides tenant_id desk desk') (htogether : Together record'.status action'.status) :
    Coupled tenant_id c a record' action' desk' where
  keyed := by
    constructor
    · intro k r hr
      by_cases hk : k = c
      · subst hk
        rw [hcase] at hr
        cases hr
        exact hrebound.id.trans (h.keyed.cases _ _ h.case_row)
      · exact h.keyed.cases k r (hcases k hk ▸ hr)
    · intro k r hr
      by_cases hk : k = a
      · subst hk
        rw [haction] at hr
        cases hr
        exact hid.trans (h.keyed.actions _ _ h.action_row)
      · exact h.keyed.actions k r (hactions k hk ▸ hr)
  case_row := hcase
  case_tenant := hrebound.tenant.trans h.case_tenant
  bound := by
    rw [CaseApprovalRecord.boundAction, hrebound.action]
    exact h.bound
  claimed := by
    rw [CaseApprovalRecord.claimedAction, hrebound.action]
    exact h.claimed
  alone k r hr hclaim := by
    by_cases hk : k = c
    · exact hk
    · exact h.alone k r (hcases k hk ▸ hr) hclaim
  action_row := haction
  action_tenant := htenant.trans h.action_tenant
  together := htogether
  derived id d hid hd := by
    rcases hdecides id d hd with hold | hown
    · exact h.derived id d hid hold
    · exact hown

theorem move_case (h : Coupled tenant_id c a record action desk) (hrebound : Rebound record record')
    (hcase : desk'.cases.get? c = some record')
    (hcases : ∀ k, k ≠ c → desk'.cases.get? k = desk.cases.get? k)
    (hactions : desk'.actions = desk.actions) (hdecides : Decides tenant_id desk desk')
    (htogether : Together record'.status action.status) :
    Coupled tenant_id c a record' action desk' :=
  h.move hrebound hcase hcases (hactions ▸ h.action_row) rfl rfl (fun _ _ => by rw [hactions]) hdecides
    htogether

theorem key (h : Coupled tenant_id c a record action desk) : record.approval_case_id = c :=
  h.keyed.cases c record h.case_row

omit [DecidableEq Uuid] [Stdlib Uuid] in
theorem rebound_reviewed (record : CaseApprovalRecord Uuid Json) (hbound : record.boundAction = some a)
    (recommendation : SmeRecommendation Json) :
    Rebound record (reviewedCase record recommendation) := by
  refine ⟨rfl, rfl, ?_⟩
  obtain ⟨m, hm, hrequires⟩ := Option.bind_eq_some_iff.mp hbound
  change orMapping record.recommended_action _ = record.recommended_action
  rw [hm, orMapping]
  refine if_neg fun hempty => ?_
  have hitems : m.items = [] := List.isEmpty_iff.mp hempty
  have hnone : m.get? "requires_execution" = none := by
    rw [Dict.get?, hitems]
    rfl
  simp [requires_execution, hnone] at hrequires

/-! ## What a call does to the two -/

variable {saved : CaseApprovalRecord Uuid Json}

theorem review (h : Coupled tenant_id c a record action desk) {other : String}
    (hrun : run (review_case around c other) desk = (.ok saved, desk')) :
    Coupled tenant_id c a saved action desk' := by
  obtain ⟨r, hr, -, hrun⟩ := of_require_case hrun
  cases h.case_row.symm.trans hr
  obtain ⟨-, hstatus, recommendation, -, rfl, rfl⟩ := review_record_ok hrun
  have hopen : record.status.terminal = false := by
    rcases hstatus with hstatus | hstatus <;> rw [hstatus] <;> rfl
  rw [h.key]
  refine h.move_case (rebound_reviewed _ h.bound recommendation) (Dict.get?_set_self _ _ _)
    (fun k hk => Dict.get?_set_ne _ _ (Ne.symm hk)) rfl (.refl _) ?_
  rw [h.together.open_iff.mpr hopen]
  exact (by decide : Together .awaiting_approval "pending")

theorem guide (h : Coupled tenant_id c a record action desk) {other guided_by guidance : String}
    (hrun : run (guide_case around c other guided_by guidance) desk = (.ok saved, desk')) :
    Coupled tenant_id c a saved action desk' := by
  obtain ⟨r, hr, htenant, hrun⟩ := of_require_case hrun
  cases h.case_row.symm.trans hr
  obtain ⟨-, hawaiting, decision_id, recommendation, mid, hbeside, rfl, rfl⟩ := guide_record_ok hrun
  rw [h.key]
  have hdecides := hbeside.decides
  rw [← htenant, h.case_tenant] at hdecides
  have hrebound := rebound_reviewed (guidedCase record guided_by guidance decision_id) h.bound
    recommendation
  refine h.move_case ⟨hrebound.id, hrebound.tenant, hrebound.action⟩ (Dict.get?_set_self _ _ _)
    (fun k hk => ?_) hbeside.actions hdecides ?_
  · refine (Dict.get?_set_ne _ _ (Ne.symm hk)).trans ((Dict.get?_set_ne _ _ (Ne.symm hk)).trans ?_)
    rw [hbeside.cases]
  · rw [h.together.open_iff.mpr (hawaiting ▸ rfl)]
    exact (by decide : Together .awaiting_approval "pending")

theorem follow_others (h : Coupled tenant_id c a record action desk) {status : CaseApprovalStatus}
    {resolved_by : String} {cases' : Dict String (CaseApprovalRecord Uuid Json)}
    (hfollow : CasesFollow tenant_id a status resolved_by desk.cases cases') (k : String) (hk : k ≠ c) :
    cases'.get? k = desk.cases.get? k := by
  rcases hfollow with ⟨-, hsame⟩ | ⟨id, r, r', hrow, hclaimed, -, -, -, hothers⟩
  · exact hsame k
  · have hid := h.alone id r hrow (claimable_iff.mp hclaimed).2.2
    exact hothers k (hid ▸ hk)

theorem resolve (h : Coupled tenant_id c a record action desk) {p : Option Uuid}
    (hresolving : Resolving tenant_id record status resolved_by p desk mid)
    (hrebound : Rebound record record') (htogether : Together record'.status status) :
    ∃ action', Coupled tenant_id c a record' action' (mid.save_case c record') := by
  rcases hresolving with ⟨hunbound, -⟩ | ⟨id, pre, old, hbound, hbeside, -, -, hresolved⟩
  · cases h.bound.symm.trans hunbound
  · cases h.bound.symm.trans hbound
    obtain ⟨old, new, hold, -, -, hmoved, hactions⟩ := hresolved.row
    rw [hbeside.actions] at hold hactions
    cases h.action_row.symm.trans hold
    refine ⟨new, h.move hrebound (Dict.get?_set_self _ _ _) (fun k hk => ?_) ?_ hmoved.id hmoved.tenant
      (fun k hk => ?_) (hbeside.decides.trans hresolved.decides) (hmoved.status ▸ htogether)⟩
    · refine (Dict.get?_set_ne _ _ (Ne.symm hk)).trans ?_
      exact h.follow_others (hbeside.cases ▸ hresolved.cases) k hk
    · change mid.actions.get? a = _
      rw [hactions]
      exact Dict.get?_set_self _ _ _
    · change mid.actions.get? k = _
      rw [hactions]
      exact Dict.get?_set_ne _ _ (Ne.symm hk)

theorem approve (h : Coupled tenant_id c a record action desk) {other approved_by : String}
    {note : Option String}
    (hrun : run (approve_case around c other approved_by note) desk = (.ok saved, desk')) :
    ∃ action', Coupled tenant_id c a saved action' desk' := by
  obtain ⟨r, hr, htenant, hrun⟩ := of_require_case hrun
  cases h.case_row.symm.trans hr
  obtain ⟨-, -, -, decision_id, mid, hresolving, rfl, rfl⟩ := approve_record_ok h.keyed hrun
  rw [← htenant, h.case_tenant] at hresolving
  rw [h.key]
  exact h.resolve hresolving ⟨rfl, rfl, rfl⟩ (by decide : Together .approved "approved")

theorem reject (h : Coupled tenant_id c a record action desk) {other rejected_by : String}
    {reason : Option String}
    (hrun : run (reject_case around c other rejected_by reason) desk = (.ok saved, desk')) :
    ∃ action', Coupled tenant_id c a saved action' desk' := by
  obtain ⟨r, hr, htenant, hrun⟩ := of_require_case hrun
  cases h.case_row.symm.trans hr
  obtain ⟨-, -, decision_id, mid, hresolving, rfl, rfl⟩ := reject_record_ok h.keyed hrun
  rw [← htenant, h.case_tenant] at hresolving
  rw [h.key]
  exact h.resolve hresolving ⟨rfl, rfl, rfl⟩ (by decide : Together .rejected "denied")

theorem follow (h : Coupled tenant_id c a record action desk)
    (hresolved : ActionResolved tenant_id a status resolved_by desk desk')
    (hawaiting : record.status = .awaiting_approval)
    (htogether : Together (followingStatus status) status) :
    ∃ record' action', Coupled tenant_id c a record' action' desk' := by
  obtain ⟨old, new, hold, -, -, hmoved, hactions⟩ := hresolved.row
  cases h.action_row.symm.trans hold
  have hclaimable : claimable tenant_id a record = true :=
    claimable_iff.mpr ⟨h.case_tenant, hawaiting, h.claimed⟩
  rcases hresolved.cases with ⟨hfree, -⟩ | ⟨id, r, r', hrow, hclaimed, honly, hrow', hclaim, -⟩
  · cases hclaimable.symm.trans (hfree c record h.case_row)
  · cases honly c record h.case_row hclaimable
    cases h.case_row.symm.trans hrow
    refine ⟨r', new, h.move ⟨hclaim.id, hclaim.tenant, hclaim.action⟩ hrow' (h.follow_others
      hresolved.cases) ?_ hmoved.id hmoved.tenant (fun k hk => ?_) hresolved.decides ?_⟩
    · rw [hactions]
      exact Dict.get?_set_self _ _ _
    · rw [hactions]
      exact Dict.get?_set_ne _ _ (Ne.symm hk)
    · rw [hclaim.status, hmoved.status]
      exact htogether

end Coupled

/-! ## Runs -/

/-- The calls of the two services on the case `c` and on the action `a`. -/
def ApprovalCall.On (c a : String) : ApprovalCall → Prop
  | review id _ | guide id _ _ _ | approve id _ _ _ | reject id _ _ _ | escalate id _ _ _ => id = c
  | approve_action id _ _ _ _ | deny_action id _ _ _ _ => id = a
  | claim .. | complete .. => False

/-- The steps that resolve one of the two alone: the case is escalated, which its action has no
counterpart for, or the action is resolved while its case waits for something else than approval, and
is not claimed. -/
inductive Parts (tenant_id c a : String) (desk : Desk Uuid Json) : Step Uuid Json → Prop
  | escalate (escalated_by reason : String) (around : Collaborators Uuid Json)
    (record : CaseApprovalRecord Uuid Json) (escalation_id : Option String)
    (row : desk.cases.get? c = some record) (waits : record.status.terminal = false)
    (escalated : create_escalation around record = .ok escalation_id)
    (free : around.interruption = none) :
    Parts tenant_id c a desk ⟨.escalate c tenant_id escalated_by reason, around⟩
  | approve (approved_by : String) (note : Option String) (around : Collaborators Uuid Json)
    (record : CaseApprovalRecord Uuid Json) (action : ActionApprovalRecord Uuid) (source_id : Uuid)
    (source : GovernanceDecisionRecord Uuid)
    (row : desk.cases.get? c = some record) (unclaimed : record.status ≠ .awaiting_approval)
    (action_row : desk.actions.get? a = some action) (pending : action.status = "pending")
    (separate : action.proposed_by ≠ some approved_by)
    (decided : action.governance_decision_id = some source_id)
    (found : get_decision desk source_id tenant_id = some source)
    (executed : around.orchestration = .ok "executed") (free : around.interruption = none) :
    Parts tenant_id c a desk ⟨.approve_action a approved_by note tenant_id tenant_id, around⟩
  | deny (denied_by reason : String) (around : Collaborators Uuid Json)
    (record : CaseApprovalRecord Uuid Json) (action : ActionApprovalRecord Uuid)
    (row : desk.cases.get? c = some record) (unclaimed : record.status ≠ .awaiting_approval)
    (action_row : desk.actions.get? a = some action) (pending : action.status = "pending")
    (separate : action.proposed_by ≠ some denied_by) (noted : (strip reason).isEmpty = false)
    (free : around.interruption = none) :
    Parts tenant_id c a desk ⟨.deny_action a denied_by reason tenant_id tenant_id, around⟩

namespace Coupled

theorem oneClaimable (h : Coupled tenant_id c a record action desk) :
    OneClaimable tenant_id a desk.cases := by
  intro k k' r r' hr hclaim hr' hclaim'
  rw [h.alone k r hr (claimable_iff.mp hclaim).2.2, h.alone k' r' hr' (claimable_iff.mp hclaim').2.2]

/-- Every step that does not part the two keeps them together. -/
theorem step (h : Coupled tenant_id c a record action desk) {step : Step Uuid Json}
    (hon : step.call.On c a) (hmeets : ¬ Parts tenant_id c a desk step)
    (hnext : step.next desk = some desk') :
    ∃ record' action', Coupled tenant_id c a record' action' desk' := by
  rcases step.next_cases hnext with rfl | ⟨hfree, hrun⟩
  · exact ⟨record, action, h⟩
  · obtain ⟨call, around⟩ := step
    cases call with
    | review id other =>
      obtain ⟨saved, hrun⟩ := run_discard_ok.mp hrun
      cases hon
      exact ⟨saved, action, h.review hrun⟩
    | guide id other guided_by guidance =>
      obtain ⟨saved, hrun⟩ := run_discard_ok.mp hrun
      cases hon
      exact ⟨saved, action, h.guide hrun⟩
    | approve id other approved_by note =>
      obtain ⟨saved, hrun⟩ := run_discard_ok.mp hrun
      cases hon
      exact ⟨saved, h.approve hrun⟩
    | reject id other rejected_by reason =>
      obtain ⟨saved, hrun⟩ := run_discard_ok.mp hrun
      cases hon
      exact ⟨saved, h.reject hrun⟩
    | escalate id other escalated_by reason =>
      obtain ⟨saved, hrun⟩ := run_discard_ok.mp hrun
      cases hon
      obtain ⟨r, hr, htenant, hrun⟩ := of_require_case hrun
      cases h.case_row.symm.trans hr
      obtain ⟨-, hopen, _, escalation_id, _, hescalated, -⟩ := escalate_record_ok hrun
      cases h.case_tenant.symm.trans htenant
      exact absurd (.escalate escalated_by reason around record escalation_id h.case_row hopen hescalated
        hfree) hmeets
    | approve_action id approved_by note other expected =>
      obtain ⟨resolved, hrun⟩ := run_discard_ok.mp hrun
      cases hon
      obtain ⟨rfl, ⟨old, hold, happrovable⟩, hresolved⟩ := approve_in_transaction_ok h.keyed hrun
      cases h.action_row.symm.trans hold
      cases h.action_tenant.symm.trans (hresolved.of_tenant hold)
      by_cases hawaiting : record.status = .awaiting_approval
      · exact h.follow hresolved hawaiting (by decide : Together .approved "approved")
      · obtain ⟨source_id, source, hid, hfound⟩ := happrovable.source
        exact absurd (.approve approved_by note around record action source_id source h.case_row
          hawaiting h.action_row happrovable.pending happrovable.separate hid hfound
          happrovable.executed hfree) hmeets
    | deny_action id denied_by reason other expected =>
      obtain ⟨resolved, hrun⟩ := run_discard_ok.mp hrun
      cases hon
      obtain ⟨rfl, hnoted, ⟨old, hold, hpending, hseparate⟩, hresolved⟩ :=
        deny_in_transaction_ok h.keyed hrun
      cases h.action_row.symm.trans hold
      cases h.action_tenant.symm.trans (hresolved.of_tenant hold)
      by_cases hawaiting : record.status = .awaiting_approval
      · exact h.follow hresolved hawaiting (by decide : Together .rejected "denied")
      · exact absurd (.deny denied_by reason around record action h.case_row hawaiting h.action_row
          hpending hseparate hnoted hfree) hmeets
    | claim _ _ _ _ _ _ => cases hon
    | complete _ _ _ _ => cases hon

end Coupled

/-- The case `c` and the action `a` are there, and are resolved alike. -/
def ResolvedAlike (c a : String) (desk : Desk Uuid Json) : Prop :=
  ∃ record action, desk.cases.get? c = some record ∧ desk.actions.get? a = some action ∧
    Together record.status action.status

omit [DecidableEq Uuid] [Stdlib Uuid] in
theorem ResolvedAlike.together (h : ResolvedAlike c a desk) (hcase : desk.cases.get? c = some record)
    (haction : desk.actions.get? a = some action) : Together record.status action.status := by
  obtain ⟨r, x, hr, hx, htogether⟩ := h
  cases hcase.symm.trans hr
  cases haction.symm.trans hx
  exact htogether

namespace Coupled

theorem not_alike (h : Coupled tenant_id c a record action desk)
    (hresolved : ActionResolved tenant_id a status resolved_by desk desk')
    (hunclaimed : record.status ≠ .awaiting_approval) (hpending : action.status = "pending")
    (hstatus : status ≠ "pending") : ¬ ResolvedAlike c a desk' := by
  intro halike
  obtain ⟨old, new, -, -, -, hmoved, hactions⟩ := hresolved.row
  have hcase : desk'.cases.get? c = some record := by
    rcases hresolved.cases with ⟨-, hsame⟩ | ⟨id, r, r', hrow, hclaimed, -, -, -, hothers⟩
    · exact (hsame c).trans h.case_row
    · obtain ⟨-, hawaiting, hclaim⟩ := claimable_iff.mp hclaimed
      cases h.alone id r hrow hclaim
      cases h.case_row.symm.trans hrow
      exact absurd hawaiting hunclaimed
  have haction : desk'.actions.get? a = some new := by
    rw [hactions]
    exact Dict.get?_set_self _ _ _
  have hnew := (halike.together hcase haction).open_iff.mpr (h.together.open_iff.mp hpending)
  exact hstatus (hmoved.status.symm.trans hnew)

/-- A step that parts the two leaves them apart. -/
theorem step_parts (h : Coupled tenant_id c a record action desk) {step : Step Uuid Json}
    (hparts : Parts tenant_id c a desk step) (hnext : step.next desk = some desk') :
    ¬ ResolvedAlike c a desk' := by
  have hfree : ∀ r, r.status ≠ .awaiting_approval → desk.cases.get? c = some r → ∀ k x,
      desk.cases.get? k = some x → claimable tenant_id a x = false := by
    intro r hunclaimed hrow k x hx
    refine Bool.eq_false_of_not_eq_true fun hclaim => ?_
    obtain ⟨-, hawaiting, hclaimed⟩ := claimable_iff.mp hclaim
    cases h.alone k x hx hclaimed
    cases hrow.symm.trans hx
    exact hunclaimed hawaiting
  cases hparts with
  | escalate escalated_by reason around r escalation_id hrow hopen hescalated hquiet =>
    cases h.case_row.symm.trans hrow
    have huntaken : Untaken tenant_id desk (case_decision_id record escalated_by escalateChainId) := by
      rw [case_decision_id, h.case_tenant, h.key]
      exact (h.derived _ · (.case escalateChainId escalated_by record.guidance_round))
    obtain ⟨saved, after, hrun⟩ := returns_escalate_record reason (h.key.symm ▸ hrow)
      h.case_tenant hopen hescalated huntaken
    have hcall : run (escalate_case around c tenant_id escalated_by reason) desk = (.ok saved, after) :=
      run_bind_eq_ok.mpr ⟨record, desk, require_case_of_row hrow h.case_tenant, hrun⟩
    have hstep := Step.next_of_run ⟨.escalate c tenant_id escalated_by reason, around⟩ hquiet
      (run_discard_ok.mpr ⟨saved, hcall⟩)
    cases hstep.symm.trans hnext
    obtain ⟨-, -, decision_id, _, mid, -, hbeside, rfl, rfl⟩ := escalate_record_ok hrun
    intro halike
    have haction : mid.actions.get? a = some action := hbeside.actions ▸ h.action_row
    have htogether := halike.together (by rw [h.key]; exact Dict.get?_set_self _ _ _) haction
    have hpending := h.together.open_iff.mpr hopen
    rw [hpending] at htogether
    exact absurd htogether (by decide : ¬ Together .escalated "pending")
  | approve approved_by note around r x source_id source hrow hunclaimed haction hpending hseparate hid
      hfound hexecuted hquiet =>
    cases h.case_row.symm.trans hrow
    cases h.action_row.symm.trans haction
    obtain ⟨resolved, after, hrun⟩ := returns_approve_in_transaction around note
      h.keyed haction h.action_tenant hpending hseparate hid hfound
      (h.derived _ · (.manager source.decision_id)) hexecuted (hfree record hunclaimed hrow)
    have hstep := Step.next_of_run ⟨.approve_action a approved_by note tenant_id tenant_id, around⟩ hquiet
      (run_discard_ok.mpr ⟨resolved, hrun⟩)
    cases hstep.symm.trans hnext
    obtain ⟨-, -, hresolved⟩ := approve_in_transaction_ok h.keyed hrun
    exact h.not_alike hresolved hunclaimed hpending (by decide)
  | deny denied_by reason around r x hrow hunclaimed haction hpending hseparate hnoted hquiet =>
    cases h.case_row.symm.trans hrow
    cases h.action_row.symm.trans haction
    obtain ⟨resolved, after, hrun⟩ := returns_deny_in_transaction around h.keyed haction
      h.action_tenant hpending hnoted hseparate h.oneClaimable
    have hstep := Step.next_of_run ⟨.deny_action a denied_by reason tenant_id tenant_id, around⟩ hquiet
      (run_discard_ok.mpr ⟨resolved, hrun⟩)
    cases hstep.symm.trans hnext
    obtain ⟨-, -, -, hresolved⟩ := deny_in_transaction_ok h.keyed hrun
    exact h.not_alike hresolved hunclaimed hpending (by decide)

end Coupled

/-- Some calls on the two, from here, resolve both. -/
def Resolvable (c a : String) (desk : Desk Uuid Json) : Prop :=
  ∃ steps desk' record action, (∀ s ∈ steps, s.call.On c a) ∧ after Step.next desk steps = some desk' ∧
    desk'.cases.get? c = some record ∧ record.status.terminal = true ∧
    desk'.actions.get? a = some action ∧ action.status ≠ "pending"

def answering : Collaborators Uuid Json where
  now := 0
  recommendation := .ok ⟨"", "", [], [], ""⟩
  flagged := .ok false
  escalation := none
  target := .ok none
  gate := none
  orchestration := .ok "executed"

omit [DecidableEq Uuid] [Stdlib Uuid] in
theorem exists_other (proposed_by : Option String) : ∃ other, proposed_by ≠ some other := by
  cases proposed_by with
  | none => exact ⟨"", nofun⟩
  | some p =>
    refine ⟨p ++ "'", fun heq => ?_⟩
    have hlength := congrArg String.length (Option.some.inj heq)
    simp at hlength

namespace Coupled

theorem resolvable_awaiting (h : Coupled tenant_id c a record action desk)
    (hawaiting : record.status = .awaiting_approval) : Resolvable c a desk := by
  obtain ⟨other, hseparate⟩ := exists_other action.proposed_by
  have hpending := h.together.open_iff.mpr (hawaiting ▸ rfl)
  have huntaken : Untaken tenant_id desk (case_decision_id record other rejectChainId) := by
    rw [case_decision_id, h.case_tenant, h.key]
    exact (h.derived _ · (.case rejectChainId other record.guidance_round))
  obtain ⟨saved, desk', hrun⟩ := returns_reject_record answering none h.keyed
    (h.key.symm ▸ h.case_row) h.case_tenant hawaiting h.bound h.action_row h.action_tenant hpending
    hseparate h.oneClaimable huntaken
  have hcall : run (reject_case answering c tenant_id other none) desk = (.ok saved, desk') :=
    run_bind_eq_ok.mpr ⟨record, desk, require_case_of_row h.case_row h.case_tenant, hrun⟩
  have hstep := Step.next_of_run ⟨.reject c tenant_id other none, answering⟩ rfl
    (run_discard_ok.mpr ⟨saved, hcall⟩)
  obtain ⟨action', h'⟩ := h.reject hcall
  obtain ⟨-, -, decision_id, mid, -, rfl, -⟩ := reject_record_ok h.keyed hrun
  refine ⟨[_], desk', _, action', ?_, by rw [after_cons, hstep]; rfl, h'.case_row, rfl, h'.action_row,
    fun hnot => ?_⟩
  · simp [ApprovalCall.On]
  · cases h'.together.open_iff.mp hnot

theorem resolvable (h : Coupled tenant_id c a record action desk)
    (hopen : record.status.terminal = false) : Resolvable c a desk := by
  by_cases hawaiting : record.status = .awaiting_approval
  · exact h.resolvable_awaiting hawaiting
  · have hstatus : record.status = .pending_sme_review ∨ record.status = .guidance_in_progress := by
      cases hs : record.status <;> simp_all [CaseApprovalStatus.terminal]
    obtain ⟨saved, mid, hrun⟩ := returns_review_record answering (h.key.symm ▸ h.case_row)
      h.case_tenant hstatus rfl
    have hcall : run (review_case answering c tenant_id) desk = (.ok saved, mid) :=
      run_bind_eq_ok.mpr ⟨record, desk, require_case_of_row h.case_row h.case_tenant, hrun⟩
    have hstep := Step.next_of_run ⟨.review c tenant_id, answering⟩ rfl
      (run_discard_ok.mpr ⟨saved, hcall⟩)
    have hmid := h.review hcall
    obtain ⟨-, -, recommendation, -, rfl, -⟩ := review_record_ok hrun
    obtain ⟨steps, desk', r, x, hon, hafter, hrest⟩ := hmid.resolvable_awaiting rfl
    refine ⟨⟨.review c tenant_id, answering⟩ :: steps, desk', r, x, ?_, ?_, hrest⟩
    · rintro s (_ | ⟨_, hs⟩)
      · rfl
      · exact hon s hs
    · rw [after_cons, hstep]
      exact hafter

end Coupled

/-- What holds after a call: the two are resolved alike, and where the case is open, both can be
resolved. -/
def ResolveTogether (c a : String) (_ : Desk Uuid Json) (_ : Step Uuid Json) (desk : Desk Uuid Json) :
    Prop :=
  ResolvedAlike c a desk ∧ ∀ record, desk.cases.get? c = some record →
    record.status.terminal = false → Resolvable c a desk

/-- A case and the action it is bound to are resolved together on every surface, exactly in the runs
in which the case is not escalated and no action is resolved on its own while its case does not wait
for approval. -/
theorem resolve_together (h : Coupled tenant_id c a record action desk)
    (steps : List (Step Uuid Json)) (hon : ∀ s ∈ steps, s.call.On c a) :
    Along Step.next (ResolveTogether c a) desk steps ↔
      Meets Step.next (fun desk s => ¬ Parts tenant_id c a desk s) desk steps := by
  refine along_iff_meets_of_forall (I := fun desk => ∃ record action,
    Coupled tenant_id c a record action desk) (P := fun s => s.call.On c a) ?_ ?_ ⟨record, action, h⟩ hon
  · rintro desk s desk' ⟨record, action, h⟩ hon hmeets hnext
    exact h.step hon hmeets hnext
  · rintro desk s desk' ⟨record, action, h⟩ hon hnext
    refine ⟨fun hresolve hparts => h.step_parts hparts hnext hresolve.1, fun hmeets => ?_⟩
    obtain ⟨record', action', h'⟩ := h.step hon hmeets hnext
    refine ⟨⟨record', action', h'.case_row, h'.action_row, h'.together⟩, fun r hr hopen => ?_⟩
    cases h'.case_row.symm.trans hr
    exact h'.resolvable hopen

end

/-! ## A case escalated, and an action approved too early -/

def boundCase : CaseApprovalRecord String Unit where
  approval_case_id := "c"
  tenant_id := "t"
  session_id := some "s"
  execution_id := none
  dispatch_id := none
  entry_category := "refund"
  status := .pending_sme_review
  recommended_action := some (Dict.ofList
    [("requires_execution", .bool true), ("action_approval_id", .str "a")])

def boundAction : ActionApprovalRecord String where
  approval_id := "a"
  tenant_id := "t"
  session_id := "s"
  execution_id := none
  tool_name := "refund"
  governance_decision_id := some "d"
  proposed_by := some "agent"

def boundDesk : Desk String Unit where
  cases := Dict.empty.set "c" boundCase
  actions := Dict.empty.set "a" boundAction
  proposals := .empty
  drafts := .empty
  decisions := Dict.empty.set "d"
    { decision_id := "d", decision := "require_approval", reason := "amount", request_id := none,
      tenant_id := some "t", subject_kind := "action", metadata := .empty }
  outbox := ⟨.empty, .empty⟩

theorem coupled_boundDesk : Coupled "t" "c" "a" boundCase boundAction boundDesk where
  keyed := by
    constructor
    · intro id r hr
      rcases Dict.get?_set_cases hr with ⟨rfl, rfl⟩ | ⟨-, hr⟩
      · rfl
      · cases hr
    · intro id r hr
      rcases Dict.get?_set_cases hr with ⟨rfl, rfl⟩ | ⟨-, hr⟩
      · rfl
      · cases hr
  case_row := rfl
  case_tenant := rfl
  bound := by decide
  claimed := by decide
  alone k r hr _ := by
    rcases Dict.get?_set_cases hr with ⟨rfl, -⟩ | ⟨-, hr⟩
    · rfl
    · cases hr
  action_row := rfl
  action_tenant := rfl
  together := by decide
  derived id d _ hd := by
    rcases Dict.get?_set_cases hd with ⟨-, rfl⟩ | ⟨-, hd⟩
    · rfl
    · cases hd

/-- A case that is reviewed and then approved takes its action with it. -/
theorem approved_together :
    Along Step.next (ResolveTogether "c" "a") boundDesk
      [⟨.review "c" "t", answering⟩, ⟨.approve "c" "t" "manager" none, answering⟩] := by
  refine (resolve_together coupled_boundDesk _ ?_).mpr ?_
  · simp [ApprovalCall.On]
  · exact fun _ _ => ⟨fun hparts => (nomatch hparts), fun _ _ => ⟨fun hparts => (nomatch hparts), trivial⟩⟩

/-- A case that is escalated leaves an action that can still be approved, and an action that is
approved before its case is reviewed leaves the case open. -/
theorem escalated_apart :
    Coupled "t" "c" "a" boundCase boundAction boundDesk ∧
      ¬ Along Step.next (ResolveTogether "c" "a") boundDesk
        [⟨.escalate "c" "t" "operator" "unclear", answering⟩] ∧
      ¬ Along Step.next (ResolveTogether "c" "a") boundDesk
        [⟨.approve_action "a" "manager" none "t" "t", answering⟩] := by
  refine ⟨coupled_boundDesk, fun h => ?_, fun h => ?_⟩
  · have hparts : Parts "t" "c" "a" boundDesk ⟨.escalate "c" "t" "operator" "unclear", answering⟩ :=
      .escalate _ _ _ boundCase none rfl rfl rfl rfl
    exact coupled_boundDesk.step_parts hparts rfl (h _ rfl).1.1
  · have hparts : Parts "t" "c" "a" boundDesk ⟨.approve_action "a" "manager" none "t" "t", answering⟩ :=
      .approve _ _ _ boundCase boundAction "d" _ rfl (by decide) rfl rfl (by decide) rfl rfl rfl rfl
    exact coupled_boundDesk.step_parts hparts rfl (h _ rfl).1.1

end operious.approvals
