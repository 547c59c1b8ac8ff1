-- What a call that returns has done: to the action that it resolves, to the case that follows, and to
-- the case that it was asked for.
import Operious.Approvals.Frames

namespace operious.approvals

open effects
open operious.governance (PyException)
open operious.resolution

section

variable {Uuid Json : Type}
variable {desk desk' : Desk Uuid Json} {tenant_id : String}
  {record saved : CaseApprovalRecord Uuid Json} {around : Collaborators Uuid Json}

/-! ## The single writes -/

theorem update_case_ok (h : run (update_case record tenant_id) desk = (.ok saved, desk')) :
    record.tenant_id = tenant_id ∧ (desk.cases.get? record.approval_case_id).isSome ∧
      saved = record ∧ desk' = desk.save_case record.approval_case_id record := by
  unfold update_case at h
  split at h
  · exact absurd h run_throw_ne
  · rename_i htenant
    obtain ⟨_, _, hget, h⟩ := run_bind_eq_ok.mp h
    cases hget
    cases hcase : get_case desk record.approval_case_id tenant_id with
    | none =>
      simp only [hcase] at h
      exact absurd h run_throw_ne
    | some old =>
      simp only [hcase] at h
      obtain ⟨_, _, hmodify, h⟩ := run_bind_eq_ok.mp h
      cases hmodify
      cases h
      refine ⟨not_not.mp htenant, ?_, rfl, rfl⟩
      rw [(Option.filter_eq_some_iff.mp hcase).1]
      rfl

variable {approval_case_id : String}

theorem require_case_ok
    (h : run (require_case approval_case_id tenant_id) desk = (.ok record, desk')) :
    desk.cases.get? approval_case_id = some record ∧ record.tenant_id = tenant_id ∧ desk = desk' := by
  obtain ⟨_, _, hget, h⟩ := run_bind_eq_ok.mp h
  cases hget
  cases hcase : get_case desk approval_case_id tenant_id with
  | none =>
    simp only [hcase] at h
    exact absurd h run_throw_ne
  | some found =>
    simp only [hcase, run_pure] at h
    cases h
    obtain ⟨hrow, htenant⟩ := Option.filter_eq_some_iff.mp hcase
    exact ⟨hrow, by simpa using htenant, rfl⟩

/-- What a claim leaves of the row that it matches, and what it writes there. -/
structure Claimed (status : CaseApprovalStatus) (resolved_by : String)
    (record record' : CaseApprovalRecord Uuid Json) : Prop where
  id : record'.approval_case_id = record.approval_case_id
  tenant : record'.tenant_id = record.tenant_id
  status : record'.status = status
  resolved_by : record'.resolved_by = some resolved_by
  proposal : record'.resolution_proposal_id = record.resolution_proposal_id
  action : record'.recommended_action = record.recommended_action
  metadata : record'.metadata = record.metadata

inductive CasesFollow (tenant_id action_approval_id : String) (status : CaseApprovalStatus)
    (resolved_by : String) (cases cases' : Dict String (CaseApprovalRecord Uuid Json)) : Prop
  | none (free : ∀ id r, cases.get? id = some r → claimable tenant_id action_approval_id r = false)
    (same : ∀ id, cases'.get? id = cases.get? id)
  | one (id : String) (r r' : CaseApprovalRecord Uuid Json) (row : cases.get? id = some r)
    (claimed : claimable tenant_id action_approval_id r = true)
    (only : ∀ k x, cases.get? k = some x → claimable tenant_id action_approval_id x = true → k = id)
    (row' : cases'.get? id = some r') (moved : Claimed status resolved_by r r')
    (others : ∀ k, k ≠ id → cases'.get? k = cases.get? k)

variable {resolved_at : Instant}

variable {resolved_by : String}

theorem claim_case_for_action_ok {action_approval_id note : String} {status : CaseApprovalStatus}
    {claimed : Option String}
    (h : run (claim_case_for_action tenant_id action_approval_id status resolved_at resolved_by note)
      desk = (.ok claimed, desk')) :
    (claimed = none ∧ desk' = desk ∧
      ∀ id r, desk.cases.get? id = some r → claimable tenant_id action_approval_id r = false) ∨
    ∃ id r r', claimed = some r.approval_case_id ∧ desk.cases.get? id = some r ∧
      claimable tenant_id action_approval_id r = true ∧
      (∀ k x, desk.cases.get? k = some x → claimable tenant_id action_approval_id x = true → k = id) ∧
      desk' = desk.save_case id r' ∧ Claimed status resolved_by r r' := by
  obtain ⟨_, _, hget, h⟩ := run_bind_eq_ok.mp h
  cases hget
  have hmem : ∀ k x, desk.cases.get? k = some x → claimable tenant_id action_approval_id x = true →
      (k, x) ∈ desk.cases.items.filter fun item => claimable tenant_id action_approval_id item.2 :=
    fun k x hx hclaim => List.mem_filter.mpr ⟨(Dict.get?_eq_some_iff _ _ _).mp hx, hclaim⟩
  rcases hrows : desk.cases.items.filter fun item => claimable tenant_id action_approval_id item.2 with
    _ | ⟨⟨id, r⟩, _ | ⟨other, rest⟩⟩
  · simp only [hrows, run_pure] at h
    cases h
    refine .inl ⟨rfl, rfl, fun k x hx => ?_⟩
    by_contra hclaim
    have hin := hmem k x hx (Bool.eq_true_of_not_eq_false hclaim)
    rw [hrows] at hin
    cases hin
  · simp only [hrows] at h
    obtain ⟨_, _, hmodify, h⟩ := run_bind_eq_ok.mp h
    cases hmodify
    cases h
    have hrow : (id, r) ∈ desk.cases.items.filter fun item =>
        claimable tenant_id action_approval_id item.2 := by
      rw [hrows]
      exact List.mem_singleton_self _
    obtain ⟨hget, hclaim⟩ := List.mem_filter.mp hrow
    refine .inr ⟨id, r, _, rfl, (Dict.get?_eq_some_iff _ _ _).mpr hget, hclaim, ?_, rfl,
      ⟨rfl, rfl, rfl, rfl, rfl, rfl, rfl⟩⟩
    intro k x hx hclaim
    have hin := hmem k x hx hclaim
    rw [hrows, List.mem_singleton] at hin
    exact congrArg Prod.fst hin
  · simp only [hrows] at h
    exact absurd h run_throw_ne

variable {note : Option String}

variable {approval_id : String} {metadata : Metadata}

theorem resolve_approval_ok {status : String} {resolved : Option (ActionApprovalRecord Uuid)}
    (h : run (resolve_approval approval_id tenant_id status resolved_at resolved_by note metadata) desk =
      (.ok resolved, desk')) :
    resolved = none ∨ ∃ old, desk.actions.get? approval_id = some old ∧ old.tenant_id = tenant_id ∧
      old.status = "pending" ∧
      resolved = some { old with
        status, resolved_at := some resolved_at, resolved_by := some resolved_by
        resolution_note := note, metadata } ∧
      desk' = { desk with actions := desk.actions.set approval_id { old with
        status, resolved_at := some resolved_at, resolved_by := some resolved_by
        resolution_note := note, metadata } } := by
  obtain ⟨_, _, hget, h⟩ := run_bind_eq_ok.mp h
  cases hget
  cases hold : get_approval desk approval_id tenant_id with
  | none =>
    simp only [hold, run_pure] at h
    cases h
    exact .inl rfl
  | some old =>
    simp only [hold] at h
    obtain ⟨hrow, htenant⟩ := Option.filter_eq_some_iff.mp hold
    split at h
    · cases h
      exact .inl rfl
    · rename_i hpending
      obtain ⟨_, _, hmodify, h⟩ := run_bind_eq_ok.mp h
      cases hmodify
      cases h
      exact .inr ⟨old, hrow, by simpa using htenant, not_not.mp hpending, rfl, rfl⟩

variable {approval : ActionApprovalRecord Uuid}

theorem require_pending_ok
    (h : run (require_pending approval_id tenant_id) desk = (.ok approval, desk')) :
    desk.actions.get? approval_id = some approval ∧ approval.tenant_id = tenant_id ∧
      approval.status = "pending" ∧ desk = desk' := by
  obtain ⟨_, _, hget, h⟩ := run_bind_eq_ok.mp h
  cases hget
  cases hold : get_approval desk approval_id tenant_id with
  | none =>
    simp only [hold] at h
    exact absurd h run_throw_ne
  | some old =>
    simp only [hold] at h
    obtain ⟨hrow, htenant⟩ := Option.filter_eq_some_iff.mp hold
    split at h
    · exact absurd h run_throw_ne
    · rename_i hpending
      cases h
      exact ⟨hrow, by simpa using htenant, not_not.mp hpending, rfl⟩

/-! ## A case that follows its action -/

variable [DecidableEq Uuid] [Stdlib Uuid] [Sha256]

theorem complete_reconciled_resolution_ok {delivered : Bool}
    (hrun : run (complete_reconciled_resolution around approval_case_id tenant_id resolved_by note) desk =
      (.ok delivered, desk')) :
    desk' = desk ∨ ∃ record proposal_id proposal decision_id mid,
      desk.cases.get? approval_case_id = some record ∧ record.tenant_id = tenant_id ∧
      record.status = .approved ∧ record.resolution_proposal_id = some proposal_id ∧
      get_resolution_proposal desk proposal_id tenant_id = some proposal ∧
      proposal.status = .pending_human_approval ∧ Beside tenant_id (some proposal_id) desk mid ∧
      desk' = mid.save_case record.approval_case_id
        { record with governance_decision_id := some decision_id } := by
  obtain ⟨record, _, hrecord, h⟩ := run_bind_eq_ok.mp hrun
  clear hrun
  obtain ⟨hrow, htenant, rfl⟩ := require_case_ok hrecord
  subst htenant
  split at h
  · cases h
    exact .inl rfl
  · rename_i happroved
    cases hproposal : record.resolution_proposal_id with
    | none =>
      simp only [hproposal, run_pure] at h
      cases h
      exact .inl rfl
    | some proposal_id =>
      simp only [hproposal] at h
      obtain ⟨_, _, hget, h⟩ := run_bind_eq_ok.mp h
      cases hget
      cases hfound : get_resolution_proposal desk proposal_id record.tenant_id with
      | none =>
        simp only [hfound, run_pure] at h
        cases h
        exact .inl rfl
      | some proposal =>
        simp only [hfound] at h
        split at h
        · cases h
          exact .inl rfl
        · rename_i hpending
          obtain ⟨decision_id, s1, hdecision, h⟩ := run_bind_eq_ok.mp h
          obtain ⟨_, s2, hdeliver, h⟩ := run_bind_eq_ok.mp h
          obtain ⟨_, s3, hupdate, h⟩ := run_bind_eq_ok.mp h
          cases h
          have hbeside1 := keeps_record_case_governance_decision (p := some proposal_id) record
            resolved_by "allow" approveChainId "case_approval_approved_reconciled" note desk
          have hbeside2 := keeps_deliver_resolution record.tenant_id around record
            proposal_id decision_id s1
          rw [hdecision] at hbeside1
          rw [hdeliver] at hbeside2
          obtain ⟨-, -, -, rfl⟩ := update_case_ok hupdate
          exact .inr ⟨record, proposal_id, proposal, decision_id, s2, hrow, rfl,
            not_not.mp happroved, hproposal, hfound, not_not.mp hpending, hbeside1.trans hbeside2,
            by rw [hproposal]⟩

structure Keyed (desk : Desk Uuid Json) : Prop where
  cases : ∀ id r, desk.cases.get? id = some r → r.approval_case_id = id
  actions : ∀ id r, desk.actions.get? id = some r → r.approval_id = id

structure Followed (tenant_id action_approval_id : String) (status : CaseApprovalStatus)
    (resolved_by : String) (desk desk' : Desk Uuid Json) : Prop where
  actions : desk'.actions = desk.actions
  cases : CasesFollow tenant_id action_approval_id status resolved_by desk.cases desk'.cases
  proposals : ∀ q, desk'.proposals.get? q = desk.proposals.get? q ∨
    (status = .approved ∧ ∃ id r, desk.cases.get? id = some r ∧
      claimable tenant_id action_approval_id r = true ∧ r.resolution_proposal_id = some q)
  decides : Decides tenant_id desk desk'

def followingStatus (action_status : String) : CaseApprovalStatus :=
  if action_status = "approved" then .approved else .rejected

theorem claim_and_complete_ok {action_approval_id action_status note : String}
    {completion : Option (String × Bool)} (hkeyed : Keyed desk)
    (hrun : run (claim_and_complete_case_for_action around action_approval_id tenant_id action_status
      resolved_by resolved_at note) desk = (.ok completion, desk')) :
    Followed tenant_id action_approval_id (followingStatus action_status) resolved_by desk desk' := by
  obtain ⟨claimed, s, hclaim, h⟩ := run_bind_eq_ok.mp hrun
  clear hrun
  change run (claim_case_for_action tenant_id action_approval_id (followingStatus action_status)
    resolved_at resolved_by note) desk = _ at hclaim
  rcases claim_case_for_action_ok hclaim with ⟨rfl, rfl, hfree⟩ |
    ⟨id, r, r', rfl, hrow, hclaimed, honly, rfl, hmoved⟩
  · cases h
    exact ⟨rfl, .none hfree fun _ => rfl, fun _ => .inl rfl, .refl _⟩
  · have hothers : ∀ k, k ≠ id → (desk.cases.set id r').get? k = desk.cases.get? k :=
      fun k hk => Dict.get?_set_ne _ _ (Ne.symm hk)
    have hclaimedOnly : Followed tenant_id action_approval_id (followingStatus action_status)
        resolved_by desk (desk.save_case id r') :=
      ⟨rfl, .one id r r' hrow hclaimed honly (Dict.get?_set_self _ _ _) hmoved hothers,
        fun _ => .inl rfl, .refl _⟩
    simp only at h
    split at h
    · rename_i hstatus
      obtain ⟨delivered, s2, hcomplete, h⟩ := run_bind_eq_ok.mp h
      cases h
      have hid := hkeyed.cases id r hrow
      rcases complete_reconciled_resolution_ok hcomplete with rfl |
        ⟨record, proposal_id, proposal, decision_id, mid, hrecord, htenant, happroved, hproposal,
          hfound, hpending, hbeside, rfl⟩
      · exact hclaimedOnly
      · rw [hid] at hrecord
        cases (Dict.get?_set_self desk.cases id r').symm.trans hrecord
        have hkey : r'.approval_case_id = id := hmoved.id.trans hid
        refine ⟨hbeside.actions, .one id r { r' with governance_decision_id := some decision_id } hrow
          hclaimed honly ?_ ⟨hmoved.id, hmoved.tenant, hmoved.status, hmoved.resolved_by,
            hmoved.proposal, hmoved.action, hmoved.metadata⟩ ?_, ?_, hbeside.decides⟩
        · rw [hkey]
          exact Dict.get?_set_self _ _ _
        · intro k hk
          rw [hkey]
          refine (Dict.get?_set_ne _ _ (Ne.symm hk)).trans ?_
          rw [hbeside.cases]
          exact hothers k hk
        · intro q
          by_cases hq : some proposal_id = some q
          · refine .inr ⟨if_pos hstatus, id, r, hrow, hclaimed, ?_⟩
            rw [← hmoved.proposal, hproposal, hq]
          · exact .inl (hbeside.proposals q hq)
    · cases h
      exact hclaimedOnly

/-! ## An action that is resolved -/

/-- What the resolution of an action leaves of its row, and what it writes there. -/
structure ActionMoved (status resolved_by : String) (old new : ActionApprovalRecord Uuid) : Prop where
  id : new.approval_id = old.approval_id
  tenant : new.tenant_id = old.tenant_id
  proposed_by : new.proposed_by = old.proposed_by
  status : new.status = status
  resolved_by : new.resolved_by = some resolved_by

structure ActionResolved (tenant_id action_approval_id status resolved_by : String)
    (desk desk' : Desk Uuid Json) : Prop where
  row : ∃ old new, desk.actions.get? action_approval_id = some old ∧ old.tenant_id = tenant_id ∧
    old.status = "pending" ∧ ActionMoved status resolved_by old new ∧
    desk'.actions = desk.actions.set action_approval_id new
  cases : CasesFollow tenant_id action_approval_id (followingStatus status) resolved_by desk.cases
    desk'.cases
  proposals : ∀ q, desk'.proposals.get? q = desk.proposals.get? q ∨
    (status = "approved" ∧ ∃ id r, desk.cases.get? id = some r ∧
      claimable tenant_id action_approval_id r = true ∧ r.resolution_proposal_id = some q)
  decides : Decides tenant_id desk desk'

variable {action_approval_id status resolved_by : String}

omit [Stdlib Uuid] [Sha256] in
theorem ActionResolved.of_tenant {action : ActionApprovalRecord Uuid}
    (h : ActionResolved tenant_id action_approval_id status resolved_by desk desk')
    (hrow : desk.actions.get? action_approval_id = some action) : action.tenant_id = tenant_id := by
  obtain ⟨old, new, hold, htenant, -⟩ := h.row
  cases hrow.symm.trans hold
  exact htenant

theorem resolve_and_complete_ok {approval resolved : ActionApprovalRecord Uuid}
    {status resolved_by : String} (hkeyed : Keyed desk)
    (hrun : run (resolve_and_complete around approval tenant_id status resolved_by note metadata) desk =
      (.ok resolved, desk')) :
    ActionResolved tenant_id approval.approval_id status resolved_by desk desk' := by
  obtain ⟨row, s, hresolve, h⟩ := run_bind_eq_ok.mp hrun
  clear hrun
  rcases resolve_approval_ok hresolve with rfl | ⟨old, hold, htenant, hpending, rfl, rfl⟩
  · exact absurd h run_throw_ne
  · obtain ⟨_, _, hcomplete, h⟩ := run_bind_eq_ok.mp h
    cases h
    obtain ⟨completion, _, hclaim, h⟩ := run_bind_eq_ok.mp hcomplete
    cases h
    have hid := hkeyed.actions _ old hold
    set new := { old with
      status, resolved_at := some around.now, resolved_by := some resolved_by
      resolution_note := note, metadata } with hnew
    have hmid : Keyed { desk with actions := desk.actions.set approval.approval_id new } := by
      refine ⟨hkeyed.cases, fun k x hx => ?_⟩
      rcases Dict.get?_set_cases hx with ⟨rfl, rfl⟩ | ⟨-, hx⟩
      · exact hid
      · exact hkeyed.actions k x hx
    have hfollowed := claim_and_complete_ok hmid hclaim
    change Followed old.tenant_id old.approval_id (followingStatus status) resolved_by _ _ at hfollowed
    rw [htenant, hid] at hfollowed
    refine ⟨⟨old, new, hold, htenant, hpending, ⟨rfl, rfl, rfl, rfl, rfl⟩, hfollowed.actions⟩,
      hfollowed.cases, fun q => ?_, hfollowed.decides⟩
    rcases hfollowed.proposals q with hsame | ⟨hstatus, hrest⟩
    · exact .inl hsame
    · refine .inr ⟨?_, hrest⟩
      by_contra hnot
      rw [followingStatus, if_neg hnot] at hstatus
      cases hstatus

variable {mid : Desk Uuid Json}

omit [Stdlib Uuid] [Sha256] in
theorem ActionResolved.after (h : Beside tenant_id none desk mid)
    (hresolved : ActionResolved tenant_id action_approval_id status resolved_by mid desk') :
    ActionResolved tenant_id action_approval_id status resolved_by desk desk' where
  row := h.actions ▸ hresolved.row
  cases := h.cases ▸ hresolved.cases
  proposals q := by
    rw [← h.proposals q (by simp), ← h.cases]
    exact hresolved.proposals q
  decides := h.decides.trans hresolved.decides

omit [DecidableEq Uuid] [Sha256] in
theorem with_resolution_metadata_keeps (desk : Desk Uuid Json) (approval : ActionApprovalRecord Uuid)
    (tenant_id : String) :
    (with_resolution_metadata desk approval tenant_id).approval_id = approval.approval_id ∧
      (with_resolution_metadata desk approval tenant_id).tenant_id = approval.tenant_id := by
  unfold with_resolution_metadata
  split
  · exact ⟨rfl, rfl⟩
  · split <;> exact ⟨rfl, rfl⟩

omit [Stdlib Uuid] [Sha256] in
theorem Keyed.beside {p : Option Uuid} (hkeyed : Keyed desk) (h : Beside tenant_id p desk mid) :
    Keyed mid where
  cases := h.cases ▸ hkeyed.cases
  actions := h.actions ▸ hkeyed.actions

omit [DecidableEq Uuid] [Stdlib Uuid] [Sha256] in
theorem run_assert_tenant {other : String}
    (h : run (lift (assert_tenant tenant_id other) : Call Uuid Json Unit) desk = (.ok (), desk')) :
    tenant_id = other ∧ desk = desk' := by
  rw [run_lift] at h
  unfold assert_tenant at h
  split at h
  · cases h
  · rename_i htenant
    cases h
    exact ⟨not_not.mp htenant, rfl⟩

omit [Stdlib Uuid] [Sha256] in
theorem source_decision_ok {source : GovernanceDecisionRecord Uuid}
    (h : run (source_decision approval tenant_id) desk = (.ok source, desk')) :
    (∃ source_id, approval.governance_decision_id = some source_id ∧
      get_decision desk source_id tenant_id = some source) ∧ desk = desk' := by
  unfold source_decision at h
  cases hid : approval.governance_decision_id with
  | none =>
    simp only [hid] at h
    exact absurd h run_throw_ne
  | some source_id =>
    simp only [hid] at h
    obtain ⟨_, _, hget, h⟩ := run_bind_eq_ok.mp h
    cases hget
    cases hfound : get_decision desk source_id tenant_id with
    | none =>
      simp only [hfound] at h
      exact absurd h run_throw_ne
    | some d =>
      simp only [hfound, run_pure] at h
      cases h
      exact ⟨⟨source_id, rfl, hfound⟩, rfl⟩

/-- What an action has where it is approved: somebody else proposed it, there is a decision that it
comes from, and it is executed. -/
structure Approvable (tenant_id approved_by : String) (around : Collaborators Uuid Json)
    (desk : Desk Uuid Json) (action : ActionApprovalRecord Uuid) : Prop where
  pending : action.status = "pending"
  separate : action.proposed_by ≠ some approved_by
  source : ∃ source_id source, action.governance_decision_id = some source_id ∧
    get_decision desk source_id tenant_id = some source
  executed : around.orchestration = .ok "executed"

variable {resolved : ActionApprovalRecord Uuid}

theorem approve_in_transaction_ok {approved_by expected_tenant_id : String} (hkeyed : Keyed desk)
    (hrun : run (approve_in_transaction around approval_id approved_by note tenant_id
      expected_tenant_id) desk = (.ok resolved, desk')) :
    tenant_id = expected_tenant_id ∧
      (∃ old, desk.actions.get? approval_id = some old ∧
        Approvable tenant_id approved_by around desk old) ∧
      ActionResolved tenant_id approval_id "approved" approved_by desk desk' := by
  obtain ⟨_, _, htenant, h⟩ := run_bind_eq_ok.mp hrun
  clear hrun
  obtain ⟨rfl, rfl⟩ := run_assert_tenant htenant
  obtain ⟨approval, _, hpending, h⟩ := run_bind_eq_ok.mp h
  obtain ⟨hrow, hown, hwaits, rfl⟩ := require_pending_ok hpending
  split at h
  · exact absurd h run_throw_ne
  · rename_i hproposer
    obtain ⟨source, _, hsource, h⟩ := run_bind_eq_ok.mp h
    obtain ⟨⟨source_id, hid', hfound⟩, rfl⟩ := source_decision_ok hsource
    obtain ⟨_, _, hget, h⟩ := run_bind_eq_ok.mp h
    cases hget
    obtain ⟨hid, htenant'⟩ := with_resolution_metadata_keeps desk approval tenant_id
    obtain ⟨decision_id, mid, hdecision, h⟩ := run_bind_eq_ok.mp h
    obtain ⟨status, _, hlift, h⟩ := run_bind_eq_ok.mp h
    obtain ⟨hstatus, rfl⟩ := Prod.mk.inj hlift
    split at h
    · exact absurd h run_throw_ne
    · rename_i hexecuted
      refine ⟨rfl, ⟨approval, hrow, hwaits, fun heq => hproposer heq.symm,
        ⟨source_id, source, hid', hfound⟩, ?_⟩, ?_⟩
      · rw [hstatus, not_not.mp hexecuted]
      · have hbeside := keeps_record_manager_approval_decision Json (p := none)
          (with_resolution_metadata desk approval tenant_id) source approved_by note desk
        rw [hdecision, htenant', hown] at hbeside
        have hresolved := resolve_and_complete_ok (hkeyed.beside hbeside) h
        rw [hid, hkeyed.actions _ approval hrow] at hresolved
        exact hresolved.after hbeside

theorem deny_in_transaction_ok {denied_by reason expected_tenant_id : String} (hkeyed : Keyed desk)
    (hrun : run (deny_in_transaction around approval_id denied_by reason tenant_id
      expected_tenant_id) desk = (.ok resolved, desk')) :
    tenant_id = expected_tenant_id ∧ (strip reason).isEmpty = false ∧
      (∃ old, desk.actions.get? approval_id = some old ∧ old.status = "pending" ∧
        old.proposed_by ≠ some denied_by) ∧
      ActionResolved tenant_id approval_id "denied" denied_by desk desk' := by
  obtain ⟨_, _, htenant, h⟩ := run_bind_eq_ok.mp hrun
  clear hrun
  obtain ⟨rfl, rfl⟩ := run_assert_tenant htenant
  dsimp only at h
  split at h
  · exact absurd h run_throw_ne
  · rename_i hnoted
    obtain ⟨approval, _, hpending, h⟩ := run_bind_eq_ok.mp h
    obtain ⟨hrow, hown, hwaits, rfl⟩ := require_pending_ok hpending
    split at h
    · exact absurd h run_throw_ne
    · rename_i hproposer
      obtain ⟨_, _, hget, h⟩ := run_bind_eq_ok.mp h
      cases hget
      have hresolved := resolve_and_complete_ok hkeyed h
      rw [(with_resolution_metadata_keeps _ approval _).1, hkeyed.actions _ approval hrow] at hresolved
      exact ⟨rfl, Bool.eq_false_of_not_eq_true hnoted,
        ⟨approval, hrow, hwaits, fun heq => hproposer heq.symm⟩, hresolved⟩

end

end operious.approvals
