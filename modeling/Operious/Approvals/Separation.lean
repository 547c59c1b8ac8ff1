-- Separation of duties: who proposes an action does not resolve it, and who guides a case does not
-- approve it, where the calls of one principal keep away from the cases that the principal guided.
import Operious.Approvals.Coupling

namespace operious.approvals

open effects runs
open operious.resolution

section

variable {Uuid Json : Type}

def ApprovalCall.principal : ApprovalCall → Option String
  | review .. => none
  | guide _ _ by_ _ | approve _ _ by_ _ | reject _ _ by_ _ | escalate _ _ by_ _
  | approve_action _ by_ _ _ _ | deny_action _ by_ _ _ _ | claim _ _ _ by_ _ _ | complete _ _ by_ _ =>
    some by_

/-- Nobody approved a case after guiding it, and nobody resolved an action after proposing it. -/
structure Separate (desk : Desk Uuid Json) : Prop where
  cases : ∀ k r, desk.cases.get? k = some r → r.status = .approved →
    ∀ p, r.guidedBy = some (.str p) → r.resolved_by ≠ some p
  actions : ∀ k x, desk.actions.get? k = some x → x.status = "approved" ∨ x.status = "denied" →
    ∀ p, x.resolved_by = some p → x.proposed_by ≠ some p

/-- What a call of `p` may do to a case: nothing that concerns its approval, or the case ends up not
approved, or it is approved by `p`, who did not guide it. -/
inductive CaseMoves (p : Option String) (r r' : CaseApprovalRecord Uuid Json) : Prop
  | kept (status : r'.status = r.status) (guided : r'.guidedBy = r.guidedBy)
    (resolved_by : r'.resolved_by = r.resolved_by)
  | unapproved (status : r'.status ≠ .approved)
  | approved (resolved_by : r'.resolved_by = p) (guided : ∀ q, p = some q → r'.guidedBy ≠ some (.str q))

/-- Who guided the case `k` is as before, or it is who guides it now. -/
def GuidanceKept (call : ApprovalCall) (k : String) (r r' : CaseApprovalRecord Uuid Json) : Prop :=
  r'.guidedBy = r.guidedBy ∨
    ∃ tenant_id by_ guidance, call = .guide k tenant_id by_ guidance ∧ r'.guidedBy = some (.str by_)

variable [DecidableEq Uuid]

structure Separates (call : ApprovalCall) (desk desk' : Desk Uuid Json) : Prop where
  cases : ∀ k r', desk'.cases.get? k = some r' → ∃ r, desk.cases.get? k = some r ∧
    r'.approval_case_id = r.approval_case_id ∧ GuidanceKept call k r r' ∧
      CaseMoves call.principal r r'
  actions : ∀ k x', desk'.actions.get? k = some x' → ∃ x, desk.actions.get? k = some x ∧
    x'.approval_id = x.approval_id ∧
      (x' = x ∨ (x'.resolved_by = call.principal ∧ ∀ q, call.principal = some q → x'.proposed_by ≠ some q))
  proposals : ∀ q, desk'.proposals.get? q = desk.proposals.get? q ∨
    ∀ k r, desk.cases.get? k = some r → r.resolution_proposal_id = some q →
      ∀ who, call.principal = some who → r.guidedBy ≠ some (.str who)

variable {call : ApprovalCall} {desk desk' : Desk Uuid Json}

theorem Separates.keyed (h : Separates call desk desk') (hkeyed : Keyed desk) : Keyed desk' where
  cases k r' hr' := by
    obtain ⟨r, hr, hid, -⟩ := h.cases k r' hr'
    exact hid.trans (hkeyed.cases k r hr)
  actions k x' hx' := by
    obtain ⟨x, hx, hid, -⟩ := h.actions k x' hx'
    exact hid.trans (hkeyed.actions k x hx)

theorem Separates.separate (h : Separates call desk desk') (hseparate : Separate desk) :
    Separate desk' where
  cases k r' hr' happroved q hguided := by
    obtain ⟨r, hr, -, -, hmoves⟩ := h.cases k r' hr'
    cases hmoves with
    | kept hstatus hguide hby =>
      rw [hby]
      exact hseparate.cases k r hr (hstatus ▸ happroved) q (hguide ▸ hguided)
    | unapproved hstatus => exact absurd happroved hstatus
    | approved hby hfree => exact fun heq => hfree q (hby.symm.trans heq) hguided
  actions k x' hx' hresolved q hby := by
    obtain ⟨x, hx, -, rfl | ⟨hby', hfree⟩⟩ := h.actions k x' hx'
    · exact hseparate.actions k x' hx hresolved q hby
    · exact hfree q (hby'.symm.trans hby)

theorem Separates.refl (desk : Desk Uuid Json) : Separates call desk desk where
  cases _ r hr := ⟨r, hr, rfl, .inl rfl, .kept rfl rfl rfl⟩
  actions _ x hx := ⟨x, hx, rfl, .inl rfl⟩
  proposals _ := .inl rfl

/-! ## What each call does -/

theorem Separates.of_case {k : String} {r r' : CaseApprovalRecord Uuid Json}
    (hrow : desk.cases.get? k = some r) (hcases : desk'.cases = desk.cases.set k r')
    (hactions : desk'.actions = desk.actions)
    (hproposals : ∀ q, desk'.proposals.get? q = desk.proposals.get? q ∨
      ∀ k r, desk.cases.get? k = some r → r.resolution_proposal_id = some q →
        ∀ who, call.principal = some who → r.guidedBy ≠ some (.str who))
    (hid : r'.approval_case_id = r.approval_case_id) (hguidance : GuidanceKept call k r r')
    (hmoves : CaseMoves call.principal r r') : Separates call desk desk' where
  cases j x hx := by
    rw [hcases] at hx
    rcases Dict.get?_set_cases hx with ⟨rfl, rfl⟩ | ⟨-, hx⟩
    · exact ⟨r, hrow, hid, hguidance, hmoves⟩
    · exact ⟨x, hx, rfl, .inl rfl, .kept rfl rfl rfl⟩
  actions j x hx := ⟨x, hactions ▸ hx, rfl, .inl rfl⟩
  proposals := hproposals

variable {tenant_id : String}

omit [DecidableEq Uuid] in
theorem CasesFollow.moves {a by_ : String} {status : CaseApprovalStatus}
    {cases cases' : Dict String (CaseApprovalRecord Uuid Json)}
    (h : CasesFollow tenant_id a status by_ cases cases')
    (hfree : status = .approved → ∀ k r, cases.get? k = some r → claimable tenant_id a r = true →
      r.guidedBy ≠ some (.str by_)) (k : String) (r' : CaseApprovalRecord Uuid Json)
    (hr' : cases'.get? k = some r') :
    ∃ r, cases.get? k = some r ∧ r'.approval_case_id = r.approval_case_id ∧
      r'.guidedBy = r.guidedBy ∧ CaseMoves (some by_) r r' := by
  rcases h with ⟨-, hsame⟩ | ⟨id, r, new, hrow, hclaimed, -, hnew, hmoved, hothers⟩
  · exact ⟨r', (hsame k).symm.trans hr', rfl, rfl, .kept rfl rfl rfl⟩
  · by_cases hk : k = id
    · subst hk
      cases hnew.symm.trans hr'
      have hguided : r'.guidedBy = r.guidedBy := by
        rw [CaseApprovalRecord.guidedBy, hmoved.metadata]
        rfl
      refine ⟨r, hrow, hmoved.id, hguided, ?_⟩
      by_cases hstatus : status = .approved
      · refine .approved hmoved.resolved_by fun q hq => ?_
        cases hq
        rw [hguided]
        exact hfree hstatus k r hrow hclaimed
      · exact .unapproved (hmoved.status ▸ hstatus)
    · exact ⟨r', (hothers k hk).symm.trans hr', rfl, rfl, .kept rfl rfl rfl⟩

/-- Nobody who guided the case `r`, or another case with the same proposal, is `who`. -/
def Unguided (who : String) (desk : Desk Uuid Json) (k : String) (r : CaseApprovalRecord Uuid Json) :
    Prop :=
  ∀ k' r', desk.cases.get? k' = some r' →
    (k' = k ∨ ∃ q, r.resolution_proposal_id = some q ∧ r'.resolution_proposal_id = some q) →
      r'.guidedBy ≠ some (.str who)

theorem ActionResolved.separates {a status by_ : String} (hprincipal : call.principal = some by_)
    (h : ActionResolved tenant_id a status by_ desk desk') {old : ActionApprovalRecord Uuid}
    (hold : desk.actions.get? a = some old) (hseparate : old.proposed_by ≠ some by_)
    (hfree : status = "approved" → ∀ k r, desk.cases.get? k = some r →
      claimable tenant_id a r = true → Unguided by_ desk k r) : Separates call desk desk' where
  cases k r' hr' := by
    obtain ⟨r, hr, hid, hguided, hmoves⟩ := h.cases.moves (fun hstatus j x hx hclaim =>
      hfree (by by_contra hnot; simp [followingStatus, hnot] at hstatus) j x hx hclaim j x hx (.inl rfl))
      k r' hr'
    exact ⟨r, hr, hid, .inl hguided, hprincipal ▸ hmoves⟩
  actions k x' hx' := by
    obtain ⟨old', new, hold', -, -, hmoved, hactions⟩ := h.row
    cases hold.symm.trans hold'
    rw [hactions] at hx'
    rcases Dict.get?_set_cases hx' with ⟨rfl, rfl⟩ | ⟨-, hx'⟩
    · refine ⟨old, hold, hmoved.id, .inr ⟨hprincipal ▸ hmoved.resolved_by, fun q hq => ?_⟩⟩
      cases hprincipal.symm.trans hq
      rw [hmoved.proposed_by]
      exact hseparate
    · exact ⟨x', hx', rfl, .inl rfl⟩
  proposals q := by
    rcases h.proposals q with hsame | ⟨hstatus, k, r, hr, hclaim, hq⟩
    · exact .inl hsame
    · refine .inr fun k' r' hr' hq' who hwho => ?_
      cases hprincipal.symm.trans hwho
      exact hfree hstatus k r hr hclaim k' r' hr' (.inr ⟨q, hq, hq'⟩)

variable [Stdlib Uuid] [Sha256] {around : Collaborators Uuid Json}

section

variable {record : CaseApprovalRecord Uuid Json} {decision_id : Uuid} {who : String}

omit [DecidableEq Uuid] [Stdlib Uuid] [Sha256] in
@[simp] theorem guidedBy_reviewedCase (recommendation : SmeRecommendation Json) :
    (reviewedCase record recommendation).guidedBy = record.guidedBy := by
  simp [CaseApprovalRecord.guidedBy, reviewedCase, Dict.update, Dict.get?_set]

omit [DecidableEq Uuid] [Sha256] in
@[simp] theorem guidedBy_guidedCase (guidance : String) :
    (guidedCase record who guidance decision_id).guidedBy = some (.str who) := by
  simp [CaseApprovalRecord.guidedBy, guidedCase, Dict.update, Dict.get?_set]

section

omit [DecidableEq Uuid] [Stdlib Uuid] [Sha256]

@[simp] theorem guidedBy_approvedCase (note : Option String) (now : Instant) :
    (approvedCase record decision_id who note now).guidedBy = record.guidedBy := by
  simp [CaseApprovalRecord.guidedBy, approvedCase, resolvedCase, Dict.update, Dict.get?_set]

@[simp] theorem guidedBy_rejectedCase (reason : Option String) (now : Instant) :
    (rejectedCase record decision_id who reason now).guidedBy = record.guidedBy := by
  simp [CaseApprovalRecord.guidedBy, rejectedCase, resolvedCase, Dict.update, Dict.get?_set]

@[simp] theorem guidedBy_escalatedCase (reason : String) (escalation_id : Option String)
    (now : Instant) :
    (escalatedCase record decision_id who reason escalation_id now).guidedBy = record.guidedBy := by
  simp [CaseApprovalRecord.guidedBy, escalatedCase, resolvedCase, Dict.update, Dict.get?_set]

end

end

variable {saved : CaseApprovalRecord Uuid Json}

omit [Stdlib Uuid] [Sha256] in
theorem separates_review {id : String} (hkeyed : Keyed desk)
    (hrun : run (review_case around id tenant_id) desk = (.ok saved, desk')) :
    Separates (.review id tenant_id) desk desk' := by
  obtain ⟨r, hr, -, hrun⟩ := of_require_case hrun
  obtain ⟨-, -, recommendation, -, rfl, rfl⟩ := review_record_ok hrun
  rw [hkeyed.cases id r hr]
  have hcases : (desk.save_case id (reviewedCase r recommendation)).cases =
    desk.cases.set id (reviewedCase r recommendation) := rfl
  exact .of_case hr hcases rfl (fun _ => .inl rfl) rfl (.inl (guidedBy_reviewedCase _))
    (.unapproved (fun heq => nomatch heq))

omit [Sha256] in
theorem separates_guide {id guided_by guidance : String} (hkeyed : Keyed desk)
    (hrun : run (guide_case around id tenant_id guided_by guidance) desk = (.ok saved, desk')) :
    Separates (.guide id tenant_id guided_by guidance) desk desk' := by
  obtain ⟨r, hr, -, hrun⟩ := of_require_case hrun
  obtain ⟨-, -, decision_id, recommendation, mid, hbeside, rfl, rfl⟩ := guide_record_ok hrun
  rw [hkeyed.cases id r hr]
  set guided := guidedCase r guided_by guidance decision_id
  have hcases : ((mid.save_case id guided).save_case id (reviewedCase guided recommendation)).cases =
      desk.cases.set id (reviewedCase guided recommendation) := by
    change (mid.cases.set id _).set id _ = _
    rw [Dict.set_set, hbeside.cases]
  refine .of_case hr hcases hbeside.actions (fun q => .inl (hbeside.proposals q nofun)) rfl (.inr ?_)
    (.unapproved (fun heq => nomatch heq))
  exact ⟨tenant_id, guided_by, guidance, rfl, by simp [guided]⟩

omit [Sha256] in
theorem separates_escalate {id escalated_by reason : String} (hkeyed : Keyed desk)
    (hrun : run (escalate_case around id tenant_id escalated_by reason) desk = (.ok saved, desk')) :
    Separates (.escalate id tenant_id escalated_by reason) desk desk' := by
  obtain ⟨r, hr, -, hrun⟩ := of_require_case hrun
  obtain ⟨-, -, decision_id, escalation_id, mid, -, hbeside, rfl, rfl⟩ := escalate_record_ok hrun
  rw [hkeyed.cases id r hr]
  set escalated := escalatedCase r decision_id escalated_by reason escalation_id around.now
  have hcases : (mid.save_case id escalated).cases = desk.cases.set id escalated := by
    change mid.cases.set id _ = _
    rw [hbeside.cases]
  exact .of_case hr hcases hbeside.actions (fun q => .inl (hbeside.proposals q nofun)) rfl
    (.inl (guidedBy_escalatedCase _ _ _)) (.unapproved (fun heq => nomatch heq))

omit [Stdlib Uuid] [Sha256] in
theorem Resolving.separates {id status by_ : String} {q : Option Uuid}
    {r r' : CaseApprovalRecord Uuid Json} {mid : Desk Uuid Json}
    (hprincipal : call.principal = some by_) (h : Resolving tenant_id r status by_ q desk mid)
    (hrow : desk.cases.get? id = some r) (hid : r'.approval_case_id = r.approval_case_id)
    (hguided : r'.guidedBy = r.guidedBy) (hmoves : CaseMoves (some by_) r r')
    (hreply : ∀ p, q = some p → ∀ k x, desk.cases.get? k = some x →
      x.resolution_proposal_id = some p → x.guidedBy ≠ some (.str by_))
    (hfree : status = "approved" → ∀ a, r.boundAction = some a → ∀ k x, desk.cases.get? k = some x →
      claimable tenant_id a x = true → Unguided by_ desk k x) :
    Separates call desk (mid.save_case id r') := by
  have hreplied : ∀ (t : Desk Uuid Json), Beside tenant_id q desk t → ∀ p,
      t.proposals.get? p = desk.proposals.get? p ∨
        ∀ k x, desk.cases.get? k = some x → x.resolution_proposal_id = some p →
          ∀ who, call.principal = some who → x.guidedBy ≠ some (.str who) := by
    intro t hbeside p
    by_cases hp : q = some p
    · refine .inr fun k x hx hproposal who hwho => ?_
      cases hprincipal.symm.trans hwho
      exact hreply p hp k x hx hproposal
    · exact .inl (hbeside.proposals p hp)
  rcases h with ⟨-, hbeside⟩ | ⟨a, pre, old, hbound, hbeside, hold, hseparate, hresolved⟩
  · have hcases : (mid.save_case id r').cases = desk.cases.set id r' := by
      change mid.cases.set id _ = _
      rw [hbeside.cases]
    exact .of_case hrow hcases hbeside.actions (hreplied mid hbeside) hid (.inl hguided)
      (hprincipal ▸ hmoves)
  · have hfollowed : Separates call pre mid := by
      refine hresolved.separates hprincipal (hbeside.actions ▸ hold) hseparate fun hstatus k x hx hclaim => ?_
      rw [hbeside.cases] at hx
      intro k' x' hx'
      rw [hbeside.cases] at hx'
      exact hfree hstatus a hbound k x hx hclaim k' x' hx'
    constructor
    · intro k x hx
      rcases Dict.get?_set_cases hx with ⟨rfl, rfl⟩ | ⟨-, hx⟩
      · exact ⟨r, hrow, hid, .inl hguided, hprincipal ▸ hmoves⟩
      · have := hfollowed.cases k x hx
        rwa [hbeside.cases] at this
    · intro k x hx
      have := hfollowed.actions k x hx
      rwa [hbeside.actions] at this
    · intro p
      rcases hfollowed.proposals p with hsame | hfree'
      · have := hreplied pre hbeside p
        rwa [← hsame] at this
      · rw [hbeside.cases] at hfree'
        exact .inr hfree'

/-! ## Every call -/

/-- The case that the call of the principal approves, or whose reply it releases, in the state that
the call starts in. -/
inductive Releases (desk : Desk Uuid Json) :
    Step Uuid Json → String → String → CaseApprovalRecord Uuid Json → Prop
  | approve {id tenant_id by_ : String} {note : Option String} {around : Collaborators Uuid Json}
    {r : CaseApprovalRecord Uuid Json} (row : desk.cases.get? id = some r)
    (awaiting : r.status = .awaiting_approval) (unguarded : text r.guidedBy ≠ some by_) :
    Releases desk ⟨.approve id tenant_id by_ note, around⟩ by_ id r
  | follow {id tenant_id by_ a k : String} {note : Option String} {around : Collaborators Uuid Json}
    {record r : CaseApprovalRecord Uuid Json} (approved : desk.cases.get? id = some record)
    (awaiting : record.status = .awaiting_approval) (unguarded : text record.guidedBy ≠ some by_)
    (bound : record.boundAction = some a) (row : desk.cases.get? k = some r)
    (claimed : claimable tenant_id a r = true) :
    Releases desk ⟨.approve id tenant_id by_ note, around⟩ by_ k r
  | approve_action {a by_ tenant_id k : String} {note : Option String}
    {around : Collaborators Uuid Json} {action : ActionApprovalRecord Uuid}
    {r : CaseApprovalRecord Uuid Json} (action_row : desk.actions.get? a = some action)
    (approvable : Approvable tenant_id by_ around desk action) (row : desk.cases.get? k = some r)
    (claimed : claimable tenant_id a r = true) :
    Releases desk ⟨.approve_action a by_ note tenant_id tenant_id, around⟩ by_ k r
  | claim {a tenant_id by_ note k : String} {resolved_at : Instant}
    {around : Collaborators Uuid Json} {r : CaseApprovalRecord Uuid Json}
    (row : desk.cases.get? k = some r) (claimed : claimable tenant_id a r = true) :
    Releases desk ⟨.claim a tenant_id "approved" by_ resolved_at note, around⟩ by_ k r
  | complete {id tenant_id by_ : String} {note : Option String} {around : Collaborators Uuid Json}
    {r : CaseApprovalRecord Uuid Json} {p : Uuid} {proposal : ResolutionProposalRecord Uuid Json}
    (row : desk.cases.get? id = some r) (approved : r.status = .approved)
    (bound : r.resolution_proposal_id = some p)
    (found : get_resolution_proposal desk p tenant_id = some proposal)
    (pending : proposal.status = .pending_human_approval) :
    Releases desk ⟨.complete id tenant_id by_ note, around⟩ by_ id r

/-- Nobody releases a case that they guided, or one that shares its reply with such a case. -/
def KeepsAway (desk : Desk Uuid Json) (step : Step Uuid Json) : Prop :=
  ∀ who k r, Releases desk step who k r → Unguided who desk k r

variable {id tenant_id by_ : String}

variable {note : Option String}

theorem separates_approve (hkeyed : Keyed desk)
    (haway : KeepsAway desk ⟨.approve id tenant_id by_ note, around⟩)
    (hrun : run (approve_case around id tenant_id by_ note) desk = (.ok saved, desk')) :
    Separates (.approve id tenant_id by_ note) desk desk' := by
  obtain ⟨r, hr, -, hrun⟩ := of_require_case hrun
  obtain ⟨-, hawaiting, hguard, decision_id, mid, hresolving, rfl, rfl⟩ :=
    approve_record_ok hkeyed hrun
  rw [hkeyed.cases id r hr]
  have hunguided := haway by_ id r (.approve hr hawaiting hguard)
  refine hresolving.separates rfl hr rfl (guidedBy_approvedCase _ _) (.approved rfl fun q hq => ?_)
    (fun p hp k x hx hproposal => hunguided k x hx (.inr ⟨p, hp, hproposal⟩))
    (fun _ a hbound k x hx hclaim => haway by_ k x (.follow hr hawaiting hguard hbound hx hclaim))
  cases hq
  rw [guidedBy_approvedCase]
  exact hunguided id r hr (.inl rfl)

theorem separates_reject {reason : Option String} (hkeyed : Keyed desk)
    (hrun : run (reject_case around id tenant_id by_ reason) desk = (.ok saved, desk')) :
    Separates (.reject id tenant_id by_ reason) desk desk' := by
  obtain ⟨r, hr, -, hrun⟩ := of_require_case hrun
  obtain ⟨-, -, decision_id, mid, hresolving, rfl, rfl⟩ := reject_record_ok hkeyed hrun
  rw [hkeyed.cases id r hr]
  exact hresolving.separates rfl hr rfl (guidedBy_rejectedCase _ _)
    (.unapproved (fun heq => nomatch heq)) nofun (fun heq => nomatch heq)

theorem separates_complete {delivered : Bool} (hkeyed : Keyed desk)
    (haway : KeepsAway desk ⟨.complete id tenant_id by_ note, around⟩)
    (hrun : run (complete_reconciled_resolution around id tenant_id by_ note) desk =
      (.ok delivered, desk')) : Separates (.complete id tenant_id by_ note) desk desk' := by
  rcases complete_reconciled_resolution_ok hrun with rfl |
    ⟨r, p, proposal, decision_id, mid, hr, -, happroved, hbound, hfound, hpending, hbeside, rfl⟩
  · exact .refl desk'
  · have hunguided := haway by_ id r (.complete hr happroved hbound hfound hpending)
    set completed := { r with governance_decision_id := some decision_id } with hcompleted
    rw [hkeyed.cases id r hr]
    have hcases : (mid.save_case id completed).cases = desk.cases.set id completed := by
      change mid.cases.set id _ = _
      rw [hbeside.cases]
    refine .of_case hr hcases hbeside.actions (fun q => ?_) rfl (.inl rfl) (.kept rfl rfl rfl)
    by_cases hq : some p = some q
    · refine .inr fun k x hx hproposal who hwho => ?_
      cases hwho
      exact hunguided k x hx (.inr ⟨q, hbound.trans hq, hproposal⟩)
    · exact .inl (hbeside.proposals q hq)

theorem separates_claim {a tenant_id status by_ note : String} {resolved_at : Instant}
    {completion : Option (String × Bool)} (hkeyed : Keyed desk)
    (haway : KeepsAway desk ⟨.claim a tenant_id status by_ resolved_at note, around⟩)
    (hrun : run (claim_and_complete_case_for_action around a tenant_id status by_ resolved_at note)
      desk = (.ok completion, desk')) :
    Separates (.claim a tenant_id status by_ resolved_at note) desk desk' := by
  have hfollowed := claim_and_complete_ok hkeyed hrun
  have hunguided : followingStatus status = .approved → ∀ k r, desk.cases.get? k = some r →
      claimable tenant_id a r = true → Unguided by_ desk k r := by
    intro hstatus k r hr hclaim
    have happroved : status = "approved" := by
      by_contra hnot
      simp [followingStatus, hnot] at hstatus
    subst happroved
    exact haway by_ k r (.claim hr hclaim)
  constructor
  · intro k r' hr'
    obtain ⟨r, hr, hid, hguided, hmoves⟩ := hfollowed.cases.moves
      (fun hstatus k r hr hclaim => hunguided hstatus k r hr hclaim k r hr (.inl rfl)) k r' hr'
    exact ⟨r, hr, hid, .inl hguided, hmoves⟩
  · exact fun k x hx => ⟨x, hfollowed.actions ▸ hx, rfl, .inl rfl⟩
  · intro q
    rcases hfollowed.proposals q with hsame | ⟨hstatus, k, r, hr, hclaim, hq⟩
    · exact .inl hsame
    · refine .inr fun k' r' hr' hq' who hwho => ?_
      cases hwho
      exact hunguided hstatus k r hr hclaim k' r' hr' (.inr ⟨q, hq, hq'⟩)

variable {step : Step Uuid Json}

theorem Step.separates (hkeyed : Keyed desk) (haway : KeepsAway desk step)
    (hnext : step.next desk = some desk') : Separates step.call desk desk' := by
  rcases step.next_cases hnext with rfl | ⟨-, hrun⟩
  · exact .refl desk'
  · obtain ⟨call, around⟩ := step
    cases call with
    | review id tenant_id =>
      obtain ⟨saved, hrun⟩ := run_discard_ok.mp hrun
      exact separates_review hkeyed hrun
    | guide id tenant_id guided_by guidance =>
      obtain ⟨saved, hrun⟩ := run_discard_ok.mp hrun
      exact separates_guide hkeyed hrun
    | approve id tenant_id approved_by note =>
      obtain ⟨saved, hrun⟩ := run_discard_ok.mp hrun
      exact separates_approve hkeyed haway hrun
    | reject id tenant_id rejected_by reason =>
      obtain ⟨saved, hrun⟩ := run_discard_ok.mp hrun
      exact separates_reject hkeyed hrun
    | escalate id tenant_id escalated_by reason =>
      obtain ⟨saved, hrun⟩ := run_discard_ok.mp hrun
      exact separates_escalate hkeyed hrun
    | approve_action a approved_by note tenant_id expected_tenant_id =>
      obtain ⟨resolved, hrun⟩ := run_discard_ok.mp hrun
      obtain ⟨rfl, ⟨old, hold, happrovable⟩, hresolved⟩ := approve_in_transaction_ok hkeyed hrun
      exact hresolved.separates rfl hold happrovable.separate fun _ k r hr hclaim =>
        haway approved_by k r (.approve_action hold happrovable hr hclaim)
    | deny_action a denied_by reason tenant_id expected_tenant_id =>
      obtain ⟨resolved, hrun⟩ := run_discard_ok.mp hrun
      obtain ⟨rfl, -, ⟨old, hold, -, hseparate⟩, hresolved⟩ := deny_in_transaction_ok hkeyed hrun
      exact hresolved.separates rfl hold hseparate (fun heq => nomatch heq)
    | claim a tenant_id status resolved_by resolved_at note =>
      obtain ⟨completion, hrun⟩ := run_discard_ok.mp hrun
      exact separates_claim hkeyed haway hrun
    | complete id tenant_id resolved_by note =>
      obtain ⟨delivered, hrun⟩ := run_discard_ok.mp hrun
      exact separates_complete hkeyed haway hrun

/-! ## Runs -/

/-- The step makes the reply of the proposal `q` eligible for sending. -/
def Released (q : Uuid) (desk desk' : Desk Uuid Json) : Prop :=
  ∃ new, desk'.proposals.get? q = some new ∧ new.status = .send_eligible ∧
    ∀ old, desk.proposals.get? q = some old → old.status ≠ .send_eligible

/-- The duties are separate after the step: no case is approved by who guided it, no action is
resolved by who proposed it, and no reply was released by who guided its case. Who guided a case stays
on its record. -/
structure DutiesSeparate (desk : Desk Uuid Json) (step : Step Uuid Json) (desk' : Desk Uuid Json) :
    Prop where
  separate : Separate desk'
  guidance : ∀ k r r', desk.cases.get? k = some r → desk'.cases.get? k = some r' →
    GuidanceKept step.call k r r'
  released : ∀ q, Released q desk desk' → ∀ who, step.call.principal = some who →
    ∀ k r, desk.cases.get? k = some r → r.resolution_proposal_id = some q → r.guidedBy ≠ some (.str who)

omit [Stdlib Uuid] [Sha256] in
theorem Separates.duties (h : Separates step.call desk desk') (hseparate : Separate desk) :
    DutiesSeparate desk step desk' where
  separate := h.separate hseparate
  guidance k r r' hr hr' := by
    obtain ⟨x, hx, -, hkept, -⟩ := h.cases k r' hr'
    cases hr.symm.trans hx
    exact hkept
  released q hreleased who hwho k r hr hq := by
    obtain ⟨new, hnew, heligible, hold⟩ := hreleased
    rcases h.proposals q with hsame | hfree
    · exact absurd heligible (hold new (hsame ▸ hnew))
    · exact hfree k r hr hq who hwho

/-- Separation of duties holds on every path where no principal releases a case that they guided. -/
theorem duties_separate (hkeyed : Keyed desk) (hseparate : Separate desk)
    (steps : List (Step Uuid Json)) (haway : Meets Step.next KeepsAway desk steps) :
    Along Step.next DutiesSeparate desk steps := by
  refine along_when (I := fun desk => Keyed desk ∧ Separate desk) ?_ ⟨hkeyed, hseparate⟩ haway
  rintro desk step desk' ⟨hkeyed, hseparate⟩ haway hnext
  have hseparates := Step.separates hkeyed haway hnext
  exact ⟨⟨hseparates.keyed hkeyed, hseparates.separate hseparate⟩, hseparates.duties hseparate⟩

end

/-! ## Who guides a case approves its action -/

theorem separate_boundDesk : Separate boundDesk where
  cases k r hr happroved := by
    rcases Dict.get?_set_cases hr with ⟨-, rfl⟩ | ⟨-, hr⟩
    · cases happroved
    · cases hr
  actions k x hx hresolved := by
    rcases Dict.get?_set_cases hx with ⟨-, rfl⟩ | ⟨-, hx⟩
    · exact absurd hresolved (by decide)
    · cases hx

def guided : List (Step String Unit) :=
  [⟨.review "c" "t", answering⟩, ⟨.guide "c" "t" "operator" "be brief", answering⟩]

/-- A case that is guided by one operator is approved by another. -/
theorem duties_separate_guided :
    Along Step.next DutiesSeparate boundDesk
      (guided ++ [⟨.approve_action "a" "manager" none "t" "t", answering⟩]) := by
  refine duties_separate coupled_boundDesk.keyed separate_boundDesk _ ?_
  refine fun _ hreviewed => ⟨fun _ _ _ hreleases => (nomatch hreleases), fun desk hguided =>
    ⟨fun _ _ _ hreleases => (nomatch hreleases), fun _ _ => ⟨?_, trivial⟩⟩⟩
  cases hreviewed
  cases hguided
  intro who k r hreleases k' r' hr' _
  cases hreleases
  have hrow := (Dict.get?_eq_some_iff _ _ _).mp hr'
  cases List.mem_singleton.mp hrow
  exact (by decide : some (Value.str "operator") ≠ some (.str "manager"))

/-- The operator who guided the case approves the action, and the case follows. -/
theorem guider_approves :
    Keyed boundDesk ∧ Separate boundDesk ∧
      ¬ Along Step.next DutiesSeparate boundDesk
        (guided ++ [⟨.approve_action "a" "operator" none "t" "t", answering⟩]) := by
  refine ⟨coupled_boundDesk.keyed, separate_boundDesk, fun h => ?_⟩
  have hlast := (h.last rfl rfl).separate.cases "c" _ rfl rfl "operator" rfl
  exact hlast rfl

end operious.approvals
