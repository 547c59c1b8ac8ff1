-- What the five calls on a case have done when they return, from the record that they read.
import Operious.Approvals.Moves

namespace operious.approvals

open effects
open operious.governance (PyException)
open operious.resolution

section

variable {Uuid Json : Type} [DecidableEq Uuid]
variable {desk desk' : Desk Uuid Json} {tenant_id : String}
  {record saved : CaseApprovalRecord Uuid Json} {around : Collaborators Uuid Json}

omit [DecidableEq Uuid] in
theorem review_record_ok
    (hrun : run (review_record around tenant_id record) desk = (.ok saved, desk')) :
    record.tenant_id = tenant_id ∧
      (record.status = .pending_sme_review ∨ record.status = .guidance_in_progress) ∧
      ∃ recommendation, around.recommendation = .ok recommendation ∧
        saved = reviewedCase record recommendation ∧
        desk' = desk.save_case record.approval_case_id saved := by
  unfold review_record at hrun
  split at hrun
  · exact absurd hrun run_throw_ne
  · rename_i hstatus
    obtain ⟨recommendation, _, hlift, h⟩ := run_bind_eq_ok.mp hrun
    obtain ⟨hrecommendation, rfl⟩ := Prod.mk.inj hlift
    obtain ⟨htenant, -, rfl, rfl⟩ := update_case_ok h
    refine ⟨htenant, ?_, recommendation, hrecommendation, rfl, rfl⟩
    by_cases hpending : record.status = .pending_sme_review
    · exact .inl hpending
    · exact .inr (not_not.mp fun hguided => hstatus ⟨hpending, hguided⟩)

variable [Stdlib Uuid] [Sha256]

/-- What a call that resolves a case has done before it writes the case: nothing but what concerns the
reply, or the action that is bound to the case is resolved as well. -/
inductive Resolving (tenant_id : String) (record : CaseApprovalRecord Uuid Json) (status resolved_by : String)
    (p : Option Uuid) (desk mid : Desk Uuid Json) : Prop
  | free (unbound : record.boundAction = none) (beside : Beside tenant_id p desk mid)
  | bound (action_approval_id : String) (pre : Desk Uuid Json) (old : ActionApprovalRecord Uuid)
    (bound : record.boundAction = some action_approval_id) (beside : Beside tenant_id p desk pre)
    (row : desk.actions.get? action_approval_id = some old)
    (separate : old.proposed_by ≠ some resolved_by)
    (resolved : ActionResolved tenant_id action_approval_id status resolved_by pre mid)

theorem approve_record_ok {approved_by : String} {note : Option String} (hkeyed : Keyed desk)
    (hrun : run (approve_record around tenant_id approved_by note record) desk = (.ok saved, desk')) :
    record.tenant_id = tenant_id ∧ record.status = .awaiting_approval ∧
      text record.guidedBy ≠ some approved_by ∧
      ∃ decision_id mid,
        Resolving tenant_id record "approved" approved_by record.resolution_proposal_id desk mid ∧
        saved = approvedCase record decision_id approved_by note around.now ∧
        desk' = mid.save_case record.approval_case_id saved := by
  unfold approve_record at hrun
  split at hrun
  · exact absurd hrun run_throw_ne
  · rename_i hawaiting
    split at hrun
    · exact absurd hrun run_throw_ne
    · rename_i hguided
      obtain ⟨decision_id, s1, hdecision, h⟩ := run_bind_eq_ok.mp hrun
      obtain ⟨_, s2, hdeliver, h⟩ := run_bind_eq_ok.mp h
      obtain ⟨_, s3, haction, h⟩ := run_bind_eq_ok.mp h
      obtain ⟨htenant, -, rfl, rfl⟩ := update_case_ok h
      change record.tenant_id = tenant_id at htenant
      subst htenant
      refine ⟨rfl, not_not.mp hawaiting, hguided, decision_id, s3, ?_, rfl, rfl⟩
      have hbeside1 := keeps_record_case_governance_decision (p := record.resolution_proposal_id)
        record approved_by "allow" approveChainId "case_approval_approved" note desk
      rw [hdecision] at hbeside1
      have hbeside2 : Beside record.tenant_id record.resolution_proposal_id s1 s2 := by
        unfold deliver_proposed_resolution at hdeliver
        cases hproposal : record.resolution_proposal_id with
        | none =>
          simp only [hproposal, run_pure] at hdeliver
          cases hdeliver
          exact .refl _
        | some proposal_id =>
          simp only [hproposal] at hdeliver
          have hkeeps := keeps_deliver_resolution record.tenant_id around record
            proposal_id decision_id s1
          rwa [hdeliver] at hkeeps
      have hbeside := hbeside1.trans hbeside2
      unfold approve_recommended_action_if_bound at haction
      cases hbound : record.boundAction with
      | none =>
        simp only [hbound, run_pure] at haction
        cases haction
        exact .free hbound hbeside
      | some action_approval_id =>
        simp only [hbound] at haction
        obtain ⟨resolved, _, hresolve, h⟩ := run_bind_eq_ok.mp haction
        cases h
        obtain ⟨-, ⟨old, hold, happrovable⟩, hresolved⟩ :=
          approve_in_transaction_ok (hkeyed.beside hbeside) hresolve
        exact .bound action_approval_id s2 old hbound hbeside (hbeside.actions ▸ hold)
          happrovable.separate hresolved

theorem reject_record_ok {rejected_by : String} {reason : Option String} (hkeyed : Keyed desk)
    (hrun : run (reject_record around tenant_id rejected_by reason record) desk = (.ok saved, desk')) :
    record.tenant_id = tenant_id ∧ record.status = .awaiting_approval ∧
      ∃ decision_id mid, Resolving tenant_id record "denied" rejected_by none desk mid ∧
        saved = rejectedCase record decision_id rejected_by reason around.now ∧
        desk' = mid.save_case record.approval_case_id saved := by
  unfold reject_record at hrun
  split at hrun
  · exact absurd hrun run_throw_ne
  · rename_i hawaiting
    obtain ⟨decision_id, s1, hdecision, h⟩ := run_bind_eq_ok.mp hrun
    obtain ⟨_, s2, haction, h⟩ := run_bind_eq_ok.mp h
    obtain ⟨htenant, -, rfl, rfl⟩ := update_case_ok h
    change record.tenant_id = tenant_id at htenant
    subst htenant
    refine ⟨rfl, not_not.mp hawaiting, decision_id, s2, ?_, rfl, rfl⟩
    have hbeside := keeps_record_case_governance_decision (p := none) record rejected_by "deny"
      rejectChainId "case_approval_rejected" reason desk
    rw [hdecision] at hbeside
    unfold deny_recommended_action_if_bound at haction
    cases hbound : record.boundAction with
    | none =>
      simp only [hbound, run_pure] at haction
      cases haction
      exact .free hbound hbeside
    | some action_approval_id =>
      simp only [hbound] at haction
      obtain ⟨resolved, _, hresolve, h⟩ := run_bind_eq_ok.mp haction
      cases h
      obtain ⟨-, -, ⟨old, hold, -, hseparate⟩, hresolved⟩ :=
        deny_in_transaction_ok (hkeyed.beside hbeside) hresolve
      exact .bound action_approval_id s1 old hbound hbeside (hbeside.actions ▸ hold) hseparate hresolved

omit [Sha256] in
theorem escalate_record_ok {escalated_by reason : String}
    (hrun : run (escalate_record around tenant_id escalated_by reason record) desk =
      (.ok saved, desk')) :
    record.tenant_id = tenant_id ∧ record.status.terminal = false ∧
      ∃ decision_id escalation_id mid, create_escalation around record = .ok escalation_id ∧
        Beside tenant_id none desk mid ∧
        saved = escalatedCase record decision_id escalated_by reason escalation_id around.now ∧
        desk' = mid.save_case record.approval_case_id saved := by
  unfold escalate_record at hrun
  split at hrun
  · exact absurd hrun run_throw_ne
  · rename_i hterminal
    obtain ⟨decision_id, s1, hdecision, h⟩ := run_bind_eq_ok.mp hrun
    obtain ⟨escalation_id, s2, hlift, h⟩ := run_bind_eq_ok.mp h
    obtain ⟨hescalated, rfl⟩ := Prod.mk.inj hlift
    obtain ⟨htenant, -, rfl, rfl⟩ := update_case_ok h
    change record.tenant_id = tenant_id at htenant
    subst htenant
    have hbeside := keeps_record_case_governance_decision (p := none) record escalated_by "escalate"
      escalateChainId "case_approval_escalated" (some reason) desk
    rw [hdecision] at hbeside
    exact ⟨rfl, Bool.eq_false_of_not_eq_true hterminal, decision_id, escalation_id, s1,
      hescalated, hbeside, rfl, rfl⟩

omit [Sha256] in
theorem guide_record_ok {guided_by guidance : String}
    (hrun : run (guide_record around tenant_id guided_by guidance record) desk = (.ok saved, desk')) :
    record.tenant_id = tenant_id ∧ record.status = .awaiting_approval ∧
      ∃ decision_id recommendation mid, Beside tenant_id none desk mid ∧
        saved = reviewedCase (guidedCase record guided_by guidance decision_id) recommendation ∧
        desk' = (mid.save_case record.approval_case_id
          (guidedCase record guided_by guidance decision_id)).save_case record.approval_case_id
            saved := by
  unfold guide_record at hrun
  split at hrun
  · exact absurd hrun run_throw_ne
  · rename_i hawaiting
    split at hrun
    · exact absurd hrun run_throw_ne
    · obtain ⟨flagged, s1, hlift, h⟩ := run_bind_eq_ok.mp hrun
      obtain ⟨-, rfl⟩ := Prod.mk.inj hlift
      split at h
      · exact absurd h run_throw_ne
      · obtain ⟨decision_id, s2, hdecision, h⟩ := run_bind_eq_ok.mp h
        obtain ⟨_, s3, hupdate, h⟩ := run_bind_eq_ok.mp h
        obtain ⟨htenant, -, -, rfl⟩ := update_case_ok hupdate
        change record.tenant_id = tenant_id at htenant
        subst htenant
        obtain ⟨found, _, hfound, h⟩ := run_bind_eq_ok.mp h
        obtain ⟨hrow, -, rfl⟩ := require_case_ok hfound
        cases (Dict.get?_set_self s2.cases record.approval_case_id
          (guidedCase record guided_by guidance decision_id)).symm.trans hrow
        obtain ⟨-, -, recommendation, -, rfl, rfl⟩ := review_record_ok h
        have hbeside := keeps_record_case_governance_decision (p := none) record guided_by
          "require_approval" guideChainId "operator_guidance_recorded" none desk
        rw [hdecision] at hbeside
        exact ⟨rfl, not_not.mp hawaiting, decision_id, recommendation, s2, hbeside, rfl, rfl⟩

/-! ## Calls as steps -/

section

omit [DecidableEq Uuid] [Stdlib Uuid] [Sha256]

theorem of_require_case {α : Type} {approval_case_id : String} {a : α}
    {f : CaseApprovalRecord Uuid Json → Call Uuid Json α}
    (h : run (require_case approval_case_id tenant_id >>= f) desk = (.ok a, desk')) :
    ∃ r, desk.cases.get? approval_case_id = some r ∧ r.tenant_id = tenant_id ∧
      run (f r) desk = (.ok a, desk') := by
  obtain ⟨r, _, hrecord, h⟩ := run_bind_eq_ok.mp h
  obtain ⟨hrow, htenant, rfl⟩ := require_case_ok hrecord
  exact ⟨r, hrow, htenant, h⟩

theorem require_case_of_row {approval_case_id : String}
    (hrow : desk.cases.get? approval_case_id = some record) (htenant : record.tenant_id = tenant_id) :
    run (require_case approval_case_id tenant_id) desk = (.ok record, desk) := by
  have hfound : get_case desk approval_case_id tenant_id = some record :=
    Option.filter_eq_some_iff.mpr ⟨hrow, by simpa using htenant⟩
  simp [require_case, run_bind, hfound]

theorem run_discard_ok {α : Type} {x : Call Uuid Json α} :
    run (discard x) desk = (.ok (), desk') ↔ ∃ a, run x desk = (.ok a, desk') := by
  have hbind : discard x = x >>= fun _ => (pure () : Call Uuid Json Unit) := by
    rw [Functor.discard, map_const, Function.comp_apply, map_eq_pure_bind]
  rw [hbind, run_bind_eq_ok]
  constructor
  · rintro ⟨a, t, hx, hpure⟩
    cases hpure
    exact ⟨a, hx⟩
  · rintro ⟨a, hx⟩
    exact ⟨a, desk', hx, rfl⟩

end

theorem Step.next_cases {step : Step Uuid Json} (h : step.next desk = some desk') :
    desk' = desk ∨ (step.around.interruption = none ∧
      run (step.call.body step.around) desk = (.ok (), desk')) := by
  have hdesk := Option.some.inj h
  unfold atomically at hdesk
  split at hdesk
  · rename_i hrun
    obtain ⟨_, s, hbody, hrest⟩ := run_bind_eq_ok.mp hrun
    cases hfree : step.around.interruption with
    | some exc =>
      simp only [hfree] at hrest
      exact absurd hrest run_throw_ne
    | none =>
      simp only [hfree, run_pure] at hrest
      cases hrest
      exact .inr ⟨rfl, hdesk ▸ hbody⟩
  · exact .inl hdesk.symm

theorem Step.next_of_run (step : Step Uuid Json) (hfree : step.around.interruption = none)
    (hrun : run (step.call.body step.around) desk = (.ok (), desk')) : step.next desk = some desk' := by
  unfold Step.next atomically
  rw [run_bind_ok hrun, hfree]
  rfl

end

end operious.approvals
