-- No captured message is silently consumed: when a call of a worker that answers "dispatched" has left an
-- execution request or a case of human review.
import Operious.Ingress.DispatchWorker

namespace operious.ingress

open effects
open operious.arbitration (TextRepr)
open operious.coordination
open operious.dispatch_arbitration (DispatchArbitrationEvaluation DispatchResult DispatchStep)
open operious.execution_runtime (deriveExecutionId)
open operious.governance (PyException)

/-! ## When a dispatch halts -/

variable {tenant_id : String}

section

variable {Uuid : Type} [TextRepr] [Stdlib Uuid]

/-- An accepted dispatch ends before its session: the governance of executions refuses it, or the
arbitration halts it. -/
def RefusedLater (service : dispatch_arbitration.DispatchService Uuid) (fresh : Uuid)
    (ingress : dispatch_arbitration.BoundaryIngressRecord Uuid) (tenant_id : String)
    (result : dispatch_arbitration.CoordinationDispatchResult Uuid)
    (proposals : Option (List dispatch_arbitration.DispatchArbitrationProposal)) : Prop :=
  ∃ decision_id, result.governance_decision_id = some decision_id ∧
    ∃ e, service.execution_governance tenant_id = .ok e ∧ (e.allowed = false ∨ ∃ halted,
      dispatch_arbitration.arbitrate service fresh ingress tenant_id result decision_id
        (dispatch_arbitration.proposalsOr proposals) = .ok (.halted halted))

theorem halted_iff {service : dispatch_arbitration.DispatchService Uuid} {fresh : Uuid}
    {ingress : dispatch_arbitration.BoundaryIngressRecord Uuid}
    {result : dispatch_arbitration.CoordinationDispatchResult Uuid}
    {proposals : Option (List dispatch_arbitration.DispatchArbitrationProposal)} :
    (∃ halted, dispatch_arbitration.dispatch service fresh ingress tenant_id result proposals =
        .ok (.halted halted)) ↔
      (result.outcome ≠ .accepted ∧ service.request_review result = .ok ()) ∨
      (result.outcome = .accepted ∧ RefusedLater service fresh ingress tenant_id result proposals) := by
  unfold dispatch_arbitration.dispatch RefusedLater
  simp only
  by_cases haccepted : result.outcome = .accepted
  · rw [if_neg (not_not.mpr haccepted)]
    have hblocked : result.is_topology_blocked = false := by
      simp [dispatch_arbitration.CoordinationDispatchResult.is_topology_blocked, haccepted]
    cases hdecision : result.governance_decision_id with
    | none => simp [hblocked, haccepted]
    | some decision_id =>
      cases hgovernance : service.execution_governance tenant_id with
      | error exc => simp [haccepted, bind, Except.bind]
      | ok e =>
        cases hallowed : e.allowed with
        | false =>
          simp [haccepted, bind, Except.bind, hallowed, dispatch_arbitration.haltedDispatch, pure,
            Except.pure]
        | true => simp [haccepted, bind, Except.bind, hallowed]
  · rw [if_pos haccepted]
    cases hreview : service.request_review result with
    | error exc => simp [haccepted, bind, Except.bind]
    | ok _ =>
      simp [haccepted, bind, Except.bind, dispatch_arbitration.haltedDispatch, pure, Except.pure]

end

/-! ## What a dispatch stores -/

section

variable {Uuid T : Type} [DecidableEq Uuid] [Stdlib Uuid] [TextRepr]

variable {result : CoordinationDispatchResult Uuid} {request : CoordinationDispatchRequest Uuid}

theorem coordination_id_eq {runtime : CoordinationRuntime Uuid} {around : DispatchAround Uuid}
    (h : CoordinationRuntime.dispatch runtime around request = .ok result) :
    result.coordination_id = CoordinationRuntime.coordinationId around request := by
  unfold CoordinationRuntime.dispatch at h
  split at h
  · cases h
    rfl
  · split at h
    · cases h
      rfl
    · obtain ⟨ending, -, h⟩ := bind_eq_ok.mp h
      cases h
      unfold CoordinationRuntime.build_and_persist
      simp only
      split <;> rfl

omit [DecidableEq Uuid] [Stdlib Uuid] [TextRepr] in
theorem run_onSessions {α : Type} (x : Effect PyException T α) (s : FollowUps Uuid T) :
    run (onSessions x) s = ((run x s.sessions).1, { s with sessions := (run x s.sessions).2 }) := rfl

variable {c : Collaborators Uuid T}

omit [DecidableEq Uuid] [TextRepr] in
theorem request_stored {dispatch_id session_id : String} {execution_id : Uuid}
    {s s' : FollowUps Uuid T}
    (h : run (request_diagnostic_execution c tenant_id dispatch_id session_id) s =
      (.ok execution_id, s')) : FollowedUp tenant_id dispatch_id s' := by
  unfold request_diagnostic_execution at h
  obtain ⟨id, t, hid, h⟩ := run_bind_eq_ok.mp h
  obtain ⟨_, t', hpersisted, h⟩ := run_bind_eq_ok.mp h
  obtain ⟨_, t'', hmodified, h⟩ := run_bind_eq_ok.mp h
  cases hmodified
  cases h
  have hderived : deriveExecutionId diagnosticAgent dispatch_id session_id (some tenant_id) =
      .ok execution_id := by
    cases hcase : (deriveExecutionId diagnosticAgent dispatch_id session_id (some tenant_id) :
        Except _ Uuid) with
    | error e =>
      rw [hcase] at hid
      cases hid
    | ok id' =>
      rw [hcase] at hid
      cases hid
      rfl
  exact .inl ⟨session_id, execution_id, List.mem_cons_self, hderived⟩

variable {answer : DispatchResult}

variable {ingress : BoundaryIngressRecord Uuid}

omit [DecidableEq Uuid] [TextRepr] in
theorem settle_stores {coordination_result : CoordinationDispatchResult Uuid}
    {arbitration : Option (DispatchArbitrationEvaluation Uuid)} {s s' : FollowUps Uuid T}
    (h : run (settle c ingress tenant_id coordination_result arbitration) s = (.ok answer, s')) :
    FollowedUp tenant_id (Stdlib.str coordination_result.coordination_id) s' := by
  unfold settle at h
  obtain ⟨_, _, -, h⟩ := run_bind_eq_ok.mp h
  obtain ⟨_, _, -, h⟩ := run_bind_eq_ok.mp h
  obtain ⟨_, _, -, h⟩ := run_bind_eq_ok.mp h
  obtain ⟨_, _, -, h⟩ := run_bind_eq_ok.mp h
  obtain ⟨execution_id, t, hrequested, h⟩ := run_bind_eq_ok.mp h
  obtain ⟨_, t', hpublished, h⟩ := run_bind_eq_ok.mp h
  rw [run_onSessions] at hpublished
  cases h
  obtain ⟨-, rfl⟩ := Prod.mk.inj hpublished
  have hstored := request_stored hrequested
  exact hstored

def DispatchCall.coordinated {S : Type} (call : DispatchCall Uuid S) (ingress : BoundaryIngressRecord Uuid)
    (tenant_id : String) (coordination : Dict Uuid (CoordinationEnvelope Uuid)) :
    Except PyException (CoordinationDispatchRequest Uuid × CoordinationDispatchResult Uuid) := do
  let authority ← from_raw tenant_id
  let request ← to_coordination_request ingress tenant_id authority call.canonical_payload call.created_at
  let result ← CoordinationRuntime.dispatch call.runtime (call.around coordination) request
  return (request, result)

theorem DispatchCall.dispatch_eq {S : Type} (call : DispatchCall Uuid S)
    (ingress : BoundaryIngressRecord Uuid) (tenant_id : String) (stores : DispatchStores Uuid S) :
    call.dispatch ingress tenant_id stores =
      match call.coordinated ingress tenant_id stores.coordination with
      | .error exc => (.error exc, stores)
      | .ok (request, result) =>
        let concluded := call.conclude ingress tenant_id request.correlation_id result stores.rest
        (concluded.1, ⟨recorded stores.coordination result, concluded.2⟩) := by
  unfold DispatchCall.dispatch DispatchCall.coordinated
  cases from_raw tenant_id with
  | error exc => rfl
  | ok authority =>
    simp only [bind, Except.bind]
    cases to_coordination_request ingress tenant_id authority call.canonical_payload call.created_at with
    | error exc => rfl
    | ok request =>
      simp only
      cases CoordinationRuntime.dispatch call.runtime (call.around stores.coordination) request <;> rfl

theorem DispatchCall.coordinated_id {S : Type} {call : DispatchCall Uuid S}
    {coordination : Dict Uuid (CoordinationEnvelope Uuid)}
    (h : call.coordinated ingress tenant_id coordination = .ok (request, result)) :
    result.coordination_id = askedUnder ingress tenant_id := by
  obtain ⟨authority, -, h⟩ := bind_eq_ok.mp h
  obtain ⟨built, hbuilt, h⟩ := bind_eq_ok.mp h
  obtain ⟨answered, hanswered, h⟩ := bind_eq_ok.mp h
  cases h
  rw [coordination_id_eq hanswered]
  unfold CoordinationRuntime.coordinationId
  rw [to_coordination_request_id hbuilt]
  rfl

/-! ## What a call of a worker leaves -/

variable (runtime : IngressDispatchOutboxRuntime) (call : WorkerCall Uuid T)
  (ingress : BoundaryIngressRecord Uuid)

/-- The dispatch ends in nothing to follow up: the coordination does not accept the message and nobody is
asked to review it, or a later guard refuses what the coordination accepted. -/
def Unattended (tenant_id : String) (coordination : Dict Uuid (CoordinationEnvelope Uuid)) : Prop :=
  ∃ request result, call.upstream.coordinated ingress tenant_id coordination = .ok (request, result) ∧
    ((result.outcome ≠ .accepted ∧
        (call.collaborators.approval_queue = none ∨ result.outcome ≠ .policy_escalated)) ∨
      (result.outcome = .accepted ∧ RefusedLater call.upstream.service call.upstream.fresh
        ⟨ingress.ingress_id, ingress.request_id, ingress.correlation_id⟩ tenant_id
        (seen result request.correlation_id) call.upstream.proposals))

/-- The call comes to its mark if the dispatch returns: the row is claimed and admitted, it does not wait,
the flush goes through, and the row stands under the claim when it is marked. -/
structure ReachesMark (row : IngressDispatchOutboxRecord Uuid) (held : Held Uuid) : Prop where
  claimed : call.claimed runtime row = .ok held
  admitted : ∀ answer, call.admission = some answer → ∃ decision, answer = .ok decision ∧
    decision.allowed = true
  ready : wait_for_whatsapp_media_if_pending runtime call (call.before_wait held.outbox) held = .ok none
  flushed : call.flush = .ok ()
  standing : (call.before_mark (call.before_wait held.outbox)).claimedUnder held.claim_id = true

variable {runtime call ingress}
variable {tenant_id : String} {stores stores' : DispatchStores Uuid (FollowUps Uuid T)}

omit [DecidableEq Uuid] [TextRepr] in
theorem requestReview_ok {queue : Option ApprovalQueue}
    {outcome : dispatch_arbitration.CoordinationDispatchOutcome}
    (h : queue = none ∨ outcome ≠ .policy_escalated) : requestReview queue outcome = .ok () := by
  cases queue with
  | none => rfl
  | some queue => exact if_neg (h.resolve_left nofun)

omit [DecidableEq Uuid] [TextRepr] in
theorem reviewed_eq (h : c.approval_queue = none ∨ result.outcome ≠ .policy_escalated)
    (s : FollowUps Uuid T) : reviewed c tenant_id result s = s := by
  refine if_neg ?_
  rcases h with h | h <;> simp [h]

variable {correlation_id : Option Uuid}

omit [DecidableEq Uuid] in
theorem conclude_ok {rest rest' : FollowUps Uuid T}
    (h : (call.dispatching ingress tenant_id).conclude ingress tenant_id correlation_id result rest =
      (.ok answer, rest')) :
    (result.outcome ≠ .accepted ∧ rest' = reviewed call.collaborators tenant_id result rest) ∨
    (result.outcome = .accepted ∧ RefusedLater call.upstream.service call.upstream.fresh
      ⟨ingress.ingress_id, ingress.request_id, ingress.correlation_id⟩ tenant_id
      (seen result correlation_id) call.upstream.proposals ∧ rest' = rest) ∨
    FollowedUp tenant_id (Stdlib.str result.coordination_id) rest' := by
  unfold DispatchCall.conclude at h
  simp only at h
  split at h
  · cases h
  · rename_i halted hhalted
    cases h
    rcases halted_iff.mp ⟨_, hhalted⟩ with ⟨hrefused, -⟩ | ⟨haccepted, hlater⟩
    · have hrefused : result.outcome ≠ .accepted := hrefused
      exact .inl ⟨hrefused, if_neg hrefused⟩
    · have haccepted : result.outcome = .accepted := haccepted
      exact .inr (.inl ⟨haccepted, hlater, if_pos haccepted⟩)
  · exact .inr (.inr (settle_stores h))

omit [DecidableEq Uuid] in
theorem conclude_unattended (rest : FollowUps Uuid T)
    (h : (result.outcome ≠ .accepted ∧
        (call.collaborators.approval_queue = none ∨ result.outcome ≠ .policy_escalated)) ∨
      (result.outcome = .accepted ∧ RefusedLater call.upstream.service call.upstream.fresh
        ⟨ingress.ingress_id, ingress.request_id, ingress.correlation_id⟩ tenant_id
        (seen result correlation_id) call.upstream.proposals)) :
    ∃ answer, (call.dispatching ingress tenant_id).conclude ingress tenant_id correlation_id result rest =
      (.ok answer, rest) := by
  have hhalted : ∃ halted, dispatch_arbitration.dispatch (call.dispatching ingress tenant_id).service
      (call.dispatching ingress tenant_id).fresh
      ⟨ingress.ingress_id, ingress.request_id, ingress.correlation_id⟩ tenant_id
      (seen result correlation_id) (call.dispatching ingress tenant_id).proposals = .ok (.halted halted) := by
    refine halted_iff.mpr ?_
    rcases h with ⟨hrefused, hunasked⟩ | hlater
    · exact .inl ⟨hrefused, requestReview_ok hunasked⟩
    · exact .inr hlater
  have hrest : (if result.outcome = .accepted then rest
      else (call.dispatching ingress tenant_id).review result rest) = rest := by
    split
    · rfl
    · rcases h with ⟨-, hunasked⟩ | ⟨haccepted, -⟩
      · exact reviewed_eq hunasked rest
      · exact absurd haccepted ‹_›
  obtain ⟨halted, hhalted⟩ := hhalted
  refine ⟨halted, ?_⟩
  unfold DispatchCall.conclude
  simp only [hhalted, hrest]

theorem dispatch_leaves
    (h : (call.dispatching ingress tenant_id).dispatch ingress tenant_id stores = (.ok answer, stores')) :
    FollowedUp tenant_id (Stdlib.str (askedUnder ingress tenant_id)) stores'.rest ∨
      (Unattended call ingress tenant_id stores.coordination ∧ stores'.rest = stores.rest) := by
  rw [DispatchCall.dispatch_eq] at h
  change (match call.upstream.coordinated ingress tenant_id stores.coordination with
    | .error exc => _ | .ok (request, result) => _) = _ at h
  cases hcoordinated : call.upstream.coordinated ingress tenant_id stores.coordination with
  | error exc =>
    rw [hcoordinated] at h
    cases h
  | ok answered =>
    obtain ⟨request, result⟩ := answered
    rw [hcoordinated] at h
    have hid := DispatchCall.coordinated_id hcoordinated
    obtain ⟨hconcluded, rfl⟩ := Prod.mk.inj h
    rcases conclude_ok (Prod.ext hconcluded rfl) with ⟨hrefused, hrest⟩ | ⟨haccepted, hlater, hrest⟩ | hfollowed
    · by_cases hunasked : call.collaborators.approval_queue = none ∨ result.outcome ≠ .policy_escalated
      · refine .inr ⟨⟨request, result, hcoordinated, .inl ⟨hrefused, hunasked⟩⟩, ?_⟩
        exact hrest.trans (reviewed_eq hunasked _)
      · obtain ⟨hqueue, hescalated⟩ := not_or.mp hunasked
        refine .inl (.inr ?_)
        have hstored : (reviewed call.collaborators tenant_id result stores.rest).cases =
            derive_approval_case_id tenant_id (Stdlib.str result.coordination_id) :: stores.rest.cases := by
          unfold reviewed
          rw [if_pos]
          simp [Option.isSome_iff_ne_none.mpr hqueue, not_not.mp hescalated]
        simp only [hrest, hstored, hid]
        exact List.mem_cons_self
    · exact .inr ⟨⟨request, result, hcoordinated, .inr ⟨haccepted, hlater⟩⟩, hrest⟩
    · rw [hid] at hfollowed
      exact .inl hfollowed

theorem dispatch_unattended (h : Unattended call ingress tenant_id stores.coordination) :
    ∃ answer coordination, (call.dispatching ingress tenant_id).dispatch ingress tenant_id stores =
      (.ok answer, ⟨coordination, stores.rest⟩) := by
  obtain ⟨request, result, hcoordinated, hends⟩ := h
  obtain ⟨answer, hconclude⟩ := conclude_unattended stores.rest hends
  refine ⟨answer, recorded stores.coordination result, ?_⟩
  rw [DispatchCall.dispatch_eq]
  change (match call.upstream.coordinated ingress tenant_id stores.coordination with
    | .error exc => _ | .ok (request, result) => _) = _
  rw [hcoordinated]
  simp only [hconclude]

variable {row row' : IngressDispatchOutboxRecord Uuid} {held : Held Uuid}

omit [TextRepr] in
theorem settledWith_ne_dispatched {error : String} {retry_after_seconds : Option Nat} :
    settledWith runtime row held error retry_after_seconds stores ≠ (.dispatched, row', stores') := by
  unfold settledWith settled
  split
  rename_i heq
  split at heq <;> cases heq
  · nofun
  · split <;> nofun

theorem dispatchAndMark_dispatched
    (h : call.dispatchAndMark runtime ingress row held stores = (.dispatched, row', stores')) :
    call.flush = .ok () ∧ (call.before_mark row).claimedUnder held.claim_id = true ∧
      ∃ answer, (call.dispatching ingress held.outbox.tenant_id).dispatch ingress held.outbox.tenant_id
        stores = (.ok answer, stores') := by
  unfold WorkerCall.dispatchAndMark dispatch_with_composed_service at h
  cases hdispatch : (call.dispatching ingress held.outbox.tenant_id).dispatch ingress
      held.outbox.tenant_id stores with
  | mk answer committed =>
    rw [hdispatch] at h
    cases answer with
    | error exc => exact absurd h settledWith_ne_dispatched
    | ok answer =>
      cases hflush : call.flush with
      | error exc =>
        simp only [hflush] at h
        exact absurd h settledWith_ne_dispatched
      | ok _ =>
        simp only [hflush] at h
        split at h
        · cases h
        · rename_i hmark
          cases h
          unfold mark_ingress_dispatch_outbox_dispatched at hmark
          split at hmark
          · exact ⟨rfl, ‹_›, answer, rfl⟩
          · cases hmark

theorem waitAndDispatch_dispatched
    (h : call.waitAndDispatch runtime ingress row held stores = (.dispatched, row', stores')) :
    wait_for_whatsapp_media_if_pending runtime call row held = .ok none ∧
      call.dispatchAndMark runtime ingress row held stores = (.dispatched, row', stores') := by
  unfold WorkerCall.waitAndDispatch at h
  split at h
  · exact absurd h settledWith_ne_dispatched
  · cases h
  · exact ⟨‹_›, h⟩

theorem process_dispatched
    (h : process_ingress_dispatch_outbox_runtime runtime call ingress row stores =
      (.dispatched, row', stores')) :
    ∃ held answer, ReachesMark runtime call row held ∧
      (call.dispatching ingress held.outbox.tenant_id).dispatch ingress held.outbox.tenant_id stores =
        (.ok answer, stores') := by
  unfold process_ingress_dispatch_outbox_runtime at h
  split at h
  · cases h
  rename_i held hclaimed
  have hmarked (hadmitted : ∀ answer, call.admission = some answer → ∃ decision, answer = .ok decision ∧
      decision.allowed = true)
      (h : call.waitAndDispatch runtime ingress (call.before_wait held.outbox) held stores =
        (.dispatched, row', stores')) : ∃ held answer, ReachesMark runtime call row held ∧
      (call.dispatching ingress held.outbox.tenant_id).dispatch ingress held.outbox.tenant_id stores =
        (.ok answer, stores') := by
    obtain ⟨hready, h⟩ := waitAndDispatch_dispatched h
    obtain ⟨hflushed, hstanding, answer, hdispatch⟩ := dispatchAndMark_dispatched h
    exact ⟨held, answer, ⟨hclaimed, hadmitted, hready, hflushed, hstanding⟩, hdispatch⟩
  simp only at h
  split at h
  · exact absurd h settledWith_ne_dispatched
  · rename_i decision hadmission
    split at h
    · refine hmarked (fun answer hanswer => ⟨decision, ?_, ‹_›⟩) h
      exact Option.some.inj (hanswer.symm.trans hadmission)
    · exact absurd h settledWith_ne_dispatched
  · rename_i hadmission
    exact hmarked (fun answer hanswer => nomatch hadmission.symm.trans hanswer) h

theorem dispatched_of_reachesMark {row : IngressDispatchOutboxRecord Uuid}
    (hreaches : ReachesMark runtime call row held)
    (hdispatch : (call.dispatching ingress held.outbox.tenant_id).dispatch ingress held.outbox.tenant_id
      stores = (.ok answer, stores')) :
    ∃ row', process_ingress_dispatch_outbox_runtime runtime call ingress row stores =
      (.dispatched, row', stores') := by
  have hmark : ∃ row', mark_ingress_dispatch_outbox_dispatched
      (call.before_mark (call.before_wait held.outbox)) held.claim_id held.now = some row' :=
    ⟨_, if_pos hreaches.standing⟩
  obtain ⟨row', hmark⟩ := hmark
  have hend : call.waitAndDispatch runtime ingress (call.before_wait held.outbox) held stores =
      (.dispatched, row', stores') := by
    unfold WorkerCall.waitAndDispatch WorkerCall.dispatchAndMark dispatch_with_composed_service
    simp only [hreaches.ready, hdispatch, hreaches.flushed, hmark]
  refine ⟨row', ?_⟩
  unfold process_ingress_dispatch_outbox_runtime
  simp only [hreaches.claimed]
  cases hadmission : call.admission with
  | none => exact hend
  | some answer =>
    obtain ⟨decision, rfl, hallowed⟩ := hreaches.admitted answer hadmission
    simp only [hallowed, if_true]
    exact hend

/-- A message is followed up when its row is marked exactly if the call does not come to its mark with a
dispatch that ends unattended and nothing followed up before. -/
theorem dispatched_followed_up_iff (runtime : IngressDispatchOutboxRuntime) (call : WorkerCall Uuid T)
    (ingress : BoundaryIngressRecord Uuid) (row : IngressDispatchOutboxRecord Uuid)
    (stores : DispatchStores Uuid (FollowUps Uuid T)) :
    (∀ row' stores', process_ingress_dispatch_outbox_runtime runtime call ingress row stores =
        (.dispatched, row', stores') →
      FollowedUp row.tenant_id (Stdlib.str (askedUnder ingress row.tenant_id)) stores'.rest) ↔
    ∀ held, ReachesMark runtime call row held →
      Unattended call ingress row.tenant_id stores.coordination →
      FollowedUp row.tenant_id (Stdlib.str (askedUnder ingress row.tenant_id)) stores.rest := by
  have htenant {held : Held Uuid} (h : call.claimed runtime row = .ok held) :
      held.outbox.tenant_id = row.tenant_id := by
    unfold WorkerCall.claimed claim_ingress_dispatch_outbox at h
    split at h
    · cases h
    · split at h
      · cases h
      · rename_i outbox hclaim
        split at hclaim
        · cases hclaim
          cases h
          rfl
        · cases hclaim
  constructor
  · intro hfollowed held hreaches hunattended
    have htenant := htenant hreaches.claimed
    obtain ⟨answer, coordination, hdispatch⟩ := dispatch_unattended hunattended
    rw [← htenant] at hdispatch
    obtain ⟨row', hprocess⟩ := dispatched_of_reachesMark hreaches hdispatch
    have hfollowed := hfollowed row' _ hprocess
    exact hfollowed
  · intro hC row' stores' hprocess
    obtain ⟨held, answer, hreaches, hdispatch⟩ := process_dispatched hprocess
    rw [htenant hreaches.claimed] at hdispatch
    rcases dispatch_leaves hdispatch with hfollowed | ⟨hunattended, hrest⟩
    · exact hfollowed
    · rw [hrest]
      exact hC held hreaches hunattended

end

/-! ## A message that no one follows up -/

/-- The coordination accepts, and the governance of executions refuses the tenant for its quota. -/
def quotaCall : WorkerCall String Unit where
  worker_id := "worker"
  now := 0
  upstream := {
    canonical_payload := []
    created_at := 0
    runtime := mailCall.runtime
    service := { mailCall.service with
      execution_governance := fun _ => .ok { allowed := false, reason := some "quota_exceeded" } }
    fresh := "f"
    review := fun _ rest => rest
    settle := fun _ _ rest => (.error ⟨"RuntimeError", ""⟩, rest) }
  collaborators := {
    approval_queue := some {}
    resolve_identity := fun t => ({}, t)
    handle_merge_confirmation := fun _ => pure ()
    evaluate_continuity := fun _ => pure { outcome := .new_case }
    append_follow_up := fun session_id => pure (some session_id)
    open_session := fun session_id _ => pure (some session_id)
    append_customer_message := fun _ => pure ()
    request_execution := .ok ()
    publish_execution := fun _ => pure none }

def mailRow : IngressDispatchOutboxRecord String where
  outbox_id := "o"
  ingress_id := "i"
  tenant_id := "acme"
  channel := "email"
  status := .pending
  created_at := 0

theorem refused_mail_is_consumed :
    ∃ row' stores', process_ingress_dispatch_outbox_runtime {} quotaCall mailIngress mailRow
        ⟨.empty, { sessions := () }⟩ = (.dispatched, row', stores') ∧ row'.status = .dispatched ∧
      ¬ FollowedUp "acme" (Stdlib.str (askedUnder mailIngress "acme")) stores'.rest := by
  obtain ⟨ended, hended⟩ : ∃ ended, process_ingress_dispatch_outbox_runtime {} quotaCall mailIngress mailRow
      ⟨.empty, { sessions := () }⟩ = ended := ⟨_, rfl⟩
  have hrun : ended.1 = .dispatched ∧ ended.2.1.status = .dispatched ∧
      ended.2.2.rest.executions = [] ∧ ended.2.2.rest.cases = [] := by
    rw [← hended]
    decide +kernel
  obtain ⟨answer, row', stores'⟩ := ended
  obtain ⟨rfl, hstatus, hexecutions, hcases⟩ := hrun
  refine ⟨row', stores', hended, hstatus, ?_⟩
  rintro (⟨session_id, execution_id, hstored, -⟩ | hstored)
  · rw [hexecutions] at hstored
    cases hstored
  · rw [hcases] at hstored
    cases hstored

end operious.ingress
