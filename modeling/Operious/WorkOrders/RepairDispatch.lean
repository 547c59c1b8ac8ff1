-- The connector that dispatches a repair: it reserves the work order of its idempotency key, sends the
-- request, and moves the order on, one transition after the other. A call may stop after any step.
import Operious.Governance.Engine
import Operious.WorkOrders.Ledger

namespace operious.work_orders

open operious.governance (PyException)
open runs

/-! ## The request to the provider -/

inductive ToolStatus
  | success | error
  deriving DecidableEq, Repr

/-- `ToolInvocationResult`, with the entries of its output that the connector reads back. -/
structure ToolInvocationResult where
  status : ToolStatus
  error_code : Option String := none
  error_message : Option String := none
  provider_id : Option String := none
  provider_status : Option String := none
  provider_error : Option String := none
  deriving DecidableEq

structure ConnectorProviderFields where
  provider_id : Option String := none
  provider_status : Option String := none
  provider_error : Option String := none

/-- What `parse_response` raises. -/
inductive ParseFailure
  | response (status_code : Nat) (provider_fields : ConnectorProviderFields)
  | other (exc : PyException)

/-- What the collaborators of `ConnectorTool.invoke` come to in one call. -/
structure ProviderCall where
  /-- An active config is found, and its type is that of a channel. -/
  configured : Bool := true
  channel_known : Bool := true
  credentials : Except PyException Unit := .ok ()
  /-- `build_request`, the check of the address, and the opening of the client. -/
  build_request : Except PyException Unit := .ok ()
  validated : Except PyException Unit := .ok ()
  client : Except PyException Unit := .ok ()
  /-- The answer to the request, as `parse_response` reads it. -/
  response : Except PyException (Except ParseFailure ConnectorProviderFields)
  closed : Except PyException Unit := .ok ()

def error_result (code message : String) : ToolInvocationResult where
  status := .error
  error_code := some code
  error_message := some message

def provider_error_result (provider_fields : ConnectorProviderFields) (message : String) :
    ToolInvocationResult where
  status := .error
  error_code := some "provider_error"
  error_message := some message
  provider_id := provider_fields.provider_id
  provider_status := provider_fields.provider_status
  provider_error := orStr provider_fields.provider_error (some message)

/-- `ConnectorTool.invoke`. -/
def ProviderCall.invoke (call : ProviderCall) : Except PyException ToolInvocationResult :=
  if !call.configured then
    .ok (error_result "connector_config_missing" "ConnectorConfigError: connector config missing")
  else if !call.channel_known then
    .ok (error_result "invalid_connector_type" "connector_type must map to a tenant channel type")
  else
    match call.credentials with
    | .error exc =>
      .ok (error_result "credential_load_failed" (exc.name ++ ": credential load failed"))
    | .ok _ => do
      call.build_request
      call.validated
      call.client
      -- the client is closed on the way out of every answer
      call.closed
      match call.response with
      | .error exc =>
        return error_result "provider_transport_error" (exc.name ++ ": provider transport error")
      | .ok (.error (.response status_code provider_fields)) =>
        return provider_error_result provider_fields ("http_status_" ++ toString status_code)
      | .ok (.error (.other exc)) =>
        return error_result "provider_response_parse_error"
          (exc.name ++ ": provider response parse error")
      | .ok (.ok fields) =>
        return {
          status := .success
          provider_id := fields.provider_id
          provider_status := orStr fields.provider_status (some "success") }

def ProviderCall.sends (call : ProviderCall) : Bool :=
  call.configured && call.channel_known && call.credentials.isOk && call.build_request.isOk &&
    call.validated.isOk && call.client.isOk

/-! ## The connector -/

section

variable {Uuid : Type}

def result_text (value : Option String) : Option String :=
  value.bind fun text => if (strip text).isEmpty then none else some (strip text)

/-- How far the call is. -/
inductive Phase
  | idle
  /-- The order is reserved, and is neither awaiting fulfillment nor failed: the request is next. -/
  | sending
  /-- The provider has accepted: the order is to be dispatched, and then to await its fulfillment. -/
  | accepted (provider_work_order_id : Option String) (provider_status : String)
  | dispatched (provider_work_order_id : Option String) (provider_status : String)
  /-- The order is to fail, and then the call answers the result. -/
  | refused (result : ToolInvocationResult) (provider_status : Option String) (provider_error : String)

/-- The order of the key, if there is one, and the call on it. -/
structure Dispatch (Uuid : Type) where
  order : Option (WorkOrderRow Uuid) := none
  phase : Phase := .idle

/-- How a call ends. -/
inductive Ending
  | returned (result : ToolInvocationResult)
  | raised (error : String)

inductive DispatchEvent
  /-- The connector is called, and reserves the order if it finds a config. -/
  | invoke (configured : Bool)
  | send (call : ProviderCall)
  | transition (now : Instant)
  | callback (signal : WorkOrderFulfillmentSignal)
  /-- The process stops. -/
  | stop

def reserved (order : WorkOrderRow Uuid) : Phase × Option Ending :=
  if order.state = .awaiting_fulfillment then
    (.idle, some (.returned {
      status := .success
      provider_id := order.provider_work_order_id
      provider_status := orStr order.provider_status (some "accepted") }))
  else if order.state = .failed then
    (.idle, some (.returned { error_result "work_order_dispatch_previously_failed"
        "repair.dispatch previously failed for this idempotency key" with
      provider_id := order.provider_work_order_id
      provider_status := order.provider_status }))
  else (.sending, none)

def answered : Except PyException ToolInvocationResult → Phase
  | .error exc => .refused (error_result "dispatch_failed" (exc.name ++ ": dispatch failed"))
      (some "tool_raised") (exc.name ++ ": dispatch failed")
  | .ok result =>
    if result.status = .success then
      .accepted (result_text result.provider_id) ((result_text result.provider_status).getD "accepted")
    else .refused result (result_text result.provider_status)
      (((result_text result.provider_error).or result.error_message).getD "provider_error")

/-- The next transition of the call. -/
def Phase.transition (now : Instant) : Phase → Option Transition
  | accepted provider_work_order_id provider_status => some {
      to_state := .dispatched, transitioned_at := now, provider_work_order_id
      provider_status := some provider_status
      metadata := Dict.ofList [("tool", .str "repair.dispatch"), ("phase", .str "dispatch_accepted")] }
  | dispatched provider_work_order_id provider_status => some {
      to_state := .awaiting_fulfillment, transitioned_at := now, provider_work_order_id
      provider_status := some provider_status
      metadata := Dict.ofList [("tool", .str "repair.dispatch"),
        ("phase", .str "awaiting_tenant_fulfillment")] }
  | refused _ provider_status provider_error => some {
      to_state := .failed, transitioned_at := now
      provider_status := orStr provider_status (some "failed")
      metadata := Dict.ofList [("tool", .str "repair.dispatch"), ("phase", .str "dispatch_failed"),
        ("provider_error", .str provider_error)] }
  | _ => none

/-- The call after its transition. -/
def Phase.moved : Phase → Phase × Option Ending
  | accepted provider_work_order_id provider_status =>
    (.dispatched provider_work_order_id provider_status, none)
  | dispatched provider_work_order_id provider_status => (.idle, some (.returned {
      status := .success, provider_id := provider_work_order_id, provider_status := some provider_status }))
  | refused result _ _ => (.idle, some (.returned result))
  | phase => (phase, none)

/-- One step, with the end of the call that it brings. The new order is under the key from then on. -/
def DispatchEvent.step (work_order_id : Uuid) (created_at : Instant) (s : Dispatch Uuid) :
    DispatchEvent → Option (Dispatch Uuid × Option Ending)
  | invoke configured =>
    match s.phase with
    | .idle =>
      if configured then
        let order := s.order.getD { work_order_id, last_transition_at := created_at }
        some (⟨some order, (reserved order).1⟩, (reserved order).2)
      else
        some (s, some (.returned (error_result "connector_config_missing"
          "ConnectorConfigError: connector config missing")))
    | _ => none
  | send call =>
    match s.phase with
    | .sending => some ({ s with phase := answered call.invoke }, none)
    | _ => none
  | transition now =>
    match s.order, s.phase.transition now with
    | some order, some t =>
      match transition_work_order order t with
      | .error text => some ({ s with phase := .idle }, some (.raised text))
      | .ok order => some (⟨some order, s.phase.moved.1⟩, s.phase.moved.2)
    | _, _ => none
  | callback signal =>
    match s.order with
    | none => some (s, none)
    | some order =>
      match consume order signal with
      | .error _ => some (s, none)
      | .ok (_, order) => some ({ s with order := some order }, none)
  | stop => some ({ s with phase := .idle }, none)

variable (work_order_id : Uuid) (created_at : Instant)

def DispatchEvent.next (s : Dispatch Uuid) (event : DispatchEvent) : Option (Dispatch Uuid) :=
  (event.step work_order_id created_at s).map (·.1)

/-! ## The law -/

/-- The state of the stored order is among these. -/
def Dispatch.In (s : Dispatch Uuid) (states : List WorkOrderState) : Prop :=
  ∃ order, s.order = some order ∧ order.state ∈ states

/-- The request is sent only while the order is created; a call that ends returns a result; and it is a
success exactly if the order then awaits its fulfillment or has it. -/
structure DispatchedOnce (before : Dispatch Uuid) (event : DispatchEvent) (after : Dispatch Uuid) :
    Prop where
  sends : ∀ call, event = .send call → call.sends = true → before.In [.created]
  returns : ∀ after' error, event.step work_order_id created_at before ≠ some (after', some (.raised error))
  reports : ∀ result, event.step work_order_id created_at before = some (after, some (.returned result)) →
    (result.status = .success ↔ after.In [.awaiting_fulfillment, .fulfilled])

/-- The connector is not called on an order that a call left dispatched, or that is fulfilled; and where
it finds no config, the order does not await its fulfillment either. -/
def Fresh (s : Dispatch Uuid) : DispatchEvent → Prop
  | .invoke true => ¬ s.In [.dispatched, .fulfilled]
  | .invoke false => ¬ s.In [.awaiting_fulfillment, .fulfilled]
  | _ => True

/-- The order is as the call has left it. -/
def Kept (s : Dispatch Uuid) : Prop :=
  match s.phase with
  | .idle => True
  | .dispatched .. => s.In [.dispatched]
  | .refused result .. => s.In [.created] ∧ result.status = .error
  | _ => s.In [.created]

instance (s : Dispatch Uuid) (states : List WorkOrderState) : Decidable (s.In states) :=
  decidable_of_iff (∃ order ∈ s.order, order.state ∈ states) Iff.rfl

instance (s : Dispatch Uuid) : (event : DispatchEvent) → Decidable (Fresh s event)
  | .invoke true => inferInstanceAs (Decidable (¬ s.In _))
  | .invoke false => inferInstanceAs (Decidable (¬ s.In _))
  | .send _ | .transition _ | .callback _ | .stop => isTrue trivial

variable {work_order_id created_at} {s s' : Dispatch Uuid}

variable {event : DispatchEvent}

theorem DispatchEvent.next_eq_some :
    event.next work_order_id created_at s = some s' ↔
      ∃ ending, event.step work_order_id created_at s = some (s', ending) := by
  unfold DispatchEvent.next
  rw [Option.map_eq_some_iff]
  constructor
  · rintro ⟨⟨_, ending⟩, hstep, rfl⟩
    exact ⟨ending, hstep⟩
  · rintro ⟨ending, hstep⟩
    exact ⟨_, hstep, rfl⟩

theorem DispatchedOnce.of_quiet
    (hsends : ∀ call, event = .send call → call.sends = true → s.In [.created])
    (hstep : event.step work_order_id created_at s = some (s', none)) :
    DispatchedOnce work_order_id created_at s event s' where
  sends := hsends
  returns _ _ h := nomatch congrArg Prod.snd (Option.some.inj (hstep.symm.trans h))
  reports _ h := nomatch congrArg Prod.snd (Option.some.inj (hstep.symm.trans h))

theorem DispatchedOnce.of_returned {result : ToolInvocationResult}
    (hsends : ∀ call, event ≠ .send call)
    (hstep : event.step work_order_id created_at s = some (s', some (.returned result)))
    (hreports : result.status = .success ↔ s'.In [.awaiting_fulfillment, .fulfilled]) :
    DispatchedOnce work_order_id created_at s event s' where
  sends call h := absurd h (hsends call)
  returns _ _ h := nomatch congrArg Prod.snd (Option.some.inj (hstep.symm.trans h))
  reports result' h := by
    have hresult := congrArg Prod.snd (Option.some.inj (hstep.symm.trans h))
    obtain rfl : result = result' := Ending.returned.inj (Option.some.inj hresult)
    exact hreports

/-! ## One lemma for each event -/

theorem reserved_spec (order : WorkOrderRow Uuid)
    (h : order.state ∉ [WorkOrderState.dispatched, .fulfilled]) :
    (order.state = .created ∧ reserved order = (.sending, none)) ∨ ∃ result,
      reserved order = (.idle, some (.returned result)) ∧
      (result.status = .success ↔ order.state ∈ [WorkOrderState.awaiting_fulfillment, .fulfilled]) := by
  unfold reserved
  cases hstate : order.state with
  | created => exact .inl ⟨rfl, rfl⟩
  | awaiting_fulfillment => exact .inr ⟨_, rfl, fun _ => List.mem_cons_self, fun _ => rfl⟩
  | failed => exact .inr ⟨_, rfl, nofun, fun hin => absurd hin (by decide)⟩
  | dispatched =>
    rw [hstate] at h
    exact absurd List.mem_cons_self h
  | fulfilled =>
    rw [hstate] at h
    exact absurd (List.mem_cons_of_mem _ List.mem_cons_self) h

theorem invoke_dispatched_once {configured : Bool} (hfresh : Fresh s (.invoke configured))
    (hnext : (DispatchEvent.invoke configured).next work_order_id created_at s = some s') :
    Kept s' ∧ DispatchedOnce work_order_id created_at s (.invoke configured) s' := by
  obtain ⟨ending, hstep⟩ := DispatchEvent.next_eq_some.mp hnext
  have hfull := hstep
  rw [DispatchEvent.step] at hstep
  split at hstep
  · rename_i hidle
    cases configured with
    | false =>
      simp only [Bool.false_eq_true, if_false] at hstep
      obtain ⟨rfl, rfl⟩ := Prod.mk.inj (Option.some.inj hstep)
      refine ⟨?_, .of_returned (fun _ h => nomatch h) hfull ?_⟩
      · rw [Kept, hidle]
        trivial
      · exact iff_of_false (fun h => nomatch h) hfresh
    | true =>
      simp only [if_true] at hstep
      have horder : (s.order.getD { work_order_id, last_transition_at := created_at }).state ∉
          [WorkOrderState.dispatched, .fulfilled] := by
        cases hs : s.order with
        | none => exact (by decide : WorkOrderState.created ∉ [WorkOrderState.dispatched, .fulfilled])
        | some order => exact fun hin => hfresh ⟨order, hs, hin⟩
      generalize s.order.getD { work_order_id, last_transition_at := created_at } = order at hstep horder
      obtain ⟨rfl, rfl⟩ := Prod.mk.inj (Option.some.inj hstep)
      rcases reserved_spec order horder with ⟨hcreated, hreserved⟩ | ⟨result, hreserved, hstatus⟩
      · rw [hreserved] at hfull ⊢
        exact ⟨⟨order, rfl, hcreated ▸ List.mem_singleton_self _⟩,
          .of_quiet (fun _ h => nomatch h) hfull⟩
      · rw [hreserved] at hfull ⊢
        refine ⟨trivial, .of_returned (fun _ h => nomatch h) hfull
          (hstatus.trans ⟨fun hin => ⟨order, rfl, hin⟩, ?_⟩)⟩
        rintro ⟨_, hsome, hin⟩
        rwa [← Option.some.inj hsome] at hin
  · cases hstep

theorem answered_spec (outcome : Except PyException ToolInvocationResult) :
    (∃ id status, answered outcome = .accepted id status) ∨
      ∃ result status error, answered outcome = .refused result status error ∧ result.status = .error := by
  cases outcome with
  | error exc => exact .inr ⟨_, _, _, rfl, rfl⟩
  | ok result =>
    unfold answered
    simp only
    cases hstatus : result.status with
    | success => exact .inl ⟨_, _, if_pos rfl⟩
    | error => exact .inr ⟨_, _, _, if_neg (fun h => nomatch h), hstatus⟩

theorem send_dispatched_once (hkept : Kept s) {call : ProviderCall}
    (hnext : (DispatchEvent.send call).next work_order_id created_at s = some s') :
    Kept s' ∧ DispatchedOnce work_order_id created_at s (.send call) s' := by
  obtain ⟨ending, hstep⟩ := DispatchEvent.next_eq_some.mp hnext
  have hfull := hstep
  rw [DispatchEvent.step] at hstep
  split at hstep
  · rename_i hphase
    obtain ⟨rfl, rfl⟩ := Prod.mk.inj (Option.some.inj hstep)
    rw [Kept, hphase] at hkept
    refine ⟨?_, .of_quiet (fun _ _ _ => hkept) hfull⟩
    rcases answered_spec call.invoke with ⟨_, _, hanswered⟩ | ⟨_, _, _, hanswered, herror⟩
    · rw [hanswered]
      exact hkept
    · rw [hanswered]
      exact ⟨hkept, herror⟩
  · cases hstep

variable {now : Instant}

theorem Kept.allowed (hkept : Kept s) {order : WorkOrderRow Uuid} {t : Transition}
    (horder : s.order = some order) (ht : s.phase.transition now = some t) :
    can_transition order.state t.to_state = true := by
  have hin {state : WorkOrderState} (h : s.In [state]) : order.state = state := by
    obtain ⟨_, hsome, hstate⟩ := h
    rw [horder] at hsome
    rw [Option.some.inj hsome]
    exact List.mem_singleton.mp hstate
  unfold Kept at hkept
  cases hphase : s.phase with
  | idle =>
    rw [hphase] at ht
    cases ht
  | sending =>
    rw [hphase] at ht
    cases ht
  | accepted | dispatched =>
    rw [hphase] at ht hkept
    rw [hin hkept, ← Option.some.inj ht]
    rfl
  | refused =>
    rw [hphase] at ht hkept
    rw [hin hkept.1, ← Option.some.inj ht]
    rfl

theorem transition_dispatched_once (hkept : Kept s)
    (hnext : (DispatchEvent.transition now).next work_order_id created_at s = some s') :
    Kept s' ∧ DispatchedOnce work_order_id created_at s (.transition now) s' := by
  obtain ⟨ending, hstep⟩ := DispatchEvent.next_eq_some.mp hnext
  have hfull := hstep
  rw [DispatchEvent.step] at hstep
  split at hstep
  · rename_i order t horder ht
    have hmoved : transition_work_order order t = .ok (t.write order order) := by
      unfold transition_work_order
      rw [assert_transition_ok.mpr (hkept.allowed horder ht)]
      rfl
    rw [hmoved] at hstep
    obtain ⟨rfl, rfl⟩ := Prod.mk.inj (Option.some.inj hstep)
    unfold Kept at hkept
    cases hphase : s.phase with
    | idle =>
      rw [hphase] at ht
      cases ht
    | sending =>
      rw [hphase] at ht
      cases ht
    | accepted =>
      rw [hphase] at ht hfull
      refine ⟨⟨_, rfl, ?_⟩, .of_quiet (fun _ h => nomatch h) hfull⟩
      rw [← Option.some.inj ht]
      exact List.mem_singleton_self _
    | dispatched =>
      rw [hphase] at ht hfull
      refine ⟨trivial, .of_returned (fun _ h => nomatch h) hfull (iff_of_true rfl ⟨_, rfl, ?_⟩)⟩
      rw [← Option.some.inj ht]
      exact List.mem_cons_self
    | refused result =>
      rw [hphase] at ht hfull hkept
      refine ⟨trivial, .of_returned (fun _ h => nomatch h) hfull (iff_of_false (fun hsuccess => ?_) ?_)⟩
      · rw [hkept.2] at hsuccess
        cases hsuccess
      · rintro ⟨_, hsome, hin⟩
        rw [← Option.some.inj hsome, ← Option.some.inj ht] at hin
        exact absurd hin
          (by decide : WorkOrderState.failed ∉ [WorkOrderState.awaiting_fulfillment, .fulfilled])
  · cases hstep

theorem callback_dispatched_once (hkept : Kept s) {signal : WorkOrderFulfillmentSignal}
    (hnext : (DispatchEvent.callback signal).next work_order_id created_at s = some s') :
    Kept s' ∧ DispatchedOnce work_order_id created_at s (.callback signal) s' := by
  obtain ⟨ending, hstep⟩ := DispatchEvent.next_eq_some.mp hnext
  have hfull := hstep
  rw [DispatchEvent.step] at hstep
  split at hstep
  · obtain ⟨rfl, rfl⟩ := Prod.mk.inj (Option.some.inj hstep)
    exact ⟨hkept, .of_quiet (fun _ h => nomatch h) hfull⟩
  · rename_i order horder
    obtain ⟨outcome, row', hconsumed, hrow⟩ := consume_ok order signal
    rw [hconsumed] at hstep
    obtain ⟨rfl, rfl⟩ := Prod.mk.inj (Option.some.inj hstep)
    refine ⟨?_, .of_quiet (fun _ h => nomatch h) hfull⟩
    rcases hrow with rfl | ⟨-, hawaiting, -⟩
    · rwa [← horder]
    · have hnot {state : WorkOrderState} (hne : state ≠ .awaiting_fulfillment) : ¬ s.In [state] := by
        rintro ⟨_, hsome, hstate⟩
        rw [horder] at hsome
        rw [← Option.some.inj hsome, hawaiting, List.mem_singleton] at hstate
        exact hne hstate.symm
      unfold Kept at hkept ⊢
      cases hphase : s.phase <;> rw [hphase] at hkept
      case idle => trivial
      case refused => exact absurd hkept.1 (hnot (by decide))
      all_goals exact absurd hkept (hnot (by decide))

/-- Whatever the provider answers, wherever the process stops and whichever callbacks come, an order is
dispatched once along every run in which the connector is not called on one that is dispatched or
fulfilled. -/
theorem dispatched_once_when_fresh (work_order_id : Uuid) (created_at : Instant)
    (events : List DispatchEvent)
    (hfresh : Meets (DispatchEvent.next work_order_id created_at) Fresh {} events) :
    Along (DispatchEvent.next work_order_id created_at) (DispatchedOnce work_order_id created_at) {}
      events := by
  refine along_when (I := Kept) (C := Fresh) (fun s event s' hkept hfresh hnext => ?_) trivial hfresh
  cases event with
  | invoke configured => exact invoke_dispatched_once hfresh hnext
  | send call => exact send_dispatched_once hkept hnext
  | transition now => exact transition_dispatched_once hkept hnext
  | callback signal => exact callback_dispatched_once hkept hnext
  | stop =>
    obtain rfl := Option.some.inj hnext
    exact ⟨trivial, .of_quiet (fun _ h => nomatch h) rfl⟩

end

/-! ## A call that stops between its transitions -/

def acceptedCall : ProviderCall where
  response := .ok (.ok { provider_id := some "p-1" })

/-- The process stops when the order is dispatched, and the connector is called again. -/
def stoppedHalfway : List DispatchEvent :=
  [.invoke true, .send acceptedCall, .transition 1, .stop, .invoke true]

/-- The request goes out again for the order that is dispatched. -/
theorem dispatched_order_is_sent_again :
    ¬ Along (DispatchEvent.next "w" 0) (DispatchedOnce "w" 0) {} (stoppedHalfway ++ [.send acceptedCall]) := by
  intro h
  have hrun : ((after (DispatchEvent.next "w" 0) {} stoppedHalfway).bind fun s =>
      (DispatchEvent.next "w" 0 s (.send acceptedCall)).map fun _ => s.order.map (·.state)) =
      some (some .dispatched) := by
    decide +kernel
  obtain ⟨s, hs, hrun⟩ := Option.bind_eq_some_iff.mp hrun
  obtain ⟨s', hnext, hstate⟩ := Option.map_eq_some_iff.mp hrun
  obtain ⟨order, horder, hcreated⟩ := (h.last hs hnext).sends acceptedCall rfl rfl
  rw [horder] at hstate
  have hdispatched : order.state = .dispatched := Option.some.inj hstate
  rw [hdispatched] at hcreated
  exact absurd hcreated (by decide)

/-- A call whose request is refused, and a second one that finds the order failed. -/
theorem refused_order_is_dispatched_once :
    Along (DispatchEvent.next "w" 0) (DispatchedOnce "w" 0) {}
      [.invoke true, .send { response := .error ⟨"ConnectTimeout", ""⟩ }, .transition 1, .invoke true] :=
  dispatched_once_when_fresh "w" 0 _ (by decide +kernel)

end operious.work_orders
