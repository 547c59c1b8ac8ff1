-- The dispatch of a captured message: the coordination is asked under an id that its ingress decides,
-- and what it accepts goes on to a session and an execution.
import Operious.Coordination.Gates

namespace operious.ingress

open operious.arbitration (TextRepr)
open operious.coordination
open operious.dispatch_arbitration (DispatchArbitrationEvaluation DispatchArbitrationProposal
  DispatchResult)
open operious.governance (PyException)
open operious.identity (Component Key)

section

variable (Uuid : Type)

/-- A captured message. It is written once. -/
structure BoundaryIngressRecord where
  ingress_id : Uuid
  event_id : Option Uuid := none
  replay_key : Option Uuid := none
  source_type : String
  source_id : String
  external_message_id : Option String := none
  external_conversation_id : Option String := none
  correlation_id : Option String := none
  request_id : Option String := none
  source_language : String := "en"

/-- The stores that a dispatch writes: the coordination envelopes, and the sessions, executions and cases
of human review in `S`. -/
structure DispatchStores (S : Type) where
  coordination : Dict Uuid (CoordinationEnvelope Uuid)
  rest : S

/-- What one call of `dispatch` runs with. Nothing is assumed of it: two calls for one ingress may find
another payload, other runtimes, another time. -/
structure DispatchCall (S : Type) where
  /-- `_resolved_canonical_payload`. -/
  canonical_payload : List (Key × Component Uuid)
  created_at : Instant
  /-- `_coordination_runtime_for_tenant`. -/
  runtime : CoordinationRuntime Uuid
  request_id : Option String := none
  denial : Option PyException := none
  topology : EvaluationAround := {}
  policy : EvaluationAround := {}
  sequence : Nat := 1
  service : dispatch_arbitration.DispatchService Uuid
  fresh : Uuid
  proposals : Option (List DispatchArbitrationProposal) := none
  /-- `request_coordination_human_review_case`. -/
  review : CoordinationDispatchResult Uuid → S → S
  /-- The dispatch from its continuity to the publication of its execution. -/
  settle : CoordinationDispatchResult Uuid → Option (DispatchArbitrationEvaluation Uuid) → S →
    Except PyException DispatchResult × S

end

variable {Uuid S : Type} [DecidableEq Uuid] [Stdlib Uuid]

/-! ## The in-memory store of envelopes -/

/-- `record_envelope`: an id is written once. -/
def record_envelope [TextRepr] (store : Dict Uuid (CoordinationEnvelope Uuid))
    (record : CoordinationEnvelope Uuid) : Except PyException Unit :=
  match store.get? record.coordination_id with
  | some _ => .error ⟨"CoordinationPersistenceError", "coordination_id " ++
      TextRepr.repr (Stdlib.str record.coordination_id) ++ " already recorded; records are write-once"⟩
  | none => .ok ()

def recorded (store : Dict Uuid (CoordinationEnvelope Uuid)) (result : CoordinationDispatchResult Uuid) :
    Dict Uuid (CoordinationEnvelope Uuid) :=
  match result.envelope with
  | some envelope => store.set envelope.coordination_id envelope
  | none => store

/-! ## The request -/

/-- `AuthorityContext.from_raw(tenant_id=...)`. -/
def from_raw (tenant_id : String) : Except PyException AuthorityContext :=
  if strip tenant_id = "" then .error ⟨"IdentityError", "tenant_id must be a non-empty string"⟩
  else .ok { tenant_id := some (strip tenant_id) }

def lineage_seed (ingress : BoundaryIngressRecord Uuid) (tenant_id : String) : String :=
  tenant_id ++ "|" ++ Stdlib.str ingress.ingress_id ++ "|" ++
    CoordinationRuntime.optStr Stdlib.str ingress.event_id ++ "|dispatch"

/-- The id under which the coordination is asked. Its seed is the ingress. -/
def derive_coordination_id (seed : String) : Uuid :=
  Stdlib.uuid5 (Stdlib.uuid "6f3a1b1c-2c5e-4f0a-9c2b-1a2b3c4d5e6f") seed

def derive_message_id (seed : String) : Uuid :=
  Stdlib.uuid5 (Stdlib.uuid "7b4e2d2c-3d6f-4a1b-8c3d-2b3c4d5e6f70") seed

def derive_correlation_id (seed : String) : Uuid :=
  Stdlib.uuid5 (Stdlib.uuid "8c5f3e3d-4e70-4b2c-9d4e-3c4d5e6f7081") seed

def messageBody (ingress : BoundaryIngressRecord Uuid)
    (canonical_payload : List (Key × Component Uuid)) : List (Key × Component Uuid) :=
  let entry (name : String) (value : Component Uuid) : Key × Component Uuid := (⟨name, true⟩, value)
  let optText (text : Option String) : Component Uuid := text.elim .null .str
  [entry "ingress_id" (.str (Stdlib.str ingress.ingress_id)),
   entry "event_id" (optText (ingress.event_id.map Stdlib.str)),
   entry "replay_key" (optText (ingress.replay_key.map Stdlib.str)),
   entry "source_type" (.str ingress.source_type),
   entry "source_id" (.str ingress.source_id),
   entry "external_message_id" (optText ingress.external_message_id),
   entry "canonical_payload" (.mapping canonical_payload),
   entry "source_language" (.str ingress.source_language)]

def to_coordination_request [TextRepr] (ingress : BoundaryIngressRecord Uuid) (tenant_id : String)
    (authority : AuthorityContext) (canonical_payload : List (Key × Component Uuid))
    (created_at : Instant) : Except PyException (CoordinationDispatchRequest Uuid) :=
  let seed := lineage_seed ingress tenant_id
  match h : check_tenant_authority_coexistence "CoordinationDispatchRequest" (some authority)
      (some tenant_id) with
  | .error exc => .error exc
  | .ok _ => .ok {
      message := {
        message_id := derive_message_id (seed ++ "|message")
        message_type := .request
        sender_id := "runtime:boundary-ingress"
        recipient := {
          recipient_id := "agent:ticket-triage", kind := "agent", tenant_id := some tenant_id }
        payload := {
          content_type := "operious/boundary-ingress"
          body := messageBody ingress canonical_payload, schema_version := "1" }
        priority := .normal
        created_at }
      direction := .runtime_to_agent
      correlation_id := some (derive_correlation_id ("boundary:" ++ Stdlib.str ingress.ingress_id))
      coordination_id_override := some (derive_coordination_id seed)
      request_id := ingress.request_id
      tenant_id := some tenant_id
      authority := some authority
      governance_metadata := Dict.ofList
        [("governance.decision_seed", .str (seed ++ "|governance")),
         ("governance.enforcement_seed", .str (seed ++ "|governance|enforcement"))]
      coexist := h }

/-! ## The dispatch -/

def seen (result : CoordinationDispatchResult Uuid) (correlation_id : Option Uuid) :
    dispatch_arbitration.CoordinationDispatchResult Uuid where
  coordination_id := result.coordination_id
  outcome := result.outcome
  governance_decision_id := result.trace.governance_decision_id
  correlation_id := correlation_id
  trace_error := result.trace.error
  error := result.error

variable [TextRepr]

namespace DispatchCall

variable (call : DispatchCall Uuid S)

def around (store : Dict Uuid (CoordinationEnvelope Uuid)) : DispatchAround Uuid where
  request_id := call.request_id
  denial := call.denial
  topology := call.topology
  policy := call.policy
  sequence := call.sequence
  dispatched_at := call.created_at
  record_envelope := record_envelope store

def conclude (ingress : BoundaryIngressRecord Uuid) (tenant_id : String)
    (correlation_id : Option Uuid) (coordination_result : CoordinationDispatchResult Uuid)
    (rest : S) : Except PyException DispatchResult × S :=
  let rest := if coordination_result.outcome = .accepted then rest else call.review coordination_result rest
  match dispatch_arbitration.dispatch call.service call.fresh
      ⟨ingress.ingress_id, ingress.request_id, ingress.correlation_id⟩ tenant_id
      (seen coordination_result correlation_id) call.proposals with
  | .error exc => (.error exc, rest)
  | .ok (.halted result) => (.ok result, rest)
  | .ok (.proceeds arbitration) => call.settle coordination_result arbitration rest

/-- `DispatchService.dispatch`, of an ingress that was loaded. -/
def dispatch (ingress : BoundaryIngressRecord Uuid) (tenant_id : String) (stores : DispatchStores Uuid S) :
    Except PyException DispatchResult × DispatchStores Uuid S :=
  match from_raw tenant_id >>= fun authority =>
      to_coordination_request ingress tenant_id authority call.canonical_payload call.created_at with
  | .error exc => (.error exc, stores)
  | .ok request =>
    match CoordinationRuntime.dispatch call.runtime (call.around stores.coordination) request with
    | .error exc => (.error exc, stores)
    | .ok coordination_result =>
      let (answer, rest) :=
        call.conclude ingress tenant_id request.correlation_id coordination_result stores.rest
      (answer, ⟨recorded stores.coordination coordination_result, rest⟩)

end DispatchCall

def dispatches (ingress : BoundaryIngressRecord Uuid) (tenant_id : String) :
    List (DispatchCall Uuid S) → DispatchStores Uuid S →
      List (Except PyException DispatchResult) × DispatchStores Uuid S
  | [], stores => ([], stores)
  | call :: calls, stores =>
    let (answer, next) := call.dispatch ingress tenant_id stores
    let (answers, last) := dispatches ingress tenant_id calls next
    (answer :: answers, last)

end operious.ingress

-- What a second dispatch of one ingress does. Its coordination is asked under the id of the first one,
-- whose envelope is written once, so it is refused and answers no session.
namespace operious.ingress

open operious.arbitration (TextRepr)
open operious.coordination
open operious.dispatch_arbitration (DispatchResult)
open operious.governance (PyException)

/-! ## The step after the coordination -/

variable {result : DispatchResult}

section

variable {Uuid : Type} [TextRepr] [Stdlib Uuid] {service : dispatch_arbitration.DispatchService Uuid}
  {fresh : Uuid} {ingress : dispatch_arbitration.BoundaryIngressRecord Uuid} {tenant_id : String}
  {coordination_result : dispatch_arbitration.CoordinationDispatchResult Uuid}
  {proposals : Option (List dispatch_arbitration.DispatchArbitrationProposal)}

theorem arbitrate_halted {decision_id : Uuid}
    {given : List dispatch_arbitration.DispatchArbitrationProposal}
    (h : dispatch_arbitration.arbitrate service fresh ingress tenant_id coordination_result decision_id
      given = .ok (.halted result)) : result.session_id = none := by
  unfold dispatch_arbitration.arbitrate at h
  split at h
  · cases h
  · obtain ⟨arbitration, -, h⟩ := bind_eq_ok.mp h
    split at h
    · cases h
    · split at h
      · cases h
        rfl
      · cases h

theorem halted_session
    (h : dispatch_arbitration.dispatch service fresh ingress tenant_id coordination_result proposals =
      .ok (.halted result)) : result.session_id = none := by
  unfold dispatch_arbitration.dispatch at h
  simp only at h
  split at h
  · obtain ⟨-, -, h⟩ := bind_eq_ok.mp h
    cases h
    rfl
  · split at h
    · split at h
      · cases h
        rfl
      · cases h
    · obtain ⟨execution_governance, -, h⟩ := bind_eq_ok.mp h
      split at h
      · cases h
        rfl
      · exact arbitrate_halted h

theorem accepted_of_proceeds {arbitration : Option (dispatch_arbitration.DispatchArbitrationEvaluation Uuid)}
    (h : dispatch_arbitration.dispatch service fresh ingress tenant_id coordination_result proposals =
      .ok (.proceeds arbitration)) : coordination_result.outcome = .accepted := by
  unfold dispatch_arbitration.dispatch at h
  simp only at h
  split at h
  · obtain ⟨-, -, h⟩ := bind_eq_ok.mp h
    cases h
  · rename_i haccepted
    exact not_not.mp haccepted

end

section

variable {Uuid S : Type} [DecidableEq Uuid] [Stdlib Uuid] [TextRepr]
variable {ingress : BoundaryIngressRecord Uuid} {tenant_id : String}

def askedUnder (ingress : BoundaryIngressRecord Uuid) (tenant_id : String) : Uuid :=
  derive_coordination_id (lineage_seed ingress tenant_id)

omit [DecidableEq Uuid] in
theorem to_coordination_request_id {authority : AuthorityContext}
    {canonical_payload : List (identity.Key × identity.Component Uuid)} {created_at : Instant}
    {request : CoordinationDispatchRequest Uuid}
    (h : to_coordination_request ingress tenant_id authority canonical_payload created_at = .ok request) :
    request.coordination_id_override = some (askedUnder ingress tenant_id) := by
  unfold to_coordination_request at h
  simp only at h
  split at h
  · cases h
  · cases h
    rfl

/-! ## One call -/

def Recorded (ingress : BoundaryIngressRecord Uuid) (tenant_id : String)
    (stores : DispatchStores Uuid S) : Prop :=
  stores.coordination.get? (askedUnder ingress tenant_id) ≠ none

variable {stores : DispatchStores Uuid S}

/-- A call that answers a session found no envelope of the ingress, and leaves one. -/
theorem dispatch_session {call : DispatchCall Uuid S}
    (h : (call.dispatch ingress tenant_id stores).1 = .ok result)
    (hsession : result.session_id ≠ none) :
    ¬ Recorded ingress tenant_id stores ∧
      Recorded ingress tenant_id (call.dispatch ingress tenant_id stores).2 := by
  unfold DispatchCall.dispatch at h ⊢
  cases hrequest : from_raw tenant_id >>= fun authority =>
      to_coordination_request ingress tenant_id authority call.canonical_payload call.created_at with
  | error exc =>
    simp only [hrequest] at h
    cases h
  | ok request =>
    obtain ⟨authority, -, hbuilt⟩ := bind_eq_ok.mp hrequest
    simp only [hrequest] at h ⊢
    cases hdispatch : CoordinationRuntime.dispatch call.runtime (call.around stores.coordination)
        request with
    | error exc =>
      simp only [hdispatch] at h
      cases h
    | ok coordination_result =>
      simp only [hdispatch] at h ⊢
      have haccepted : coordination_result.outcome = .accepted := by
        unfold DispatchCall.conclude at h
        simp only at h
        split at h
        · cases h
        · rename_i halted hhalted
          cases h
          exact absurd (halted_session hhalted) hsession
        · rename_i arbitration hproceeds
          exact accepted_of_proceeds hproceeds
      obtain ⟨ending, hfree, henvelope⟩ :=
        CoordinationRuntime.dispatch_recorded hdispatch
          (CoordinationRuntime.isOpen_iff.mpr (Or.inl haccepted))
      have hid : (CoordinationRuntime.envelopeOf call.runtime (call.around stores.coordination) request
          ending).coordination_id = askedUnder ingress tenant_id := by
        change CoordinationRuntime.coordinationId _ request = _
        unfold CoordinationRuntime.coordinationId
        rw [to_coordination_request_id hbuilt]
        rfl
      constructor
      · intro hrecorded
        change record_envelope stores.coordination _ = .ok () at hfree
        unfold record_envelope at hfree
        rw [hid] at hfree
        split at hfree
        · cases hfree
        · rename_i hnone
          exact hrecorded hnone
      · unfold Recorded recorded
        rw [henvelope]
        simp only [hid]
        rw [Dict.get?_set, if_pos rfl]
        exact Option.some_ne_none _

theorem dispatch_keeps {call : DispatchCall Uuid S} (h : Recorded ingress tenant_id stores) :
    Recorded ingress tenant_id (call.dispatch ingress tenant_id stores).2 := by
  unfold DispatchCall.dispatch
  split
  · exact h
  · split
    · exact h
    · rename_i coordination_result _
      change (recorded stores.coordination coordination_result).get? _ ≠ none
      unfold recorded
      split
      · rw [Dict.get?_set]
        split
        · exact Option.some_ne_none _
        · exact h
      · exact h

/-! ## Call after call -/

def Completes (answer : Except PyException DispatchResult) : Prop :=
  ∃ result, answer = .ok result ∧ result.session_id ≠ none

theorem refused_of_recorded {calls : List (DispatchCall Uuid S)}
    (h : Recorded ingress tenant_id stores) :
    ∀ answer ∈ (dispatches ingress tenant_id calls stores).1, ¬ Completes answer := by
  induction calls generalizing stores with
  | nil => exact fun answer hanswer => absurd hanswer List.not_mem_nil
  | cons call rest ih =>
    intro answer hanswer
    rcases List.mem_cons.mp hanswer with rfl | hanswer
    · rintro ⟨result, hresult, hsession⟩
      exact (dispatch_session hresult hsession).1 h
    · exact ih (dispatch_keeps h) answer hanswer

def Idempotent (first : DispatchCall Uuid S) (further : List (DispatchCall Uuid S))
    (ingress : BoundaryIngressRecord Uuid) (tenant_id : String) (stores : DispatchStores Uuid S) : Prop :=
  let after := first.dispatch ingress tenant_id stores
  (dispatches ingress tenant_id further after.2).2 = after.2 ∧
    ∀ answer ∈ (dispatches ingress tenant_id further after.2).1, ∃ result again, after.1 = .ok result ∧
      answer = .ok again ∧ again.session_id = result.session_id ∧
        again.execution_id = result.execution_id

/-- Once a call for an ingress has completed, no further one does, so none answers the session of the
first. -/
theorem never_idempotent {first : DispatchCall Uuid S} {further : List (DispatchCall Uuid S)}
    {stores : DispatchStores Uuid S} (hfirst : Completes (first.dispatch ingress tenant_id stores).1)
    (hfurther : further ≠ []) :
    (∀ answer ∈ (dispatches ingress tenant_id further (first.dispatch ingress tenant_id stores).2).1,
      ¬ Completes answer) ∧
    ¬ Idempotent first further ingress tenant_id stores := by
  obtain ⟨result, hresult, hsession⟩ := hfirst
  have hrefused : ∀ answer ∈ (dispatches ingress tenant_id further
      (first.dispatch ingress tenant_id stores).2).1, ¬ Completes answer :=
    refused_of_recorded (dispatch_session hresult hsession).2
  refine ⟨hrefused, ?_⟩
  rintro ⟨-, hanswers⟩
  obtain ⟨call, rest, rfl⟩ := List.exists_cons_of_ne_nil hfurther
  obtain ⟨result', again, hresult', hagain, hsame, -⟩ := hanswers _ List.mem_cons_self
  cases hresult.symm.trans hresult'
  exact hrefused _ List.mem_cons_self ⟨again, hagain, by rw [hsame]; exact hsession⟩

end

/-! ## The same ingress twice -/

def mailIngress : BoundaryIngressRecord String where
  ingress_id := "i"
  event_id := some "e"
  source_type := "email"
  source_id := "mailbox"

def mailCall : DispatchCall String Nat where
  canonical_payload := []
  created_at := 0
  runtime := {
    instance_id := "runtime"
    participants := ["runtime:boundary-ingress", "agent:ticket-triage"]
    governance := fun _ => { decision := some {
      decision_id := "g", decision := .allow, stage := .pre_execution, policy_chain_id := "chain"
      evaluated_rules := [], violations := [], restrictions := [], reason := "", decided_at := 0
      metadata := .empty } } }
  service := {
    request_review := fun _ => .ok ()
    execution_governance := fun _ => .ok { allowed := true }
    dispatch_arbitration := none }
  fresh := "f"
  review := fun _ rest => rest
  settle := fun result _ rest => (.ok {
    dispatch_id := result.coordination_id, session_id := some "s", execution_id := some "x"
    governance_decision_id := result.trace.governance_decision_id, verdict := "accepted"
    halted := false, halt_reason := none }, rest + 1)

def noStores : DispatchStores String Nat := ⟨.empty, 0⟩

/-- The answer of a call by its session, its verdict and its reason to halt. -/
def answered (answer : Except PyException DispatchResult) : Option (Option String × String) :=
  match answer with
  | .ok result => some (result.session_id, result.verdict)
  | .error _ => none

theorem never_idempotent_mail :
    (∀ answer ∈ (dispatches mailIngress "acme" [mailCall]
        (mailCall.dispatch mailIngress "acme" noStores).2).1, ¬ Completes answer) ∧
      ¬ Idempotent mailCall [mailCall] mailIngress "acme" noStores :=
  never_idempotent ⟨_, rfl, (by decide +kernel : (some "s" : Option String) ≠ none)⟩
    (List.cons_ne_nil _ _)

/-- The second call is refused, since the first one's envelope is there. -/
theorem mail_refused :
    answered (mailCall.dispatch mailIngress "acme" noStores).1 = some (some "s", "accepted") ∧
      (dispatches mailIngress "acme" [mailCall] (mailCall.dispatch mailIngress "acme" noStores).2).1.map
        answered = [some (none, "persistence_error")] ∧
      ¬ Idempotent mailCall [mailCall] mailIngress "acme" noStores := by
  have hanswers : answered (mailCall.dispatch mailIngress "acme" noStores).1 =
        some (some "s", "accepted") ∧
      (dispatches mailIngress "acme" [mailCall] (mailCall.dispatch mailIngress "acme" noStores).2).1.map
        answered = [some (none, "persistence_error")] := by
    decide +kernel
  refine ⟨hanswers.1, hanswers.2, fun hidempotent => ?_⟩
  obtain ⟨result, again, hresult, hagain, hsame, -⟩ := hidempotent.2 _ List.mem_cons_self
  have hfirst := hanswers.1
  rw [hresult] at hfirst
  have hsecond : answered (.ok again) = some (none, "persistence_error") := by
    rw [← hagain]
    exact List.head_eq_of_cons_eq hanswers.2
  simp only [answered, Option.some.injEq, Prod.mk.injEq] at hfirst hsecond
  rw [hfirst.1, hsecond.1] at hsame
  cases hsame

end operious.ingress
