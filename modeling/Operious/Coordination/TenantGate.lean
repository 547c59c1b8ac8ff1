-- Whether a dispatch crosses from one tenant to another. The check compares the tenant that the request
-- names, while the envelope is stamped with the one that its authority carries.
import Operious.Coordination.Gates

namespace operious.coordination

open operious.agents.tools (sorted)
open operious.arbitration (TextRepr)

section

variable {Uuid : Type} [DecidableEq Uuid] [TextRepr] [Stdlib Uuid]

namespace CoordinationRuntime

def Delivered (runtime : CoordinationRuntime Uuid) (around : DispatchAround Uuid)
    (request : CoordinationDispatchRequest Uuid) (envelope : CoordinationEnvelope Uuid) : Prop :=
  ∃ result, dispatch runtime around request = .ok result ∧
    (result.outcome = .accepted ∨ result.outcome = .degraded) ∧ result.envelope = some envelope

variable (runtime : CoordinationRuntime Uuid) (around : DispatchAround Uuid)
  (request : CoordinationDispatchRequest Uuid) (allowed_cross_tenant_pairs : List (String × String))

/-- What is delivered stays in the tenant of its recipient, or crosses along a pair that is allowed. -/
def Confined : Prop :=
  ∀ envelope, Delivered runtime around request envelope →
    ∀ recipient_tenant, request.message.recipient.tenant_id = some recipient_tenant →
      envelope.tenant_id = some recipient_tenant ∨
        ∃ tenant, envelope.tenant_id = some tenant ∧
          (tenant, recipient_tenant) ∈ allowed_cross_tenant_pairs

/-- What is delivered is stamped with the tenant that governance was asked about and that the policy
compared. -/
def OneTenant : Prop :=
  ∀ envelope, Delivered runtime around request envelope →
    envelope.tenant_id = (build_governance_context around request).tenant_id ∧
      envelope.tenant_id = (build_policy_request around request).sender_tenant_id

def AuthorityMayReach : Prop :=
  ∀ tenant recipient_tenant, request.authority.bind (·.tenant_id) = some tenant →
    request.message.recipient.tenant_id = some recipient_tenant →
      tenant = recipient_tenant ∨ (tenant, recipient_tenant) ∈ allowed_cross_tenant_pairs

/-! ## The stamp -/

variable {runtime around request allowed_cross_tenant_pairs}

theorem Delivered.spec {envelope : CoordinationEnvelope Uuid}
    (h : Delivered runtime around request envelope) :
    Passes runtime around request ∧ envelope.tenant_id = (resolution request).tenant_id := by
  obtain ⟨result, hresult, houtcome, henvelope⟩ := h
  refine ⟨proceeds_iff.mp ⟨result, hresult, houtcome⟩, ?_⟩
  obtain ⟨ending, -, hrecorded⟩ := dispatch_recorded hresult (isOpen_iff.mpr houtcome)
  cases henvelope.symm.trans hrecorded
  rfl

theorem Passes.delivered (h : Passes runtime around request) :
    ∃ envelope, Delivered runtime around request envelope := by
  obtain ⟨result, hresult, houtcome⟩ := proceeds_iff.mpr h
  obtain ⟨ending, -, hrecorded⟩ := dispatch_recorded hresult (isOpen_iff.mpr houtcome)
  exact ⟨_, result, hresult, houtcome, hrecorded⟩

section

omit [DecidableEq Uuid] [Stdlib Uuid]

theorem resolution_of_stamped {tenant : String}
    (h : request.authority.bind (·.tenant_id) = some tenant) :
    (resolution request).tenant_id = some tenant := by
  simp [resolution, resolve_authority, h]

theorem resolution_of_observed (hstamped : request.authority.bind (·.tenant_id) = none)
    (hunnamed : request.tenant_id = none) :
    (resolution request).tenant_id = request.message.recipient.tenant_id := by
  cases hobserved : request.message.recipient.tenant_id with
  | none => simp [resolution, resolve_authority, hstamped, hunnamed, hobserved]
  | some tenant => simp [resolution, resolve_authority, hstamped, hunnamed, hobserved]

theorem resolution_of_named {tenant : String} (h : request.tenant_id = some tenant) :
    (resolution request).tenant_id = some tenant := by
  have hcoexist := request.coexist
  unfold check_tenant_authority_coexistence at hcoexist
  cases hstamped : request.authority.bind (·.tenant_id) with
  | none => simp [resolution, resolve_authority, hstamped, h]
  | some stamped =>
    simp only [hstamped, h] at hcoexist
    rw [resolution_of_stamped hstamped]
    split at hcoexist
    · rename_i hsame
      exact congrArg some hsame
    · cases hcoexist

theorem tenant_isolation_open {asked : CoordinationPolicyEvaluationRequest Uuid} :
    (∀ f ∈ tenant_isolation allowed_cross_tenant_pairs true asked,
      is_blocking_policy_decision f.decision = false) ↔
    asked.tenant_id ≠ none ∧ ∀ sender recipient, asked.sender_tenant_id = some sender →
      asked.recipient_tenant_id = some recipient →
        sender = recipient ∨ (sender, recipient) ∈ allowed_cross_tenant_pairs := by
  unfold tenant_isolation
  cases asked.tenant_id with
  | none => simp [is_blocking_policy_decision]
  | some tenant =>
    cases asked.sender_tenant_id with
    | none => simp
    | some sender =>
      cases asked.recipient_tenant_id with
      | none => simp
      | some recipient =>
        by_cases hsame : sender = recipient
        · simp [hsame]
        · by_cases hlisted : (sender, recipient) ∈ allowed_cross_tenant_pairs
          · simp [hsame, hlisted, is_blocking_policy_decision]
          · simp [hsame, hlisted, is_blocking_policy_decision]

end

variable {policy : CoordinationPolicyRuntime Uuid}

theorem Passes.isolated (h : Passes runtime around request)
    (hpolicy : runtime.policy_runtime = some policy)
    (hregistered : TenantIsolationEvaluator allowed_cross_tenant_pairs true ∈ policy.evaluators) :
    (resolution request).tenant_id ≠ none ∧ ∀ sender recipient, request.tenant_id = some sender →
      request.message.recipient.tenant_id = some recipient →
        sender = recipient ∨ (sender, recipient) ∈ allowed_cross_tenant_pairs :=
  tenant_isolation_open.mp ((h.policy policy hpolicy).clear _ hregistered _ rfl)

/-! ## Where the tenants agree -/

theorem oneTenant_iff (hpolicy : runtime.policy_runtime = some policy)
    (hregistered : TenantIsolationEvaluator allowed_cross_tenant_pairs true ∈ policy.evaluators) :
    OneTenant runtime around request ↔
      request.tenant_id ≠ none ∨ ¬ Passes runtime around request := by
  constructor
  · intro hone
    by_contra hnot
    obtain ⟨hunnamed, hpasses⟩ := not_or.mp hnot
    have hpasses := not_not.mp hpasses
    obtain ⟨envelope, hdelivered⟩ := hpasses.delivered
    have hcompared : envelope.tenant_id = request.tenant_id := (hone envelope hdelivered).2
    rw [hdelivered.spec.2, not_not.mp hunnamed] at hcompared
    exact (hpasses.isolated hpolicy hregistered).1 hcompared
  · rintro hnamed envelope hdelivered
    obtain ⟨hpasses, hstamp⟩ := hdelivered.spec
    obtain ⟨tenant, htenant⟩ := Option.ne_none_iff_exists'.mp
      (hnamed.resolve_right (not_not_intro hpasses))
    refine ⟨hstamp, ?_⟩
    rw [hstamp, resolution_of_named htenant]
    exact htenant.symm

/-- What is delivered is confined exactly where the request names its tenant or its authority may reach
the recipient, unless the dispatch is stopped. -/
theorem confined_iff (hpolicy : runtime.policy_runtime = some policy)
    (hregistered : TenantIsolationEvaluator allowed_cross_tenant_pairs true ∈ policy.evaluators) :
    Confined runtime around request allowed_cross_tenant_pairs ↔
      request.tenant_id ≠ none ∨ AuthorityMayReach request allowed_cross_tenant_pairs ∨
        ¬ Passes runtime around request := by
  constructor
  · intro hconfined
    by_contra hnot
    obtain ⟨hunnamed, hnot⟩ := not_or.mp hnot
    obtain ⟨hreach, hpasses⟩ := not_or.mp hnot
    have hpasses := not_not.mp hpasses
    obtain ⟨envelope, hdelivered⟩ := hpasses.delivered
    refine hreach fun tenant recipient_tenant htenant hrecipient => ?_
    have hstamp : envelope.tenant_id = some tenant := by
      rw [hdelivered.spec.2, resolution_of_stamped htenant]
    rcases hconfined envelope hdelivered recipient_tenant hrecipient with hsame | ⟨_, hown, hlisted⟩
    · exact Or.inl (Option.some.inj (hstamp.symm.trans hsame))
    · cases hstamp.symm.trans hown
      exact Or.inr hlisted
  · intro hor envelope hdelivered recipient_tenant hrecipient
    obtain ⟨hpasses, hstamp⟩ := hdelivered.spec
    rw [hstamp]
    cases hnamed : request.tenant_id with
    | some tenant =>
      rw [resolution_of_named hnamed]
      rcases (hpasses.isolated hpolicy hregistered).2 tenant recipient_tenant hnamed hrecipient with
        rfl | hlisted
      · exact Or.inl rfl
      · exact Or.inr ⟨tenant, rfl, hlisted⟩
    | none =>
      rcases hor with hsome | hreach | hstopped
      · exact absurd hnamed hsome
      · cases hauthority : request.authority.bind (·.tenant_id) with
        | none =>
          exact Or.inl ((resolution_of_observed hauthority hnamed).trans hrecipient)
        | some tenant =>
          rw [resolution_of_stamped hauthority]
          rcases hreach tenant recipient_tenant hauthority hrecipient with rfl | hlisted
          · exact Or.inl rfl
          · exact Or.inr ⟨tenant, rfl, hlisted⟩
      · exact absurd hpasses hstopped

/-- Nothing crosses tenants, and the tenant that is stamped is the one that was compared, exactly where
the request names its tenant, unless the dispatch is stopped. -/
theorem never_crosses_iff (hpolicy : runtime.policy_runtime = some policy)
    (hregistered : TenantIsolationEvaluator allowed_cross_tenant_pairs true ∈ policy.evaluators) :
    (Confined runtime around request allowed_cross_tenant_pairs ∧ OneTenant runtime around request ↔
      request.tenant_id ≠ none ∨ ¬ Passes runtime around request) ∧
    (Confined runtime around request allowed_cross_tenant_pairs ↔
      request.tenant_id ≠ none ∨ AuthorityMayReach request allowed_cross_tenant_pairs ∨
        ¬ Passes runtime around request) := by
  refine ⟨?_, confined_iff hpolicy hregistered⟩
  rw [oneTenant_iff hpolicy hregistered, confined_iff hpolicy hregistered]
  refine ⟨And.right, fun h => ⟨?_, h⟩⟩
  exact h.imp_right Or.inr

end CoordinationRuntime

end

/-! ## An authority without a tenant id -/

def isolatingPolicy : CoordinationPolicyRuntime String where
  evaluators := [TenantIsolationEvaluator [] true]
  nonempty := List.cons_ne_nil _ _
  names_sorted := (by decide : sorted ["tenant_isolation"] = ["tenant_isolation"])
  names_distinct := (by decide : ["tenant_isolation"].Nodup)

def isolatingRuntime : CoordinationRuntime String where
  instance_id := "runtime"
  participants := ["agent:triage", "agent:billing"]
  policy_runtime := some isolatingPolicy
  governance _ := { decision := some {
    decision_id := "g", decision := .allow, stage := .pre_execution, policy_chain_id := "chain"
    evaluated_rules := [], violations := [], restrictions := [], reason := "", decided_at := 0
    metadata := .empty } }

def acmeRequest : CoordinationDispatchRequest String where
  message := {
    message_id := "m", message_type := .handoff, sender_id := "agent:triage"
    recipient := { recipient_id := "agent:billing", tenant_id := some "globex" }
    payload := { content_type := "application/json" }, created_at := 0 }
  direction := .agent_to_agent
  authority := some { tenant_id := some "acme" }
  coexist := rfl

def acmeAround : DispatchAround String where
  record_envelope := fun _ => .ok ()

theorem never_crosses_iff_acme :
    (CoordinationRuntime.Confined isolatingRuntime acmeAround acmeRequest [] ∧
        CoordinationRuntime.OneTenant isolatingRuntime acmeAround acmeRequest ↔
      acmeRequest.tenant_id ≠ none ∨
        ¬ CoordinationRuntime.Passes isolatingRuntime acmeAround acmeRequest) ∧
    (CoordinationRuntime.Confined isolatingRuntime acmeAround acmeRequest [] ↔
      acmeRequest.tenant_id ≠ none ∨ CoordinationRuntime.AuthorityMayReach acmeRequest [] ∨
        ¬ CoordinationRuntime.Passes isolatingRuntime acmeAround acmeRequest) :=
  CoordinationRuntime.never_crosses_iff (rfl : isolatingRuntime.policy_runtime = some isolatingPolicy)
    List.mem_cons_self

/-- The request is delivered to the other tenant. -/
theorem acme_crosses : ¬ (CoordinationRuntime.Confined isolatingRuntime acmeAround acmeRequest [] ∧
    CoordinationRuntime.OneTenant isolatingRuntime acmeAround acmeRequest) := by
  have hpasses : CoordinationRuntime.Passes isolatingRuntime acmeAround acmeRequest := by
    refine ⟨rfl, by decide, fun topology htopology => (by cases htopology), fun policy hpolicy => ?_,
      rfl, ⟨_, rfl, rfl⟩, rfl⟩
    cases hpolicy
    refine ⟨rfl, rfl, fun e he findings hfound f hf => ?_, fun e he _ => ?_⟩
    · cases List.mem_singleton.mp he
      cases hfound
      have hsilent : tenant_isolation [] true
          (CoordinationRuntime.build_policy_request acmeAround acmeRequest) = [] := rfl
      rw [hsilent] at hf
      cases hf
    · cases List.mem_singleton.mp he
      exact ⟨_, rfl⟩
  rintro ⟨hconfined, -⟩
  obtain ⟨envelope, hdelivered⟩ := hpasses.delivered
  have hstamp : envelope.tenant_id = some "acme" := hdelivered.spec.2
  rcases hconfined envelope hdelivered "globex" rfl with hsame | ⟨tenant, -, hlisted⟩
  · rw [hstamp] at hsame
    exact absurd hsame (by decide)
  · cases hlisted

end operious.coordination
