-- What the calls on change requests have done when they return: to the request, to the events, and to
-- the credentials.
import Operious.ChangeRequests.Service

namespace operious.change_requests

open effects
open operious.governance (PyException)
open operious.resolution (Sha256 sha256_text)
open operious.tenant

section

variable {Uuid : Type} [DecidableEq Uuid] [Stdlib Uuid]
variable {ledger ledger' : Ledger Uuid} {tenant_id : String}
  {record persisted : TenantConfigChangeRequestRecord Uuid} {around : Around Uuid}

/-! ## Events -/

/-- The chronology of the request has an event at the place. -/
def At (ledger : Ledger Uuid) (id : Uuid) (sequence : Nat) : Prop :=
  ∃ k e, ledger.events.get? k = some e ∧ e.runtime_instance_id = id ∧ e.sequence = sequence

def Grows (ledger ledger' : Ledger Uuid) : Prop :=
  ∀ k e, ledger.events.get? k = some e → ledger'.events.get? k = some e

variable {id : Uuid}

omit [Stdlib Uuid] in
theorem At.grows {sequence : Nat} (h : At ledger id sequence) (hgrows : Grows ledger ledger') :
    At ledger' id sequence := by
  obtain ⟨k, e, he, hplace⟩ := h
  exact ⟨k, e, hgrows k e he, hplace⟩

structure Appended (event : OperationalEvent Uuid) (ledger ledger' : Ledger Uuid) : Prop where
  requests : ledger'.requests = ledger.requests
  credentials : ledger'.credentials = ledger.credentials
  mutations : ledger'.mutations = ledger.mutations
  grows : Grows ledger ledger'
  placed : At ledger' event.runtime_instance_id event.sequence
  fenced : (∃ e, ledger.events.get? event.event_id = some e ∧
      e.occurred_at = event.occurred_at ∧ e.principal_id = event.principal_id) ∨
    ¬ At ledger event.runtime_instance_id event.sequence

theorem append_event_ok {event appended : OperationalEvent Uuid}
    (h : run (append_event event) ledger = (.ok appended, ledger')) : Appended event ledger ledger' := by
  unfold append_event at h
  split at h
  · exact absurd h run_throw_ne
  · obtain ⟨_, _, hget, h⟩ := run_bind_eq_ok.mp h
    cases hget
    cases hfound : ledger.events.get? event.event_id with
    | some existing =>
      simp only [hfound] at h
      split at h
      · rename_i hsame
        have hplace : existing.runtime_instance_id = event.runtime_instance_id ∧
            existing.sequence = event.sequence ∧ existing.occurred_at = event.occurred_at ∧
            existing.principal_id = event.principal_id := by
          rcases hsame with rfl | rfl
          · exact ⟨rfl, rfl, rfl, rfl⟩
          · exact ⟨rfl, rfl, rfl, rfl⟩
        obtain ⟨-, rfl⟩ := Prod.mk.inj h
        exact ⟨rfl, rfl, rfl, fun _ _ he => he, ⟨_, existing, hfound, hplace.1, hplace.2.1⟩,
          .inl ⟨existing, hfound, hplace.2.2⟩⟩
      · exact absurd h run_throw_ne
    | none =>
      simp only [hfound] at h
      obtain ⟨_, _, hget, h⟩ := run_bind_eq_ok.mp h
      cases hget
      cases howner : ledger.events.values.find? fun e =>
          e.runtime_instance_id = event.runtime_instance_id && e.sequence = event.sequence with
      | some owner =>
        simp only [howner] at h
        exact absurd h run_throw_ne
      | none =>
        simp only [howner] at h
        obtain ⟨_, _, hmodify, h⟩ := run_bind_eq_ok.mp h
        cases hmodify
        cases h
        refine ⟨rfl, rfl, rfl, fun k e he => ?_,
          ⟨_, event.with_schema_version, Dict.get?_set_self _ _ _, rfl, rfl⟩, .inr ?_⟩
        · refine (Dict.get?_set_ne _ _ fun hk => ?_).trans he
          cases hfound.symm.trans (hk ▸ he)
        · rintro ⟨k, e, he, hid, hsequence⟩
          have hnot := List.find?_eq_none.mp howner e ((Dict.mem_values_iff _ _).mpr ⟨k, he⟩)
          simp [hid, hsequence] at hnot

variable [Sha256]

theorem append_status_event_ok (h : run (append_status_event record) ledger = (.ok (), ledger')) :
    ∃ event, event_for_record record = .ok event ∧ Appended event ledger ledger' := by
  obtain ⟨event, _, hlift, h⟩ := run_bind_eq_ok.mp h
  obtain ⟨hevent, rfl⟩ := Prod.mk.inj hlift
  obtain ⟨_, _, happend, h⟩ := run_bind_eq_ok.mp h
  cases h
  exact ⟨event, hevent, append_event_ok happend⟩

omit [DecidableEq Uuid] in
theorem event_for_record_ok {event : OperationalEvent Uuid} (h : event_for_record record = .ok event) :
    event.event_id = change_event_id record.change_request_id record.status ∧
      event.runtime_instance_id = record.change_request_id ∧
      event.sequence = sequence_for_status record.status ∧
      event.occurred_at = timestamp_for_status record ∧
      event.principal_id = principal_for_status record := by
  unfold event_for_record at h
  obtain ⟨digest, -, h⟩ := bind_eq_ok.mp h
  cases h
  exact ⟨rfl, rfl, rfl, rfl, rfl⟩

/-! ## Rows -/

section

omit [Stdlib Uuid] [Sha256]

theorem assert_tenant_ok {actual expected : String} (h : assert_tenant actual expected = .ok ()) :
    actual = expected := by
  unfold assert_tenant at h
  split at h
  · cases h
  · rename_i hsame
    exact not_not.mp hsame

theorem get_request_eq_some : get_request ledger id tenant_id = some record ↔
    ledger.requests.get? id = some record ∧ record.tenant_id = tenant_id := by
  simp [get_request, Option.filter_eq_some_iff]

theorem update_request_ok
    (h : run (update_request record tenant_id) ledger = (.ok persisted, ledger')) :
    persisted = record ∧ record.tenant_id = tenant_id ∧ constrained record = false ∧
      (∃ old, ledger.requests.get? record.change_request_id = some old ∧ old.tenant_id = tenant_id) ∧
      ledger' = { ledger with
        requests := ledger.requests.set record.change_request_id record } := by
  obtain ⟨_, _, hlift, h⟩ := run_bind_eq_ok.mp h
  obtain ⟨hassert, rfl⟩ := Prod.mk.inj hlift
  obtain ⟨_, _, hget, h⟩ := run_bind_eq_ok.mp h
  cases hget
  cases hold : get_request ledger record.change_request_id tenant_id with
  | none =>
    simp only [hold] at h
    exact absurd h run_throw_ne
  | some old =>
    simp only [hold] at h
    split at h
    · exact absurd h run_throw_ne
    · rename_i hconstrained
      obtain ⟨_, _, hmodify, h⟩ := run_bind_eq_ok.mp h
      cases hmodify
      cases h
      exact ⟨rfl, assert_tenant_ok hassert, Bool.eq_false_of_not_eq_true hconstrained,
        ⟨old, get_request_eq_some.mp hold⟩, rfl⟩

end

theorem store_status_ok
    (h : run (store_status record tenant_id) ledger = (.ok persisted, ledger')) :
    persisted = record ∧ record.tenant_id = tenant_id ∧ constrained record = false ∧
      (∃ old, ledger.requests.get? record.change_request_id = some old ∧ old.tenant_id = tenant_id) ∧
      ∃ event, event_for_record record = .ok event ∧ Appended event
        { ledger with requests := ledger.requests.set record.change_request_id record } ledger' := by
  obtain ⟨written, mid, hupdate, h⟩ := run_bind_eq_ok.mp h
  obtain ⟨_, _, happend, h⟩ := run_bind_eq_ok.mp h
  cases h
  obtain ⟨rfl, htenant, hconstrained, hold, rfl⟩ := update_request_ok hupdate
  exact ⟨rfl, htenant, hconstrained, hold, append_status_event_ok happend⟩

omit [Sha256] in
theorem create_request_ok
    (h : run (create_request record tenant_id) ledger = (.ok persisted, ledger')) :
    (ledger.requests.get? record.change_request_id = none ∧ persisted = record ∧
      record.tenant_id = tenant_id ∧ constrained record = false ∧ ledger' = { ledger with
        requests := ledger.requests.set record.change_request_id record }) ∨
    (ledger.requests.get? record.change_request_id = some persisted ∧
      same_request persisted record = true ∧ ledger' = ledger) := by
  obtain ⟨_, _, hlift, h⟩ := run_bind_eq_ok.mp h
  obtain ⟨hassert, rfl⟩ := Prod.mk.inj hlift
  obtain ⟨_, _, hget, h⟩ := run_bind_eq_ok.mp h
  cases hget
  split at h
  · obtain ⟨_, _, hget, h⟩ := run_bind_eq_ok.mp h
    cases hget
    cases hfound : get_request ledger record.change_request_id tenant_id with
    | none =>
      simp only [hfound] at h
      exact absurd h run_throw_ne
    | some existing =>
      simp only [hfound] at h
      split at h
      · rename_i hsame
        obtain ⟨hval, rfl⟩ := Prod.mk.inj h
        cases hval
        exact .inr ⟨(get_request_eq_some.mp hfound).1, hsame, rfl⟩
      · exact absurd h run_throw_ne
  · rename_i hnew
    rw [Bool.or_eq_true, not_or, Bool.not_eq_true, Bool.not_eq_true, Option.isSome_eq_false_iff,
      Option.isNone_iff_eq_none] at hnew
    obtain ⟨_, _, hmodify, h⟩ := run_bind_eq_ok.mp h
    cases hmodify
    cases h
    exact .inl ⟨hnew.1, rfl, assert_tenant_ok hassert, hnew.2, rfl⟩

variable {now : Instant}

theorem store_proposal_ok {change_type : TenantConfigChangeType} {payload : Payload Uuid}
    {proposed_by : String}
    (h : run (store_proposal tenant_id change_type payload proposed_by now) ledger =
      (.ok persisted, ledger')) :
    ∃ event, event_for_record persisted = .ok event ∧
      ((ledger.requests.get? persisted.change_request_id = none ∧
        persisted = proposedRecord persisted.change_request_id tenant_id change_type payload proposed_by
          now ∧ constrained persisted = false ∧
        Appended event { ledger with
          requests := ledger.requests.set persisted.change_request_id persisted } ledger') ∨
      ((∃ id, ledger.requests.get? id = some persisted) ∧ Appended event ledger ledger')) := by
  obtain ⟨id, _, hlift, h⟩ := run_bind_eq_ok.mp h
  obtain ⟨-, rfl⟩ := Prod.mk.inj hlift
  obtain ⟨created, mid, hcreate, h⟩ := run_bind_eq_ok.mp h
  obtain ⟨_, _, happend, h⟩ := run_bind_eq_ok.mp h
  cases h
  obtain ⟨event, hevent, happended⟩ := append_status_event_ok happend
  refine ⟨event, hevent, ?_⟩
  rcases create_request_ok hcreate with ⟨hnone, rfl, -, hconstrained, rfl⟩ | ⟨hfound, -, rfl⟩
  · exact .inl ⟨hnone, rfl, hconstrained, happended⟩
  · exact .inr ⟨⟨_, hfound⟩, happended⟩

/-! ## Mutations -/

omit [DecidableEq Uuid] [Stdlib Uuid] [Sha256] in
theorem upsert_ok {cred : ConnectorCredentialRecord}
    (h : run (upsert cred now) ledger = (.ok (), ledger')) : ∃ stored : ConnectorCredentialRecord,
      stored.tenant_id = cred.tenant_id ∧ stored.connector_id = cred.connector_id ∧
      stored.credentials_enc = cred.credentials_enc ∧ stored.status = cred.status ∧
      ledger' = { ledger with
        credentials := ledger.credentials.set (cred.tenant_id, cred.connector_id) stored } := by
  cases h
  refine ⟨_, ?_, ?_, ?_, ?_, rfl⟩ <;> rfl

variable [BytesSha256]

structure Activated (record : TenantConfigChangeRequestRecord Uuid) (id_field hash_field : String)
    (ledger ledger' : Ledger Uuid) : Prop where
  found : ∃ connector_id cred active,
    payload_str record.proposed_payload id_field = .ok connector_id ∧
    get_credential ledger record.tenant_id connector_id = some cred ∧
    cred.status = "pending_validation" ∧
    payload_str record.proposed_payload hash_field = .ok (sha256_bytes cred.credentials_enc) ∧
    active.tenant_id = cred.tenant_id ∧ active.connector_id = cred.connector_id ∧
    active.credentials_enc = cred.credentials_enc ∧ active.status = "active" ∧
    ledger' = { ledger with
      credentials := ledger.credentials.set (cred.tenant_id, cred.connector_id) active }

variable {outcome : Payload Uuid} {approval : ApprovalRecord}

omit [DecidableEq Uuid] [Sha256] in
theorem activate_credential_ok {id_field hash_field kind noun target secret : String}
    (h : run (activate_credential around record approval id_field hash_field kind noun target secret)
      ledger = (.ok outcome, ledger')) : Activated record id_field hash_field ledger ledger' := by
  obtain ⟨connector_id, _, hlift, h⟩ := run_bind_eq_ok.mp h
  obtain ⟨hconnector, rfl⟩ := Prod.mk.inj hlift
  obtain ⟨expected_hash, _, hlift, h⟩ := run_bind_eq_ok.mp h
  obtain ⟨hexpected, rfl⟩ := Prod.mk.inj hlift
  obtain ⟨_, _, hget, h⟩ := run_bind_eq_ok.mp h
  cases hget
  cases hcred : get_credential ledger record.tenant_id connector_id with
  | none =>
    simp only [hcred] at h
    exact absurd h run_throw_ne
  | some cred =>
    simp only [hcred] at h
    split at h
    · exact absurd h run_throw_ne
    · rename_i hstatus
      split at h
      · exact absurd h run_throw_ne
      · rename_i hhash
        obtain ⟨_, _, hupsert, h⟩ := run_bind_eq_ok.mp h
        cases h
        obtain ⟨active, htenant, hid, henc, hactive, rfl⟩ := upsert_ok hupsert
        exact ⟨connector_id, cred, active, hconnector, hcred, not_not.mp hstatus,
          hexpected.trans (congrArg _ (not_not.mp hhash).symm), htenant, hid, henc, hactive, rfl⟩

/-- The fields of the payload that name the credential that applying the request activates, and its
hash. -/
def TenantConfigChangeType.activates : TenantConfigChangeType → Option (String × String)
  | .connector_credential => some ("connector_id", "credential_hash")
  | .mcp_oauth_token => some ("mcp_server_id", "token_hash")
  | _ => none

omit [DecidableEq Uuid] [Sha256] in
theorem mutate_ok (h : run (mutate around record approval) ledger = (.ok outcome, ledger')) :
    ledger' = ledger ∨ ∃ id_field hash_field,
      record.change_type.activates = some (id_field, hash_field) ∧
        Activated record id_field hash_field ledger ledger' := by
  unfold mutate at h
  split at h
  · rename_i htype
    exact .inr ⟨_, _, by rw [htype]; rfl, activate_credential_ok h⟩
  · rename_i htype
    exact .inr ⟨_, _, by rw [htype]; rfl, activate_credential_ok h⟩
  · exact .inl (Prod.mk.inj h).2.symm

omit [DecidableEq Uuid] in
theorem apply_config_mutation_ok
    (h : run (apply_config_mutation around record) ledger = (.ok outcome, ledger')) :
    ∃ mid approval, run (mutate around record approval) ledger = (.ok outcome, mid) ∧
      ledger' = { mid with mutations := mid.mutations ++ [record.change_request_id] } := by
  obtain ⟨approval, _, hlift, h⟩ := run_bind_eq_ok.mp h
  obtain ⟨-, rfl⟩ := Prod.mk.inj hlift
  obtain ⟨_, _, hlift, h⟩ := run_bind_eq_ok.mp h
  obtain ⟨-, rfl⟩ := Prod.mk.inj hlift
  obtain ⟨mutated, mid, hmutate, h⟩ := run_bind_eq_ok.mp h
  obtain ⟨_, _, hmodify, h⟩ := run_bind_eq_ok.mp h
  cases hmodify
  cases h
  exact ⟨mid, approval, hmutate, rfl⟩

end

end operious.change_requests
