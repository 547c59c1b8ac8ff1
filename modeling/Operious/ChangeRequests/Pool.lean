-- Calls on change requests side by side. A proposal is one step; a decision reads the request, and later
-- writes it by its id alone, with the event that fences the status.
import Operious.ChangeRequests.Moves
import Operious.Lib.Runs
import Mathlib.Logic.Function.Basic

namespace operious.change_requests

open effects
open operious.governance (PyException)
open operious.identity
open operious.resolution (Sha256)
open operious.tenant

section

variable {Uuid : Type} [DecidableEq Uuid] [Stdlib Uuid] [Sha256] [BytesSha256]

/-! ## Proposals and decisions -/

inductive Proposal (Uuid : Type)
  | change (around : Around Uuid) (tenant_id : String) (change_type : TenantConfigChangeType)
      (payload : Payload Uuid) (proposed_by : String)
  | connector_credential (around : Around Uuid) (tenant_id connector_id : String)
      (has_credentials : Bool) (proposed_by : String)

def Proposal.body : Proposal Uuid → Call Uuid (TenantConfigChangeRequestRecord Uuid)
  | change around tenant_id change_type payload proposed_by =>
    propose around tenant_id change_type payload proposed_by
  | connector_credential around tenant_id connector_id has_credentials proposed_by =>
    propose_connector_credential around tenant_id connector_id has_credentials proposed_by

inductive Decision
  | approve (approved_by : String)
  | reject (rejected_by reason : String)
  | apply (applied_by : String)
  | revoke (revoked_by : String)

/-- Who applies or revokes has to be named. -/
def named (principal message : String) : Except PyException Unit :=
  if (strip principal).isEmpty then .error (lifecycleError message) else .ok ()

def Decision.check : Decision → Except PyException Unit
  | apply applied_by => named applied_by "applied_by must identify the principal who applied the change"
  | revoke revoked_by => named revoked_by "revoked_by must identify the principal who revoked the change"
  | _ => .ok ()

/-- How the decision starts: it reads the request. -/
def Decision.opening (change_request_id : Uuid) (expected_tenant_id : String) (decision : Decision) :
    Call Uuid (TenantConfigChangeRequestRecord Uuid) := do
  lift decision.check
  require_request change_request_id expected_tenant_id

def Decision.body (around : Around Uuid) (expected_tenant_id : String)
    (record : TenantConfigChangeRequestRecord Uuid) :
    Decision → Call Uuid (TenantConfigChangeRequestRecord Uuid)
  | approve approved_by => approve_record around approved_by expected_tenant_id record
  | reject rejected_by reason => reject_record around rejected_by reason expected_tenant_id record
  | apply applied_by => apply_record around applied_by expected_tenant_id record
  | revoke revoked_by => revoke_record around revoked_by expected_tenant_id record

def Decision.decides : Decision → TenantConfigChangeRequestStatus
  | approve .. | reject .. => .proposed
  | apply .. | revoke .. => .approved

def Decision.writes : Decision → TenantConfigChangeRequestStatus
  | approve .. => .approved
  | reject .. => .rejected
  | apply .. => .applied
  | revoke .. => .revoked

/-! ## The pool -/

structure InFlight (Uuid : Type) where
  decision : Decision
  tenant_id : String
  record : TenantConfigChangeRequestRecord Uuid

/-- The rows that are committed, and the decisions in flight. -/
structure Pool (ι Uuid : Type) where
  ledger : Ledger Uuid
  inflight : ι → Option (InFlight Uuid)

def Pool.empty {ι : Type} : Pool ι Uuid := ⟨⟨.empty, .empty, .empty, []⟩, fun _ => none⟩

/-- What happens: a proposal returns; a decision reads its request; later it returns and its writes are
committed together, or it raises and they are not. A proposal that raises leaves nothing either. -/
inductive Event (ι Uuid : Type)
  | propose (proposal : Proposal Uuid)
  | read (i : ι) (decision : Decision) (tenant_id : String) (change_request_id : Uuid)
  | commit (i : ι) (around : Around Uuid)
  | abort (i : ι)

variable {ι : Type}

def committed {α : Type} (call : Call Uuid α) (ledger : Ledger Uuid) : Option (Ledger Uuid) :=
  match run call ledger with
  | (.ok _, ledger') => some ledger'
  | (.error _, _) => none

variable [DecidableEq ι]

def Event.next (pool : Pool ι Uuid) : Event ι Uuid → Option (Pool ι Uuid)
  | propose proposal => (committed proposal.body pool.ledger).map fun ledger => { pool with ledger }
  | read i decision tenant_id change_request_id =>
    if (pool.inflight i).isSome then none
    else
      match run (decision.opening change_request_id tenant_id) pool.ledger with
      | (.error _, _) => some pool
      | (.ok record, _) => some { pool with
          inflight := Function.update pool.inflight i (some ⟨decision, tenant_id, record⟩) }
  | commit i around =>
    (pool.inflight i).bind fun f =>
      (committed (f.decision.body around f.tenant_id f.record) pool.ledger).map fun ledger =>
        ⟨ledger, Function.update pool.inflight i none⟩
  | abort i => some { pool with inflight := Function.update pool.inflight i none }

/-! ## What the events do -/

omit [DecidableEq Uuid] [Stdlib Uuid] [Sha256] [BytesSha256] [DecidableEq ι] in
theorem committed_eq_some {α : Type} {call : Call Uuid α} {ledger ledger' : Ledger Uuid} :
    committed call ledger = some ledger' ↔ ∃ a, run call ledger = (.ok a, ledger') := by
  unfold committed
  rcases run call ledger with ⟨_ | a, after⟩ <;> simp

structure SameChange (old new : TenantConfigChangeRequestRecord Uuid) : Prop where
  change_request_id : new.change_request_id = old.change_request_id
  tenant_id : new.tenant_id = old.tenant_id
  change_type : new.change_type = old.change_type
  proposed_payload : new.proposed_payload = old.proposed_payload
  proposed_by : new.proposed_by = old.proposed_by

/-- What a decision has done when it returns: the mutation, if it applies the request, and then the
status, which its event fences. -/
structure Decided (decision : Decision) (around : Around Uuid)
    (record saved : TenantConfigChangeRequestRecord Uuid) (ledger ledger' : Ledger Uuid) : Prop where
  decides : record.status = decision.decides
  writes : saved.status = decision.writes
  same : SameChange record saved
  stamped : timestamp_for_status saved = around.now
  approver : decision.writes = .approved → ∃ p, saved.approved_by = some p ∧ p ≠ record.proposed_by
  keeps : decision.writes ≠ .approved → saved.approved_by = record.approved_by
  found : (ledger.requests.get? record.change_request_id).isSome = true
  stored : ∃ mid event, event_for_record saved = .ok event ∧ Appended event
      { mid with requests := ledger.requests.set record.change_request_id saved } ledger' ∧
    (decision.writes ≠ .applied → mid = ledger) ∧
    (decision.writes = .applied → ∃ outcome, run (apply_config_mutation around record) ledger =
      (.ok outcome, mid))

variable {decision : Decision} {around : Around Uuid} {tenant_id : String}
  {record saved : TenantConfigChangeRequestRecord Uuid} {ledger ledger' : Ledger Uuid}

omit [DecidableEq Uuid] in
theorem apply_config_mutation_keeps {outcome : Payload Uuid}
    (h : run (apply_config_mutation around record) ledger = (.ok outcome, ledger')) :
    ledger'.requests = ledger.requests ∧ ledger'.events = ledger.events ∧
      ledger'.mutations = ledger.mutations ++ [record.change_request_id] := by
  obtain ⟨mid, approval, hmutate, rfl⟩ := apply_config_mutation_ok h
  rcases mutate_ok hmutate with rfl | ⟨_, _, -, _, _, _, -, -, -, -, -, -, -, -, rfl⟩
  · exact ⟨rfl, rfl, rfl⟩
  · exact ⟨rfl, rfl, rfl⟩

theorem Decision.body_ok
    (h : run (decision.body around tenant_id record) ledger = (.ok saved, ledger')) :
    Decided decision around record saved ledger ledger' := by
  cases decision with
  | approve approved_by =>
    change run (approve_record around approved_by tenant_id record) ledger = _ at h
    unfold approve_record at h
    split at h
    · exact absurd h run_throw_ne
    · rename_i hstatus
      split at h
      · exact absurd h run_throw_ne
      · rename_i hseparate
        obtain ⟨rfl, -, -, ⟨old, hold, -⟩, event, hevent, happended⟩ := store_status_ok h
        exact ⟨not_not.mp hstatus, rfl, ⟨rfl, rfl, rfl, rfl, rfl⟩, rfl,
          fun _ => ⟨approved_by, rfl, hseparate⟩, fun hnot => absurd rfl hnot,
          Option.isSome_iff_exists.mpr ⟨old, hold⟩,
          ledger, event, hevent, happended, fun _ => rfl, nofun⟩
  | reject rejected_by reason =>
    change run (reject_record around rejected_by reason tenant_id record) ledger = _ at h
    unfold reject_record at h
    split at h
    · exact absurd h run_throw_ne
    · rename_i hstatus
      obtain ⟨rfl, -, -, ⟨old, hold, -⟩, event, hevent, happended⟩ := store_status_ok h
      exact ⟨not_not.mp hstatus, rfl, ⟨rfl, rfl, rfl, rfl, rfl⟩, rfl, nofun, fun _ => rfl,
        Option.isSome_iff_exists.mpr ⟨old, hold⟩,
        ledger, event, hevent, happended, fun _ => rfl, nofun⟩
  | apply applied_by =>
    change run (apply_record around applied_by tenant_id record) ledger = _ at h
    unfold apply_record at h
    split at h
    · exact absurd h run_throw_ne
    · rename_i hstatus
      split at h
      · exact absurd h run_throw_ne
      · obtain ⟨outcome, mid, hmutation, h⟩ := run_bind_eq_ok.mp h
        obtain ⟨rfl, -, -, ⟨old, hold, -⟩, event, hevent, happended⟩ := store_status_ok h
        obtain ⟨hrequests, -, -⟩ := apply_config_mutation_keeps hmutation
        rw [hrequests] at hold happended
        exact ⟨not_not.mp hstatus, rfl, ⟨rfl, rfl, rfl, rfl, rfl⟩, rfl, nofun, fun _ => rfl,
          Option.isSome_iff_exists.mpr ⟨old, hold⟩,
          mid, event, hevent, happended, fun hnot => absurd rfl hnot, fun _ => ⟨outcome, hmutation⟩⟩
  | revoke revoked_by =>
    change run (revoke_record around revoked_by tenant_id record) ledger = _ at h
    unfold revoke_record at h
    split at h
    · exact absurd h run_throw_ne
    · rename_i hstatus
      obtain ⟨rfl, -, -, ⟨old, hold, -⟩, event, hevent, happended⟩ := store_status_ok h
      exact ⟨not_not.mp hstatus, rfl, ⟨rfl, rfl, rfl, rfl, rfl⟩, rfl, nofun, fun _ => rfl,
        Option.isSome_iff_exists.mpr ⟨old, hold⟩,
        ledger, event, hevent, happended, fun _ => rfl, nofun⟩

/-- The ledger in which a proposal makes its request: a credential that is proposed is stored already. -/
def Proposal.Stored (ledger mid : Ledger Uuid) : Proposal Uuid → Prop
  | change .. => mid = ledger
  | connector_credential _ tenant_id connector_id _ _ => ∃ stored : ConnectorCredentialRecord,
      stored.tenant_id = tenant_id ∧ stored.connector_id = connector_id ∧
      stored.status = "pending_validation" ∧
      mid = { ledger with credentials := ledger.credentials.set (tenant_id, connector_id) stored }

/-- What a proposal has done when it returns: it has made a request, or it has found the one that is
there. -/
structure Proposed (proposal : Proposal Uuid) (persisted : TenantConfigChangeRequestRecord Uuid)
    (ledger ledger' : Ledger Uuid) : Prop where
  stored : ∃ mid event, proposal.Stored ledger mid ∧
    ((ledger.requests.get? persisted.change_request_id = none ∧ persisted.status = .proposed ∧
      Appended event { mid with
        requests := ledger.requests.set persisted.change_request_id persisted } ledger') ∨
    ((∃ id, ledger.requests.get? id = some persisted) ∧ Appended event mid ledger'))

variable {proposal : Proposal Uuid}

theorem Proposal.body_ok (h : run proposal.body ledger = (.ok saved, ledger')) :
    Proposed proposal saved ledger ledger' := by
  cases proposal with
  | change around tenant_id change_type payload proposed_by =>
    obtain ⟨_, _, hlift, h⟩ := run_bind_eq_ok.mp h
    obtain ⟨-, rfl⟩ := Prod.mk.inj hlift
    obtain ⟨event, -, hstored⟩ := store_proposal_ok h
    refine ⟨_, event, rfl, hstored.imp ?_ id⟩
    exact fun ⟨hnone, hsaved, _, happended⟩ => ⟨hnone, hsaved ▸ rfl, happended⟩
  | connector_credential around tenant_id connector_id has_credentials proposed_by =>
    change run (propose_connector_credential around tenant_id connector_id has_credentials proposed_by)
      ledger = _ at h
    unfold propose_connector_credential at h
    split at h
    · exact absurd h run_throw_ne
    · split at h
      · exact absurd h run_throw_ne
      · obtain ⟨ciphertext, _, hlift, h⟩ := run_bind_eq_ok.mp h
        obtain ⟨-, rfl⟩ := Prod.mk.inj hlift
        obtain ⟨_, mid, hupsert, h⟩ := run_bind_eq_ok.mp h
        obtain ⟨stored, htenant, hconnector, -, hstatus, rfl⟩ := upsert_ok hupsert
        obtain ⟨event, -, hstored⟩ := store_proposal_ok h
        refine ⟨_, event, ⟨stored, htenant, hconnector, hstatus, rfl⟩, hstored.imp ?_ id⟩
        exact fun ⟨hnone, hsaved, _, happended⟩ => ⟨hnone, hsaved ▸ rfl, happended⟩

omit [DecidableEq Uuid] [Stdlib Uuid] [Sha256] [BytesSha256] in
theorem Proposal.Stored.keeps (h : proposal.Stored ledger ledger') :
    ledger'.requests = ledger.requests ∧ ledger'.events = ledger.events ∧
      ledger'.mutations = ledger.mutations := by
  cases proposal with
  | change =>
    cases h
    exact ⟨rfl, rfl, rfl⟩
  | connector_credential =>
    obtain ⟨_, -, -, -, rfl⟩ := h
    exact ⟨rfl, rfl, rfl⟩

variable {pool pool' : Pool ι Uuid}

theorem propose_next (h : (Event.propose proposal).next pool = some pool') : ∃ persisted ledger',
      run proposal.body pool.ledger = (.ok persisted, ledger') ∧
      pool' = { pool with ledger := ledger' } := by
  obtain ⟨ledger', hcommitted, rfl⟩ := Option.map_eq_some_iff.mp h
  obtain ⟨persisted, hrun⟩ := committed_eq_some.mp hcommitted
  exact ⟨persisted, ledger', hrun, rfl⟩

theorem commit_next {i : ι} (h : (Event.commit i around).next pool = some pool') :
    ∃ f saved ledger',
      pool.inflight i = some f ∧
      run (f.decision.body around f.tenant_id f.record) pool.ledger = (.ok saved, ledger') ∧
      pool' = ⟨ledger', Function.update pool.inflight i none⟩ := by
  obtain ⟨f, hf, h⟩ := Option.bind_eq_some_iff.mp h
  obtain ⟨ledger', hcommitted, rfl⟩ := Option.map_eq_some_iff.mp h
  obtain ⟨saved, hrun⟩ := committed_eq_some.mp hcommitted
  exact ⟨f, saved, ledger', hf, hrun, rfl⟩

theorem read_next {i : ι} {change_request_id : Uuid}
    (h : (Event.read i decision tenant_id change_request_id).next pool = some pool') :
    pool' = pool ∨ ∃ record, pool.ledger.requests.get? change_request_id = some record ∧
      pool' = { pool with
        inflight := Function.update pool.inflight i (some ⟨decision, tenant_id, record⟩) } := by
  rw [Event.next] at h
  split at h
  · cases h
  · split at h
    · cases h
      exact .inl rfl
    · rename_i record _ hopening
      cases h
      obtain ⟨_, _, hlift, hrequire⟩ := run_bind_eq_ok.mp hopening
      obtain ⟨-, rfl⟩ := Prod.mk.inj hlift
      obtain ⟨_, _, hget, hrequire⟩ := run_bind_eq_ok.mp hrequire
      cases hget
      cases hfound : get_request pool.ledger change_request_id tenant_id with
      | none =>
        simp only [hfound] at hrequire
        exact absurd hrequire run_throw_ne
      | some found =>
        simp only [hfound] at hrequire
        cases hrequire
        exact .inr ⟨_, (get_request_eq_some.mp hfound).1, rfl⟩

omit [DecidableEq Uuid] [Stdlib Uuid] [Sha256] [BytesSha256] in
theorem inflight_of_update {pool : Pool ι Uuid} {i j : ι} {f : InFlight Uuid}
    (h : Function.update pool.inflight i none j = some f) : pool.inflight j = some f := by
  by_cases hj : j = i
  · subst hj
    rw [Function.update_self] at h
    cases h
  · rwa [Function.update_of_ne hj] at h

end

end operious.change_requests
