-- Dual control on the credentials of connectors: when the ciphertext that a connector loads changes. A
-- proposal stores its ciphertext in the row that the connector loads from.
import Operious.ChangeRequests.Lifecycle

namespace operious.change_requests

open effects runs
open operious.resolution (Sha256)

section

variable {ι Uuid : Type} [DecidableEq ι] [DecidableEq Uuid] [Stdlib Uuid] [Sha256] [BytesSha256]

/-- The ciphertext that the connector loads. -/
def loaded (ledger : Ledger Uuid) (tenant_id connector_id : String) : Option (List UInt8) :=
  (get_active ledger tenant_id connector_id).map (·.credentials_enc)

def Carries (record : TenantConfigChangeRequestRecord Uuid) (connector_id hash : String) : Prop :=
  ∃ id_field hash_field, record.change_type.activates = some (id_field, hash_field) ∧
    payload_str record.proposed_payload id_field = .ok connector_id ∧
    payload_str record.proposed_payload hash_field = .ok hash

/-- What a connector loads changes only when a request is applied that another principal than its
proposer has approved, and then to the ciphertext whose hash the request carries. -/
def DualControl (before : Pool ι Uuid) (event : Event ι Uuid) (after : Pool ι Uuid) : Prop :=
  ∀ tenant_id connector_id,
    loaded after.ledger tenant_id connector_id = loaded before.ledger tenant_id connector_id ∨
    ∃ i around f p ciphertext, event = .commit i around ∧ before.inflight i = some f ∧
      f.decision.writes = .applied ∧ f.record.status = .approved ∧ f.record.tenant_id = tenant_id ∧
      f.record.approved_by = some p ∧ p ≠ f.record.proposed_by ∧
      loaded after.ledger tenant_id connector_id = some ciphertext ∧
      Carries f.record connector_id (sha256_bytes ciphertext)

def Vacant (pool : Pool ι Uuid) : Event ι Uuid → Prop
  | .propose (.connector_credential _ tenant_id connector_id _ _) =>
    get_active pool.ledger tenant_id connector_id = none
  | _ => True

/-- What holds between the events of every run. -/
structure Controlled (pool : Pool ι Uuid) : Prop where
  keyed : ∀ k cred, pool.ledger.credentials.get? k = some cred →
    (cred.tenant_id, cred.connector_id) = k
  granted : ∀ id r, pool.ledger.requests.get? id = some r → r.status.granted = true →
    ∃ p, r.approved_by = some p ∧ p ≠ r.proposed_by
  inflight : ∀ i f, pool.inflight i = some f → f.record.status.granted = true →
    ∃ p, f.record.approved_by = some p ∧ p ≠ f.record.proposed_by

variable {pool pool' : Pool ι Uuid} {ledger ledger' : Ledger Uuid} {tenant_id connector_id : String}
  {around : Around Uuid} {record : TenantConfigChangeRequestRecord Uuid}

omit [DecidableEq Uuid] [Stdlib Uuid] [Sha256] [BytesSha256] in
theorem loaded_set {k : String × String} {cred : ConnectorCredentialRecord}
    (h : ledger'.credentials = ledger.credentials.set k cred) :
    loaded ledger' tenant_id connector_id =
      if (tenant_id, connector_id) = k then
        if cred.status = "active" then some cred.credentials_enc else none
      else loaded ledger tenant_id connector_id := by
  rw [loaded, loaded, get_active, get_active, get_credential, get_credential, h]
  by_cases hk : (tenant_id, connector_id) = k
  · subst hk
    rw [if_pos rfl, Dict.get?_set_self]
    by_cases hactive : cred.status = "active"
    · rw [if_pos hactive, Option.filter_some_pos (by simpa using hactive)]
      rfl
    · rw [if_neg hactive, Option.filter_some_neg (by simpa using hactive)]
      rfl
  · rw [if_neg hk, Dict.get?_set_ne _ _ (Ne.symm hk)]

omit [DecidableEq Uuid] [Stdlib Uuid] [Sha256] [BytesSha256] in
theorem loaded_congr (h : ledger'.credentials = ledger.credentials) :
    loaded ledger' tenant_id connector_id = loaded ledger tenant_id connector_id := by
  rw [loaded, get_active, get_credential, h]
  rfl

theorem Decided.credentials {decision : Decision} {saved : TenantConfigChangeRequestRecord Uuid}
    (h : Decided decision around record saved ledger ledger') :
    ledger'.credentials = ledger.credentials ∨
      (decision.writes = .applied ∧ ∃ connector_id cred active,
        get_credential ledger record.tenant_id connector_id = some cred ∧
        Carries record connector_id (sha256_bytes cred.credentials_enc) ∧
        active.tenant_id = cred.tenant_id ∧ active.connector_id = cred.connector_id ∧
        active.credentials_enc = cred.credentials_enc ∧ active.status = "active" ∧
        ledger'.credentials = ledger.credentials.set (cred.tenant_id, cred.connector_id) active) := by
  obtain ⟨mid, event, -, happended, hquiet, hmutation⟩ := h.stored
  have hcredentials : ledger'.credentials = mid.credentials := happended.credentials
  by_cases happlied : decision.writes = .applied
  · obtain ⟨outcome, hrun⟩ := hmutation happlied
    obtain ⟨mutated, approval, hmutate, rfl⟩ := apply_config_mutation_ok hrun
    rcases mutate_ok hmutate with rfl | ⟨id_field, hash_field, hfields, hactivated⟩
    · exact .inl hcredentials
    · obtain ⟨connector_id, cred, active, hid, hcred, -, hhash, htenant, hconnector, henc, hactive,
        rfl⟩ := hactivated.found
      exact .inr ⟨happlied, connector_id, cred, active, hcred, ⟨id_field, hash_field, hfields, hid, hhash⟩,
        htenant, hconnector, henc, hactive, hcredentials⟩
  · rw [hquiet happlied] at hcredentials
    exact .inl hcredentials

theorem Controlled.commit {i : ι} (h : Controlled pool)
    (hnext : (Event.commit i around).next pool = some pool') :
    Controlled pool' ∧ DualControl pool (.commit i around) pool' := by
  obtain ⟨f, saved, after, hf, hrun, rfl⟩ := commit_next hnext
  have hdecided := Decision.body_ok hrun
  have hgranted := hdecided.granted (h.inflight i f hf)
  constructor
  · refine ⟨fun k cred hcred => ?_, fun id r hr => ?_, fun j g hg =>
      h.inflight j g (inflight_of_update hg)⟩
    · change after.credentials.get? k = some cred at hcred
      rcases hdecided.credentials with hsame |
        ⟨-, connector_id, old, active, hold, -, htenant, hconnector, -, -, hset⟩
      · exact h.keyed k cred (hsame ▸ hcred)
      · rw [hset] at hcred
        rcases Dict.get?_set_cases hcred with ⟨rfl, rfl⟩ | ⟨-, hcred⟩
        · rw [htenant, hconnector]
        · exact h.keyed k cred hcred
    · change after.requests.get? id = some r at hr
      rw [hdecided.after.1] at hr
      rcases Dict.get?_set_cases hr with ⟨rfl, rfl⟩ | ⟨-, hr⟩
      · exact hgranted
      · exact h.granted id r hr
  · intro tenant_id connector_id
    rcases hdecided.credentials with hsame |
      ⟨happlies, connector, cred, active, hcred, hcarries, -, -, henc, hactive, hset⟩
    · exact .inl (loaded_congr hsame)
    · rw [h.keyed _ cred hcred] at hset
      have hloaded : loaded after tenant_id connector_id =
          if (tenant_id, connector_id) = (f.record.tenant_id, connector) then
            some cred.credentials_enc else loaded pool.ledger tenant_id connector_id := by
        rw [loaded_set hset, if_pos hactive, henc]
      by_cases hk : (tenant_id, connector_id) = (f.record.tenant_id, connector)
      · obtain ⟨rfl, rfl⟩ := Prod.mk.inj hk
        rw [if_pos rfl] at hloaded
        have hdecides : f.record.status = .approved := by
          rw [hdecided.decides]
          cases hdecision : f.decision <;> rw [hdecision] at happlies <;> first | rfl | cases happlies
        obtain ⟨p, happroved, hseparate⟩ := h.inflight i f hf (by rw [hdecides]; rfl)
        exact .inr ⟨i, around, f, p, cred.credentials_enc, rfl, hf, happlies, hdecides, rfl, happroved,
          hseparate, hloaded, hcarries⟩
      · rw [if_neg hk] at hloaded
        exact .inl hloaded

/-- A proposal keeps dual control exactly where it leaves no active credential behind. -/
theorem Controlled.propose {proposal : Proposal Uuid} (h : Controlled pool)
    (hnext : (Event.propose proposal).next pool = some pool') :
    Controlled pool' ∧ (DualControl pool (.propose proposal) pool' ↔ Vacant pool (.propose proposal)) := by
  obtain ⟨persisted, after, hrun, rfl⟩ := propose_next hnext
  obtain ⟨mid, event, hstored, hproposed⟩ := (Proposal.body_ok hrun).stored
  have hcredentials : after.credentials = mid.credentials :=
    hproposed.elim (fun hnew => hnew.2.2.credentials) fun hfound => hfound.2.credentials
  have hrequests : ∀ id r, after.requests.get? id = some r → r.status = .proposed ∨
      pool.ledger.requests.get? id = some r := fun id r hr => by
    rcases hproposed with ⟨-, hstatus, happended⟩ | ⟨-, happended⟩
    · rw [show after.requests = _ from happended.requests] at hr
      rcases Dict.get?_set_cases hr with ⟨-, rfl⟩ | ⟨-, hr⟩
      · exact .inl hstatus
      · exact .inr hr
    · rw [show after.requests = _ from happended.requests, hstored.keeps.1] at hr
      exact .inr hr
  have hkeyed : ∀ k cred, after.credentials.get? k = some cred →
      (cred.tenant_id, cred.connector_id) = k := fun k cred hcred => by
    rw [hcredentials] at hcred
    cases proposal with
    | change =>
      cases hstored
      exact h.keyed k cred hcred
    | connector_credential =>
      obtain ⟨stored, rfl, rfl, -, rfl⟩ := hstored
      rcases Dict.get?_set_cases hcred with ⟨rfl, rfl⟩ | ⟨-, hcred⟩
      · rfl
      · exact h.keyed k cred hcred
  refine ⟨⟨hkeyed, fun id r hr hgranted => ?_, h.inflight⟩, ?_⟩
  · rcases hrequests id r hr with hstatus | hr
    · rw [hstatus] at hgranted
      cases hgranted
    · exact h.granted id r hr hgranted
  · cases proposal with
    | change =>
      cases hstored
      exact ⟨fun _ => trivial, fun _ tenant_id connector_id => .inl (loaded_congr hcredentials)⟩
    | connector_credential found tenant_id connector_id has_credentials proposed_by =>
      obtain ⟨stored, -, -, hpending, rfl⟩ := hstored
      have hloaded : ∀ t c, loaded after t c =
          if (t, c) = (tenant_id, connector_id) then none else loaded pool.ledger t c := fun t c => by
        rw [loaded_set hcredentials, hpending, if_neg (by decide : ¬ "pending_validation" = "active")]
      constructor
      · intro hdual
        rcases hdual tenant_id connector_id with hsame | ⟨_, _, _, _, _, hevent, -⟩
        · rw [hloaded, if_pos rfl] at hsame
          exact Option.map_eq_none_iff.mp hsame.symm
        · cases hevent
      · intro hvacant t c
        by_cases hk : (t, c) = (tenant_id, connector_id)
        · obtain ⟨rfl, rfl⟩ := Prod.mk.inj hk
          refine .inl ((hloaded t c).trans ?_)
          rw [if_pos rfl]
          exact (Option.map_eq_none_iff.mpr hvacant).symm
        · exact .inl ((hloaded t c).trans (if_neg hk))

theorem Controlled.next (h : Controlled pool) {event : Event ι Uuid}
    (hnext : event.next pool = some pool') :
    Controlled pool' ∧ (DualControl pool event pool' ↔ Vacant pool event) := by
  cases event with
  | propose proposal => exact h.propose hnext
  | read i decision tenant_id change_request_id =>
    rcases read_next hnext with rfl | ⟨record, hrecord, rfl⟩
    · exact ⟨h, fun _ => trivial, fun _ _ _ => .inl rfl⟩
    · refine ⟨⟨h.keyed, h.granted, fun j f hf => ?_⟩, fun _ => trivial, fun _ _ _ => .inl rfl⟩
      change Function.update pool.inflight i _ j = some f at hf
      by_cases hj : j = i
      · subst hj
        rw [Function.update_self] at hf
        cases hf
        exact h.granted _ record hrecord
      · rw [Function.update_of_ne hj] at hf
        exact h.inflight j f hf
  | commit i around =>
    obtain ⟨hcontrolled, hdual⟩ := h.commit hnext
    exact ⟨hcontrolled, fun _ => trivial, fun _ => hdual⟩
  | abort i =>
    cases hnext
    exact ⟨⟨h.keyed, h.granted, fun j f hf => h.inflight j f (inflight_of_update hf)⟩, fun _ => trivial,
      fun _ _ _ => .inl rfl⟩

/-- Whatever calls run side by side, what connectors load is under dual control exactly where no
credential is proposed to a connector that has an active one. -/
theorem dual_control_iff (events : List (Event ι Uuid)) :
    Along Event.next DualControl .empty events ↔ Meets Event.next Vacant .empty events := by
  have hempty : Controlled (.empty : Pool ι Uuid) :=
    ⟨fun _ _ h => (nomatch h), fun _ _ h => (nomatch h), fun _ _ h => (nomatch h)⟩
  refine along_iff_meets (I := Controlled) ?_ ?_ hempty
  · exact fun _ _ _ h _ hnext => (h.next hnext).1
  · exact fun _ _ _ h hnext => (h.next hnext).2

end

/-! ## A rotation that is proposed -/

def credentialProposal (now : Nat) (ciphertext : List UInt8) (proposed_by : String) :
    Proposal String :=
  .connector_credential { answeringAt now with ciphertext := .ok ciphertext } "t" "refund.request" true
    proposed_by

def credentialRequest : String := "t|connector_credential|ana|" ++ operious.resolution.emptyDigest

/-- Another principal approves it, and it is applied. -/
def credentialActivated : List (Event Unit String) :=
  [.propose (credentialProposal 1 [102, 105, 114, 115, 116] "ana"),
   .read () (.approve "ben") "t" credentialRequest, .commit () (answeringAt 2),
   .read () (.apply "cam") "t" credentialRequest, .commit () (answeringAt 3)]

/-- A rotation that is only proposed takes the active credential away. -/
theorem proposed_rotation_unloads : ¬ Along Event.next DualControl .empty
    (credentialActivated ++ [.propose (credentialProposal 4 [] "dan")]) := by
  intro h
  have hrun : ((after Event.next .empty credentialActivated).bind fun pool =>
      (Event.next pool (.propose (credentialProposal 4 [] "dan"))).map fun pool' =>
        (loaded pool.ledger "t" "refund.request", loaded pool'.ledger "t" "refund.request")) =
      some (some [102, 105, 114, 115, 116], none) := by
    decide +kernel
  obtain ⟨pool, hpool, hrun⟩ := Option.bind_eq_some_iff.mp hrun
  obtain ⟨pool', hnext, hloaded⟩ := Option.map_eq_some_iff.mp hrun
  obtain ⟨hbefore, hafter⟩ := Prod.mk.inj hloaded
  rcases h.last hpool hnext "t" "refund.request" with hsame | ⟨_, _, _, _, _, hevent, -⟩
  · rw [hbefore, hafter] at hsame
    cases hsame
  · cases hevent

end operious.change_requests
