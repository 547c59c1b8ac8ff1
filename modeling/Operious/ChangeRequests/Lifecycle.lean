-- The life of a change request, over all calls side by side: the row is written by its id alone, and it
-- is the event of a status that stops a second call from storing one.
import Operious.ChangeRequests.Pool

namespace operious.change_requests

open effects runs
open operious.resolution (Sha256)

inductive Follows : TenantConfigChangeRequestStatus → TenantConfigChangeRequestStatus → Prop
  | approve : Follows .proposed .approved
  | reject : Follows .proposed .rejected
  | apply : Follows .approved .applied
  | revoke : Follows .approved .revoked

theorem Decision.follows (decision : Decision) : Follows decision.decides decision.writes := by
  cases decision
  · exact .approve
  · exact .reject
  · exact .apply
  · exact .revoke

theorem Follows.sequence {old new : TenantConfigChangeRequestStatus} (h : Follows old new) :
    sequence_for_status new = sequence_for_status old + 1 := by
  cases h <;> rfl

def TenantConfigChangeRequestStatus.granted : TenantConfigChangeRequestStatus → Bool
  | approved | applied | revoked => true
  | _ => false

section

variable {ι Uuid : Type} [DecidableEq ι] [DecidableEq Uuid] [Stdlib Uuid] [Sha256] [BytesSha256]

/-- A step of the life of the requests. A request moves along, a new one is proposed, and a mutation is
applied once, of a request that another principal than its proposer has approved. A proposal returns a
new request, or the one that is there, as it is. -/
structure Lawful (before : Pool ι Uuid) (event : Event ι Uuid) (after : Pool ι Uuid) : Prop where
  moves : ∀ id old, before.ledger.requests.get? id = some old →
    ∃ new, after.ledger.requests.get? id = some new ∧
      (new = old ∨ SameChange old new ∧ Follows old.status new.status)
  opens : ∀ id new, before.ledger.requests.get? id = none →
    after.ledger.requests.get? id = some new → new.status = .proposed
  mutates : after.ledger.mutations = before.ledger.mutations ∨ ∃ id old new p,
    after.ledger.mutations = before.ledger.mutations ++ [id] ∧ id ∉ before.ledger.mutations ∧
    before.ledger.requests.get? id = some old ∧ old.status = .approved ∧
    old.approved_by = some p ∧ p ≠ old.proposed_by ∧
    after.ledger.requests.get? id = some new ∧ new.status = .applied
  proposes : ∀ proposal, event = .propose proposal →
    ∃ persisted, run proposal.body before.ledger = (.ok persisted, after.ledger) ∧
      ((before.ledger.requests.get? persisted.change_request_id = none ∧ persisted.status = .proposed ∧
        after.ledger.requests.get? persisted.change_request_id = some persisted) ∨
      (before.ledger.requests.get? persisted.change_request_id = some persisted ∧
        ∀ id, after.ledger.requests.get? id = before.ledger.requests.get? id))

/-- A decision is not committed at the very clock reading at which its status was stored before. -/
def Fresh (pool : Pool ι Uuid) : Event ι Uuid → Prop
  | .commit i around => ∀ f ∈ pool.inflight i,
    ∀ e ∈ pool.ledger.events.get? (change_event_id f.record.change_request_id f.decision.writes),
      e.occurred_at ≠ around.now
  | _ => True

instance (pool : Pool ι Uuid) : (event : Event ι Uuid) → Decidable (Fresh pool event)
  | .commit i around => inferInstanceAs (Decidable (∀ f ∈ pool.inflight i,
      ∀ e ∈ pool.ledger.events.get? (change_event_id f.record.change_request_id f.decision.writes),
        e.occurred_at ≠ around.now))
  | .propose _ | .read .. | .abort _ => isTrue trivial

def Later (record row : TenantConfigChangeRequestRecord Uuid) : Prop :=
  row = record ∨ sequence_for_status record.status < sequence_for_status row.status

/-- What holds between the events of a run. -/
structure Sound (pool : Pool ι Uuid) : Prop where
  keyed : ∀ id r, pool.ledger.requests.get? id = some r → r.change_request_id = id
  placed : ∀ id r, pool.ledger.requests.get? id = some r →
    ∀ k, 1 ≤ k → k ≤ sequence_for_status r.status → At pool.ledger id k
  granted : ∀ id r, pool.ledger.requests.get? id = some r → r.status.granted = true →
    ∃ p, r.approved_by = some p ∧ p ≠ r.proposed_by
  inflight : ∀ i f, pool.inflight i = some f →
    ∃ row, pool.ledger.requests.get? f.record.change_request_id = some row ∧ Later f.record row
  applied : ∀ id ∈ pool.ledger.mutations, ∃ r, pool.ledger.requests.get? id = some r ∧
    r.status = .applied
  once : pool.ledger.mutations.Nodup

variable {pool pool' : Pool ι Uuid} {i : ι} {around : Around Uuid}

omit [DecidableEq ι] in
theorem Sound.current (hsound : Sound pool) (hfresh : Fresh pool (.commit i around)) {f : InFlight Uuid}
    {saved : TenantConfigChangeRequestRecord Uuid} {ledger' : Ledger Uuid}
    (hf : pool.inflight i = some f)
    (hdecided : Decided f.decision around f.record saved pool.ledger ledger') :
    pool.ledger.requests.get? f.record.change_request_id = some f.record := by
  obtain ⟨row, hrow, hlater⟩ := hsound.inflight i f hf
  rcases hlater with rfl | hlater
  · exact hrow
  · exfalso
    obtain ⟨mid, event, hevent, happended, hquiet, hmutation⟩ := hdecided.stored
    obtain ⟨hid, hinstance, hsequence, hat, -⟩ := event_for_record_ok hevent
    have hevents : mid.events = pool.ledger.events := by
      by_cases happlied : f.decision.writes = .applied
      · obtain ⟨outcome, hrun⟩ := hmutation happlied
        exact (apply_config_mutation_keeps hrun).2.1
      · rw [hquiet happlied]
    rcases happended.fenced with ⟨e, he, hnow, -⟩ | hfree
    · rw [hid, hdecided.same.change_request_id, hdecided.writes, hevents] at he
      exact hfresh f hf e he (hnow.trans (hat.trans hdecided.stamped))
    · refine hfree ?_
      rw [hinstance, hsequence, hdecided.same.change_request_id, hdecided.writes, At, hevents]
      have hnext := f.decision.follows.sequence
      rw [← hdecided.decides] at hnext
      exact hsound.placed _ row hrow _ (by omega) (by omega)

variable {record saved : TenantConfigChangeRequestRecord Uuid} {ledger ledger' : Ledger Uuid}

variable {decision : Decision}

theorem Decided.after (h : Decided decision around record saved ledger ledger') :
    ledger'.requests = ledger.requests.set record.change_request_id saved ∧ Grows ledger ledger' ∧
      At ledger' record.change_request_id (sequence_for_status saved.status) ∧
      ((decision.writes ≠ .applied ∧ ledger'.mutations = ledger.mutations) ∨
        (decision.writes = .applied ∧
          ledger'.mutations = ledger.mutations ++ [record.change_request_id])) := by
  obtain ⟨mid, event, hevent, happended, hquiet, hmutation⟩ := h.stored
  obtain ⟨-, hinstance, hsequence, -, -⟩ := event_for_record_ok hevent
  have hplaced := happended.placed
  rw [hinstance, hsequence, h.same.change_request_id] at hplaced
  by_cases happlied : decision.writes = .applied
  · obtain ⟨outcome, hrun⟩ := hmutation happlied
    obtain ⟨-, hevents, hmutations⟩ := apply_config_mutation_keeps hrun
    refine ⟨happended.requests, fun k e he => happended.grows k e (hevents.symm ▸ he), hplaced, .inr ?_⟩
    exact ⟨happlied, happended.mutations.trans hmutations⟩
  · cases hquiet happlied
    exact ⟨happended.requests, happended.grows, hplaced, .inl ⟨happlied, happended.mutations⟩⟩

theorem Decided.granted (h : Decided decision around record saved ledger ledger')
    (hgranted : record.status.granted = true →
      ∃ p, record.approved_by = some p ∧ p ≠ record.proposed_by)
    (hsaved : saved.status.granted = true) :
    ∃ p, saved.approved_by = some p ∧ p ≠ saved.proposed_by := by
  rw [h.same.proposed_by]
  by_cases happroves : decision.writes = .approved
  · exact h.approver happroves
  · rw [h.keeps happroves]
    refine hgranted ?_
    rw [h.writes] at hsaved
    rw [h.decides]
    cases decision with
    | approve => exact absurd rfl happroves
    | reject => cases hsaved
    | apply => rfl
    | revoke => rfl

theorem Sound.commit (hsound : Sound pool) (hfresh : Fresh pool (.commit i around))
    (hnext : (Event.commit i around).next pool = some pool') :
    Sound pool' ∧ Lawful pool (.commit i around) pool' := by
  obtain ⟨f, saved, ledger', hf, hrun, rfl⟩ := commit_next hnext
  have hdecided := Decision.body_ok hrun
  have hrow := hsound.current hfresh hf hdecided
  obtain ⟨hrequests, hgrows, hplaced, hmutations⟩ := hdecided.after
  have hfollows : Follows f.record.status saved.status := by
    rw [hdecided.decides, hdecided.writes]
    exact f.decision.follows
  have hself : ledger'.requests.get? f.record.change_request_id = some saved := by
    rw [hrequests, Dict.get?_set_self]
  have hcases : ∀ id r, ledger'.requests.get? id = some r →
      (id = f.record.change_request_id ∧ r = saved) ∨
      (id ≠ f.record.change_request_id ∧ pool.ledger.requests.get? id = some r) := fun id r hr => by
    rw [hrequests] at hr
    rcases Dict.get?_set_cases hr with ⟨rfl, rfl⟩ | ⟨hid, hr⟩
    · exact .inl ⟨rfl, rfl⟩
    · exact .inr ⟨Ne.symm hid, hr⟩
  have hmoves : ∀ id old, pool.ledger.requests.get? id = some old →
      ∃ new, ledger'.requests.get? id = some new ∧
        (new = old ∨ SameChange old new ∧ Follows old.status new.status) := fun id old hold => by
    by_cases hid : id = f.record.change_request_id
    · subst hid
      cases hrow.symm.trans hold
      exact ⟨saved, hself, .inr ⟨hdecided.same, hfollows⟩⟩
    · exact ⟨old, by rw [hrequests, Dict.get?_set_ne _ _ (Ne.symm hid), hold], .inl rfl⟩
  have hnot : f.record.change_request_id ∉ pool.ledger.mutations := fun hmem => by
    obtain ⟨r, hr, happlied⟩ := hsound.applied _ hmem
    cases hrow.symm.trans hr
    rw [happlied] at hfollows
    cases hfollows
  constructor
  · constructor
    · intro id r hr
      rcases hcases id r hr with ⟨rfl, rfl⟩ | ⟨-, hr⟩
      · exact hdecided.same.change_request_id
      · exact hsound.keyed id r hr
    · intro id r hr k hpositive hk
      rcases hcases id r hr with ⟨rfl, rfl⟩ | ⟨-, hr⟩
      · have hsequence := hfollows.sequence
        by_cases hlast : k = sequence_for_status r.status
        · exact hlast ▸ hplaced
        · exact (hsound.placed _ _ hrow k hpositive (by omega)).grows hgrows
      · exact (hsound.placed id r hr k hpositive hk).grows hgrows
    · intro id r hr hgranted
      rcases hcases id r hr with ⟨rfl, rfl⟩ | ⟨-, hr⟩
      · exact hdecided.granted (hsound.granted _ _ hrow) hgranted
      · exact hsound.granted id r hr hgranted
    · intro j g hg
      obtain ⟨row, hgrow, hlater⟩ := hsound.inflight j g (inflight_of_update hg)
      obtain ⟨new, hnew, hmoved⟩ := hmoves _ row hgrow
      refine ⟨new, hnew, ?_⟩
      rcases hmoved with rfl | ⟨-, hmoved⟩
      · exact hlater
      · have hsequence := hmoved.sequence
        rcases hlater with rfl | hlater
        · exact .inr (by omega)
        · exact .inr (by omega)
    · intro id hid
      have hold : ∀ id ∈ pool.ledger.mutations,
          ∃ r, ledger'.requests.get? id = some r ∧ r.status = .applied := fun id hid => by
        obtain ⟨r, hr, happlied⟩ := hsound.applied id hid
        obtain ⟨new, hnew, rfl | ⟨-, hmoved⟩⟩ := hmoves id r hr
        · exact ⟨new, hnew, happlied⟩
        · rw [happlied] at hmoved
          cases hmoved
      change id ∈ ledger'.mutations at hid
      rcases hmutations with ⟨-, hsame⟩ | ⟨happlies, happend⟩
      · exact hold id (hsame ▸ hid)
      · rw [happend, List.mem_append, List.mem_singleton] at hid
        rcases hid with hid | rfl
        · exact hold id hid
        · exact ⟨saved, hself, hdecided.writes.trans happlies⟩
    · change ledger'.mutations.Nodup
      rcases hmutations with ⟨-, hsame⟩ | ⟨-, happend⟩
      · exact hsame ▸ hsound.once
      · rw [happend]
        exact List.nodup_append.mpr ⟨hsound.once, List.nodup_singleton _,
          fun a ha b hb => by rintro rfl; exact hnot (List.mem_singleton.mp hb ▸ ha)⟩
  · refine ⟨hmoves, fun id new hnone hnew => ?_, ?_, nofun⟩
    · rcases hcases id new hnew with ⟨rfl, -⟩ | ⟨-, hr⟩
      · cases hrow.symm.trans hnone
      · cases hr.symm.trans hnone
    · rcases hmutations with ⟨-, hsame⟩ | ⟨happlies, happend⟩
      · exact .inl hsame
      · have hdecides : f.record.status = .approved := by
          have hwritten : saved.status = .applied := hdecided.writes.trans happlies
          rw [hwritten] at hfollows
          generalize f.record.status = old at hfollows
          cases hfollows
          rfl
        obtain ⟨p, happroved, hseparate⟩ := hsound.granted _ _ hrow (by rw [hdecides]; rfl)
        exact .inr ⟨_, f.record, saved, p, happend, hnot, hrow, hdecides, happroved, hseparate, hself,
          hdecided.writes.trans happlies⟩

theorem Sound.propose (hsound : Sound pool) {proposal : Proposal Uuid}
    (hnext : (Event.propose proposal).next pool = some pool') :
    Sound pool' ∧ Lawful pool (.propose proposal) pool' := by
  obtain ⟨persisted, ledger', hrun, rfl⟩ := propose_next hnext
  obtain ⟨mid, event, hstored, hproposed⟩ := (Proposal.body_ok hrun).stored
  obtain ⟨hrequests, hevents, hmutations⟩ := hstored.keeps
  rcases hproposed with ⟨hnone, hstatus, happended⟩ | ⟨⟨id, hfound⟩, happended⟩
  · have hset : ledger'.requests = pool.ledger.requests.set persisted.change_request_id persisted :=
      happended.requests
    have hgrows : Grows pool.ledger ledger' := fun k e he => happended.grows k e (hevents.symm ▸ he)
    have hsame : ledger'.mutations = pool.ledger.mutations := happended.mutations.trans hmutations
    have hkept : ∀ id r, pool.ledger.requests.get? id = some r → ledger'.requests.get? id = some r :=
      fun id r hr => by
        rw [hset, Dict.get?_set_ne, hr]
        rintro rfl
        cases hnone.symm.trans hr
    have hcases : ∀ id r, ledger'.requests.get? id = some r →
        (id = persisted.change_request_id ∧ r = persisted) ∨
        pool.ledger.requests.get? id = some r := fun id r hr => by
      rw [hset] at hr
      rcases Dict.get?_set_cases hr with ⟨rfl, rfl⟩ | ⟨-, hr⟩
      · exact .inl ⟨rfl, rfl⟩
      · exact .inr hr
    constructor
    · constructor
      · intro id r hr
        rcases hcases id r hr with ⟨rfl, rfl⟩ | hr
        · rfl
        · exact hsound.keyed id r hr
      · intro id r hr k hpositive hk
        rcases hcases id r hr with ⟨rfl, rfl⟩ | hr
        · rw [hstatus] at hk
          exact absurd hk (by change ¬ k ≤ 0; omega)
        · exact (hsound.placed id r hr k hpositive hk).grows hgrows
      · intro id r hr hgranted
        rcases hcases id r hr with ⟨rfl, rfl⟩ | hr
        · rw [hstatus] at hgranted
          cases hgranted
        · exact hsound.granted id r hr hgranted
      · intro j g hg
        obtain ⟨row, hrow, hlater⟩ := hsound.inflight j g hg
        exact ⟨row, hkept _ row hrow, hlater⟩
      · intro id hid
        obtain ⟨r, hr, happlied⟩ := hsound.applied id (hsame ▸ hid)
        exact ⟨r, hkept id r hr, happlied⟩
      · exact hsame.symm ▸ hsound.once
    · refine ⟨fun id old hold => ⟨old, hkept id old hold, .inl rfl⟩, fun id new hnew hget => ?_,
        .inl hsame, ?_⟩
      · rcases hcases id new hget with ⟨rfl, rfl⟩ | hr
        · exact hstatus
        · cases hr.symm.trans hnew
      · rintro other heq
        cases heq
        exact ⟨persisted, hrun, .inl ⟨hnone, hstatus, by rw [hset, Dict.get?_set_self]⟩⟩
  · have hsame : ledger'.requests = pool.ledger.requests := happended.requests.trans hrequests
    have hgrows : Grows pool.ledger ledger' := fun k e he => happended.grows k e (hevents.symm ▸ he)
    have honce : ledger'.mutations = pool.ledger.mutations := happended.mutations.trans hmutations
    cases hsound.keyed id persisted hfound
    constructor
    · constructor
      · exact fun id r hr => hsound.keyed id r (hsame ▸ hr)
      · exact fun id r hr k hpositive hk =>
          (hsound.placed id r (hsame ▸ hr) k hpositive hk).grows hgrows
      · exact fun id r hr => hsound.granted id r (hsame ▸ hr)
      · exact fun j g hg => hsame.symm ▸ hsound.inflight j g hg
      · exact fun id hid => hsame.symm ▸ hsound.applied id (honce ▸ hid)
      · exact honce.symm ▸ hsound.once
    · refine ⟨fun id old hold => ⟨old, hsame.symm ▸ hold, .inl rfl⟩, fun id new hnone hnew => ?_,
        .inl honce, ?_⟩
      · cases hnone.symm.trans (hsame ▸ hnew)
      · rintro other heq
        cases heq
        exact ⟨persisted, hrun, .inr ⟨hfound, fun _ => by rw [hsame]⟩⟩

variable {event : Event ι Uuid}

omit [DecidableEq ι] in
theorem Lawful.of_ledger (hledger : pool'.ledger = pool.ledger)
    (hevent : ∀ proposal, event ≠ .propose proposal) : Lawful pool event pool' where
  moves id old hold := ⟨old, hledger ▸ hold, .inl rfl⟩
  opens id new hnone hnew := by cases hnone.symm.trans (hledger ▸ hnew)
  mutates := .inl (by rw [hledger])
  proposes proposal heq := absurd heq (hevent proposal)

theorem Sound.next (hsound : Sound pool) (hfresh : Fresh pool event)
    (hnext : event.next pool = some pool') : Sound pool' ∧ Lawful pool event pool' := by
  cases event with
  | propose proposal => exact hsound.propose hnext
  | read i decision tenant_id change_request_id =>
    rcases read_next hnext with rfl | ⟨record, hrecord, rfl⟩
    · exact ⟨hsound, .of_ledger rfl nofun⟩
    · refine ⟨⟨hsound.keyed, hsound.placed, hsound.granted, fun j f hf => ?_, hsound.applied,
        hsound.once⟩, .of_ledger rfl nofun⟩
      change Function.update pool.inflight i _ j = some f at hf
      by_cases hj : j = i
      · subst hj
        rw [Function.update_self] at hf
        cases hf
        refine ⟨record, ?_, .inl rfl⟩
        rw [hsound.keyed _ record hrecord]
        exact hrecord
      · rw [Function.update_of_ne hj] at hf
        exact hsound.inflight j f hf
  | commit i around => exact hsound.commit hfresh hnext
  | abort i =>
    cases hnext
    exact ⟨⟨hsound.keyed, hsound.placed, hsound.granted,
      fun j f hf => hsound.inflight j f (inflight_of_update hf), hsound.applied, hsound.once⟩,
      .of_ledger rfl nofun⟩

omit [DecidableEq ι] [Stdlib Uuid] [Sha256] [BytesSha256] in
theorem Sound.empty : Sound (.empty : Pool ι Uuid) where
  keyed _ _ h := by cases h
  placed _ _ h := by cases h
  granted _ _ h := by cases h
  inflight _ _ h := by cases h
  applied _ h := by cases h
  once := List.nodup_nil

/-- Whatever calls run side by side, requests live lawfully, where no decision is committed at the very
clock reading at which its status was stored before. -/
theorem request_lifecycle_kept (events : List (Event ι Uuid)) (hfresh : Meets Event.next Fresh .empty events) :
    Along Event.next Lawful .empty events := by
  refine along_when (I := Sound) (C := Fresh) ?_ .empty hfresh
  exact fun _ _ _ hsound hfresh hnext => hsound.next hfresh hnext

end

/-! ## A request that is proposed again -/

/-- The digest of one ciphertext, to run the model on. -/
instance : BytesSha256 where
  sha256_bytes bytes :=
    if bytes = [102, 105, 114, 115, 116] then
      "a7937b64b8caa58f03721bb6bacf5c78cb235febe0e70b1b84cd99541461a08e"
    else operious.resolution.emptyDigest

def answeringAt (now : Nat) : Around String where
  now := Int.ofNat now
  validation := .ok ()
  mutation := .ok []
  ciphertext := .ok [102, 105, 114, 115, 116]

def policyProposal (now : Nat) : Proposal String := .change (answeringAt now) "t" .policy [] "ana"

def policyRequest : String := "t|policy|ana|" ++ operious.resolution.emptyDigest

def proposedAndRejected : List (Event Unit String) :=
  [.propose (policyProposal 1), .read () (.reject "ben" "no") "t" policyRequest,
   .commit () (answeringAt 2)]

/-- The request is returned as it was rejected, when it is proposed again. -/
theorem proposed_again_rejected :
    ¬ ∀ (events : List (Event Unit String)) (pool : Pool Unit String) (proposal : Proposal String)
      (persisted : TenantConfigChangeRequestRecord String) (ledger' : Ledger String),
      after Event.next .empty events = some pool →
      run proposal.body pool.ledger = (.ok persisted, ledger') → persisted.status = .proposed := by
  intro h
  have hrun : ((after Event.next .empty proposedAndRejected).map fun pool =>
      (run (policyProposal 3).body pool.ledger).1.toOption.map (·.status)) = some (some .rejected) := by
    decide +kernel
  obtain ⟨pool, hpool, hrun⟩ := Option.map_eq_some_iff.mp hrun
  obtain ⟨persisted, hpersisted, hrejected⟩ := Option.map_eq_some_iff.mp hrun
  rcases hreturn : run (policyProposal 3).body pool.ledger with ⟨_ | r, ledger'⟩
  · rw [hreturn] at hpersisted
    cases hpersisted
  · rw [hreturn] at hpersisted
    cases hpersisted
    cases hrejected.symm.trans (h _ _ _ _ _ hpool hreturn)

def proposedAndApplied : List (Event Unit String) :=
  [.propose (policyProposal 1), .read () (.approve "ben") "t" policyRequest,
   .commit () (answeringAt 2), .read () (.apply "cam") "t" policyRequest,
   .commit () (answeringAt 3), .propose (policyProposal 4)]

/-- The request that is proposed again is the one that was applied. -/
theorem request_lifecycle_kept_applied : Along Event.next Lawful .empty proposedAndApplied :=
  request_lifecycle_kept proposedAndApplied (by decide +kernel)

end operious.change_requests
