-- Calls of all writers one after the other: the ledgers stay usable as long as no merge appends an event and
-- no runtime appends one over a row that it has not seen.
import Operious.Lib.Runs
import Operious.Session.Outcomes
import Operious.Session.Reconstruction

namespace operious.session

open awaits runs InMemorySessionPersistence

variable {Uuid : Type} [DecidableEq Uuid]

/-! ## Calls that leave events and heads alone -/

/-- The rows may have changed, but for their heads. -/
structure HeadsKept (s t : InMemorySessionPersistence Uuid) : Prop where
  events : t.events = s.events
  keyed : t.events_by_idempotency_key = s.events_by_idempotency_key
  log : ∀ id, t.log id = s.log id
  correlations : t.correlations = s.correlations
  heads : ∀ id, (t.row id).map SessionRecord.sequence_head =
    (s.row id).map SessionRecord.sequence_head

theorem HeadsKept.refl (s : InMemorySessionPersistence Uuid) : HeadsKept s s :=
  ⟨rfl, rfl, fun _ => rfl, rfl, fun _ => rfl⟩

theorem HeadsKept.trans {s t u : InMemorySessionPersistence Uuid} (h : HeadsKept s t)
    (h' : HeadsKept t u) : HeadsKept s u :=
  ⟨h'.events.trans h.events, h'.keyed.trans h.keyed, fun id => (h'.log id).trans (h.log id),
    h'.correlations.trans h.correlations, fun id => (h'.heads id).trans (h.heads id)⟩

theorem HeadsKept.of_same {s t : InMemorySessionPersistence Uuid} (h : Same s t) : HeadsKept s t :=
  ⟨h.events, h.keyed, h.log, h.correlations, fun id => by rw [h.row]⟩

variable {r : SessionRecord Uuid}

theorem HeadsKept.saved {s : InMemorySessionPersistence Uuid}
    (h : (s.row r.session_id).map SessionRecord.sequence_head = some r.sequence_head) :
    HeadsKept s (s.saved r) := by
  refine ⟨rfl, rfl, fun _ => rfl, rfl, fun id => ?_⟩
  by_cases hid : id = r.session_id
  · rw [hid, row_saved_self, h]
    rfl
  · rw [row_saved_ne _ hid]

section

variable [Stdlib Uuid] {α β : Type} {x : Coroutine Uuid α} {w : World Uuid}

/-- Run alone, the coroutine leaves events and heads alone. -/
def Calm (x : Coroutine Uuid α) (w : World Uuid) : Prop := HeadsKept w.store (exec x w).2.store

theorem Calm.pure (a : α) (w : World Uuid) : Calm (pure a) w := HeadsKept.refl _

theorem Calm.compute (r : Except SessionException α) (w : World Uuid) :
    Calm (operious.session.compute r) w := HeadsKept.refl _

variable {f : α → Coroutine Uuid β}

theorem Calm.bind (hx : Calm x w) (hf : ∀ a w', exec x w = (.ok a, w') → Calm (f a) w') :
    Calm (x >>= f) w := by
  unfold Calm at hx ⊢
  rcases h : exec x w with ⟨r, w'⟩
  rw [h] at hx
  cases r with
  | error e =>
    rw [exec_bind_error h]
    exact hx
  | ok a =>
    rw [exec_bind_ok h]
    exact hx.trans (hf a w' h)

theorem Calm.compute_bind {r : Except SessionException α} (hf : ∀ a, r = .ok a → Calm (f a) w) :
    Calm (operious.session.compute r >>= f) w := by
  apply Calm.bind (Calm.compute r w)
  intro a w' h
  cases h
  exact hf a rfl

theorem Calm.tryCatch {handler : SessionException → Coroutine Uuid α} (hx : Calm x w)
    (hhandler : ∀ e w', Calm (handler e) w') : Calm (tryCatch x handler) w := by
  unfold Calm at hx ⊢
  rcases h : exec x w with ⟨r, w'⟩
  rw [h] at hx
  cases r with
  | error e =>
    rw [exec_tryCatch_error h]
    exact hx.trans (hhandler e w')
  | ok a =>
    rw [exec_tryCatch_ok h]
    exact hx

theorem Calm.swallow {x : Coroutine Uuid Unit} (hx : Calm x w) :
    Calm (operious.session.swallow x) w := Calm.tryCatch hx fun _ _ => Calm.pure _ _

theorem Calm.get_session (id : Uuid) (tenant : Option String) :
    Calm (operious.session.get_session id tenant) w := HeadsKept.refl _

theorem Calm.save_session
    (h : (w.store.row r.session_id).map SessionRecord.sequence_head = some r.sequence_head) :
    Calm (operious.session.save_session r) w := by
  unfold Calm operious.session.save_session
  rw [exec_await]
  by_cases hnewer : w.store.Newer r
  · rw [perform_save_session_ok hnewer]
    exact HeadsKept.saved h
  · obtain ⟨message, herror⟩ := perform_save_session_error hnewer
    rw [herror]
    exact HeadsKept.refl _

theorem Calm.save_event {e : SessionEventRecord Uuid} (h : ¬ w.store.Accepts e) :
    Calm (operious.session.save_event e) w := by
  unfold Calm operious.session.save_event
  rw [exec_await]
  obtain ⟨message, t, herror, hsame⟩ := perform_save_event_error h
  rw [herror]
  exact HeadsKept.of_same hsame

variable {found : Option (SessionRecord Uuid)}

variable {tenant : Option String} {w' : World Uuid} {id : Uuid}

theorem exec_get_session (h : exec (operious.session.get_session id tenant) w = (.ok found, w')) :
    found = w.store.get_session id tenant ∧ w' = w := by
  unfold operious.session.get_session at h
  rw [exec_await, perform] at h
  cases h
  exact ⟨rfl, rfl⟩

/-! ## Merges that append nothing -/

/-- The event of a merge is not appended: its key is stored, or its id is taken. -/
def Blocked (s : InMemorySessionPersistence Uuid) (write : MergeWrite Uuid)
    (stamp : MergeStamp Uuid) : Prop :=
  (∃ e, s.get_event_by_idempotency_key write.updated.session_id write.idempotency_key = some e) ∨
    ∃ e, s.events.get? stamp.event_id = some e

variable {write : MergeWrite Uuid}

omit [Stdlib Uuid] in
theorem Blocked.kept {s t : InMemorySessionPersistence Uuid} {stamp : MergeStamp Uuid}
    (h : Blocked s write stamp) (hst : HeadsKept s t) : Blocked t write stamp := by
  unfold Blocked InMemorySessionPersistence.get_event_by_idempotency_key at h ⊢
  rw [hst.keyed, hst.events]
  exact h

theorem calm_append_merge_event {stamp : MergeStamp Uuid} (h : Blocked w.store write stamp) :
    Calm (append_merge_event write.updated write.event_type write.payload write.idempotency_key
      stamp) w := by
  apply Calm.swallow
  refine Calm.bind (HeadsKept.refl _) ?_
  intro found w' hfound
  unfold operious.session.get_event_by_idempotency_key at hfound
  rw [exec_await, perform] at hfound
  cases hfound
  cases hget : w.store.get_event_by_idempotency_key write.updated.session_id
      write.idempotency_key with
  | some _ => exact Calm.pure _ _
  | none =>
    refine Calm.bind (HeadsKept.refl _) ?_
    intro events w' hevents
    unfold operious.session.list_events at hevents
    rw [exec_await, perform] at hevents
    cases hevents
    apply Calm.save_event
    intro haccepts
    rcases h with ⟨e, he⟩ | ⟨e, he⟩
    · rw [hget] at he
      cases he
    · exact absurd (he.symm.trans haccepts.id_free) (by simp)

theorem calm_save_merge_state {stamp : MergeStamp Uuid}
    (hrow : (w.store.row write.updated.session_id).map SessionRecord.sequence_head =
      some write.updated.sequence_head) (h : Blocked w.store write stamp) :
    Calm (save_merge_state write stamp) w := by
  have hsave : Calm (save_session write.updated) w := Calm.save_session hrow
  refine Calm.bind hsave ?_
  intro saved w' hsaved
  have hkept : HeadsKept w.store w'.store := by
    unfold Calm at hsave
    rw [hsaved] at hsave
    exact hsave
  have hsame : saved = write.updated := by
    unfold operious.session.save_session at hsaved
    rw [exec_await] at hsaved
    by_cases hnewer : w.store.Newer write.updated
    · rw [perform_save_session_ok hnewer] at hsaved
      cases hsaved
      rfl
    · obtain ⟨message, herror⟩ := perform_save_session_error hnewer
      rw [herror] at hsaved
      cases hsaved
  subst hsame
  exact Calm.bind (calm_append_merge_event (h.kept hkept)) fun _ _ _ => Calm.pure _ _

variable [Builtins Uuid]

def MergeCall.stamp : MergeCall Uuid → MergeStamp Uuid
  | flag_merge_candidate _ _ _ _ _ _ stamp => stamp
  | record_confirmation_sent _ _ stamp => stamp
  | handle_confirmation_response _ _ _ stamp => stamp

/-- The prior session that a yes stamps is the session itself. The row is then newer than the record,
and the save of the merge is refused. -/
def stamps_itself (session : SessionRecord Uuid) (state : Payload) (tenant_id : String) : Bool :=
  let prior_session_id := getText Uuid state "prior_session_id" ""
  prior_session_id ≠ "" && session.tenant_id = some tenant_id &&
    session.customer_identity_id.isNone &&
    match (uuid_of prior_session_id : Except SessionException Uuid),
      (uuid_of (getText Uuid state "customer_identity_id" "") : Except SessionException Uuid) with
    | .ok id, .ok _ => id = session.session_id
    | _, _ => false

/-- What the call writes on a record, if its guard lets it pass. -/
def MergeCall.writes (session : SessionRecord Uuid) : MergeCall Uuid → Option (MergeWrite Uuid)
  | flag_merge_candidate _ prior_session_id customer_identity_id prior_channel prior_category
      match_field stamp =>
    match get_merge_status session with
    | .ok status =>
      if status = STATE_MERGED ∨ status = STATE_CANDIDATE ∨ status = STATE_CONFIRMATION_SENT then
        none
      else
        some (candidate_write session prior_session_id customer_identity_id prior_channel
          prior_category match_field stamp)
    | .error _ => none
  | record_confirmation_sent _ confirmation_text stamp =>
    match is_merge_candidate session, get_raw_merge_state session with
    | .ok true, .ok state => some (sent_write session state confirmation_text stamp)
    | _, _ => none
  | handle_confirmation_response _ customer_text tenant_id stamp =>
    match is_awaiting_confirmation session, get_raw_merge_state session with
    | .ok true, .ok state =>
      let decision := parse_confirmation_response Uuid customer_text
      if decision = some "yes" then
        if stamps_itself session state tenant_id then none
        else
          match merged_customer session (getText Uuid state "customer_identity_id" "") with
          | .ok customer => some (merged_write session state customer stamp)
          | .error _ => none
      else some (abandoned_write session state (textOr decision "ambiguous") stamp)
    | _, _ => none

section

variable {session : SessionRecord Uuid} {stamp : MergeStamp Uuid}

variable {customer_identity_id : String}

variable {prior_session_id : String}

theorem calm_flag_merge_candidate (session_id : Uuid)
    {prior_channel prior_category match_field : Option String}
    (hrow : (w.store.row session.session_id).map SessionRecord.sequence_head =
      some session.sequence_head)
    (h : ∀ write, (MergeCall.flag_merge_candidate session_id prior_session_id customer_identity_id
      prior_channel prior_category match_field stamp).writes session = some write →
        Blocked w.store write stamp) :
    Calm (flag_merge_candidate session prior_session_id customer_identity_id prior_channel
      prior_category match_field stamp) w := by
  unfold flag_merge_candidate
  unfold MergeCall.writes is_already_merged is_merge_candidate is_awaiting_confirmation at *
  cases hstatus : get_merge_status session with
  | error e => exact HeadsKept.refl _
  | ok status =>
    rw [hstatus] at h
    apply Calm.compute_bind
    intro merged hmerged
    cases hmerged
    split
    · exact Calm.pure _ _
    rename_i hmerged
    apply Calm.compute_bind
    intro candidate hcandidate
    cases hcandidate
    split
    · exact Calm.pure _ _
    rename_i hcandidate
    apply Calm.compute_bind
    intro awaiting hawaiting
    cases hawaiting
    split
    · exact Calm.pure _ _
    rename_i hawaiting
    refine Calm.tryCatch (calm_save_merge_state hrow (h _ (if_neg ?_))) fun _ _ => Calm.pure _ _
    simp only [decide_eq_true_eq] at hmerged hcandidate hawaiting
    simp [hmerged, hcandidate, hawaiting]

theorem calm_record_confirmation_sent (session_id : Uuid) {confirmation_text : String}
    (hrow : (w.store.row session.session_id).map SessionRecord.sequence_head =
      some session.sequence_head)
    (h : ∀ write, (MergeCall.record_confirmation_sent session_id confirmation_text stamp).writes
      session = some write → Blocked w.store write stamp) :
    Calm (record_confirmation_sent session confirmation_text stamp) w := by
  unfold record_confirmation_sent
  apply Calm.compute_bind
  intro candidate hcandidate
  cases candidate with
  | false => exact Calm.pure _ _
  | true =>
    rw [if_pos rfl]
    refine Calm.tryCatch (Calm.compute_bind fun state hstate => ?_) fun _ _ => Calm.pure _ _
    refine calm_save_merge_state hrow (h _ ?_)
    unfold MergeCall.writes
    rw [hcandidate, hstate]

omit [Builtins Uuid] [Stdlib Uuid] in
theorem row_of_get_session (hsane : Sane w) (h : w.store.get_session id tenant = some r) :
    w.store.row r.session_id = some r := by
  unfold InMemorySessionPersistence.get_session at h
  have hrow : w.store.row id = some r := (Option.filter_eq_some_iff.mp h).1
  rw [hsane.indexed.rows id r hrow]
  exact hrow

variable {tenant_id : String}

theorem exec_load_prior_session (hsane : Sane w)
    {r : Except SessionException (Option (SessionRecord Uuid))}
    (h : exec (load_prior_session prior_session_id tenant_id) w = (r, w')) :
    w' = w ∧ ∀ prior, r = .ok (some prior) → w.store.row prior.session_id = some prior := by
  unfold load_prior_session at h
  split at h
  · cases h
    exact ⟨rfl, fun _ hprior => nomatch hprior⟩
  cases huuid : (uuid_of prior_session_id : Except SessionException Uuid) with
  | error e =>
    rw [huuid, exec_tryCatch_error (exec_compute_bind_error e _ w), exec_pure] at h
    cases h
    exact ⟨rfl, fun _ hprior => nomatch hprior⟩
  | ok id =>
    have hget : exec (operious.session.get_session id (some tenant_id)) w =
        (.ok (w.store.get_session id (some tenant_id)), w) := rfl
    rw [huuid, exec_tryCatch_ok ((exec_compute_bind_ok id _ w).trans hget)] at h
    cases h
    refine ⟨rfl, fun prior hprior => ?_⟩
    exact row_of_get_session hsane (Except.ok.inj hprior)

theorem calm_stamp_prior_session {prior_session : Option (SessionRecord Uuid)}
    (h : ∀ prior, prior_session = some prior → w.store.row prior.session_id = some prior) :
    Calm (stamp_prior_session prior_session customer_identity_id) w := by
  unfold stamp_prior_session
  split
  · exact Calm.pure _ _
  rename_i prior hprior
  have hrow := h prior (Option.filter_eq_some_iff.mp hprior).1
  apply Calm.swallow
  refine Calm.compute_bind fun customer _ => Calm.bind (Calm.save_session ?_) fun _ _ _ =>
    Calm.pure _ _
  rw [show ({ prior with
      customer_identity_id := some customer
      revision := prior.revision + 1 } : SessionRecord Uuid).session_id = prior.session_id from rfl,
    hrow]
  rfl

omit [Builtins Uuid] in
theorem calm_save_merge_state_of_refused (h : ¬ w.store.Newer write.updated) :
    Calm (save_merge_state write stamp) w := by
  obtain ⟨message, herror⟩ := perform_save_session_error h
  have hexec : exec (save_session write.updated) w = (.error (.persistence_error message), w) :=
    herror
  unfold save_merge_state Calm
  rw [exec_bind_error hexec]
  exact HeadsKept.refl _

/-- A session that is its own prior session is newer once it is stamped. -/
theorem exec_stamp_itself {state : Payload} {w1 : World Uuid}
    (hrow : w.store.row session.session_id = some session)
    (hstamps : stamps_itself session state tenant_id = true)
    (hload : exec (load_prior_session (getText Uuid state "prior_session_id" "") tenant_id) w =
      (.ok found, w1)) :
    ∃ row, (exec (stamp_prior_session found (getText Uuid state "customer_identity_id" ""))
      w).2.store.row session.session_id = some row ∧ session.revision < row.revision := by
  unfold stamps_itself at hstamps
  simp only [Bool.and_eq_true, decide_eq_true_eq, Option.isNone_iff_eq_none] at hstamps
  obtain ⟨⟨⟨hprior, htenant⟩, hnone⟩, hids⟩ := hstamps
  split at hids
  swap
  · cases hids
  rename_i id customer hid hcustomer
  have hid' : id = session.session_id := by simpa using hids
  subst hid'
  have hget : w.store.get_session session.session_id (some tenant_id) = some session := by
    unfold InMemorySessionPersistence.get_session
    rw [show w.store.sessions.get? session.session_id = some session from hrow]
    simp [htenant]
  unfold load_prior_session at hload
  rw [if_neg hprior, hid] at hload
  have hexec : exec (operious.session.get_session session.session_id (some tenant_id)) w =
      (.ok (some session), w) := by
    unfold operious.session.get_session
    rw [exec_await, perform, hget]
  have hbody : exec (do
      let id ← compute (.ok session.session_id)
      operious.session.get_session id (some tenant_id)) w = (.ok (some session), w) :=
    (exec_compute_bind_ok session.session_id _ w).trans hexec
  rw [exec_tryCatch_ok hbody] at hload
  cases hload
  have hstamped : stamp_prior_session (some session)
      (getText Uuid state "customer_identity_id" "") =
        swallow (do
          let customer ← compute (uuid_of (getText Uuid state "customer_identity_id" ""))
          let _ ← save_session
            { session with
              customer_identity_id := some customer
              revision := session.revision + 1 }) := by
    unfold stamp_prior_session
    rw [Option.filter_some, if_pos (by simp [hnone])]
  have hnewer : w.store.Newer
      { session with customer_identity_id := some customer, revision := session.revision + 1 } := by
    intro existing hexisting
    rw [show w.store.row session.session_id = some existing from hexisting] at hrow
    cases hrow
    exact Nat.lt_succ_self _
  have hsave : exec (save_session
      { session with customer_identity_id := some customer, revision := session.revision + 1 }) w =
        _ := perform_save_session_ok hnewer
  rw [hstamped, exec_swallow, hcustomer, exec_compute_bind_ok, exec_bind_ok hsave, exec_pure]
  exact ⟨_, row_saved_self _ _, Nat.lt_succ_self _⟩

theorem calm_execute_merge (hsane : Sane w) (hrow : w.store.row session.session_id = some session)
    (h : ∀ state customer, get_raw_merge_state session = .ok state →
      stamps_itself session state tenant_id = false →
      merged_customer session (getText Uuid state "customer_identity_id" "") = .ok customer →
        Blocked w.store (merged_write session state customer stamp) stamp) :
    Calm (execute_merge session tenant_id stamp) w := by
  unfold execute_merge
  apply Calm.compute_bind
  intro merged _
  split
  · exact Calm.pure _ _
  apply Calm.compute_bind
  intro state hstate
  rcases hload : exec (load_prior_session (getText Uuid state "prior_session_id" "") tenant_id) w
    with ⟨found, w1⟩
  obtain ⟨rfl, hprior⟩ := exec_load_prior_session hsane hload
  refine Calm.bind (by unfold Calm; rw [hload]; exact HeadsKept.refl _) ?_
  intro prior w2 hload'
  cases hload.symm.trans hload'
  have hstamp : Calm (stamp_prior_session prior
      (getText Uuid state "customer_identity_id" "")) w1 :=
    calm_stamp_prior_session fun p hp => hprior p (by rw [hp])
  refine Calm.bind hstamp ?_
  intro _ w2 hstamped
  have hkept : HeadsKept w1.store w2.store := by
    unfold Calm at hstamp
    rw [hstamped] at hstamp
    exact hstamp
  refine Calm.compute_bind fun customer hcustomer => Calm.bind ?_ fun _ _ _ => Calm.pure _ _
  have hhead : (w1.store.row session.session_id).map SessionRecord.sequence_head =
      some session.sequence_head := by
    rw [hrow]
    rfl
  cases hself : stamps_itself session state tenant_id with
  | false =>
    exact calm_save_merge_state ((hkept.heads _).trans hhead)
      ((h state customer hstate hself hcustomer).kept hkept)
  | true =>
    obtain ⟨row, hnewer, hlt⟩ := exec_stamp_itself hrow hself hload
    rw [hstamped] at hnewer
    apply calm_save_merge_state_of_refused
    intro hsaved
    have hlt' : row.revision < session.revision + 1 := hsaved row hnewer
    omega

theorem calm_abandon_merge {decision : String}
    (hrow : (w.store.row session.session_id).map SessionRecord.sequence_head =
      some session.sequence_head)
    (h : ∀ state, get_raw_merge_state session = .ok state →
      Blocked w.store (abandoned_write session state decision stamp) stamp) :
    Calm (abandon_merge session decision stamp) w := by
  unfold abandon_merge
  refine Calm.compute_bind fun state hstate => Calm.tryCatch ?_ fun _ _ => Calm.pure _ _
  exact Calm.bind (calm_save_merge_state hrow (h state hstate)) fun _ _ _ => Calm.pure _ _

theorem calm_handle_confirmation_response (hsane : Sane w) (session_id : Uuid)
    {customer_text : String} (hrow : w.store.row session.session_id = some session)
    (h : ∀ write, (MergeCall.handle_confirmation_response session_id customer_text tenant_id
      stamp).writes session = some write → Blocked w.store write stamp) :
    Calm (handle_confirmation_response session customer_text tenant_id stamp) w := by
  unfold handle_confirmation_response
  unfold MergeCall.writes at h
  dsimp only at h
  generalize parse_confirmation_response Uuid customer_text = decision at h ⊢
  apply Calm.compute_bind
  intro awaiting hawaiting
  cases awaiting with
  | false => exact Calm.pure _ _
  | true =>
    rw [if_pos rfl]
    refine Calm.tryCatch ?_ fun _ _ => Calm.pure _ _
    rw [hawaiting] at h
    unfold act_on
    by_cases hyes : decision = some "yes"
    · rw [if_pos hyes]
      refine calm_execute_merge hsane hrow fun state customer hstate hself hcustomer => h _ ?_
      rw [hstate]
      dsimp only
      rw [if_pos hyes, hself, hcustomer]
      rfl
    · rw [if_neg hyes]
      refine calm_abandon_merge (by rw [hrow]; rfl) fun state hstate => h _ ?_
      rw [hstate]
      dsimp only
      rw [if_neg hyes]

theorem calm_merge_call (hsane : Sane w) {call : MergeCall Uuid}
    (h : ∀ r write, w.store.row call.session_id = some r → call.writes r = some write →
      Blocked w.store write call.stamp) : Calm call.coroutine w := by
  unfold MergeCall.coroutine
  refine Calm.bind (Calm.get_session _ _) ?_
  intro found w' hfound
  obtain ⟨rfl, rfl⟩ := exec_get_session hfound
  rw [get_session_none]
  cases hrow : w'.store.row call.session_id with
  | none => exact Calm.pure _ _
  | some session =>
    have hwrites := h session
    have hown : w'.store.row session.session_id = some session := by
      rw [hsane.indexed.rows _ _ hrow]
      exact hrow
    have hhead : (w'.store.row session.session_id).map SessionRecord.sequence_head =
        some session.sequence_head := by
      rw [hown]
      rfl
    cases call with
    | flag_merge_candidate session_id prior_session_id customer_identity_id prior_channel
        prior_category match_field stamp =>
      exact Calm.bind (calm_flag_merge_candidate session_id hhead
        fun write => hwrites write hrow) fun _ _ _ => Calm.pure _ _
    | record_confirmation_sent session_id confirmation_text stamp =>
      exact Calm.bind (calm_record_confirmation_sent session_id hhead
        fun write => hwrites write hrow) fun _ _ _ => Calm.pure _ _
    | handle_confirmation_response session_id customer_text tenant_id stamp =>
      exact Calm.bind (calm_handle_confirmation_response hsane session_id hown
        fun write => hwrites write hrow) fun _ _ _ => Calm.pure _ _

end

end

end operious.session
