-- What an update keeps of a row: it writes back the session that it read, and with it the empty metadata
-- and the absent customer of every session.
import Operious.Session.Outcomes

namespace operious.session

open awaits InMemorySessionPersistence

variable {Uuid : Type}

/-! ## What a call owns -/

/-- The row `r` with what the call owns taken from `r'`. -/
def UpdateCall.overlay (call : UpdateCall Uuid) (r r' : SessionRecord Uuid) : SessionRecord Uuid :=
  match call with
  | record_lifecycle _ =>
    { r with
      sequence_head := r'.sequence_head
      revision := r'.revision
      lifecycle_phase := r'.lifecycle_phase
      lifecycle_recorded_at := r'.lifecycle_recorded_at
      lifecycle_reason := r'.lifecycle_reason }
  | record_context _ =>
    { r with
      sequence_head := r'.sequence_head
      revision := r'.revision
      context_environment := r'.context_environment
      context_labels := r'.context_labels
      context_attributes := r'.context_attributes
      context_notes := r'.context_notes }
  | _ => { r with sequence_head := r'.sequence_head, revision := r'.revision }

/-- The row `r'` differs from `r` only in what the call owns. -/
def Frame (call : UpdateCall Uuid) (r r' : SessionRecord Uuid) : Prop := r' = call.overlay r r'

/-- Nothing is lost when the record is read as a session. -/
def Bare (r : SessionRecord Uuid) : Prop :=
  r.metadata = Dict.empty ∧ r.customer_identity_id = none

theorem forget_eq_iff (r : SessionRecord Uuid) : r.forget = r ↔ Bare r := by
  constructor
  · intro h
    rw [← h]
    exact ⟨rfl, rfl⟩
  · rintro ⟨hmetadata, hcustomer⟩
    unfold SessionRecord.forget
    rw [← hmetadata, ← hcustomer]

/-- The row of the Postgres backend after the record of a later revision. The tenant of a row is never
overwritten with none. -/
def update_session_row (row record : SessionRecord Uuid) : SessionRecord Uuid :=
  { record with
    session_id := row.session_id
    tenant_id := record.tenant_id.or row.tenant_id }

theorem Frame.refl (call : UpdateCall Uuid) (r : SessionRecord Uuid) : Frame call r r := by
  cases call with
  | append_event request => rfl
  | record_lifecycle request => rfl
  | record_context request => rfl
  | record_correlation request => rfl

theorem frame_iff_bare {call : UpdateCall Uuid} {r r' : SessionRecord Uuid}
    (h : Frame call r.forget r') : Frame call r r' ↔ Bare r := by
  constructor
  · intro hframe
    have hforgotten : Bare r' := by
      rw [show r' = call.overlay r.forget r' from h]
      cases call with
      | append_event request => exact ⟨rfl, rfl⟩
      | record_lifecycle request => exact ⟨rfl, rfl⟩
      | record_context request => exact ⟨rfl, rfl⟩
      | record_correlation request => exact ⟨rfl, rfl⟩
    rw [show r' = call.overlay r r' from hframe] at hforgotten
    cases call with
    | append_event request => exact hforgotten
    | record_lifecycle request => exact hforgotten
    | record_context request => exact hforgotten
    | record_correlation request => exact hforgotten
  · intro hbare
    rw [(forget_eq_iff r).mpr hbare] at h
    exact h

section

variable [DecidableEq Uuid] [Stdlib Uuid] {call : UpdateCall Uuid} {c : OperationalSession Uuid}
  {p : Proposal Uuid} {started_at : Instant} {r : SessionRecord Uuid}

omit [DecidableEq Uuid] in
theorem propose_frame (h : call.propose started_at c = .ok p)
    (hcopy : session_to_record c = r.forget) :
    Frame call r.forget (session_to_record p.updated) := by
  unfold Frame
  rw [← hcopy]
  cases call with
  | append_event request =>
    obtain ⟨_, -, h⟩ := bind_eq_ok.mp h
    obtain ⟨_, -, h⟩ := bind_eq_ok.mp h
    obtain ⟨event, -, h⟩ := bind_eq_ok.mp h
    cases h
    rfl
  | record_lifecycle request =>
    unfold UpdateCall.propose at h
    dsimp only at h
    split at h
    · cases h
    obtain ⟨event, -, h⟩ := bind_eq_ok.mp h
    cases h
    rfl
  | record_context request =>
    obtain ⟨_, -, h⟩ := bind_eq_ok.mp h
    obtain ⟨event, -, h⟩ := bind_eq_ok.mp h
    cases h
    rfl
  | record_correlation request =>
    obtain ⟨_, -, h⟩ := bind_eq_ok.mp h
    obtain ⟨correlation, -, h⟩ := bind_eq_ok.mp h
    obtain ⟨event, -, h⟩ := bind_eq_ok.mp h
    cases h
    rfl

omit [DecidableEq Uuid] in
theorem update_session_row_eq (h : call.propose started_at c = .ok p)
    (hcopy : session_to_record c = r.forget) :
    update_session_row r (session_to_record p.updated) = session_to_record p.updated := by
  have hidentity := (propose_extends h).1.identity
  have hid : (session_to_record p.updated).session_id = r.session_id :=
    (congrArg SessionIdentity.session_id hidentity).trans (congrArg SessionRecord.session_id hcopy)
  have htenant : (session_to_record p.updated).tenant_id = r.tenant_id :=
    (congrArg SessionIdentity.tenant_id hidentity).trans (congrArg SessionRecord.tenant_id hcopy)
  unfold update_session_row
  rw [← hid, ← htenant, Option.or_self]

end

/-! ## Updates of rows -/

section

variable [DecidableEq Uuid] [Stdlib Uuid] {call : UpdateCall Uuid} {w : World Uuid}
  {runtime : SessionRuntime} {started_at : Instant} {r : SessionRecord Uuid}

/-- The call leaves the row alone: its key is stored already, or its copy is older than the row. -/
def LeavesRow (runtime : SessionRuntime) (call : UpdateCall Uuid) (w : World Uuid)
    (r : SessionRecord Uuid) : Prop :=
  (∃ e, call.keyed w = some e) ∨
    ∃ c, runtime.copy w call.session_id = .ok c ∧ c.revision ≠ r.revision

theorem frame_of_ran (hsane : Sane w) (hrow : w.store.row call.session_id = some r)
    {result : SessionResult Uuid} {t : InMemorySessionPersistence Uuid}
    (hran : Ran runtime started_at call w (.ok result) t) :
    (∃ r', t.row call.session_id = some r' ∧ Frame call r r') ↔
      LeavesRow runtime call w r ∨ Bare r := by
  have hkeep : (∃ r', w.store.row call.session_id = some r' ∧ Frame call r r') :=
    ⟨r, hrow, Frame.refl call r⟩
  cases hran with
  | replayed c event copy keyed =>
    exact ⟨fun _ => Or.inl (Or.inl ⟨_, keyed⟩), fun _ => hkeep⟩
  | recovered c session p copy keyed proposed accepts stale key =>
    have hseen := copy_seen hsane copy
    rw [newer_iff hseen proposed] at stale
    refine ⟨fun _ => Or.inl (Or.inr ⟨c, copy, fun h => stale ?_⟩), fun _ => hkeep⟩
    exact ⟨r, by rw [hseen.own]; exact hrow, h.symm⟩
  | wrote c p _ _ copy keyed proposed written =>
    have hseen := copy_seen hsane copy
    cases written with
    | done free accepts newer =>
      rw [newer_iff hseen proposed] at newer
      obtain ⟨row, hcurrent, hrevision⟩ := newer
      rw [hseen.own, hrow] at hcurrent
      cases hcurrent
      obtain ⟨row, hrow', -, hsame⟩ := hseen.row
      rw [hrow] at hrow'
      cases hrow'
      have hcopy : session_to_record c = r.forget := hsame hrevision.symm
      have hid : (session_to_record p.updated).session_id = call.session_id := by
        rw [← hseen.own]
        exact congrArg SessionIdentity.session_id (propose_extends proposed).1.identity
      have hafter (s : InMemorySessionPersistence Uuid) :
          (s.saved (session_to_record p.updated)).row call.session_id =
            some (session_to_record p.updated) := by
        rw [← hid]
        exact row_saved_self _ _
      have hiff := frame_iff_bare (propose_frame proposed hcopy)
      constructor
      · rintro ⟨r', hr', hframe⟩
        rw [hafter] at hr'
        cases hr'
        exact Or.inr (hiff.mp hframe)
      · rintro ((⟨e, hkeyed⟩ | ⟨c', hcopy', hne⟩) | hbare)
        · cases keyed.symm.trans hkeyed
        · cases copy.symm.trans hcopy'
          exact absurd hrevision.symm hne
        · exact ⟨_, hafter _, hiff.mpr hbare⟩

end

variable [DecidableEq Uuid] [Stdlib Uuid] [Builtins Uuid]

/-- A successful update keeps what it does not own exactly when it leaves the row alone or the row has
neither metadata nor a customer, in memory and in Postgres. -/
theorem update_keeps_row_iff (runtime : SessionRuntime) (started_at : Instant)
    (call : UpdateCall Uuid) :
    (∀ p : SharedPool Uuid, p.Reached → ∀ r, p.world.store.row call.session_id = some r →
      ∀ result, (run perform (call.on runtime started_at).task p.world).1 = .ok result →
        ((∃ r', (run perform (call.on runtime started_at).task p.world).2.store.row
            call.session_id = some r' ∧ Frame call r r') ↔
          LeavesRow runtime call p.world r ∨ Bare r)) ∧
      ∀ r c p, record_to_session r = .ok c → call.propose started_at c = .ok p →
        (Frame call r (update_session_row r (session_to_record p.updated)) ↔ Bare r) := by
  constructor
  · intro p hreached r hrow result hresult
    have hran := ran_update hreached.sane runtime started_at call
    rw [hresult] at hran
    exact frame_of_ran hreached.sane hrow hran
  · intro r c p hload hpropose
    have hcopy := session_to_record_of_record_to_session hload
    rw [update_session_row_eq hpropose hcopy]
    exact frame_iff_bare (propose_frame hpropose hcopy)

/-! ## A customer stamped by a merge -/

def mergeStamp (event_id : String) : MergeStamp String := ⟨10, 11, 12, event_id⟩

/-- Two sessions of one tenant. The second one is merged with the first, which gets its customer. -/
def mergedPool : SharedPool String :=
  let opened := SharedPool.alone
    (SharedPool.alone (Pool.idle World.new) 0 (.runtime (sampleOpen 0 "s1"))) 1
    (.runtime (sampleOpen 0 "s2"))
  let flagged := SharedPool.alone opened 2 (.merge (.flag_merge_candidate "s2" "s1" "c9"
    (some "email") none none (mergeStamp "m1")))
  let sent := SharedPool.alone flagged 3 (.merge (.record_confirmation_sent "s2" "Same request?"
    (mergeStamp "m2")))
  SharedPool.alone sent 4 (.merge (.handle_confirmation_response "s2" "Yes!" "acme"
    (mergeStamp "m3")))

theorem mergedPool_reached : mergedPool.Reached :=
  SharedPool.Reached.alone (SharedPool.Reached.alone (SharedPool.Reached.alone
    (SharedPool.Reached.alone (SharedPool.Reached.alone Relation.ReflTransGen.refl _ rfl) _ rfl)
      _ rfl) _ rfl) _ rfl

/-- The first call of a fresh runtime on a session. -/
def freshAppend : UpdateCall String :=
  .append_event (sampleAppend "s1" .customer_message none)

theorem eq_ok_of_isSome {ε α : Type} {r : Except ε α} (h : r.toOption.isSome = true) :
    ∃ a, r = .ok a := by
  cases r with
  | error e => cases h
  | ok a => exact ⟨a, rfl⟩

theorem an_update_of_a_bare_row_keeps_it :
    ∃ r', (run perform (freshAppend.on ⟨2⟩ 7).task stalePool.world).2.store.row "s1" = some r' ∧
      ∃ r, stalePool.world.store.row "s1" = some r ∧ Frame freshAppend r r' := by
  have hrow : (stalePool.world.store.row "s1").map
      (fun r => (r.metadata.items.isEmpty, r.customer_identity_id)) = some (true, none) := by
    decide +kernel
  have hok : (run perform (freshAppend.on ⟨2⟩ 7).task
      stalePool.world).1.toOption.isSome = true := by decide +kernel
  obtain ⟨r, hrow, hr⟩ := Option.map_eq_some_iff.1 hrow
  obtain ⟨result, hresult⟩ := eq_ok_of_isSome hok
  obtain ⟨hitems, hcustomer⟩ := Prod.mk.inj hr
  have hbare : Bare r := ⟨Dict.ext (List.isEmpty_iff.1 hitems), hcustomer⟩
  obtain ⟨r', hr', hframe⟩ := ((update_keeps_row_iff ⟨2⟩ 7 freshAppend).1 stalePool
    stalePool_reached r hrow result hresult).mpr (Or.inr hbare)
  exact ⟨r', hr', r, hrow, hframe⟩

/-- The next event of the first session wipes the customer that the merge stamped on it. -/
theorem an_update_wipes_the_customer :
    ¬ ∀ p : SharedPool String, p.Reached → ∀ runtime started_at (call : UpdateCall String) r,
      p.world.store.row call.session_id = some r → ∀ result,
        (run perform (call.on runtime started_at).task p.world).1 = .ok result →
          ∃ r', (run perform (call.on runtime started_at).task p.world).2.store.row
            call.session_id = some r' ∧ Frame call r r' := by
  intro h
  have hstamped : (mergedPool.world.store.row "s1").map
      (fun r => r.customer_identity_id) = some (some "c9") := by decide +kernel
  have hok : (run perform (freshAppend.on ⟨5⟩ 20).task
      mergedPool.world).1.toOption.isSome = true := by decide +kernel
  have hwiped : ((run perform (freshAppend.on ⟨5⟩ 20).task mergedPool.world).2.store.row "s1").map
      (fun r => r.customer_identity_id) = some none := by decide +kernel
  obtain ⟨r, hrow, hcustomer⟩ := Option.map_eq_some_iff.1 hstamped
  obtain ⟨result, hresult⟩ := eq_ok_of_isSome hok
  obtain ⟨r', hr', hframe⟩ := h mergedPool mergedPool_reached ⟨5⟩ 20 freshAppend r hrow result
    hresult
  rw [show (run perform (freshAppend.on ⟨5⟩ 20).task mergedPool.world).2.store.row "s1" = some r'
    from hr'] at hwiped
  have hkept : r'.customer_identity_id = r.customer_identity_id := by
    rw [show r' = freshAppend.overlay r r' from hframe]
    rfl
  rw [Option.map_some, hkept, hcustomer] at hwiped
  cases hwiped

end operious.session
