-- A session as of an instant: the reconstruction of the stored events that a request keeps. Events
-- of a session may have happened in any order, and a timeline has no gaps.
import Mathlib.Data.List.Chain
import Mathlib.Data.Set.List
import Operious.Session.LedgerRuns
import Operious.Session.Copies
import Operious.Session.Reconstruction

namespace operious.session

open awaits InMemorySessionPersistence

/-! ## Lists that count up -/

section

variable {α : Type} {f : α → Nat} {p : α → Bool} {l : List α} {k : Nat}

theorem pairwise_of_counting (hcount : l.map f = List.range' k l.length) :
    l.Pairwise fun a b => f a < f b := by
  have hsorted : (l.map f).Pairwise (· < ·) := by
    rw [hcount]
    exact List.pairwise_lt_range'
  exact List.pairwise_map.mp hsorted

theorem inj_of_counting (hcount : l.map f = List.range' k l.length) :
    ∀ a ∈ l, ∀ b ∈ l, f a = f b → a = b := by
  have hnodup : (l.map f).Nodup := by
    rw [hcount]
    exact List.nodup_range'
  exact fun a ha b hb => List.inj_on_of_nodup_map hnodup ha hb

/-- Of a list that counts up, a filter keeps what counts up exactly when it drops nothing between
two that it keeps. -/
theorem isChain_filter_iff (hcount : l.map f = List.range' k l.length) :
    (l.filter p).IsChain (fun a b => f b = f a + 1) ↔
      ∀ a ∈ l, ∀ b ∈ l, ∀ c ∈ l, f a < f b → f b < f c → p a → p c → p b := by
  induction l generalizing k with
  | nil => simp
  | cons x rest ih =>
    have hlater := (List.pairwise_cons.mp (pairwise_of_counting hcount)).1
    simp only [List.map_cons, List.length_cons, List.range'_succ, List.cons.injEq] at hcount
    obtain ⟨hx, hrest⟩ := hcount
    have htail (h : ∀ a ∈ x :: rest, ∀ b ∈ x :: rest, ∀ c ∈ x :: rest, f a < f b → f b < f c →
        p a → p c → p b) :
        ∀ a ∈ rest, ∀ b ∈ rest, ∀ c ∈ rest, f a < f b → f b < f c → p a → p c → p b :=
      fun a ha b hb c hc => h a (List.mem_cons_of_mem _ ha) b (List.mem_cons_of_mem _ hb) c
        (List.mem_cons_of_mem _ hc)
    -- what comes after something of the list is not its first
    have hafter : ∀ a ∈ x :: rest, ∀ b ∈ x :: rest, f a < f b → b ∈ rest := by
      intro a ha b hb hab
      rcases List.mem_cons.mp hb with rfl | hb
      · rcases List.mem_cons.mp ha with rfl | ha
        · exact absurd hab (lt_irrefl _)
        · exact absurd hab (not_lt.mpr (hlater a ha).le)
      · exact hb
    rw [List.filter_cons]
    split
    case isFalse hdrop =>
      rw [ih hrest]
      refine ⟨fun h a ha b hb c hc hab hbc hpa hpc => ?_, htail⟩
      rcases List.mem_cons.mp ha with rfl | ha'
      · exact absurd hpa hdrop
      · exact h a ha' b (hafter a ha b hb hab) c (hafter b hb c hc hbc) hab hbc hpa hpc
    case isTrue hkeep =>
      rw [List.isChain_cons, ih hrest]
      constructor
      · rintro ⟨hhead, h⟩ a ha b hb c hc hab hbc hpa hpc
        have hb' := hafter a ha b hb hab
        have hc' := hafter b hb c hc hbc
        rcases List.mem_cons.mp ha with rfl | ha'
        · obtain ⟨y, ys, hkept⟩ := List.exists_cons_of_ne_nil
            (List.ne_nil_of_mem (List.mem_filter.mpr ⟨hc', hpc⟩))
          have hy : y ∈ rest.filter p := by rw [hkept]; exact List.mem_cons_self
          obtain ⟨hyrest, hpy⟩ := List.mem_filter.mp hy
          have hnext := hhead y (by rw [hkept]; rfl)
          rcases Nat.lt_or_eq_of_le (show f y ≤ f b by omega) with hlt | heq
          · exact h y hyrest b hb' c hc' hlt hbc hpy hpc
          · rw [← inj_of_counting hrest y hyrest b hb' heq]
            exact hpy
        · exact h a ha' b hb' c hc' hab hbc hpa hpc
      · intro h
        refine ⟨fun y hy => ?_, htail h⟩
        obtain ⟨hyrest, hpy⟩ := List.mem_filter.mp (List.mem_of_mem_head? hy)
        have hxy := hlater y hyrest
        -- the one right after the first
        have hmem : k + 1 ∈ rest.map f := by
          rw [hrest, List.mem_range'_1]
          have hpos := List.length_pos_of_mem hyrest
          omega
        obtain ⟨z, hz, hfz⟩ := List.mem_map.mp hmem
        by_contra hne
        have hzy : f z < f y := by omega
        have hpz := h x List.mem_cons_self z (List.mem_cons_of_mem _ hz) y
          (List.mem_cons_of_mem _ hyrest) (by omega) hzy hkeep hpy
        obtain ⟨ys, hkept⟩ := List.head?_eq_some_iff.mp hy
        have hsorted := (pairwise_of_counting hrest).filter p
        rw [hkept] at hsorted
        have hzmem : z ∈ y :: ys := by
          rw [← hkept]
          exact List.mem_filter.mpr ⟨hz, hpz⟩
        rcases List.mem_cons.mp hzmem with rfl | hzmem
        · exact absurd hzy (lt_irrefl _)
        · have hlt := (List.pairwise_cons.mp hsorted).1 z hzmem
          omega

end

/-! ## The correlations that runtimes save -/

variable {Uuid : Type}

def Names : Call Uuid → Prop
  | .save_correlation record => record.external_id ≠ ""
  | _ => True

variable {c : Call Uuid}

section

variable {α β : Type}

/-- Every correlation that a coroutine saves names something. -/
def Named (x : Coroutine Uuid α) : Prop := Task.Only Names x.run

@[simp] theorem named_pure (a : α) : Named (pure a : Coroutine Uuid α) := trivial

@[simp] theorem named_throw (e : SessionException) : Named (throw e : Coroutine Uuid α) := trivial

@[simp] theorem named_compute (r : Except SessionException α) :
    Named (compute r : Coroutine Uuid α) := trivial

@[simp] theorem named_await : Named (await c) ↔ Names c :=
  ⟨fun h => h.1, fun h => ⟨h, fun _ => trivial⟩⟩

variable {f : α → Coroutine Uuid β}

theorem Named.bind {x : Coroutine Uuid α} (h : Named x) (hf : ∀ a, Named (f a)) :
    Named (x >>= f) := by
  refine Task.Only.bind h fun r => ?_
  cases r with
  | error e => trivial
  | ok a => exact hf a

theorem Named.compute {r : Except SessionException α} (hf : ∀ a, r = .ok a → Named (f a)) :
    Named (operious.session.compute r >>= f) := by
  cases r with
  | error e => trivial
  | ok a => exact hf a rfl

theorem Named.tryCatch {x : Coroutine Uuid α} {handler : SessionException → Coroutine Uuid α}
    (h : Named x) (hhandler : ∀ e, Named (handler e)) : Named (tryCatch x handler) := by
  refine Task.Only.bind h fun r => ?_
  cases r with
  | error e => exact hhandler e
  | ok a => trivial

theorem Named.swallow {x : Coroutine Uuid Unit} (h : Named x) :
    Named (operious.session.swallow x) := h.tryCatch fun _ => trivial

end

theorem named_registry (runtime : SessionRuntime) (c : OperationalSession Uuid) :
    Named (runtime.registry_register c) ∧ Named (runtime.registry_update c) :=
  ⟨named_await.mpr trivial, named_await.mpr trivial⟩

theorem named_find_replay (session_id : Uuid) (key : Option String) :
    Named (SessionRuntime.find_replay session_id key) := by
  unfold SessionRuntime.find_replay
  cases key with
  | none => exact named_pure _
  | some key => exact named_await.mpr trivial

theorem named_persist (runtime : SessionRuntime) (session : OperationalSession Uuid)
    (event : SessionTimelineEvent Uuid) : Named (runtime.persist_session_update session event) := by
  unfold SessionRuntime.persist_session_update
  exact Named.bind (named_await.mpr trivial) fun _ => Named.bind (named_await.mpr trivial) fun _ =>
    (named_registry runtime session).2

theorem named_updated (runtime : SessionRuntime) (session : OperationalSession Uuid)
    (event : SessionTimelineEvent Uuid) (result : SessionResult Uuid) :
    Named (do runtime.persist_session_update session event; pure result) :=
  (named_persist runtime session event).bind fun _ => named_pure _

section

variable [DecidableEq Uuid] [Stdlib Uuid] (runtime : SessionRuntime)

theorem named_load_session (session_id : Uuid) (tenant : Option String) :
    Named (runtime.load_session session_id tenant) := by
  unfold SessionRuntime.load_session
  refine Named.bind (named_await.mpr trivial) fun found => ?_
  cases found with
  | some cached =>
    dsimp only
    split
    · exact named_throw _
    · exact named_pure _
  | none =>
    refine Named.bind (named_await.mpr trivial) fun found => ?_
    cases found with
    | none => exact named_throw _
    | some record =>
      exact Named.compute fun session _ =>
        (Named.swallow (named_registry runtime session).1).bind fun _ => named_pure _

theorem named_open_session (request : OpenSessionRequest Uuid) (started_at : Instant)
    (generated : Uuid) (gate : CapabilityGateOutcome Uuid) :
    Named (runtime.open_session request started_at generated gate) := by
  unfold SessionRuntime.open_session
  cases gate.denial with
  | some reason => exact named_throw _
  | none =>
    refine Named.compute fun session_id _ => ?_
    dsimp only
    split
    · exact named_throw _
    refine Named.compute fun identity _ => Named.bind ?_ fun lineage =>
      Named.compute fun session _ => Named.compute fun event _ => ?_
    · unfold SessionRuntime.build_lineage
      cases request.parent_session_id with
      | none => exact named_pure _
      | some parent => exact (named_load_session runtime parent none).bind fun _ => named_compute _
    · refine Named.bind (named_await.mpr trivial) fun saved => Named.compute fun saved_session _ =>
        Named.bind (named_await.mpr trivial) fun found => ?_
      cases found with
      | none =>
        exact Named.bind (named_await.mpr trivial) fun _ => (named_registry runtime _).1.bind
          fun _ => named_pure _
      | some _ => exact (named_registry runtime _).1.bind fun _ => named_pure _

theorem named_append_event (request : AppendEventRequest Uuid) (started_at : Instant) :
    Named (runtime.append_event request started_at) := by
  unfold SessionRuntime.append_event SessionRuntime.append_generic
  refine Named.compute fun correlation_id _ => (named_load_session runtime _ none).bind
    fun session => (named_find_replay _ _).bind fun found => ?_
  cases found with
  | some record => exact Named.compute fun event _ => named_pure _
  | none =>
    refine Named.compute fun _ _ => Named.compute fun event _ =>
      Named.tryCatch (named_updated runtime _ event _) fun refusal => ?_
    unfold SessionRuntime.replay_refused
    split
    · refine (named_find_replay _ _).bind fun found => ?_
      cases found with
      | none => exact named_throw _
      | some record =>
        refine Named.compute fun event _ => Named.bind ?_ fun _ => named_pure _
        unfold SessionRuntime.load_persisted_session
        refine Named.bind (named_await.mpr trivial) fun found => ?_
        cases found with
        | none => exact named_pure _
        | some record =>
          exact Named.compute fun session _ =>
            (Named.swallow (named_registry runtime session).2).bind fun _ => named_pure _
    · exact named_throw _

theorem named_call (call : RuntimeCall Uuid) : call.task.Only Names := by
  cases call with
  | open_session runtime request started_at generated gate =>
    exact named_open_session runtime request started_at generated gate
  | append_event runtime request started_at => exact named_append_event runtime request started_at
  | record_lifecycle runtime request started_at =>
    refine (named_load_session runtime _ none).bind fun session => ?_
    dsimp only
    split
    · exact named_throw _
    · exact Named.compute fun event _ => named_updated runtime _ event _
  | record_context runtime request started_at =>
    exact (named_load_session runtime _ none).bind fun session => Named.compute fun _ _ =>
      Named.compute fun event _ => named_updated runtime _ event _
  | record_correlation runtime request started_at =>
    refine (named_load_session runtime _ none).bind fun session => Named.compute fun _ _ =>
      Named.compute fun correlation _ => Named.compute fun event _ => Named.bind ?_ fun _ =>
        named_updated runtime _ event _
    exact named_await.mpr correlation.external_nonempty

/-- The correlations of a store name something. -/
def CorrelationsNamed (s : InMemorySessionPersistence Uuid) : Prop :=
  ∀ id r, s.correlations.get? id = some r → r.external_id ≠ ""

theorem correlationsNamed_perform {w : World Uuid} (hc : Names c) (h : CorrelationsNamed w.store) :
    CorrelationsNamed (perform c w).2.store := by
  cases c with
  | save_session record =>
    by_cases hnewer : w.store.Newer record
    · rw [perform_save_session_ok hnewer]
      exact h
    · obtain ⟨message, hs⟩ := perform_save_session_error hnewer
      rw [hs]
      exact h
  | save_event record =>
    by_cases haccepts : w.store.Accepts record
    · rw [perform_save_event_ok haccepts]
      exact h
    · obtain ⟨message, store, hs, hsame⟩ := perform_save_event_error haccepts
      rw [hs]
      intro id r hr
      rw [hsame.correlations] at hr
      exact h id r hr
  | save_correlation record =>
    simp only [perform, InMemorySessionPersistence.save_correlation]
    split
    · exact h
    · intro id r hr
      rcases Dict.get?_set_cases hr with ⟨-, rfl⟩ | ⟨-, hr⟩
      · exact hc
      · exact h id r hr
  | get_session session_id tenant => exact h
  | get_event event_id tenant => exact h
  | get_event_by_idempotency_key session_id key => exact h
  | list_events query tenant => exact h
  | registry_get registry session_id => exact h
  | registry_register registry session => exact h
  | registry_update registry session => exact h

variable {p : SessionPool Uuid}

theorem Reached.correlations (h : Reached p) : CorrelationsNamed p.world.store := by
  refine (Pool.Leads.invariant (P := Names) (I := fun w => CorrelationsNamed w.store) ?_ ?_ ?_ ?_
    h).1
  · rintro i t ⟨call, rfl⟩
    exact named_call call
  · intro c w r w' hc hexec hw
    have hnext := correlationsNamed_perform hc hw
    rw [show perform c w = (r, w') from hexec] at hnext
    exact hnext
  · intro id r hr
    cases hr
  · intro i t ht
    cases ht

theorem Reached.sane (h : Reached p) : Sane p.world := by
  have hidle : Sound (copiesProtocol : Protocol Nat (World Uuid × Unit)) answers
      (fun _ (_ : SessionEnvelope Uuid) _ => True) (Pool.idle World.new) () :=
    Sound.idle sane_new fun _ => trivial
  obtain ⟨_, -, hsound⟩ := hidle.leads (fun i t x hstart hinv hfresh => by
    obtain ⟨call, rfl⟩ := hstart
    exact Sat.weaken (copiesDiscipline.keeps call hinv hfresh) fun _ _ _ _ => trivial) h
  exact hsound.inv

end

/-! ## What is replayed -/

section

variable [DecidableEq Uuid] [Stdlib Uuid]

variable {l : List (SessionTimelineEvent Uuid)}

theorem replay_events_map (prev : Option Nat)
    (hids : ∀ event ∈ l, event.event_id = derive_event_id event.session_id event.sequence)
    (hsorted : l.Pairwise fun a b => a.sequence < b.sequence)
    (hprev : ∀ q, prev = some q → ∀ event ∈ l, q < event.sequence) :
    replay_events prev (l.map event_to_record) =
      .ok (l.map SessionTimelineEvent.reconstructed) := by
  induction l generalizing prev with
  | nil => rfl
  | cons event rest ih =>
    obtain ⟨hlater, hsorted⟩ := List.pairwise_cons.mp hsorted
    have hrest := ih (some event.sequence) (fun e he => hids e (List.mem_cons_of_mem _ he)) hsorted
      fun q hq e he => by
        cases hq
        exact hlater e he
    have hverify : verify_event_id event = .ok () := by
      unfold verify_event_id
      rw [if_neg (not_not.mpr (hids event List.mem_cons_self).symm)]
    have hfollows : prev.any (fun q => event.sequence ≤ q) = false := by
      cases prev with
      | none => rfl
      | some q =>
        have hlt := hprev q rfl event List.mem_cons_self
        simp only [Option.any_some, decide_eq_false_iff_not]
        omega
    rw [List.map_cons, replay_events, event_record_to_model_to_record]
    simp only [bind, Except.bind, hverify, hfollows, Bool.false_eq_true, if_false, hrest]
    rfl

variable {session_id : Uuid}

omit [Stdlib Uuid] in
theorem timelineError_eq_none_iff (hown : ∀ event ∈ l, event.session_id = session_id) (index : Nat)
    (prev : Option Nat) :
    timelineError session_id index prev l = none ↔
      (∀ q, prev = some q → ∀ event ∈ l.head?, event.sequence = q + 1) ∧
        l.IsChain fun a b => b.sequence = a.sequence + 1 := by
  induction l generalizing index prev with
  | nil => simp [timelineError]
  | cons event rest ih =>
    have hrest := ih (fun e he => hown e (List.mem_cons_of_mem _ he)) (index + 1)
      (some event.sequence)
    rw [timelineError, if_neg (not_not.mpr (hown event List.mem_cons_self)), List.isChain_cons]
    cases prev with
    | none => simpa using hrest
    | some q =>
      by_cases hq : event.sequence = q + 1
      · simpa [hq] using hrest
      · simp [hq]

variable {timeline : SessionTimeline Uuid}

omit [Stdlib Uuid] in
theorem SessionTimeline.new_ok {events : List (SessionTimelineEvent Uuid)}
    (h : SessionTimeline.new session_id events = .ok timeline) :
    timeline.events = events ∧ timelineError session_id 0 none events = none := by
  unfold SessionTimeline.new at h
  split at h
  · cases h
  · rename_i herror
    cases h
    exact ⟨rfl, herror⟩

variable {s : InMemorySessionPersistence Uuid} {w : World Uuid}
  {request : ReconstructSessionRequest Uuid}

theorem timeline_of_reconstruct {payload : ReconstructionPayload Uuid}
    (h : reconstruct s request = .ok payload) (htimeline : payload.timeline = some timeline) :
    reconstruct_timeline s request = .ok timeline := by
  unfold reconstruct at h
  split at h
  · cases h
    cases htimeline
  rename_i record _
  cases hload : record_to_session record with
  | error e =>
    rw [hload] at h
    cases h
  | ok session =>
    rw [hload] at h
    simp only [bind, Except.bind] at h
    split at h
    · cases h
      cases htimeline
    · cases h
    · rename_i found hfound
      cases hcorrelations : reconstruct_correlations s request with
      | error e =>
        rw [hcorrelations] at h
        cases h
      | ok correlations =>
        rw [hcorrelations] at h
        cases h
        cases htimeline
        exact hfound

/-! ## The events that a request keeps -/

/-- The stored events inside the window of a request that occurred by its `as_of`, in order. -/
def kept (s : InMemorySessionPersistence Uuid) (request : ReconstructSessionRequest Uuid) :
    List (SessionEventRecord Uuid) :=
  (s.log request.session_id).filter (SessionEventQuery.keeps
    ⟨request.session_id, request.from_sequence, request.to_sequence, request.as_of⟩)

omit [Stdlib Uuid] in
theorem list_events_eq_kept (hindexed : s.Indexed)
    (hvisible : s.visible request.session_id (some request.expected_tenant_id) = true) :
    s.list_events ⟨request.session_id, request.from_sequence, request.to_sequence, request.as_of⟩
      (some request.expected_tenant_id) = kept s request := by
  unfold InMemorySessionPersistence.list_events
  rw [if_pos hvisible]
  have hsorted : (s.log request.session_id).Pairwise fun a b => a.sequence < b.sequence :=
    pairwise_of_counting (k := 0) (by rw [hindexed.sequences, List.range_eq_range'])
  exact List.Pairwise.insertionSort_eq ((hsorted.filter _).imp le_of_lt)

theorem reconstruct_timeline_eq (hindexed : s.Indexed)
    (hids : ∀ id, ∀ e ∈ s.log id, e.event_id = derive_event_id id e.sequence)
    (hvisible : s.visible request.session_id (some request.expected_tenant_id) = true)
    (haware : compares_naive s request = false) (hl : kept s request = l.map event_to_record) :
    reconstruct_timeline s request =
      SessionTimeline.new request.session_id (l.map SessionTimelineEvent.reconstructed) := by
  have hmem : ∀ event ∈ l, event_to_record event ∈ s.log request.session_id := by
    intro event hevent
    have hkept : event_to_record event ∈ kept s request := by
      rw [hl]
      exact List.mem_map_of_mem hevent
    exact (List.mem_filter.mp hkept).1
  have hsorted : (l.map event_to_record).Pairwise fun a b => a.sequence < b.sequence := by
    rw [← hl]
    exact (pairwise_of_counting (k := 0)
      (by rw [hindexed.sequences, List.range_eq_range'])).filter _
  rw [List.pairwise_map] at hsorted
  have hreplay := replay_events_map none
    (fun event hevent => by
      have hid := hids _ _ (hmem event hevent)
      rw [← hindexed.own _ _ (hmem event hevent)] at hid
      exact hid)
    hsorted (fun q hq => by cases hq)
  unfold reconstruct_timeline
  rw [haware, list_events_eq_kept hindexed hvisible, hl, hreplay]
  rfl

/-! ## Exact reconstructions -/

/-- An event of a reconstruction is the stored one but for the mode. -/
def ReadAs (record : SessionEventRecord Uuid) (event : SessionTimelineEvent Uuid) : Prop :=
  event_to_record event = { record with continuity_mode := event.continuity_mode }

def ExactAsOf (s : InMemorySessionPersistence Uuid) (request : ReconstructSessionRequest Uuid) :
    Prop :=
  ∃ payload timeline, reconstruct s request = .ok payload ∧ payload.timeline = some timeline ∧
    List.Forall₂ ReadAs (kept s request) timeline.events ∧
    (request.windowed = false → payload.status = .pristine)

/-- A naive `as_of` meets no event, no event between two that are kept is dropped, and no event that
is kept has a key. -/
structure Unbroken (s : InMemorySessionPersistence Uuid)
    (request : ReconstructSessionRequest Uuid) : Prop where
  aware : compares_naive s request = false
  between : ∀ a ∈ s.log request.session_id, ∀ b ∈ s.log request.session_id,
    ∀ c ∈ s.log request.session_id, a.sequence < b.sequence → b.sequence < c.sequence →
      a ∈ kept s request → c ∈ kept s request → b ∈ kept s request
  unkeyed : ∀ e ∈ kept s request, e.idempotency_key = none

omit [DecidableEq Uuid] [Stdlib Uuid] in
theorem readAs_reconstructed_iff {event : SessionTimelineEvent Uuid} :
    ReadAs (event_to_record event) event.reconstructed ↔ event.idempotency_key = none := by
  constructor
  · intro h
    exact (congrArg SessionEventRecord.idempotency_key h).symm
  · intro h
    unfold ReadAs event_to_record SessionTimelineEvent.reconstructed
    rw [h]

omit [Stdlib Uuid] in
theorem isChain_kept_iff (hindexed : s.Indexed) :
    (kept s request).IsChain (fun a b => b.sequence = a.sequence + 1) ↔
      ∀ a ∈ s.log request.session_id, ∀ b ∈ s.log request.session_id,
        ∀ c ∈ s.log request.session_id, a.sequence < b.sequence → b.sequence < c.sequence →
          a ∈ kept s request → c ∈ kept s request → b ∈ kept s request := by
  unfold kept
  rw [isChain_filter_iff (k := 0) (by rw [hindexed.sequences, List.range_eq_range'])]
  simp only [List.mem_filter]
  constructor
  · intro h a ha b hb c hc hab hbc hka hkc
    exact ⟨hb, h a ha b hb c hc hab hbc hka.2 hkc.2⟩
  · intro h a ha b hb c hc hab hbc hka hkc
    exact (h a ha b hb c hc hab hbc ⟨ha, hka⟩ ⟨hc, hkc⟩).2

theorem reconstruct_timeline_naive (hnaive : compares_naive s request = true) :
    ∃ message, reconstruct_timeline s request = .error (.type_error message) := by
  unfold reconstruct_timeline
  rw [hnaive]
  exact ⟨_, rfl⟩

theorem reconstruct_timeline_ok_iff (hindexed : s.Indexed)
    (hids : ∀ id, ∀ e ∈ s.log id, e.event_id = derive_event_id id e.sequence)
    (hvisible : s.visible request.session_id (some request.expected_tenant_id) = true)
    (haware : compares_naive s request = false) (hl : kept s request = l.map event_to_record) :
    (∃ timeline, reconstruct_timeline s request = .ok timeline ∧
        timeline.events = l.map SessionTimelineEvent.reconstructed) ↔
      (kept s request).IsChain fun a b => b.sequence = a.sequence + 1 := by
  have heq := reconstruct_timeline_eq hindexed hids hvisible haware hl
  have hown : ∀ event ∈ l.map SessionTimelineEvent.reconstructed,
      event.session_id = request.session_id := by
    intro event hevent
    obtain ⟨model, hmodel, rfl⟩ := List.mem_map.mp hevent
    have hkept : event_to_record model ∈ kept s request := by
      rw [hl]
      exact List.mem_map_of_mem hmodel
    exact hindexed.own _ _ (List.mem_filter.mp hkept).1
  have hgap := timelineError_eq_none_iff hown 0 none
  have hchain : (l.map SessionTimelineEvent.reconstructed).IsChain
      (fun a b => b.sequence = a.sequence + 1) ↔
        (kept s request).IsChain fun a b => b.sequence = a.sequence + 1 := by
    rw [hl, List.isChain_map, List.isChain_map]
    exact Iff.rfl
  rw [hchain] at hgap
  rw [heq]
  constructor
  · rintro ⟨timeline, hnew, -⟩
    exact (hgap.mp (SessionTimeline.new_ok hnew).2).2
  · intro h
    have herror := hgap.mpr ⟨fun q hq => (by cases hq), h⟩
    exact ⟨_, SessionTimeline.new_eq_ok herror, rfl⟩

/-- What is reconstructed as of an instant is what is stored, exactly where it has no gap and no
key. -/
theorem exactAsOf_iff (hsane : Sane w) (hids : ∀ id, ∀ e ∈ w.store.log id,
      e.event_id = derive_event_id id e.sequence)
    (hcorrelations : CorrelationsNamed w.store) {row : SessionRecord Uuid}
    (hrow : w.store.row request.session_id = some row)
    (hhead : row.sequence_head + 1 = ((w.store.log request.session_id).length : Int))
    (htenant : row.tenant_id = some request.expected_tenant_id) :
    ExactAsOf w.store request ↔ Unbroken w.store request := by
  have hindexed := hsane.indexed
  have hvalid : row.Valid := (hsane.rows _ row hrow).valid
  have hget : w.store.get_session request.session_id (some request.expected_tenant_id) =
      some row := by
    unfold InMemorySessionPersistence.get_session
    rw [show w.store.sessions.get? request.session_id = some row from hrow]
    simp [htenant]
  have hvisible : w.store.visible request.session_id (some request.expected_tenant_id) = true := by
    unfold InMemorySessionPersistence.visible
    rw [show w.store.sessions.get? request.session_id = some row from hrow]
    simp [htenant]
  have hnamed : ∀ r ∈ w.store.correlations.values, r.external_id ≠ "" := by
    intro r hr
    obtain ⟨id, hid⟩ := (Dict.mem_values_iff _ _).mp hr
    exact hcorrelations id r hid
  have hmodels : kept w.store request ∈ Set.range (List.map event_to_record) := by
    rw [Set.range_list_map]
    exact fun e he => hsane.models _ e (List.mem_filter.mp he).1
  obtain ⟨l, hl⟩ := hmodels
  have hl := hl.symm
  constructor
  · rintro ⟨payload, timeline, hok, htimeline, hread, -⟩
    have hreplayed := timeline_of_reconstruct hok htimeline
    have haware : compares_naive w.store request = false := by
      by_contra hnaive
      obtain ⟨message, herror⟩ := reconstruct_timeline_naive ((Bool.not_eq_false _).mp hnaive)
      rw [herror] at hreplayed
      cases hreplayed
    have heq := reconstruct_timeline_eq hindexed hids hvisible haware hl
    have hevents := (SessionTimeline.new_ok (heq.symm.trans hreplayed)).1
    have hchain := (reconstruct_timeline_ok_iff hindexed hids hvisible haware hl).mp
      ⟨timeline, hreplayed, hevents⟩
    refine ⟨haware, (isChain_kept_iff hindexed).mp hchain, ?_⟩
    rw [hl, hevents, List.forall₂_map_left_iff, List.forall₂_map_right_iff,
      List.forall₂_same] at hread
    intro e he
    rw [hl] at he
    obtain ⟨event, hevent, rfl⟩ := List.mem_map.mp he
    exact readAs_reconstructed_iff.mp (hread event hevent)
  · rintro ⟨haware, hbetween, hunkeyed⟩
    obtain ⟨timeline, htimeline, hevents⟩ :=
      (reconstruct_timeline_ok_iff hindexed hids hvisible haware hl).mpr
        ((isChain_kept_iff hindexed).mpr hbetween)
    obtain ⟨found, hfound⟩ := reconstruct_correlations_ok hnamed request
    have hload := record_to_session_valid hvalid
    have hok : ∃ payload, reconstruct w.store request = .ok payload ∧
        payload.timeline = some timeline := by
      unfold reconstruct
      rw [hget]
      simp only [hload, bind, Except.bind, htimeline, hfound]
      exact ⟨_, rfl, rfl⟩
    obtain ⟨payload, hok, hpayload⟩ := hok
    refine ⟨payload, timeline, hok, hpayload, ?_, fun hunwindowed => ?_⟩
    · rw [hl, hevents, List.forall₂_map_left_iff, List.forall₂_map_right_iff, List.forall₂_same]
      intro event hevent
      refine readAs_reconstructed_iff.mpr (hunkeyed (event_to_record event) ?_)
      rw [hl]
      exact List.mem_map_of_mem hevent
    · obtain ⟨payload', hok', hpristine⟩ := reconstruct_pristine hindexed hsane.models hids hnamed
        hunwindowed hrow hvalid hhead htenant
      rw [hok] at hok'
      cases hok'
      exact hpristine

end
/-! ## Over every run -/

section

variable [DecidableEq Uuid] [Stdlib Uuid] [LawfulStdlib Uuid]

/-- The sessions that runtimes built, read as of any instant and through any window. -/
theorem reconstruction_exact_iff {p : SessionPool Uuid} (h : Reached p) (hq : p.Quiet)
    {request : ReconstructSessionRequest Uuid} {row : SessionRecord Uuid}
    (hrow : p.world.store.row request.session_id = some row)
    (htenant : row.tenant_id = some request.expected_tenant_id) :
    ExactAsOf p.world.store request ↔ Unbroken p.world.store request := by
  obtain ⟨g, hkept⟩ := h.kept
  have hinv : Inv (p.world, g) := hkept.inv
  have hledger := hinv.ledgers request.session_id
  rw [show p.world.store.row request.session_id = some row from hrow,
    Kept.owner_none hkept hq request.session_id] at hledger
  obtain ⟨first, -, hcoherent⟩ := hledger.coherent_of_unowned
  refine exactAsOf_iff h.sane hinv.ids h.correlations hrow ?_ htenant
  rw [hcoherent.head]
  exact Int.sub_add_cancel _ _

end

/-- A session with an event that was seen late, and after it one that happened before it. -/
def sampleLate : SessionPool String :=
  alone (alone (alone (Pool.idle World.new) 0 (sampleOpen 0 "s1")) 1
    (.append_event ⟨0⟩
      { sampleAppend "s1" .customer_message none with occurred_at := .utc 9 } 10)) 2
    (.append_event ⟨0⟩ (sampleAppend "s1" .customer_message none) 11)

def sampleAsOf (t : Instant) : ReconstructSessionRequest String where
  session_id := "s1"
  expected_tenant_id := "acme"
  as_of := some (.utc t)
  from_sequence := none
  to_sequence := none
  include_lineage := true
  include_correlations := true

theorem sampleLate_reached : Reached sampleLate :=
  Reached.alone (Reached.alone (Reached.alone Relation.ReflTransGen.refl _ rfl) _ rfl) _ rfl

theorem sampleLate_quiet : sampleLate.Quiet := by
  intro i t ht
  rcases of_update_eq_some ht with ⟨-, rfl⟩ | ⟨-, ht⟩
  · exact ⟨_, rfl⟩
  rcases of_update_eq_some ht with ⟨-, rfl⟩ | ⟨-, ht⟩
  · exact ⟨_, rfl⟩
  rcases of_update_eq_some ht with ⟨-, rfl⟩ | ⟨-, ht⟩
  · exact ⟨_, rfl⟩
  · cases ht

theorem sampleLate_row : ∃ row, sampleLate.world.store.row "s1" = some row ∧
    row.tenant_id = some "acme" := by
  have hrow : (sampleLate.world.store.row "s1").map (fun r => r.tenant_id) =
      some (some "acme") := by
    decide +kernel
  exact Option.map_eq_some_iff.mp hrow

theorem all_events_as_of_the_last : ExactAsOf sampleLate.world.store (sampleAsOf 9) := by
  obtain ⟨row, hrow, htenant⟩ := sampleLate_row
  have hall : kept sampleLate.world.store (sampleAsOf 9) = sampleLate.world.store.log "s1" :=
    List.filter_eq_self.mpr (by decide +kernel)
  refine (reconstruction_exact_iff sampleLate_reached sampleLate_quiet hrow htenant).mpr
    ⟨by decide +kernel, fun a _ b hb c _ _ _ _ _ => ?_, ?_⟩
  · rw [hall]
    exact hb
  · rw [hall]
    decide +kernel

/-- As of an instant before the late one, the reconstruction fails on the gap that it leaves. -/
theorem a_late_event_is_a_gap :
    ¬ ∀ p : SessionPool String, Reached p → p.Quiet → ∀ request row,
      p.world.store.row request.session_id = some row →
      row.tenant_id = some request.expected_tenant_id → ExactAsOf p.world.store request := by
  intro h
  obtain ⟨row, hrow, htenant⟩ := sampleLate_row
  obtain ⟨payload, -, hok, -⟩ := h sampleLate sampleLate_reached sampleLate_quiet (sampleAsOf 5) row
    hrow htenant
  have hfails : (reconstruct sampleLate.world.store (sampleAsOf 5)).toOption.isNone = true := by
    decide +kernel
  rw [hok] at hfails
  cases hfails

end operious.session
