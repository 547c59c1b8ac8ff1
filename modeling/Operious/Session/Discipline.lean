-- All methods of all runtimes over any protocol: when the two writes of an update and the writes of an
-- opening keep to it, every method does.
import Operious.Session.Ledger

namespace operious.session

open awaits InMemorySessionPersistence

variable {Uuid : Type} [DecidableEq Uuid] [Stdlib Uuid]

/-! ## The calls that clients make -/

inductive RuntimeCall (Uuid : Type)
  | open_session (runtime : SessionRuntime) (request : OpenSessionRequest Uuid)
      (started_at : Instant) (generated : Uuid) (gate : CapabilityGateOutcome Uuid)
  | append_event (runtime : SessionRuntime) (request : AppendEventRequest Uuid)
      (started_at : Instant)
  | record_lifecycle (runtime : SessionRuntime) (request : RecordLifecycleRequest Uuid)
      (started_at : Instant)
  | record_context (runtime : SessionRuntime) (request : RecordContextRequest Uuid)
      (started_at : Instant)
  | record_correlation (runtime : SessionRuntime) (request : RecordCorrelationRequest Uuid)
      (started_at : Instant)

def RuntimeCall.coroutine : RuntimeCall Uuid → Coroutine Uuid (SessionResult Uuid)
  | open_session runtime request started_at generated gate =>
    runtime.open_session request started_at generated gate
  | append_event runtime request started_at => runtime.append_event request started_at
  | record_lifecycle runtime request started_at => runtime.record_lifecycle request started_at
  | record_context runtime request started_at => runtime.record_context request started_at
  | record_correlation runtime request started_at => runtime.record_correlation request started_at

def RuntimeCall.task (call : RuntimeCall Uuid) :
    Task (Call Uuid) Call.Answer (SessionEnvelope Uuid) := call.coroutine.run

/-- A call is answered by the method it names. -/
def answers (c : Call Uuid) (w : World Uuid) (r : c.Answer) (w' : World Uuid) : Prop :=
  perform c w = (r, w')

def sampleOpen (runtime : Nat) (session_id : String) : RuntimeCall String :=
  .open_session ⟨runtime⟩
    { scope := .tenant
      external_handle := "ticket-1"
      tenant_id := some "acme"
      principal_id := none
      parent_session_id := none
      context := none
      opened_at_override := none
      session_id_override := some session_id
      authority := none }
    0 "s0" ⟨none, none, none⟩

def sampleAppend (session_id : String) (kind : SessionEventKind) (idempotency_key : Option String) :
    AppendEventRequest String where
  session_id := session_id
  kind := kind
  occurred_at := .utc 5
  continuity_mode := .synchronous
  payload := Dict.empty
  annotation := none
  external_correlation_id := none
  correlation_id := none
  idempotency_key := idempotency_key

/-! ## Coroutines that keep to a protocol -/

variable {c : OperationalSession Uuid}

section

variable {Γ α β : Type} (P : Protocol Nat (World Uuid × Γ)) (i : Nat)

/-- From the state on, the coroutine keeps to the protocol, ends as a task that has not started,
and returns only what `Q` allows. -/
def Keeps (x : Coroutine Uuid α) (Q : α → World Uuid × Γ → Prop) (s : World Uuid × Γ) : Prop :=
  Sat P answers i x.run (fun r t => P.fresh i t ∧ ∀ a, r = .ok a → Q a t) s

variable {P i} {s t : World Uuid × Γ} {Q : α → World Uuid × Γ → Prop}

theorem Keeps.pure {a : α} (hfresh : P.fresh i s) (h : ∀ t, P.Rely i s t → Q a t) :
    Keeps P i (pure a) Q s := by
  intro t ht
  refine ⟨P.fresh_keeps hfresh ht.keeps, fun b hb => ?_⟩
  cases hb
  exact h t ht

theorem Keeps.throw {e : SessionException} (hfresh : P.fresh i s) :
    Keeps P i (throw e : Coroutine Uuid α) Q s :=
  fun _ ht => ⟨P.fresh_keeps hfresh ht.keeps, fun _ hb => nomatch hb⟩

variable {x : Coroutine Uuid α}

theorem Keeps.weaken {Q' : α → World Uuid × Γ → Prop} (h : Keeps P i x Q s)
    (hQ : ∀ a t, P.inv t → Q a t → Q' a t) : Keeps P i x Q' s :=
  Sat.weaken h fun _ t ht hr => ⟨hr.1, fun a ha => hQ a t ht (hr.2 a ha)⟩

variable {R : β → World Uuid × Γ → Prop} {f : α → Coroutine Uuid β}

theorem Keeps.bind (hinv : P.inv s) (hx : Keeps P i x Q s)
    (hf : ∀ a t, P.inv t → P.fresh i t → P.moves s t → Q a t → Keeps P i (f a) R t) :
    Keeps P i (x >>= f) R s := by
  unfold Keeps
  rw [ExceptT.run_bind]
  refine Sat.bind hinv (Sat.weaken (Sat.with_moves hx (P.moves_refl s)) ?_)
  rintro r t ht ⟨hmoves, hfresh, hQ⟩
  cases r with
  | error e => exact fun u hu => ⟨P.fresh_keeps hfresh hu.keeps, fun _ hb => nomatch hb⟩
  | ok a => exact hf a t ht hfresh hmoves (hQ a rfl)

theorem Keeps.compute {r : Except SessionException α} (hfresh : P.fresh i s)
    (h : ∀ a, r = .ok a → Keeps P i (f a) R s) :
    Keeps P i (operious.session.compute r >>= f) R s := by
  cases r with
  | error e => exact Keeps.throw hfresh
  | ok a => exact h a rfl

theorem Keeps.tryCatch {x : Coroutine Uuid α} {handler : SessionException → Coroutine Uuid α}
    (hinv : P.inv s) (hx : Keeps P i x Q s)
    (hhandler : ∀ e t, P.inv t → P.fresh i t → P.moves s t → Keeps P i (handler e) Q t) :
    Keeps P i (tryCatch x handler) Q s := by
  refine Sat.bind (t := x.run) hinv
    (Sat.weaken (Sat.with_moves (Sat.closed hx) (P.moves_refl s)) ?_)
  rintro r t ht ⟨hmoves, hQ⟩
  cases r with
  | error e => exact hhandler e t ht (hQ t (Protocol.Rely.refl P ht)).1 hmoves
  | ok a => exact fun u hu => hQ u hu

theorem Keeps.read {c : Call Uuid} {Q : c.Value → World Uuid × Γ → Prop} (hfresh : P.fresh i s)
    (hread : ∀ w, (perform c w).2 = w)
    (hstable : ∀ v t u, P.Rely i t u → Q v t → Q v u)
    (h : ∀ t v, P.Rely i s t → (perform c t.1).1 = .ok v → Q v t) : Keeps P i (await c) Q s := by
  refine Sat.call (fun r t u hu hr => ⟨P.fresh_keeps hr.1 hu.keeps,
    fun a ha => hstable a t u hu (hr.2 a ha)⟩) ?_
  intro t ht r w hr
  have hw : w = t.1 := by
    rw [← hread t.1, show perform c t.1 = (r, w) from hr]
  subst hw
  refine ⟨t.2, Protocol.Allows.refl ht.inv, P.fresh_keeps hfresh ht.keeps, fun a ha => ?_⟩
  apply h t a ht
  rw [show perform c t.1 = (r, t.1) from hr]
  exact ha

theorem Keeps.raise {e : SessionException} (hfresh : P.fresh i s) :
    Keeps P i (operious.session.compute (.error e) : Coroutine Uuid α) Q s :=
  Keeps.throw hfresh

theorem Keeps.swallow {x : Coroutine Uuid Unit} (hinv : P.inv s)
    (h : Keeps P i x (fun _ _ => True) s) :
    Keeps P i (operious.session.swallow x) (fun _ _ => True) s :=
  Keeps.tryCatch hinv h fun _ _ _ hfresh _ => Keeps.pure hfresh fun _ _ => trivial

theorem Keeps.write {c : Call Uuid} (hfresh : P.fresh i s)
    (h : ∀ t, P.Rely i s t → P.fresh i t → ∃ g, P.Allows i t ((perform c t.1).2, g) ∧
      P.fresh i ((perform c t.1).2, g)) : Keeps P i (await c) (fun _ _ => True) s := by
  refine Sat.call (fun r t u hu hr => ⟨P.fresh_keeps hr.1 hu.keeps, fun _ _ => trivial⟩) ?_
  intro t ht r w hr
  obtain ⟨g, hall, hg⟩ := h t ht (P.fresh_keeps hfresh ht.keeps)
  rw [show perform c t.1 = (r, w) from hr] at hall hg
  exact ⟨g, hall, hg, fun _ _ => trivial⟩

theorem Keeps.step {c : Call Uuid} {f : c.Value → Coroutine Uuid β}
    (h : ∀ t, P.Rely i s t → ∃ g, P.Allows i t ((perform c t.1).2, g) ∧
      (∀ e, (perform c t.1).1 = .error e → P.fresh i ((perform c t.1).2, g)) ∧
      ∀ v, (perform c t.1).1 = .ok v → P.inv ((perform c t.1).2, g) →
        Keeps P i (f v) R ((perform c t.1).2, g)) : Keeps P i (await c >>= f) R s := by
  unfold Keeps
  rw [ExceptT.run_bind]
  intro t ht r w hr
  obtain ⟨g, hall, herror, hok⟩ := h t ht
  rw [show perform c t.1 = (r, w) from hr] at hall herror hok
  refine ⟨g, hall, ?_⟩
  cases r with
  | error e => exact fun u hu => ⟨P.fresh_keeps (herror e rfl) hu.keeps, fun _ hb => nomatch hb⟩
  | ok v => exact hok v rfl hall.inv

variable (P i) in
/-- The protocol lets the task put the session `c` into a registry. -/
def MayRemember (registry : Nat) (c : OperationalSession Uuid) (t : World Uuid × Γ) : Prop :=
  ∀ records : SessionRegistry Uuid,
    (∀ id' c', records.get? id' = some c' →
      (t.1.registries registry).get? id' = some c' ∨ (id' = c.identity.session_id ∧ c' = c)) →
    P.Allows i t (t.1.setRegistry registry records, t.2) ∧
      P.fresh i (t.1.setRegistry registry records, t.2)

theorem Keeps.registry_register (runtime : SessionRuntime) (hfresh : P.fresh i s)
    (h : ∀ t, P.Rely i s t → P.fresh i t → MayRemember P i runtime.registry c t) :
    Keeps P i (runtime.registry_register c) (fun _ _ => True) s := by
  apply Keeps.write hfresh
  intro t ht hfresh'
  refine ⟨t.2, h t ht hfresh' _ ?_⟩
  intro id' c' hget
  unfold SessionRegistry.register at hget
  split at hget
  · exact Or.inl hget
  · rcases Dict.get?_set_cases hget with ⟨rfl, rfl⟩ | ⟨-, hget⟩
    · exact Or.inr ⟨rfl, rfl⟩
    · exact Or.inl hget

theorem Keeps.registry_update (runtime : SessionRuntime) (hfresh : P.fresh i s)
    (h : ∀ t, P.Rely i s t → P.fresh i t → MayRemember P i runtime.registry c t) :
    Keeps P i (runtime.registry_update c) (fun _ _ => True) s := by
  apply Keeps.write hfresh
  intro t ht hfresh'
  refine ⟨t.2, h t ht hfresh' _ ?_⟩
  intro id' c' hget
  unfold SessionRegistry.update at hget
  split at hget
  · exact Or.inl hget
  · split at hget
    · exact Or.inl hget
    · rcases Dict.get?_set_cases hget with ⟨rfl, rfl⟩ | ⟨-, hget⟩
      · exact Or.inr ⟨rfl, rfl⟩
      · exact Or.inl hget

theorem Keeps.find_replay (session_id : Uuid) (key : Option String) (hfresh : P.fresh i s) :
    Keeps P i (SessionRuntime.find_replay session_id key) (fun _ _ => True) s := by
  unfold SessionRuntime.find_replay
  cases key with
  | none => exact Keeps.pure hfresh fun _ _ => trivial
  | some key =>
    exact Keeps.read hfresh (fun _ => rfl) (fun _ _ _ _ _ => trivial) fun _ _ _ _ => trivial

end

/-! ## A discipline -/

structure Opens (session : OperationalSession Uuid) (event : SessionTimelineEvent Uuid) : Prop where
  head : session.sequence_head = 0
  revision : session.revision = 1
  phase : session.lifecycle.phase = .initiated
  session_id : event.session_id = session.identity.session_id
  sequence : event.sequence = 0
  event_id : event.event_id = derive_event_id event.session_id 0
  kind : event.kind = .session_opened
  key : event.idempotency_key = none

variable {event : SessionTimelineEvent Uuid}

theorem opens_of_new {identity : SessionIdentity Uuid} {opened_at : Datetime}
    {lineage : SessionLineage Uuid} {context : Option SessionContext}
    {session : OperationalSession Uuid} {recorded_at : Datetime} {payload : Payload}
    (hsession : OperationalSession.new identity opened_at ⟨.initiated, opened_at, none⟩ lineage
      context (-1) 0 = .ok session)
    (hevent : build_event identity.session_id 0 .session_opened .synchronous opened_at recorded_at
      payload none none none = .ok event) : Opens (session.advanced 0) event := by
  have hrecord := SessionTimelineEvent.new_eq_ok hevent
  have hid : event.session_id = identity.session_id :=
    congrArg SessionEventRecord.session_id hrecord
  have hsequence : event.sequence = 0 := congrArg SessionEventRecord.sequence hrecord
  unfold OperationalSession.new at hsession
  split at hsession
  swap
  · cases hsession
  split at hsession
  · cases hsession
  split at hsession
  swap
  · cases hsession
  cases hsession
  refine ⟨rfl, rfl, rfl, hid, hsequence, ?_, ?_, ?_⟩
  · rw [hid]
    exact congrArg SessionEventRecord.event_id hrecord
  · exact congrArg SessionEventRecord.kind hrecord
  · exact congrArg SessionEventRecord.idempotency_key hrecord

/-- What makes every method keep to a protocol: copies of sessions that the protocol knows to have
been stored, and writes that start from one of them. -/
structure Discipline {Γ : Type} (P : Protocol Nat (World Uuid × Γ)) where
  /-- The session was stored under this id. -/
  Known : Uuid → OperationalSession Uuid → World Uuid × Γ → Prop
  known_moves : ∀ {id c x y}, P.moves x y → Known id c x → Known id c y
  known_cached : ∀ {registry id c x}, P.inv x → (x.1.registries registry).get? id = some c →
    Known id c x
  known_row : ∀ {id r c x}, P.inv x → x.1.store.row id = some r → record_to_session r = .ok c →
    Known id c x
  remember : ∀ {i id c x}, P.inv x → P.fresh i x → Known id c x → ∀ registry,
    MayRemember P i registry c x
  correlation : ∀ {i x}, P.inv x → P.fresh i x → ∀ record, ∃ g,
    P.Allows i x ((perform (.save_correlation record) x.1).2, g) ∧
      P.fresh i ((perform (.save_correlation record) x.1).2, g)
  persist : ∀ {i id c event updated x} (runtime : SessionRuntime), P.inv x → P.fresh i x →
    Known id c x → Extends c event updated →
    Keeps P i (runtime.persist_session_update updated event) (fun _ _ => True) x
  opening : ∀ {i session event x} (runtime : SessionRuntime), P.inv x → P.fresh i x →
    Opens session event → Keeps P i (runtime.open_ledger session event) (fun _ _ => True) x

namespace Discipline

variable {Γ : Type} {P : Protocol Nat (World Uuid × Γ)} (D : Discipline P) {i : Nat}
  {s : World Uuid × Γ} (runtime : SessionRuntime)

include D

variable {id : Uuid}

theorem registry_register (hfresh : P.fresh i s) (hknown : D.Known id c s) :
    Keeps P i (runtime.registry_register c) (fun _ _ => True) s :=
  Keeps.registry_register runtime hfresh fun _ ht hfresh' =>
    D.remember ht.inv hfresh' (D.known_moves ht.moves hknown) runtime.registry

theorem registry_update (hfresh : P.fresh i s) (hknown : D.Known id c s) :
    Keeps P i (runtime.registry_update c) (fun _ _ => True) s :=
  Keeps.registry_update runtime hfresh fun _ ht hfresh' =>
    D.remember ht.inv hfresh' (D.known_moves ht.moves hknown) runtime.registry

theorem get_session (session_id : Uuid) (tenant : Option String) (hfresh : P.fresh i s) :
    Keeps P i (operious.session.get_session session_id tenant)
      (fun found t => ∀ r c, found = some r → record_to_session r = .ok c →
        D.Known session_id c t) s := by
  refine Keeps.read hfresh (fun _ => rfl)
    (fun v t u hu h r c hr hc => D.known_moves hu.moves (h r c hr hc)) ?_
  intro t v ht hv r c hr hc
  subst hr
  have hget : t.1.store.get_session session_id tenant = some r := Except.ok.inj hv
  unfold InMemorySessionPersistence.get_session at hget
  exact D.known_row ht.inv (Option.filter_eq_some_iff.mp hget).1 hc

theorem load_session (session_id : Uuid) (tenant : Option String) (hinv : P.inv s)
    (hfresh : P.fresh i s) :
    Keeps P i (runtime.load_session session_id tenant) (D.Known session_id) s := by
  unfold SessionRuntime.load_session
  refine Keeps.bind (Q := fun found t => ∀ c, found = some c → D.Known session_id c t) hinv
    (Keeps.read hfresh (fun _ => rfl)
      (fun v t u hu h c hc => D.known_moves hu.moves (h c hc)) ?_) ?_
  · intro t v ht hv c hc
    subst hc
    exact D.known_cached ht.inv (Except.ok.inj hv)
  intro found t ht hfresh hmoves hfound
  cases found with
  | some cached =>
    dsimp only
    split
    · exact Keeps.throw hfresh
    · exact Keeps.pure hfresh fun u hu => D.known_moves hu.moves (hfound cached rfl)
  | none =>
    refine Keeps.bind ht (D.get_session session_id tenant hfresh) ?_
    intro found u hu hfresh _ hrow
    cases found with
    | none => exact Keeps.throw hfresh
    | some record =>
      apply Keeps.compute hfresh
      intro session hsession
      have hknown := hrow record session rfl hsession
      refine Keeps.bind hu (Keeps.swallow hu (D.registry_register runtime hfresh hknown)) ?_
      intro _ v _ hfresh hmoves _
      exact Keeps.pure hfresh fun z hz => D.known_moves hz.moves (D.known_moves hmoves hknown)

theorem load_persisted_session (session_id : Uuid) (fallback : OperationalSession Uuid)
    (hinv : P.inv s) (hfresh : P.fresh i s) :
    Keeps P i (runtime.load_persisted_session session_id fallback) (fun _ _ => True) s := by
  unfold SessionRuntime.load_persisted_session
  refine Keeps.bind hinv (D.get_session session_id none hfresh) ?_
  intro found t ht hfresh _ hrow
  cases found with
  | none => exact Keeps.pure hfresh fun _ _ => trivial
  | some record =>
    apply Keeps.compute hfresh
    intro session hsession
    have hknown := hrow record session rfl hsession
    refine Keeps.bind ht (Keeps.swallow ht (D.registry_update runtime hfresh hknown)) ?_
    intro _ u _ hfresh _ _
    exact Keeps.pure hfresh fun _ _ => trivial

theorem build_lineage (session_id : Uuid) (parent_session_id : Option Uuid) (hinv : P.inv s)
    (hfresh : P.fresh i s) :
    Keeps P i (runtime.build_lineage session_id parent_session_id)
      (fun lineage _ => lineage.session_id = session_id) s := by
  unfold SessionRuntime.build_lineage
  cases parent_session_id with
  | none => exact Keeps.pure hfresh fun _ _ => rfl
  | some parent_session_id =>
    refine Keeps.bind hinv (D.load_session runtime parent_session_id none hinv hfresh) ?_
    intro parent t ht hfresh _ _
    cases hchild : build_lineage_for_child session_id parent.lineage with
    | error e => exact Keeps.raise hfresh
    | ok lineage =>
      exact Keeps.pure hfresh fun _ _ => build_lineage_for_child_session_id hchild

theorem open_session (request : OpenSessionRequest Uuid) (started_at : Instant)
    (generated : Uuid) (gate : CapabilityGateOutcome Uuid) (hinv : P.inv s)
    (hfresh : P.fresh i s) :
    Keeps P i (runtime.open_session request started_at generated gate) (fun _ _ => True) s := by
  unfold SessionRuntime.open_session
  cases gate.denial with
  | some reason => exact Keeps.throw hfresh
  | none =>
    apply Keeps.compute hfresh
    intro session_id _
    dsimp only
    split
    · exact Keeps.throw hfresh
    apply Keeps.compute hfresh
    intro identity hidentity
    refine Keeps.bind hinv
      (D.build_lineage runtime session_id request.parent_session_id hinv hfresh) ?_
    intro lineage t ht hfresh _ _
    apply Keeps.compute hfresh
    intro session hsession
    apply Keeps.compute hfresh
    intro event hevent
    have hid : identity.session_id = session_id := by
      unfold SessionIdentity.new at hidentity
      split at hidentity
      · cases hidentity
      · cases hidentity
        rfl
    rw [← hid] at hevent
    exact D.opening runtime ht hfresh (opens_of_new hsession hevent)

theorem replay_refused (session_id : Uuid) (key : Option String)
    (session : OperationalSession Uuid) (refusal : SessionException) (hinv : P.inv s)
    (hfresh : P.fresh i s) :
    Keeps P i (runtime.replay_refused session_id key session refusal) (fun _ _ => True) s := by
  unfold SessionRuntime.replay_refused
  split
  · refine Keeps.bind hinv (Keeps.find_replay session_id key hfresh) ?_
    intro found t ht hfresh _ _
    cases found with
    | none => exact Keeps.throw hfresh
    | some record =>
      apply Keeps.compute hfresh
      intro event _
      refine Keeps.bind ht (D.load_persisted_session runtime session_id session ht hfresh) ?_
      intro _ u _ hfresh _ _
      exact Keeps.pure hfresh fun _ _ => trivial
  · exact Keeps.throw hfresh

theorem update {session updated : OperationalSession Uuid} (result : SessionResult Uuid)
    (hinv : P.inv s) (hfresh : P.fresh i s) (hknown : D.Known id session s)
    (h : Extends session event updated) :
    Keeps P i (do runtime.persist_session_update updated event; pure result)
      (fun _ _ => True) s := by
  refine Keeps.bind hinv (D.persist runtime hinv hfresh hknown h) ?_
  intro _ t _ hfresh _ _
  exact Keeps.pure hfresh fun _ _ => trivial

theorem append_event (request : AppendEventRequest Uuid) (started_at : Instant) (hinv : P.inv s)
    (hfresh : P.fresh i s) :
    Keeps P i (runtime.append_event request started_at) (fun _ _ => True) s := by
  unfold SessionRuntime.append_event SessionRuntime.append_generic
  apply Keeps.compute hfresh
  intro correlation_id _
  refine Keeps.bind hinv (D.load_session runtime request.session_id none hinv hfresh) ?_
  intro session t ht hfresh _ hknown
  refine Keeps.bind ht (Keeps.find_replay request.session_id request.idempotency_key hfresh) ?_
  intro found u hu hfresh hmoves _
  have hknown := D.known_moves hmoves hknown
  cases found with
  | some record =>
    apply Keeps.compute hfresh
    intro event _
    exact Keeps.pure hfresh fun _ _ => trivial
  | none =>
    apply Keeps.compute hfresh
    intro _ hopen
    apply Keeps.compute hfresh
    intro event hevent
    have hfollows := build_next_event_follows hevent
    have hextends := extends_advanced hfollows (reject_terminal_eq_ok hopen)
      (Or.inl (isAppended_of_follows hfollows))
    refine Keeps.tryCatch hu (D.update runtime _ hu hfresh hknown hextends) ?_
    intro refusal v hv hfresh _
    exact D.replay_refused runtime request.session_id request.idempotency_key session refusal hv
      hfresh

theorem record_lifecycle (request : RecordLifecycleRequest Uuid) (started_at : Instant)
    (hinv : P.inv s) (hfresh : P.fresh i s) :
    Keeps P i (runtime.record_lifecycle request started_at) (fun _ _ => True) s := by
  unfold SessionRuntime.record_lifecycle
  refine Keeps.bind hinv (D.load_session runtime request.session_id none hinv hfresh) ?_
  intro session t ht hfresh _ hknown
  dsimp only
  split
  · exact Keeps.throw hfresh
  · rename_i hallowed
    apply Keeps.compute hfresh
    intro event hevent
    exact D.update runtime _ ht hfresh hknown
      (extends_lifecycle (build_next_event_follows hevent) hallowed)

theorem record_context (request : RecordContextRequest Uuid) (started_at : Instant)
    (hinv : P.inv s) (hfresh : P.fresh i s) :
    Keeps P i (runtime.record_context request started_at) (fun _ _ => True) s := by
  unfold SessionRuntime.record_context
  refine Keeps.bind hinv (D.load_session runtime request.session_id none hinv hfresh) ?_
  intro session t ht hfresh _ hknown
  apply Keeps.compute hfresh
  intro _ hopen
  apply Keeps.compute hfresh
  intro event hevent
  exact D.update runtime _ ht hfresh hknown
    (extends_context (build_next_event_follows hevent) (reject_terminal_eq_ok hopen))

theorem record_correlation (request : RecordCorrelationRequest Uuid) (started_at : Instant)
    (hinv : P.inv s) (hfresh : P.fresh i s) :
    Keeps P i (runtime.record_correlation request started_at) (fun _ _ => True) s := by
  unfold SessionRuntime.record_correlation
  refine Keeps.bind hinv (D.load_session runtime request.session_id none hinv hfresh) ?_
  intro session t ht hfresh _ hknown
  apply Keeps.compute hfresh
  intro _ hopen
  apply Keeps.compute hfresh
  intro correlation _
  apply Keeps.compute hfresh
  intro event hevent
  refine Keeps.bind ht (Keeps.write hfresh fun u hu hfresh => D.correlation hu.inv hfresh _) ?_
  intro _ u hu hfresh hmoves _
  exact D.update runtime _ hu hfresh (D.known_moves hmoves hknown)
    (extends_advanced (build_next_event_follows hevent) (reject_terminal_eq_ok hopen)
      (Or.inr rfl))

theorem keeps (call : RuntimeCall Uuid) (hinv : P.inv s) (hfresh : P.fresh i s) :
    Keeps P i call.coroutine (fun _ _ => True) s := by
  cases call with
  | open_session runtime request started_at generated gate =>
    exact D.open_session runtime request started_at generated gate hinv hfresh
  | append_event runtime request started_at =>
    exact D.append_event runtime request started_at hinv hfresh
  | record_lifecycle runtime request started_at =>
    exact D.record_lifecycle runtime request started_at hinv hfresh
  | record_context runtime request started_at =>
    exact D.record_context runtime request started_at hinv hfresh
  | record_correlation runtime request started_at =>
    exact D.record_correlation runtime request started_at hinv hfresh

end Discipline

end operious.session
