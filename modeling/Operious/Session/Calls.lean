-- What a coroutine of the session substrate awaits: the methods of the persistence backend and of the
-- registry of a runtime. Each of them is one step.
import Operious.Lib.Awaits
import Operious.Session.Memory

namespace operious.session

open awaits

/-- The sessions that a runtime has seen, as it saw them. -/
abbrev SessionRegistry (Uuid : Type) := Dict Uuid (OperationalSession Uuid)

namespace SessionRegistry

variable {Uuid : Type} [DecidableEq Uuid] [Stdlib Uuid]

def register (records : SessionRegistry Uuid) (session : OperationalSession Uuid) :
    Except SessionException Unit × SessionRegistry Uuid :=
  if (records.get? session.identity.session_id).isSome then
    (.error (.configuration_error
      ("session already registered: " ++ Stdlib.str session.identity.session_id)), records)
  else (.ok (), records.set session.identity.session_id session)

def update (records : SessionRegistry Uuid) (session : OperationalSession Uuid) :
    Except SessionException Unit × SessionRegistry Uuid :=
  match records.get? session.identity.session_id with
  | none =>
    (.error (.configuration_error
      ("cannot update unknown session: " ++ Stdlib.str session.identity.session_id)), records)
  | some existing =>
    if session.revision ≤ existing.revision then
      (.error (.configuration_error ("non-monotonic revision on registry update: existing=" ++
        existing.revision.repr ++ ", incoming=" ++ session.revision.repr)), records)
    else (.ok (), records.set session.identity.session_id session)

end SessionRegistry

/-- A call that a coroutine awaits. A registry is named by its number. -/
inductive Call (Uuid : Type)
  | save_session (record : SessionRecord Uuid)
  | save_event (record : SessionEventRecord Uuid)
  | save_correlation (record : SessionCorrelationRecord Uuid)
  | get_session (session_id : Uuid) (expected_tenant_id : Option String)
  | get_event (event_id : Uuid) (expected_tenant_id : Option String)
  | get_event_by_idempotency_key (session_id : Uuid) (idempotency_key : String)
  | list_events (query : SessionEventQuery Uuid) (expected_tenant_id : Option String)
  | registry_get (registry : Nat) (session_id : Uuid)
  | registry_register (registry : Nat) (session : OperationalSession Uuid)
  | registry_update (registry : Nat) (session : OperationalSession Uuid)

section

variable {Uuid : Type}

/-- What a call returns when it does not raise. -/
@[reducible] def Call.Value : Call Uuid → Type
  | save_session _ => SessionRecord Uuid
  | save_event _ => Unit
  | save_correlation _ => Unit
  | get_session _ _ => Option (SessionRecord Uuid)
  | get_event _ _ => Option (SessionEventRecord Uuid)
  | get_event_by_idempotency_key _ _ => Option (SessionEventRecord Uuid)
  | list_events _ _ => List (SessionEventRecord Uuid)
  | registry_get _ _ => Option (OperationalSession Uuid)
  | registry_register _ _ => Unit
  | registry_update _ _ => Unit

abbrev Call.Answer (c : Call Uuid) : Type := Except SessionException c.Value

structure World (Uuid : Type) where
  store : InMemorySessionPersistence Uuid
  registries : Nat → SessionRegistry Uuid

def World.new : World Uuid := ⟨InMemorySessionPersistence.new, fun _ => Dict.empty⟩

def World.setRegistry (w : World Uuid) (registry : Nat) (records : SessionRegistry Uuid) :
    World Uuid :=
  { w with registries := Function.update w.registries registry records }

@[simp] theorem World.setRegistry_store (w : World Uuid) (registry : Nat)
    (records : SessionRegistry Uuid) : (w.setRegistry registry records).store = w.store := rfl

variable [DecidableEq Uuid] [Stdlib Uuid]

def perform : (c : Call Uuid) → World Uuid → c.Answer × World Uuid
  | .save_session record, w =>
    ((w.store.save_session record).1, { w with store := (w.store.save_session record).2 })
  | .save_event record, w =>
    ((w.store.save_event record).1, { w with store := (w.store.save_event record).2 })
  | .save_correlation record, w =>
    ((w.store.save_correlation record).1, { w with store := (w.store.save_correlation record).2 })
  | .get_session session_id tenant, w => (.ok (w.store.get_session session_id tenant), w)
  | .get_event event_id tenant, w => (.ok (w.store.get_event event_id tenant), w)
  | .get_event_by_idempotency_key session_id key, w =>
    (.ok (w.store.get_event_by_idempotency_key session_id key), w)
  | .list_events query tenant, w => (.ok (w.store.list_events query tenant), w)
  | .registry_get registry session_id, w => (.ok ((w.registries registry).get? session_id), w)
  | .registry_register registry session, w =>
    (((w.registries registry).register session).1,
      w.setRegistry registry ((w.registries registry).register session).2)
  | .registry_update registry session, w =>
    (((w.registries registry).update session).1,
      w.setRegistry registry ((w.registries registry).update session).2)

variable {w : World Uuid}

theorem perform_save_event_ok {record : SessionEventRecord Uuid} (h : w.store.Accepts record) :
    perform (.save_event record) w = (.ok (), ⟨w.store.stored record, w.registries⟩) := by
  simp only [perform, InMemorySessionPersistence.save_event_ok h]

theorem perform_save_event_error {record : SessionEventRecord Uuid} (h : ¬ w.store.Accepts record) :
    ∃ message store, perform (.save_event record) w =
      (.error (.persistence_error message), ⟨store, w.registries⟩) ∧ w.store.Same store := by
  obtain ⟨⟨message, herror⟩, hsame⟩ := InMemorySessionPersistence.save_event_error h
  exact ⟨message, _, by simp only [perform, herror], hsame⟩

theorem perform_save_session_ok {record : SessionRecord Uuid} (h : w.store.Newer record) :
    perform (.save_session record) w = (.ok record, ⟨w.store.saved record, w.registries⟩) := by
  simp only [perform, InMemorySessionPersistence.save_session_ok h]

theorem perform_save_session_error {record : SessionRecord Uuid} (h : ¬ w.store.Newer record) :
    ∃ message, perform (.save_session record) w = (.error (.persistence_error message), w) := by
  obtain ⟨message, herror⟩ := InMemorySessionPersistence.save_session_error h
  exact ⟨message, by simp only [perform, herror]⟩

end

/-! ## Coroutines -/

/-- A coroutine of the substrate. It may raise. -/
abbrev Coroutine (Uuid α : Type) := ExceptT SessionException (Task (Call Uuid) Call.Answer) α

section

variable {Uuid α β : Type}

def await (c : Call Uuid) : Coroutine Uuid c.Value := ExceptT.mk (Task.call c)

/-- A part that awaits nothing. -/
def compute (r : Except SessionException α) : Coroutine Uuid α := ExceptT.mk (Task.done r)

theorem compute_ok_bind (a : α) (f : α → Coroutine Uuid β) : compute (.ok a) >>= f = f a := rfl

/-- `try: ... except Exception: pass`. -/
def swallow (x : Coroutine Uuid Unit) : Coroutine Uuid Unit := tryCatch x fun _ => pure ()

def save_session (record : SessionRecord Uuid) : Coroutine Uuid (SessionRecord Uuid) :=
  await (.save_session record)

def save_event (record : SessionEventRecord Uuid) : Coroutine Uuid Unit :=
  await (.save_event record)

def save_correlation (record : SessionCorrelationRecord Uuid) : Coroutine Uuid Unit :=
  await (.save_correlation record)

def get_session (session_id : Uuid) (expected_tenant_id : Option String) :
    Coroutine Uuid (Option (SessionRecord Uuid)) :=
  await (.get_session session_id expected_tenant_id)

def get_event (event_id : Uuid) (expected_tenant_id : Option String) :
    Coroutine Uuid (Option (SessionEventRecord Uuid)) :=
  await (.get_event event_id expected_tenant_id)

def get_event_by_idempotency_key (session_id : Uuid) (idempotency_key : String) :
    Coroutine Uuid (Option (SessionEventRecord Uuid)) :=
  await (.get_event_by_idempotency_key session_id idempotency_key)

def list_events (query : SessionEventQuery Uuid) (expected_tenant_id : Option String) :
    Coroutine Uuid (List (SessionEventRecord Uuid)) :=
  await (.list_events query expected_tenant_id)

end

end operious.session
