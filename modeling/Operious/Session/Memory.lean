-- The in-memory persistence backend. Each method runs under the lock, so a call of it is one step.
import Operious.Session.Serializers

namespace operious.session

structure InMemorySessionPersistence (Uuid : Type) where
  sessions : Dict Uuid (SessionRecord Uuid)
  events : Dict Uuid (SessionEventRecord Uuid)
  events_by_idempotency_key : Dict (Uuid × String) (SessionEventRecord Uuid)
  events_by_session : Dict Uuid (List (SessionEventRecord Uuid))
  correlations : Dict Uuid (SessionCorrelationRecord Uuid)

/-- The filters of a timeline query that the substrate uses. -/
structure SessionEventQuery (Uuid : Type) where
  session_id : Uuid
  from_sequence : Option Int
  to_sequence : Option Int
  occurred_before_or_at : Option Datetime

namespace InMemorySessionPersistence

variable {Uuid : Type}

def new : InMemorySessionPersistence Uuid :=
  ⟨Dict.empty, Dict.empty, Dict.empty, Dict.empty, Dict.empty⟩

variable [DecidableEq Uuid]

/-- The stored events of a session, oldest first. -/
def log (s : InMemorySessionPersistence Uuid) (session_id : Uuid) :
    List (SessionEventRecord Uuid) :=
  (s.events_by_session.get? session_id).getD []

def row (s : InMemorySessionPersistence Uuid) (session_id : Uuid) : Option (SessionRecord Uuid) :=
  s.sessions.get? session_id

/-! ## Writes -/

def saved (s : InMemorySessionPersistence Uuid) (record : SessionRecord Uuid) :
    InMemorySessionPersistence Uuid :=
  { s with sessions := s.sessions.set record.session_id record }

def save_session (s : InMemorySessionPersistence Uuid) (record : SessionRecord Uuid) :
    Except SessionException (SessionRecord Uuid) × InMemorySessionPersistence Uuid :=
  match s.sessions.get? record.session_id with
  | some existing =>
    if record.revision ≤ existing.revision then
      (.error (.persistence_error ("non-monotonic revision: existing=" ++ existing.revision.repr ++
        ", incoming=" ++ record.revision.repr)), s)
    else (.ok record, s.saved record)
  | none => (.ok record, s.saved record)

/-- `setdefault(session_id, [])` of the events by session. -/
def withBucket (s : InMemorySessionPersistence Uuid) (session_id : Uuid) :
    InMemorySessionPersistence Uuid :=
  { s with events_by_session := s.events_by_session.set session_id (s.log session_id) }

/-- The three tables with one more event. -/
def stored (s : InMemorySessionPersistence Uuid) (record : SessionEventRecord Uuid) :
    InMemorySessionPersistence Uuid :=
  { s with
    events := s.events.set record.event_id record
    events_by_idempotency_key := record.idempotency_key.elim s.events_by_idempotency_key fun key =>
      s.events_by_idempotency_key.set (record.session_id, key) record
    events_by_session :=
      s.events_by_session.set record.session_id (s.log record.session_id ++ [record]) }

def sequenceError (bucket : List (SessionEventRecord Uuid)) (sequence : Nat) : Option String :=
  match bucket.getLast? with
  | some last =>
    if last.sequence + 1 ≠ sequence then
      some ("non-monotonic event sequence: head=" ++ last.sequence.repr ++ ", incoming=" ++
        sequence.repr)
    else none
  | none => if sequence ≠ 0 then some "first event of a session must have sequence 0" else none

def keyTaken (s : InMemorySessionPersistence Uuid) (record : SessionEventRecord Uuid) : Bool :=
  record.idempotency_key.any fun key =>
    (s.events_by_idempotency_key.get? (record.session_id, key)).isSome

def save_event [Stdlib Uuid] (s : InMemorySessionPersistence Uuid)
    (record : SessionEventRecord Uuid) :
    Except SessionException Unit × InMemorySessionPersistence Uuid :=
  if (s.events.get? record.event_id).isSome then
    (.error (.persistence_error ("duplicate event id: " ++ Stdlib.str record.event_id)), s)
  else if s.keyTaken record then
    (.error (.persistence_error
      ("duplicate event idempotency key: " ++ record.idempotency_key.getD "")), s)
  else
    match sequenceError (s.log record.session_id) record.sequence with
    | some message => (.error (.persistence_error message), s.withBucket record.session_id)
    | none => (.ok (), s.stored record)

def save_correlation [Stdlib Uuid] (s : InMemorySessionPersistence Uuid)
    (record : SessionCorrelationRecord Uuid) :
    Except SessionException Unit × InMemorySessionPersistence Uuid :=
  if (s.correlations.get? record.correlation_id).isSome then
    (.error (.persistence_error ("duplicate correlation id: " ++ Stdlib.str record.correlation_id)),
      s)
  else (.ok (), { s with correlations := s.correlations.set record.correlation_id record })

/-! ## Reads -/

/-- Whether a row of that session may be shown to the tenant that a read expects. -/
def visible (s : InMemorySessionPersistence Uuid) (session_id : Uuid)
    (expected_tenant_id : Option String) : Bool :=
  expected_tenant_id.all fun tenant =>
    (s.sessions.get? session_id).any fun session => session.tenant_id = some tenant

def get_session (s : InMemorySessionPersistence Uuid) (session_id : Uuid)
    (expected_tenant_id : Option String) : Option (SessionRecord Uuid) :=
  (s.sessions.get? session_id).filter fun record =>
    expected_tenant_id.all fun tenant => record.tenant_id = some tenant

def get_event (s : InMemorySessionPersistence Uuid) (event_id : Uuid)
    (expected_tenant_id : Option String) : Option (SessionEventRecord Uuid) :=
  (s.events.get? event_id).filter fun record => s.visible record.session_id expected_tenant_id

def get_event_by_idempotency_key (s : InMemorySessionPersistence Uuid) (session_id : Uuid)
    (idempotency_key : String) : Option (SessionEventRecord Uuid) :=
  s.events_by_idempotency_key.get? (session_id, idempotency_key)

def SessionEventQuery.keeps (query : SessionEventQuery Uuid) (record : SessionEventRecord Uuid) :
    Bool :=
  query.from_sequence.all (fun bound => bound ≤ (record.sequence : Int)) &&
    query.to_sequence.all (fun bound => (record.sequence : Int) ≤ bound) &&
    query.occurred_before_or_at.all (fun bound => record.occurred_at.instant ≤ bound.instant)

def list_events (s : InMemorySessionPersistence Uuid) (query : SessionEventQuery Uuid)
    (expected_tenant_id : Option String) : List (SessionEventRecord Uuid) :=
  if s.visible query.session_id expected_tenant_id then
    ((s.log query.session_id).filter (SessionEventQuery.keeps query)).insertionSort
      fun a b => a.sequence ≤ b.sequence
  else []

/-! ## What a write does -/

variable {s : InMemorySessionPersistence Uuid} {record : SessionEventRecord Uuid}
  {session_id : Uuid}

def next_sequence (bucket : List (SessionEventRecord Uuid)) : Nat :=
  bucket.getLast?.elim 0 fun last => last.sequence + 1

omit [DecidableEq Uuid] in
theorem sequenceError_eq_none {bucket : List (SessionEventRecord Uuid)} {sequence : Nat} :
    sequenceError bucket sequence = none ↔ sequence = next_sequence bucket := by
  unfold sequenceError next_sequence
  cases bucket.getLast? with
  | none => simp
  | some last => simp [eq_comm]

/-- What `save_event` checks. -/
structure Accepts (s : InMemorySessionPersistence Uuid) (record : SessionEventRecord Uuid) :
    Prop where
  id_free : s.events.get? record.event_id = none
  key_free : ∀ key, record.idempotency_key = some key →
    s.events_by_idempotency_key.get? (record.session_id, key) = none
  next : record.sequence = next_sequence (s.log record.session_id)

/-- Two stores with the same rows. The buckets may differ in empty ones. -/
structure Same (s t : InMemorySessionPersistence Uuid) : Prop where
  sessions : t.sessions = s.sessions
  events : t.events = s.events
  keyed : t.events_by_idempotency_key = s.events_by_idempotency_key
  log : ∀ session_id, t.log session_id = s.log session_id
  correlations : t.correlations = s.correlations

theorem Same.refl (s : InMemorySessionPersistence Uuid) : Same s s :=
  ⟨rfl, rfl, rfl, fun _ => rfl, rfl⟩

theorem Same.row {s t : InMemorySessionPersistence Uuid} (h : Same s t) (session_id : Uuid) :
    t.row session_id = s.row session_id := by
  unfold InMemorySessionPersistence.row
  rw [h.sessions]

theorem log_withBucket (s : InMemorySessionPersistence Uuid) (a b : Uuid) :
    (s.withBucket a).log b = s.log b := by
  unfold withBucket
  by_cases hab : a = b
  · subst hab
    simp [log]
  · simp [log, Dict.get?_set_ne _ _ hab]

theorem same_withBucket (s : InMemorySessionPersistence Uuid) (session_id : Uuid) :
    Same s (s.withBucket session_id) :=
  ⟨rfl, rfl, rfl, log_withBucket s session_id, rfl⟩

theorem keyTaken_eq_false : s.keyTaken record = false ↔
    ∀ key, record.idempotency_key = some key →
      s.events_by_idempotency_key.get? (record.session_id, key) = none := by
  unfold keyTaken
  cases record.idempotency_key with
  | none => simp
  | some key => simp

section

variable [Stdlib Uuid]

theorem save_event_ok (h : Accepts s record) : s.save_event record = (.ok (), s.stored record) := by
  unfold save_event
  have hkey := keyTaken_eq_false.mpr h.key_free
  have hsequence := sequenceError_eq_none.mpr h.next
  rw [h.id_free, hkey, hsequence]
  rfl

theorem save_event_error (h : ¬ Accepts s record) :
    (∃ message, (s.save_event record).1 = .error (.persistence_error message)) ∧
      Same s (s.save_event record).2 := by
  unfold save_event
  split
  · exact ⟨⟨_, rfl⟩, Same.refl s⟩
  rename_i hid
  split
  · exact ⟨⟨_, rfl⟩, Same.refl s⟩
  rename_i hkey
  split
  · exact ⟨⟨_, rfl⟩, same_withBucket s _⟩
  rename_i hsequence
  exact absurd ⟨by simpa using hid, keyTaken_eq_false.mp (by simpa using hkey),
    sequenceError_eq_none.mp hsequence⟩ h

end

/-- What `save_session` checks. -/
def Newer (s : InMemorySessionPersistence Uuid) (record : SessionRecord Uuid) : Prop :=
  ∀ existing, s.row record.session_id = some existing → existing.revision < record.revision

@[simp] theorem log_saved (s : InMemorySessionPersistence Uuid) (record : SessionRecord Uuid)
    (session_id : Uuid) : (s.saved record).log session_id = s.log session_id := rfl

theorem row_saved_self (s : InMemorySessionPersistence Uuid) (record : SessionRecord Uuid) :
    (s.saved record).row record.session_id = some record := Dict.get?_set_self _ _ _

theorem row_saved_ne (s : InMemorySessionPersistence Uuid) {record : SessionRecord Uuid}
    {session_id : Uuid} (h : session_id ≠ record.session_id) :
    (s.saved record).row session_id = s.row session_id := Dict.get?_set_ne _ _ (Ne.symm h)

@[simp] theorem row_stored (s : InMemorySessionPersistence Uuid)
    (record : SessionEventRecord Uuid) (session_id : Uuid) :
    (s.stored record).row session_id = s.row session_id := rfl

theorem save_session_ok {record : SessionRecord Uuid} (h : s.Newer record) :
    s.save_session record = (.ok record, s.saved record) := by
  unfold save_session
  split
  · rename_i existing hrow
    rw [if_neg (not_le.mpr (h existing hrow))]
  · rfl

theorem save_session_error {record : SessionRecord Uuid} (h : ¬ s.Newer record) :
    ∃ message, s.save_session record = (.error (.persistence_error message), s) := by
  unfold Newer at h
  simp only [not_forall, not_lt] at h
  obtain ⟨existing, hrow, hle⟩ := h
  unfold save_session
  rw [show s.sessions.get? record.session_id = some existing from hrow]
  exact ⟨_, if_pos hle⟩

/-! ## The tables agree -/

/-- The tables of a store tell the same story. -/
structure Indexed (s : InMemorySessionPersistence Uuid) : Prop where
  rows : ∀ session_id record, s.row session_id = some record → record.session_id = session_id
  own : ∀ session_id, ∀ e ∈ s.log session_id, e.session_id = session_id
  sequences : ∀ session_id, (s.log session_id).map SessionEventRecord.sequence =
    List.range (s.log session_id).length
  events : ∀ event_id e, s.events.get? event_id = some e ↔
    e ∈ s.log e.session_id ∧ e.event_id = event_id
  keyed : ∀ session_id key e, s.events_by_idempotency_key.get? (session_id, key) = some e ↔
    e ∈ s.log session_id ∧ e.idempotency_key = some key

theorem indexed_new : (new : InMemorySessionPersistence Uuid).Indexed where
  rows _ _ h := by cases h
  own _ _ h := by cases h
  sequences _ := rfl
  events _ _ := ⟨fun h => (by cases h), fun h => (by cases h.1)⟩
  keyed _ _ _ := ⟨fun h => (by cases h), fun h => (by cases h.1)⟩

theorem Indexed.same {t : InMemorySessionPersistence Uuid} (h : s.Indexed) (hst : Same s t) :
    t.Indexed where
  rows id record hrow := h.rows id record (by rw [← hst.row]; exact hrow)
  own id e he := h.own id e (by rw [← hst.log]; exact he)
  sequences id := by rw [hst.log]; exact h.sequences id
  events id e := by rw [hst.events, hst.log]; exact h.events id e
  keyed id key e := by rw [hst.keyed, hst.log]; exact h.keyed id key e

theorem log_stored (s : InMemorySessionPersistence Uuid) (record : SessionEventRecord Uuid)
    (session_id : Uuid) : (s.stored record).log session_id =
      if record.session_id = session_id then s.log session_id ++ [record] else s.log session_id := by
  unfold stored log
  rw [Dict.get?_set]
  split
  · rename_i h
    subst h
    rfl
  · rfl

theorem log_stored_self (s : InMemorySessionPersistence Uuid) (record : SessionEventRecord Uuid) :
    (s.stored record).log record.session_id = s.log record.session_id ++ [record] := by
  rw [log_stored, if_pos rfl]

variable {e : SessionEventRecord Uuid}

theorem mem_log_stored :
    e ∈ (s.stored record).log session_id ↔
      e ∈ s.log session_id ∨ (e = record ∧ record.session_id = session_id) := by
  rw [log_stored]
  split
  · rename_i h
    simp [h]
  · rename_i h
    simp [h]

theorem Indexed.sequence_eq (h : s.Indexed) {n : Nat} (he : (s.log session_id)[n]? = some e) :
    e.sequence = n := by
  have hmap := congrArg (fun l => l[n]?) (h.sequences session_id)
  simp only [List.getElem?_map, he, Option.map_some] at hmap
  obtain ⟨hlt, -⟩ := List.getElem?_eq_some_iff.mp he
  rw [List.getElem?_range hlt] at hmap
  exact Option.some.inj hmap

theorem Indexed.sequence_lt (h : s.Indexed) (he : e ∈ s.log session_id) :
    e.sequence < (s.log session_id).length := by
  obtain ⟨n, hlt, hn⟩ := List.mem_iff_getElem.mp he
  rw [h.sequence_eq (List.getElem?_eq_some_iff.mpr ⟨hlt, hn⟩)]
  exact hlt

theorem Indexed.next_sequence (h : s.Indexed) (session_id : Uuid) :
    InMemorySessionPersistence.next_sequence (s.log session_id) = (s.log session_id).length := by
  have hmap := h.sequences session_id
  unfold InMemorySessionPersistence.next_sequence
  rcases List.eq_nil_or_concat (s.log session_id) with hnil | ⟨init, last, hcons⟩
  · rw [hnil]
    rfl
  · rw [List.concat_eq_append] at hcons
    rw [hcons] at hmap ⊢
    simp only [List.map_append, List.map_cons, List.map_nil, List.length_append,
      List.length_cons, List.length_nil, List.range_succ] at hmap
    have hlast := List.append_inj_right' hmap rfl
    simp only [List.cons.injEq, and_true] at hlast
    simp [hlast]

theorem Indexed.stored (h : s.Indexed) (ha : Accepts s record) : (s.stored record).Indexed where
  rows := h.rows
  own id e he := by
    rcases mem_log_stored.mp he with he | ⟨rfl, hid⟩
    · exact h.own id e he
    · exact hid
  sequences id := by
    rw [log_stored]
    split
    · rename_i hid
      subst hid
      have hnext := ha.next
      rw [h.next_sequence] at hnext
      simp [h.sequences, hnext, List.range_succ]
    · exact h.sequences id
  events id e := by
    rw [mem_log_stored]
    unfold InMemorySessionPersistence.stored
    simp only [Dict.get?_set]
    by_cases hid : record.event_id = id
    · rw [if_pos hid]
      constructor
      · intro he
        cases he
        exact ⟨Or.inr ⟨rfl, rfl⟩, hid⟩
      · rintro ⟨he | ⟨rfl, -⟩, hide⟩
        · have hget := (h.events id e).mpr ⟨he, hide⟩
          rw [← hid, ha.id_free] at hget
          cases hget
        · rfl
    · rw [if_neg hid, h.events]
      constructor
      · rintro ⟨he, hide⟩
        exact ⟨Or.inl he, hide⟩
      · rintro ⟨he | ⟨rfl, -⟩, hide⟩
        · exact ⟨he, hide⟩
        · exact absurd hide hid
  keyed id key e := by
    rw [mem_log_stored]
    unfold InMemorySessionPersistence.stored
    cases hkey : record.idempotency_key with
    | none =>
      simp only [Option.elim_none]
      rw [h.keyed]
      constructor
      · rintro ⟨he, hk⟩
        exact ⟨Or.inl he, hk⟩
      · rintro ⟨he | ⟨rfl, -⟩, hk⟩
        · exact ⟨he, hk⟩
        · rw [hkey] at hk
          cases hk
    | some taken =>
      simp only [Option.elim_some, Dict.get?_set]
      by_cases heq : (record.session_id, taken) = (id, key)
      · rw [if_pos heq]
        obtain ⟨rfl, rfl⟩ := Prod.mk.inj heq
        constructor
        · intro he
          cases he
          exact ⟨Or.inr ⟨rfl, rfl⟩, hkey⟩
        · rintro ⟨he | ⟨rfl, -⟩, hk⟩
          · have hget := (h.keyed _ _ e).mpr ⟨he, hk⟩
            rw [ha.key_free _ hkey] at hget
            cases hget
          · rfl
      · rw [if_neg heq, h.keyed]
        constructor
        · rintro ⟨he, hk⟩
          exact ⟨Or.inl he, hk⟩
        · rintro ⟨he | ⟨rfl, hid⟩, hk⟩
          · exact ⟨he, hk⟩
          · rw [hkey] at hk
            cases hk
            exact absurd (by rw [hid]) heq

theorem Indexed.saved (h : s.Indexed) (record : SessionRecord Uuid) : (s.saved record).Indexed := by
  refine ⟨fun id r hrow => ?_, h.own, h.sequences, h.events, h.keyed⟩
  rcases Dict.get?_set_cases hrow with ⟨rfl, rfl⟩ | ⟨-, hrow⟩
  · rfl
  · exact h.rows id r hrow

theorem Indexed.save_event [Stdlib Uuid] (h : s.Indexed) (record : SessionEventRecord Uuid) :
    (s.save_event record).2.Indexed := by
  by_cases ha : Accepts s record
  · rw [save_event_ok ha]
    exact h.stored ha
  · exact h.same (save_event_error ha).2

theorem log_save_correlation [Stdlib Uuid] (record : SessionCorrelationRecord Uuid)
    (session_id : Uuid) : (s.save_correlation record).2.log session_id = s.log session_id := by
  unfold InMemorySessionPersistence.save_correlation
  split
  · rfl
  · rfl

theorem row_save_correlation [Stdlib Uuid] (record : SessionCorrelationRecord Uuid)
    (session_id : Uuid) : (s.save_correlation record).2.row session_id = s.row session_id := by
  unfold InMemorySessionPersistence.save_correlation
  split
  · rfl
  · rfl

theorem Indexed.save_correlation [Stdlib Uuid] (h : s.Indexed)
    (record : SessionCorrelationRecord Uuid) : (s.save_correlation record).2.Indexed := by
  unfold InMemorySessionPersistence.save_correlation
  split
  · exact h
  · exact ⟨h.rows, h.own, h.sequences, h.events, h.keyed⟩

end InMemorySessionPersistence

end operious.session
