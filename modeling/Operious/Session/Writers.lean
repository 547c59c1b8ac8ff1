-- Runtimes, merges and other writers of records, side by side on one store.
import Operious.Session.Copies
import Operious.Session.Merge

namespace operious.session

open awaits InMemorySessionPersistence

variable {Uuid : Type}

/-! ## The calls -/

inductive MergeCall (Uuid : Type)
  | flag_merge_candidate (session_id : Uuid) (prior_session_id customer_identity_id : String)
      (prior_channel prior_category match_field : Option String) (stamp : MergeStamp Uuid)
  | record_confirmation_sent (session_id : Uuid) (confirmation_text : String)
      (stamp : MergeStamp Uuid)
  | handle_confirmation_response (session_id : Uuid) (customer_text tenant_id : String)
      (stamp : MergeStamp Uuid)

/-- What another writer puts into a record that it has read. -/
structure Amendment (Uuid : Type) where
  context_environment : Option String
  context_labels : List String
  context_attributes : Payload
  context_notes : Option String
  metadata : Payload
  customer_identity_id : Option Uuid

/-- `replace(record, ..., revision=record.revision + 1)`. -/
def SessionRecord.amended (record : SessionRecord Uuid) (amendment : Amendment Uuid) :
    SessionRecord Uuid :=
  { record with
    context_environment := amendment.context_environment
    context_labels := amendment.context_labels
    context_attributes := amendment.context_attributes
    context_notes := amendment.context_notes
    metadata := amendment.metadata
    customer_identity_id := amendment.customer_identity_id
    revision := record.revision + 1 }

inductive SessionCall (Uuid : Type)
  | runtime (call : RuntimeCall Uuid)
  | merge (call : MergeCall Uuid)
  | amend (session_id : Uuid) (amendment : SessionRecord Uuid → Amendment Uuid)

section

variable [Builtins Uuid] [Stdlib Uuid]

def MergeCall.session_id : MergeCall Uuid → Uuid
  | flag_merge_candidate session_id _ _ _ _ _ _ => session_id
  | record_confirmation_sent session_id _ _ => session_id
  | handle_confirmation_response session_id _ _ _ => session_id

def MergeCall.on (session : SessionRecord Uuid) : MergeCall Uuid → Coroutine Uuid Unit
  | flag_merge_candidate _ prior_session_id customer_identity_id prior_channel prior_category
      match_field stamp => do
    let _ ← operious.session.flag_merge_candidate session prior_session_id customer_identity_id
      prior_channel prior_category match_field stamp
  | record_confirmation_sent _ confirmation_text stamp => do
    let _ ← operious.session.record_confirmation_sent session confirmation_text stamp
  | handle_confirmation_response _ customer_text tenant_id stamp => do
    let _ ← operious.session.handle_confirmation_response session customer_text tenant_id stamp

def MergeCall.coroutine (call : MergeCall Uuid) : Coroutine Uuid Unit := do
  match ← get_session call.session_id none with
  | none => pure ()
  | some session => call.on session

def amend (session_id : Uuid) (amendment : SessionRecord Uuid → Amendment Uuid) :
    Coroutine Uuid Unit := do
  match ← get_session session_id none with
  | none => pure ()
  | some record => let _ ← save_session (record.amended (amendment record))

variable [DecidableEq Uuid]

def SessionCall.coroutine : SessionCall Uuid → Coroutine Uuid Unit
  | runtime call => do let _ ← call.coroutine
  | merge call => call.coroutine
  | amend session_id amendment => operious.session.amend session_id amendment

def SessionCall.task (call : SessionCall Uuid) :
    Task (Call Uuid) Call.Answer (Except SessionException Unit) := call.coroutine.run

end

/-! ## They keep to the protocol of the copies -/

section

variable [DecidableEq Uuid] [Stdlib Uuid] {i : Nat} {x : World Uuid × Unit}

omit [Stdlib Uuid] in
theorem Fits.next {s : InMemorySessionPersistence Uuid} {r r' : SessionRecord Uuid}
    (h : Fits s r) (hvalid : r'.Valid) (hid : r'.session_id = r.session_id)
    (hhead : r'.sequence_head = r.sequence_head) (hrevision : r'.revision = r.revision + 1) :
    Fits s r' := by
  refine ⟨hvalid, by omega, ?_, ?_⟩
  · rw [hhead]
    exact h.head_nonneg
  · rw [hhead, hid]
    exact h.head_lt

omit [DecidableEq Uuid] [Stdlib Uuid] in
theorem SessionRecord.Valid.with_attributes {r : SessionRecord Uuid} (h : r.Valid)
    (attributes : Payload) : (with_attributes r attributes).Valid :=
  ⟨h.handle_nonempty, h.acyclic, h.depth_eq, h.parent_last, h.own_root, h.opened_aware, h.head_ge⟩

omit [DecidableEq Uuid] [Stdlib Uuid] in
theorem SessionRecord.Valid.with_customer {r : SessionRecord Uuid} (h : r.Valid)
    (customer : Option Uuid) (revision : Nat) :
    ({ r with customer_identity_id := customer, revision := revision } :
      SessionRecord Uuid).Valid :=
  ⟨h.handle_nonempty, h.acyclic, h.depth_eq, h.parent_last, h.own_root, h.opened_aware, h.head_ge⟩

omit [Stdlib Uuid] in
theorem Fits.with_attributes {s : InMemorySessionPersistence Uuid} {r : SessionRecord Uuid}
    (h : Fits s r) (attributes : Payload) : Fits s (with_attributes r attributes) :=
  h.next (h.valid.with_attributes attributes) rfl rfl rfl

theorem keeps_get_session (session_id : Uuid) (tenant : Option String) :
    Keeps copiesProtocol i (get_session session_id tenant)
      (fun found t => ∀ r, found = some r → Fits t.1.store r ∧
        ∃ row, t.1.store.row r.session_id = some row) x := by
  refine Keeps.read trivial (fun _ => rfl) ?_ ?_
  · intro found t u hu h r hr
    obtain ⟨hfits, row, hrow⟩ := h r hr
    obtain ⟨row', hrow', -⟩ := (hu.moves _).row row hrow
    exact ⟨hfits.grown (hu.moves _), row', hrow'⟩
  · intro t found ht hfound r hr
    subst hr
    have hget : t.1.store.get_session session_id tenant = some r := Except.ok.inj hfound
    unfold InMemorySessionPersistence.get_session at hget
    have hrow : t.1.store.row session_id = some r := (Option.filter_eq_some_iff.mp hget).1
    have hsane : Sane t.1 := ht.inv
    refine ⟨hsane.rows session_id r hrow, r, ?_⟩
    rw [hsane.indexed.rows session_id r hrow]
    exact hrow

variable {idempotency_key : String}

omit [DecidableEq Uuid] [Stdlib Uuid] in
theorem merge_event_model (session : SessionRecord Uuid) (event_type : String) (payload : Payload)
    (hkey : idempotency_key ≠ "") (sequence : Nat) (stamp : MergeStamp Uuid) : ∃ event,
      event_to_record event =
        merge_event session event_type payload idempotency_key sequence stamp :=
  ⟨⟨stamp.event_id, session.session_id, sequence, .operational_observation, .synchronous,
    .utc stamp.recorded_at, .utc stamp.recorded_at,
    (Dict.ofList [("event_type", .str event_type)]).update payload.items, none, some event_type,
    some idempotency_key, rfl, rfl, by simpa using hkey⟩, rfl⟩

theorem keeps_append_merge_event (session : SessionRecord Uuid) (event_type : String)
    (payload : Payload) (hkey : idempotency_key ≠ "") (stamp : MergeStamp Uuid) (hsane : Sane x.1)
    (hrow : ∃ row, x.1.store.row session.session_id = some row) :
    Keeps copiesProtocol i
      (append_merge_event session event_type payload idempotency_key stamp)
      (fun _ _ => True) x := by
  apply Keeps.swallow hsane
  refine Keeps.bind (Q := fun _ _ => True) hsane
    (Keeps.read trivial (fun _ => rfl) (fun _ _ _ _ _ => trivial) fun _ _ _ _ => trivial) ?_
  intro found t ht _ hgrown _
  cases found with
  | some _ => exact Keeps.pure trivial fun _ _ => trivial
  | none =>
    refine Keeps.bind (Q := fun _ _ => True) ht
      (Keeps.read trivial (fun _ => rfl) (fun _ _ _ _ _ => trivial) fun _ _ _ _ => trivial) ?_
    intro events u hu _ hgrown' _
    obtain ⟨row, hrow⟩ := hrow
    obtain ⟨row', hrow', -⟩ := (hgrown _).row row hrow
    obtain ⟨row'', hrow'', -⟩ := (hgrown' _).row row' hrow'
    exact Keeps.weaken
      (keeps_save_event (merge_event_model session event_type payload hkey _ stamp)
        ⟨row'', hrow''⟩) fun _ _ _ _ => trivial

theorem keeps_save_merge_state {write : MergeWrite Uuid} (hkey : write.idempotency_key ≠ "")
    (stamp : MergeStamp Uuid) (hsane : Sane x.1) (hfits : Fits x.1.store write.updated) :
    Keeps copiesProtocol i (save_merge_state write stamp) (fun _ _ => True) x := by
  refine Keeps.bind hsane (keeps_save_session hfits) ?_
  rintro saved t ht _ - ⟨rfl, row, hrow, -⟩
  refine Keeps.bind ht
    (keeps_append_merge_event _ write.event_type write.payload hkey stamp ht ⟨row, hrow⟩) ?_
  exact fun _ _ _ _ _ _ => Keeps.pure trivial fun _ _ => trivial

variable [Builtins Uuid]

variable {session : SessionRecord Uuid}

theorem keeps_flag_merge_candidate (prior_session_id customer_identity_id : String)
    (prior_channel prior_category match_field : Option String) (stamp : MergeStamp Uuid)
    (hsane : Sane x.1) (hfits : Fits x.1.store session) :
    Keeps copiesProtocol i
      (flag_merge_candidate session prior_session_id customer_identity_id prior_channel
        prior_category match_field stamp) (fun _ _ => True) x := by
  unfold flag_merge_candidate
  apply Keeps.compute trivial
  intro merged _
  split
  · exact Keeps.pure trivial fun _ _ => trivial
  apply Keeps.compute trivial
  intro candidate _
  split
  · exact Keeps.pure trivial fun _ _ => trivial
  apply Keeps.compute trivial
  intro awaiting _
  split
  · exact Keeps.pure trivial fun _ _ => trivial
  apply Keeps.tryCatch hsane
  · exact keeps_save_merge_state (by simp [candidate_write, EVT_MERGE_CANDIDATE_FLAGGED]) stamp hsane
      (hfits.with_attributes _)
  · exact fun _ _ _ _ _ => Keeps.pure trivial fun _ _ => trivial

theorem keeps_record_confirmation_sent (confirmation_text : String) (stamp : MergeStamp Uuid)
    (hsane : Sane x.1) (hfits : Fits x.1.store session) :
    Keeps copiesProtocol i (record_confirmation_sent session confirmation_text stamp)
      (fun _ _ => True) x := by
  unfold record_confirmation_sent
  apply Keeps.compute trivial
  intro candidate _
  split
  swap
  · exact Keeps.pure trivial fun _ _ => trivial
  apply Keeps.tryCatch hsane
  · apply Keeps.compute trivial
    intro state _
    exact keeps_save_merge_state (by simp [sent_write, EVT_MERGE_CONFIRMATION_SENT]) stamp hsane
      (hfits.with_attributes _)
  · exact fun _ _ _ _ _ => Keeps.pure trivial fun _ _ => trivial

omit [Stdlib Uuid] in
theorem keeps_load_prior_session [Stdlib Uuid] (prior_session_id tenant_id : String)
    (hsane : Sane x.1) :
    Keeps copiesProtocol i (load_prior_session prior_session_id tenant_id)
      (fun found t => ∀ r, found = some r → Fits t.1.store r) x := by
  unfold load_prior_session
  split
  · refine Keeps.pure trivial fun _ _ r hr => ?_
    cases hr
  apply Keeps.tryCatch hsane
  · apply Keeps.compute trivial
    intro id _
    exact Keeps.weaken (keeps_get_session id _) fun _ _ _ h r hr => (h r hr).1
  · intro e t _ _ _
    refine Keeps.pure trivial fun _ _ r hr => ?_
    cases hr

theorem keeps_stamp_prior_session {prior_session : Option (SessionRecord Uuid)}
    (customer_identity_id : String) (hsane : Sane x.1)
    (hfits : ∀ r, prior_session = some r → Fits x.1.store r) :
    Keeps copiesProtocol i (stamp_prior_session prior_session customer_identity_id)
      (fun _ _ => True) x := by
  unfold stamp_prior_session
  split
  · exact Keeps.pure trivial fun _ _ => trivial
  rename_i prior hprior
  have hfits := hfits prior (Option.filter_eq_some_iff.mp hprior).1
  apply Keeps.swallow hsane
  apply Keeps.compute trivial
  intro customer _
  refine Keeps.bind hsane
    (keeps_save_session (hfits.next (hfits.valid.with_customer _ _) rfl rfl rfl)) ?_
  exact fun _ _ _ _ _ _ => Keeps.pure trivial fun _ _ => trivial

theorem keeps_execute_merge (tenant_id : String) (stamp : MergeStamp Uuid) (hsane : Sane x.1)
    (hfits : Fits x.1.store session) :
    Keeps copiesProtocol i (execute_merge session tenant_id stamp) (fun _ _ => True) x := by
  unfold execute_merge
  apply Keeps.compute trivial
  intro merged _
  split
  · exact Keeps.pure trivial fun _ _ => trivial
  apply Keeps.compute trivial
  intro state _
  refine Keeps.bind hsane (keeps_load_prior_session _ tenant_id hsane) ?_
  intro found t ht _ hgrown hfound
  refine Keeps.bind ht (keeps_stamp_prior_session _ ht hfound) ?_
  intro _ u hu _ hgrown' _
  apply Keeps.compute trivial
  intro customer _
  have hfits := (hfits.grown (hgrown _)).grown (hgrown' _)
  refine Keeps.bind hu
    (keeps_save_merge_state (by simp [merged_write, EVT_MERGE_COMPLETED]) stamp hu
      (hfits.next ((hfits.valid.with_attributes _).with_customer _ _) rfl rfl rfl)) ?_
  exact fun _ _ _ _ _ _ => Keeps.pure trivial fun _ _ => trivial

theorem keeps_abandon_merge (decision : String) (stamp : MergeStamp Uuid) (hsane : Sane x.1)
    (hfits : Fits x.1.store session) :
    Keeps copiesProtocol i (abandon_merge session decision stamp) (fun _ _ => True) x := by
  unfold abandon_merge
  apply Keeps.compute trivial
  intro state _
  apply Keeps.tryCatch hsane
  · refine Keeps.bind hsane
      (keeps_save_merge_state (by simp [abandoned_write, EVT_MERGE_ABANDONED]) stamp hsane
        (hfits.with_attributes _)) ?_
    exact fun _ _ _ _ _ _ => Keeps.pure trivial fun _ _ => trivial
  · exact fun _ _ _ _ _ => Keeps.pure trivial fun _ _ => trivial

theorem keeps_act_on (decision : Option String) (tenant_id : String) (stamp : MergeStamp Uuid)
    (hsane : Sane x.1) (hfits : Fits x.1.store session) :
    Keeps copiesProtocol i (act_on decision session tenant_id stamp) (fun _ _ => True) x := by
  unfold act_on
  split
  · exact keeps_execute_merge tenant_id stamp hsane hfits
  · exact keeps_abandon_merge _ stamp hsane hfits

theorem keeps_handle_confirmation_response (customer_text tenant_id : String)
    (stamp : MergeStamp Uuid) (hsane : Sane x.1) (hfits : Fits x.1.store session) :
    Keeps copiesProtocol i (handle_confirmation_response session customer_text tenant_id stamp)
      (fun _ _ => True) x := by
  unfold handle_confirmation_response
  apply Keeps.compute trivial
  intro awaiting _
  cases awaiting with
  | false => exact Keeps.pure trivial fun _ _ => trivial
  | true =>
    rw [if_pos rfl]
    generalize parse_confirmation_response Uuid customer_text = decision
    apply Keeps.tryCatch hsane
    · exact keeps_act_on _ tenant_id stamp hsane hfits
    · exact fun _ _ _ _ _ => Keeps.pure trivial fun _ _ => trivial

theorem keeps_merge_call (call : MergeCall Uuid) (hsane : Sane x.1) :
    Keeps copiesProtocol i call.coroutine (fun _ _ => True) x := by
  unfold MergeCall.coroutine
  refine Keeps.bind hsane (keeps_get_session _ _) ?_
  intro found t ht _ _ hfound
  cases found with
  | none => exact Keeps.pure trivial fun _ _ => trivial
  | some session =>
    obtain ⟨hfits, -⟩ := hfound session rfl
    cases call with
    | flag_merge_candidate =>
      exact Keeps.bind ht (keeps_flag_merge_candidate _ _ _ _ _ _ ht hfits)
        fun _ _ _ _ _ _ => Keeps.pure trivial fun _ _ => trivial
    | record_confirmation_sent =>
      exact Keeps.bind ht (keeps_record_confirmation_sent _ _ ht hfits)
        fun _ _ _ _ _ _ => Keeps.pure trivial fun _ _ => trivial
    | handle_confirmation_response =>
      exact Keeps.bind ht (keeps_handle_confirmation_response _ _ _ ht hfits)
        fun _ _ _ _ _ _ => Keeps.pure trivial fun _ _ => trivial

theorem keeps_session_call (call : SessionCall Uuid) (hsane : Sane x.1) :
    Keeps copiesProtocol i call.coroutine (fun _ _ => True) x := by
  cases call with
  | runtime call =>
    exact Keeps.bind hsane (copiesDiscipline.keeps call hsane trivial)
      fun _ _ _ _ _ _ => Keeps.pure trivial fun _ _ => trivial
  | merge call => exact keeps_merge_call call hsane
  | amend session_id amendment =>
    refine Keeps.bind hsane (keeps_get_session _ _) ?_
    intro found t ht _ _ hfound
    cases found with
    | none => exact Keeps.pure trivial fun _ _ => trivial
    | some record =>
      obtain ⟨hfits, -⟩ := hfound record rfl
      have hvalid : (record.amended (amendment record)).Valid :=
        ⟨hfits.valid.handle_nonempty, hfits.valid.acyclic, hfits.valid.depth_eq,
          hfits.valid.parent_last, hfits.valid.own_root, hfits.valid.opened_aware,
          hfits.valid.head_ge⟩
      exact Keeps.bind ht (keeps_save_session (hfits.next hvalid rfl rfl rfl))
        fun _ _ _ _ _ _ => Keeps.pure trivial fun _ _ => trivial

end

/-! ## Pools of them -/

section

variable [DecidableEq Uuid] [Stdlib Uuid] [Builtins Uuid]

/-- Calls of all writers side by side. A call that has stopped between two steps stays in the pool. -/
abbrev SharedPool (Uuid : Type) :=
  Pool Nat (Call Uuid) Call.Answer (Except SessionException Unit) (World Uuid)

def SharedPool.Step (p q : SharedPool Uuid) : Prop :=
  Pool.Step (fun _ t => ∃ call : SessionCall Uuid, t = call.task) answers p q

/-- Some interleaving of calls leads from empty tables to the pool. -/
def SharedPool.Reached (p : SharedPool Uuid) : Prop :=
  Relation.ReflTransGen SharedPool.Step (Pool.idle World.new) p

variable {p : SharedPool Uuid}

theorem SharedPool.Reached.sane (h : p.Reached) : Sane p.world := by
  have hidle : Sound copiesProtocol answers (fun _ _ _ => True)
      (Pool.idle (World.new : World Uuid) : SharedPool Uuid) () :=
    Sound.idle sane_new fun _ => trivial
  obtain ⟨g, -, hsound⟩ := hidle.leads
    (by
      rintro i t x ⟨call, rfl⟩ hsane -
      exact Sat.weaken (keeps_session_call call hsane) fun _ _ _ _ => trivial) h
  exact hsound.inv

def SharedPool.alone (p : SharedPool Uuid) (i : Nat) (call : SessionCall Uuid) :
    SharedPool Uuid :=
  Pool.alone perform p i call.task

theorem SharedPool.Reached.alone {i : Nat} (h : p.Reached) (call : SessionCall Uuid)
    (free : p.tasks i = none) : (p.alone i call).Reached :=
  Relation.ReflTransGen.trans h (Pool.leads_alone free ⟨call, rfl⟩)

end

end operious.session
