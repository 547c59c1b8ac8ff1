-- Conversations side by side with all other writers of the same sessions: when each stored turn has
-- the id of its own sequence.
import Operious.Session.Conversation

namespace operious.session.conversation

open awaits operious.session runs

section

variable {Uuid : Type} [DecidableEq Uuid] [Stdlib Uuid]

/-! ## Calls that store no turn -/

def Silent : Call Uuid → Prop
  | .save_event record => isTurn record.kind = false
  | _ => True

variable {c : Call Uuid}

section

variable {α β : Type}

section

omit [DecidableEq Uuid] [Stdlib Uuid]

theorem silent_await (h : Silent c) : Calls Silent (operious.session.await c) :=
  ⟨h, fun _ => trivial⟩

theorem silent_compute {r : Except SessionException α} {f : α → Coroutine Uuid β}
    (hf : ∀ a, r = .ok a → Calls Silent (f a)) : Calls Silent (compute r >>= f) := by
  cases r with
  | error e => exact calls_throw e
  | ok a => exact hf a rfl

theorem silent_swallow {x : Coroutine Uuid Unit} (h : Calls Silent x) :
    Calls Silent (swallow x) := h.tryCatch fun _ => calls_pure ()

end

end

variable (runtime : SessionRuntime)

omit [DecidableEq Uuid] [Stdlib Uuid] in
theorem silent_register (session : OperationalSession Uuid) :
    Calls Silent (runtime.registry_register session) := silent_await trivial

omit [DecidableEq Uuid] [Stdlib Uuid] in
theorem silent_save_session (record : SessionRecord Uuid) :
    Calls Silent (save_session record) := silent_await trivial

theorem silent_load_session (session_id : Uuid)
    (tenant : Option String) : Calls Silent (runtime.load_session session_id tenant) := by
  unfold SessionRuntime.load_session
  refine Calls.bind (silent_await trivial) fun found => ?_
  cases found with
  | some cached =>
    dsimp only
    split
    · exact calls_throw _
    · exact calls_pure _
  | none =>
    refine Calls.bind (silent_await trivial) fun found => ?_
    cases found with
    | none => exact calls_throw _
    | some record =>
      exact silent_compute fun session _ =>
        (silent_swallow (silent_register runtime session)).bind fun _ => calls_pure _

theorem silent_open_session (request : OpenSessionRequest Uuid)
    (started_at : Instant) (generated : Uuid) (gate : CapabilityGateOutcome Uuid) :
    Calls Silent (runtime.open_session request started_at generated gate) := by
  unfold SessionRuntime.open_session
  cases gate.denial with
  | some reason => exact calls_throw _
  | none =>
    refine silent_compute fun session_id _ => ?_
    dsimp only
    split
    · exact calls_throw _
    refine silent_compute fun identity _ => Calls.bind ?_ fun lineage =>
      silent_compute fun session _ => silent_compute fun event hevent => ?_
    · unfold SessionRuntime.build_lineage
      cases request.parent_session_id with
      | none => exact calls_pure _
      | some parent =>
        exact (silent_load_session runtime parent none).bind fun _ => calls_done _
    · refine Calls.bind (silent_await trivial) fun saved => silent_compute fun saved_session _ =>
        Calls.bind (silent_await trivial) fun found => ?_
      cases found with
      | some _ => exact (silent_register runtime _).bind fun _ => calls_pure _
      | none =>
        have hkind : (event_to_record event).kind = .session_opened :=
          congrArg SessionEventRecord.kind (SessionTimelineEvent.new_eq_ok hevent)
        refine (silent_await ?_).bind fun _ => (silent_register runtime _).bind fun _ =>
          calls_pure _
        change isTurn (event_to_record event).kind = false
        rw [hkind]
        rfl

/-! ### Merges -/

omit [DecidableEq Uuid] [Stdlib Uuid] in
theorem silent_save_merge_state (write : MergeWrite Uuid) (stamp : MergeStamp Uuid) :
    Calls Silent (save_merge_state write stamp) := by
  unfold save_merge_state append_merge_event
  refine Calls.bind (silent_await trivial) fun saved => Calls.bind (silent_swallow ?_) fun _ =>
    calls_pure _
  refine Calls.bind (silent_await trivial) fun found => ?_
  cases found with
  | some _ => exact calls_pure ()
  | none => exact Calls.bind (silent_await trivial) fun events => silent_await rfl

variable [Builtins Uuid]

section

omit [DecidableEq Uuid]

theorem silent_execute_merge (session : SessionRecord Uuid) (tenant_id : String)
    (stamp : MergeStamp Uuid) : Calls Silent (execute_merge session tenant_id stamp) := by
  unfold execute_merge
  refine silent_compute fun merged _ => ?_
  split
  · exact calls_pure _
  refine silent_compute fun state _ => Calls.bind ?_ fun prior => Calls.bind ?_ fun _ =>
    silent_compute fun customer _ =>
      (silent_save_merge_state _ stamp).bind fun saved => calls_pure _
  · unfold load_prior_session
    split
    · exact calls_pure none
    · exact Calls.tryCatch (silent_compute fun id _ => silent_await trivial) fun _ =>
        calls_pure none
  · unfold stamp_prior_session
    split
    · exact calls_pure ()
    · exact silent_swallow (silent_compute fun customer _ =>
        (silent_save_session _).bind fun _ => calls_pure ())

theorem silent_act_on (decision : Option String) (session : SessionRecord Uuid)
    (tenant_id : String) (stamp : MergeStamp Uuid) :
    Calls Silent (act_on decision session tenant_id stamp) := by
  unfold act_on
  split
  · exact silent_execute_merge session tenant_id stamp
  · exact silent_compute fun state _ => Calls.tryCatch
      ((silent_save_merge_state _ stamp).bind fun _ => calls_pure _) fun _ => calls_pure _

theorem silent_merge (session : SessionRecord Uuid) (call : MergeCall Uuid) :
    Calls Silent (call.on session) := by
  cases call with
  | flag_merge_candidate _ prior_session_id customer_identity_id prior_channel prior_category
      match_field stamp =>
    refine Calls.bind ?_ fun _ => calls_pure ()
    unfold operious.session.flag_merge_candidate
    refine silent_compute fun merged _ => ?_
    split
    · exact calls_pure session
    refine silent_compute fun candidate _ => ?_
    split
    · exact calls_pure session
    refine silent_compute fun awaiting _ => ?_
    split
    · exact calls_pure session
    · exact (silent_save_merge_state _ stamp).tryCatch fun _ => calls_pure session
  | record_confirmation_sent _ confirmation_text stamp =>
    refine Calls.bind ?_ fun _ => calls_pure ()
    unfold operious.session.record_confirmation_sent
    refine silent_compute fun candidate _ => ?_
    split
    · exact Calls.tryCatch (silent_compute fun state _ => silent_save_merge_state _ stamp) fun _ =>
        calls_pure session
    · exact calls_pure session
  | handle_confirmation_response _ customer_text tenant_id stamp =>
    refine Calls.bind ?_ fun _ => calls_pure ()
    unfold operious.session.handle_confirmation_response
    refine silent_compute fun awaiting _ => ?_
    cases awaiting with
    | false => exact calls_pure _
    | true =>
      rw [if_pos rfl]
      generalize parse_confirmation_response Uuid customer_text = decision
      exact (silent_act_on decision session tenant_id stamp).tryCatch fun _ => calls_pure _

end

omit [DecidableEq Uuid] [Stdlib Uuid] [Builtins Uuid] in
theorem silent_amend (session_id : Uuid) (amendment : SessionRecord Uuid → Amendment Uuid) :
    Calls Silent (amend session_id amendment) := by
  unfold amend
  refine Calls.bind (silent_await trivial) fun found => ?_
  cases found with
  | none => exact calls_pure ()
  | some record => exact (silent_save_session _).bind fun _ => calls_pure ()

/-! ## The turns of a store -/

def Derived (s : InMemorySessionPersistence Uuid) : Prop :=
  ∀ id, ∀ e ∈ s.log id, isTurn e.kind = true →
    turn_id e = derive_conversation_turn_id Uuid (Stdlib.str id) e.sequence

/-- One event may be new, and it is the next one of its session. -/
inductive Logged (said : SessionEventRecord Uuid → Prop) (s t : InMemorySessionPersistence Uuid) :
    Prop
  | same (h : ∀ id, t.log id = s.log id)
  | added (e : SessionEventRecord Uuid) (hsaid : said e)
      (hnext : e.sequence = (s.log e.session_id).length)
      (h : ∀ id, t.log id = if e.session_id = id then s.log id ++ [e] else s.log id)

variable {said : SessionEventRecord Uuid → Prop}

omit [Stdlib Uuid] [Builtins Uuid] in
theorem logged_stored {s t : InMemorySessionPersistence Uuid} {e : SessionEventRecord Uuid}
    (hindexed : s.Indexed) (haccepts : s.Accepts e) (hsaid : said e)
    (h : ∀ id, t.log id = (s.stored e).log id) : Logged said s t := by
  refine .added e hsaid ?_ fun id => (h id).trans (InMemorySessionPersistence.log_stored s e id)
  exact haccepts.next.trans (hindexed.next_sequence e.session_id)

theorem Derived.logged {s t : InMemorySessionPersistence Uuid} (h : Derived s)
    (hlogged : Logged said s t)
    (hsaid : ∀ e, said e → e.sequence = (s.log e.session_id).length → isTurn e.kind = true →
      turn_id e = derive_conversation_turn_id Uuid (Stdlib.str e.session_id) e.sequence) :
    Derived t := by
  intro id e he hturn
  cases hlogged with
  | same hsame =>
    rw [hsame id] at he
    exact h id e he hturn
  | added e' hsaid' hnext hadded =>
    rw [hadded id] at he
    split at he
    · rename_i hid
      obtain he | he := List.mem_append.mp he
      · exact h id e he hturn
      · obtain rfl := List.mem_singleton.mp he
        rw [← hid]
        exact hsaid e hsaid' hnext hturn
    · exact h id e he hturn

/-! ### Calls that run alone -/

/-- No turn of `t` is new. -/
def SameTurns (s t : InMemorySessionPersistence Uuid) : Prop :=
  ∀ id, ∀ e ∈ t.log id, isTurn e.kind = true → e ∈ s.log id

theorem Derived.sameTurns {s t : InMemorySessionPersistence Uuid} (h : Derived s)
    (hst : SameTurns s t) : Derived t :=
  fun id e he hturn => h id e (hst id e he hturn) hturn

omit [Builtins Uuid] in
theorem sameTurns_perform (hc : Silent c) (w : World Uuid) :
    SameTurns w.store (operious.session.perform c w).2.store := by
  cases c with
  | save_event record =>
    by_cases haccepts : w.store.Accepts record
    · rw [perform_save_event_ok haccepts]
      intro id e he hturn
      obtain he | ⟨rfl, -⟩ := InMemorySessionPersistence.mem_log_stored.mp he
      · exact he
      · exact absurd (hturn.symm.trans hc) (by decide)
    · obtain ⟨message, store, hs, hsame⟩ := perform_save_event_error haccepts
      rw [hs]
      intro id e he _
      rwa [← hsame.log id]
  | save_session record =>
    by_cases hnewer : w.store.Newer record
    · rw [perform_save_session_ok hnewer]
      exact fun _ _ he _ => he
    · obtain ⟨message, hs⟩ := perform_save_session_error hnewer
      rw [hs]
      exact fun _ _ he _ => he
  | save_correlation record =>
    simp only [operious.session.perform, InMemorySessionPersistence.save_correlation]
    split
    · exact fun _ _ he _ => he
    · exact fun _ _ he _ => he
  | get_session session_id tenant => exact fun _ _ he _ => he
  | get_event event_id tenant => exact fun _ _ he _ => he
  | get_event_by_idempotency_key session_id key => exact fun _ _ he _ => he
  | list_events query tenant => exact fun _ _ he _ => he
  | registry_get registry session_id => exact fun _ _ he _ => he
  | registry_register registry session => exact fun _ _ he _ => he
  | registry_update registry session => exact fun _ _ he _ => he

omit [Builtins Uuid] in
theorem sameTurns_run {α : Type} {t : Task (Call Uuid) Call.Answer α} (h : t.Only Silent)
    (w : World Uuid) : SameTurns w.store (run operious.session.perform t w).2.store := by
  refine h.run (I := fun w' : World Uuid => SameTurns w.store w'.store) ?_ fun _ _ he _ => he
  intro c w' hc hw' id e he hturn
  exact hw' id e (sameTurns_perform hc w' id e he hturn) hturn

variable {request : AppendEventRequest Uuid}

section

variable {w : World Uuid} {runtime : SessionRuntime} {started_at : Instant}

def Proposes (runtime : SessionRuntime) (started_at : Instant) (call : UpdateCall Uuid)
    (w : World Uuid) (e : SessionEventRecord Uuid) : Prop :=
  call.keyed w = none ∧ ∃ c p, runtime.copy w call.session_id = .ok c ∧
    call.propose started_at c = .ok p ∧ e = event_to_record p.event

omit [Builtins Uuid] in
theorem logged_update (hsane : Sane w) (runtime : SessionRuntime) (started_at : Instant)
    (call : UpdateCall Uuid) : Logged (Proposes runtime started_at call w) w.store
      (run operious.session.perform (call.on runtime started_at).task w).2.store := by
  have hran := ran_update hsane runtime started_at call
  generalize (run operious.session.perform (call.on runtime started_at).task w).1 = envelope at hran
  generalize (run operious.session.perform (call.on runtime started_at).task w).2.store = t at hran ⊢
  cases hran with
  | stopped e h => exact .same fun _ => rfl
  | replayed c event copy keyed => exact .same fun _ => rfl
  | recovered c session p copy keyed proposed accepts stale key =>
    exact logged_stored hsane.indexed accepts ⟨keyed, c, p, copy, proposed, rfl⟩ fun _ => rfl
  | wrote c p _ _ copy keyed proposed written =>
    have hsaid : Proposes runtime started_at call w (event_to_record p.event) :=
      ⟨keyed, c, p, copy, proposed, rfl⟩
    have hlog : ∀ id, ((with_correlation w.store p.correlation).stored
        (event_to_record p.event)).log id = (w.store.stored (event_to_record p.event)).log id := by
      intro id
      rw [InMemorySessionPersistence.log_stored, InMemorySessionPersistence.log_stored,
        log_with_correlation]
    cases written with
    | taken message htaken => exact .same fun _ => rfl
    | refused message _ _ _ same =>
      exact .same fun id => (same.log id).trans (log_with_correlation w.store p.correlation id)
    | half message _ accepts stale => exact logged_stored hsane.indexed accepts hsaid hlog
    | done _ accepts newer => exact logged_stored hsane.indexed accepts hsaid hlog

def kind_of (call : UpdateCall Uuid) : Option SessionEventKind :=
  match call with
  | .append_event request => some request.kind
  | _ => none

variable {c : OperationalSession Uuid} {p : Proposal Uuid}

omit [DecidableEq Uuid] [Builtins Uuid] in
theorem proposed_append (h : UpdateCall.propose started_at c (.append_event request) = .ok p) :
    p.event.kind = request.kind ∧ p.event.payload.get? "turn_id" =
      (request.payload.get? "turn_id").map canonicalize_payload := by
  obtain ⟨correlation_id, -, h⟩ := bind_eq_ok.mp h
  obtain ⟨_, -, h⟩ := bind_eq_ok.mp h
  obtain ⟨event, hevent, h⟩ := bind_eq_ok.mp h
  cases h
  have hfollows := build_next_event_follows hevent
  refine ⟨hfollows.kind_eq, ?_⟩
  have hget := hfollows.get? "turn_id" (by decide)
  rw [append_payload, Dict.get?_set_ne _ _ (by decide)] at hget
  exact hget

omit [DecidableEq Uuid] [Builtins Uuid] in
theorem proposed_other {call : UpdateCall Uuid} (hother : kind_of call = none)
    (h : call.propose started_at c = .ok p) : isTurn p.event.kind = false := by
  cases call with
  | append_event request => cases hother
  | record_lifecycle request =>
    simp only [UpdateCall.propose] at h
    split at h
    · cases h
    · obtain ⟨event, hevent, h⟩ := bind_eq_ok.mp h
      cases h
      rw [(build_next_event_follows hevent).kind_eq]
      generalize c.lifecycle.phase = current
      generalize request.phase = proposed
      cases current <;> cases proposed <;> rfl
  | record_context request =>
    obtain ⟨_, -, h⟩ := bind_eq_ok.mp h
    obtain ⟨event, hevent, h⟩ := bind_eq_ok.mp h
    cases h
    rw [(build_next_event_follows hevent).kind_eq]
    rfl
  | record_correlation request =>
    obtain ⟨_, -, h⟩ := bind_eq_ok.mp h
    obtain ⟨correlation, -, h⟩ := bind_eq_ok.mp h
    obtain ⟨event, hevent, h⟩ := bind_eq_ok.mp h
    cases h
    rw [(build_next_event_follows hevent).kind_eq]
    rfl

end

/-! ## Conversations and other writers -/

inductive Outcome
  | submitted (result : ConversationSubmitResult)
  | replied (turn : ConversationTurn)
  | answered (event : Option ConversationPhaseBEvent)

inductive TurnRequest
  | submit_message (runtime : SessionRuntime) (request : SubmitRequest)
  | record_operator_reply (runtime : SessionRuntime) (request : OperatorReplyRequest)
  | append_conversation_phase_b_turn (runtime : SessionRuntime) (request : PhaseBRequest)

def TurnRequest.coroutine : TurnRequest → Conversation Uuid Outcome
  | submit_message runtime request => do
    return .submitted (← conversation.submit_message runtime request)
  | record_operator_reply runtime request => do
    return .replied (← conversation.record_operator_reply runtime request)
  | append_conversation_phase_b_turn runtime request => do
    return .answered (← conversation.append_conversation_phase_b_turn runtime request)

def Plain : SessionCall Uuid → Prop
  | .runtime (.append_event _ request _) =>
    isTurn request.kind = true → request.payload.get? "turn_id" = none
  | _ => True

variable (Uuid) in
/-- A call of another writer. It runs from its start to its end. -/
structure OtherCall where
  call : SessionCall Uuid
  plain : Plain call

variable (Uuid) in
inductive Action
  | start (i : Nat) (request : TurnRequest)
  | resume (i : Nat)
  | other (call : OtherCall Uuid)

abbrev TurnPool (Uuid : Type) :=
  Pool Nat (TurnCall Uuid) TurnCall.Answer (Except String Outcome) (World Uuid)

variable [Backend]

def next (p : TurnPool Uuid) : Action Uuid → Option (TurnPool Uuid)
  | .start i request =>
    if (p.tasks i).isSome then none
    else some ⟨p.world, Function.update p.tasks i (some request.coroutine.run)⟩
  | .resume i =>
    match p.tasks i with
    | some (.await c k) =>
      some ⟨(perform c p.world).2, Function.update p.tasks i (some (k (perform c p.world).1))⟩
    | _ => none
  | .other other => some ⟨(run operious.session.perform other.call.task p.world).2, p.tasks⟩

/-- An append with a turn id is resumed when the id is the one of the next sequence: the id was made
from the text of the session's id, and no event was stored since the session was read. An append
whose key is taken stores nothing. -/
def unmoved (p : TurnPool Uuid) : Action Uuid → Bool
  | .resume i =>
    match p.tasks i with
    | some (.await (.append_event (some derivation) _ request _) _) =>
      ((UpdateCall.append_event request).keyed p.world).isSome ||
        derivation = ⟨Stdlib.str request.session_id,
          (p.world.store.log request.session_id).length⟩
    | _ => true
  | _ => true

/-! ### The appends of a conversation -/

def Carries : TurnCall Uuid → Prop
  | .append_event derivation _ request _ =>
    request.payload.get? "turn_id" = derivation.map fun d => .str (d.turn_id Uuid)
  | _ => True

variable {derivation : Option Derivation}

section carries

variable {α β : Type}

variable (self : SessionRuntime)

section

omit [DecidableEq Uuid] [Builtins Uuid] [Backend]

theorem carries_await {c : TurnCall Uuid} (h : Carries c) : Calls Carries (await c) :=
  ⟨h, fun _ => trivial⟩

theorem carries_require_session (sid : Uuid) (expected_tenant_id : String) :
    Calls Carries (require_session sid expected_tenant_id) := by
  refine Calls.bind (carries_await trivial) fun found => ?_
  cases found with
  | none => exact calls_throw _
  | some session => exact calls_pure session

theorem carries_append_turn_event (sid : Uuid) (kind : SessionEventKind)
    {payload : Payload} ( annotation : String) (moment : Moment)
    (h : payload.get? "turn_id" = derivation.map fun d => .str (d.turn_id Uuid)) :
    Calls Carries (append_turn_event self sid kind payload annotation derivation moment) := by
  refine Calls.bind (carries_await h) fun envelope => ?_
  cases envelope with
  | error e => exact calls_throw _
  | ok result => exact calls_pure result

end

omit [DecidableEq Uuid] [Backend] in
theorem carries_turn_from_append_result (result : SessionResult Uuid) (role : Role) :
    Calls Carries (turn_from_append_result result role) := by
  unfold turn_from_append_result
  split
  · exact calls_throw _
  · exact calls_pure _

section

omit [DecidableEq Uuid] [Stdlib Uuid] [Builtins Uuid] [Backend]

theorem customer_payload_turn_id (content source_language : String) (raw_content : Option String) :
    (customer_payload content source_language raw_content).get? "turn_id" = none := by
  have hplain : (Dict.ofList [("content", PayloadValue.str content),
      ("source_channel", .str "conversation_api"), ("ingress_id", .none),
      ("source_language", .str source_language)]).get? "turn_id" = none := by
    rw [Dict.get?_ofList (by simp)]
    rfl
  unfold customer_payload
  split
  · split
    · rw [Dict.get?_set_ne _ _ (by decide)]
      exact hplain
    · exact hplain
  · exact hplain

theorem assistant_payload_turn_id (content phase turn_id : String)
    (governance_decision_id execution_id : Option String) :
    (assistant_payload content phase turn_id governance_decision_id execution_id).get? "turn_id" =
      some (.str turn_id) := by
  rw [assistant_payload, Dict.get?_ofList (by simp)]
  rfl

theorem operator_payload_turn_id (content turn_id source_channel : String)
    (provider_message_id : Option String) :
    (operator_payload content turn_id source_channel provider_message_id).get? "turn_id" =
      some (.str turn_id) := by
  have hplain : (Dict.ofList [("content", PayloadValue.str content), ("turn_id", .str turn_id),
      ("author", .str "operator"), ("source_channel", .str source_channel)]).get? "turn_id" =
        some (.str turn_id) := by
    rw [Dict.get?_ofList (by simp)]
    rfl
  unfold operator_payload
  split
  · rw [Dict.get?_set_ne _ _ (by decide)]
    exact hplain
  · exact hplain

end

omit [DecidableEq Uuid] [Backend] in
theorem carries_append_assistant_turn (sid : Uuid)
    (content expected_tenant_id : String) (moment : Moment) :
    Calls Carries (append_assistant_turn self sid content expected_tenant_id moment) :=
  (carries_require_session sid expected_tenant_id).bind fun _ =>
    (carries_append_turn_event self sid _ _ moment (assistant_payload_turn_id ..)).bind fun result =>
      carries_turn_from_append_result result _

omit [DecidableEq Uuid] [Stdlib Uuid] [Backend] in
theorem carries_as_session_id [Stdlib Uuid] (session_id : String) :
    Calls Carries (as_session_id session_id : Conversation Uuid Uuid) := by
  unfold as_session_id
  split
  · exact calls_pure _
  · exact calls_throw _

omit [DecidableEq Uuid] [Builtins Uuid] [Backend] in
theorem carries_record_active (sid : Uuid) (started_at : Instant) :
    Calls Carries (record_active self sid started_at) := by
  refine Calls.bind (carries_await trivial) fun envelope => ?_
  cases envelope with
  | error e => exact calls_throw _
  | ok result => exact calls_pure ()

omit [DecidableEq Uuid] [Backend] in
theorem carries_phase_a_template (sid : Uuid) (expected_tenant_id : String) :
    Calls Carries (phase_a_template sid expected_tenant_id) := by
  have hlist : Calls Carries (await (.list_events sid expected_tenant_id)) := carries_await trivial
  exact hlist.bind fun _ => calls_pure _

omit [DecidableEq Uuid] [Backend] in
theorem carries_get_recent_turns (session_id expected_tenant_id : String) (limit : Int) :
    Calls Carries (get_recent_turns session_id expected_tenant_id limit :
      Conversation Uuid (List ConversationTurn)) := by
  refine (carries_as_session_id session_id).bind fun sid => ?_
  have hlist : Calls Carries (await (.list_events sid expected_tenant_id)) := carries_await trivial
  exact hlist.bind fun _ => calls_pure _

omit [DecidableEq Uuid] [Builtins Uuid] [Backend] in
theorem carries_require_non_empty_content (content : String) :
    Calls Carries (require_non_empty_content content : Conversation Uuid Unit) := by
  unfold require_non_empty_content
  split
  · exact calls_throw _
  · exact calls_pure ()

section

omit [DecidableEq Uuid] [Backend]

theorem carries_submit_message (request : SubmitRequest) :
    Calls Carries (submit_message self request : Conversation Uuid ConversationSubmitResult) := by
  unfold submit_message
  split
  · exact calls_throw _
  refine (carries_require_non_empty_content _).bind fun _ =>
    (carries_as_session_id request.session_id).bind fun sid => Calls.bind ?_ fun session => ?_
  · refine (carries_require_session sid _).bind fun session => ?_
    split
    · exact calls_throw _
    · exact calls_pure session
  refine Calls.bind ?_ fun _ => Calls.bind ?_ fun turn =>
    (carries_phase_a_template sid _).bind fun content =>
      (carries_append_assistant_turn self sid content _ _).bind fun phase_a_turn =>
        (carries_get_recent_turns request.session_id _ 20).bind fun history => ?_
  · split
    · exact carries_record_active self sid _
    · exact calls_pure ()
  · exact (carries_append_turn_event self sid _ _ _ (customer_payload_turn_id ..)).bind fun result =>
      carries_turn_from_append_result result _
  · refine Calls.bind ⟨trivial, fun _ => trivial⟩ fun answer => ?_
    split
    · exact calls_throw _
    · exact calls_pure _

theorem carries_record_operator_reply (request : OperatorReplyRequest) :
    Calls Carries (record_operator_reply self request : Conversation Uuid ConversationTurn) :=
  (carries_as_session_id request.session_id).bind fun sid =>
    (carries_require_non_empty_content _).bind fun _ =>
      (carries_require_session sid _).bind fun _ =>
        (carries_append_turn_event self sid _ _ _ (operator_payload_turn_id ..)).bind fun result =>
          carries_turn_from_append_result result _

theorem carries_phase_b (request : PhaseBRequest) :
    Calls Carries (append_conversation_phase_b_turn runtime request :
      Conversation Uuid (Option ConversationPhaseBEvent)) := by
  unfold append_conversation_phase_b_turn
  split
  · refine (carries_as_session_id request.session_id).bind fun sid => ?_
    have hget : Calls Carries (await (.get_session sid request.tenant_id)) := carries_await trivial
    refine hget.bind fun found => ?_
    cases found with
    | none => exact calls_pure none
    | some session =>
      refine Calls.bind (carries_await (assistant_payload_turn_id ..)) fun envelope => ?_
      cases envelope with
      | error e => exact calls_pure none
      | ok result => exact calls_pure _
  · exact calls_pure none

theorem carries_coroutine (request : TurnRequest) :
    Calls Carries (request.coroutine : Conversation Uuid Outcome) := by
  cases request with
  | submit_message runtime request =>
    exact (carries_submit_message runtime request).bind fun _ => calls_pure _
  | record_operator_reply runtime request =>
    exact (carries_record_operator_reply runtime request).bind fun _ => calls_pure _
  | append_conversation_phase_b_turn runtime request =>
    exact (carries_phase_b runtime request).bind fun _ => calls_pure _

end

end carries

/-! ### One step -/

section step

variable {w : World Uuid}

omit [Backend] in
theorem derived_append (hsane : Sane w) (h : Derived w.store) (runtime : SessionRuntime)
    (started_at : Instant)
    (hcarries : request.payload.get? "turn_id" = derivation.map fun d => .str (d.turn_id Uuid))
    (hunmoved : (UpdateCall.append_event request).keyed w = none → ∀ d, derivation = some d →
      d = ⟨Stdlib.str request.session_id, (w.store.log request.session_id).length⟩) :
    Derived (run operious.session.perform
      (RuntimeCall.append_event runtime request started_at).task w).2.store := by
  refine h.logged (logged_update hsane runtime started_at (.append_event request)) ?_
  rintro e ⟨hkeyed, c, p, hcopy, hpropose, rfl⟩ hnext -
  have hid : (event_to_record p.event).session_id = request.session_id :=
    (propose_extends hpropose).1.session_id.trans (copy_seen hsane hcopy).own
  rw [hid] at hnext
  have hget : (event_to_record p.event).payload.get? "turn_id" = derivation.map fun d =>
      .str (d.turn_id Uuid) := by
    refine (proposed_append hpropose).2.trans ?_
    rw [hcarries]
    cases derivation <;> rfl
  unfold turn_id getText
  rw [hget]
  cases derivation with
  | none => rfl
  | some d =>
    obtain rfl := hunmoved hkeyed d rfl
    simp only [Option.map_some]
    split
    · rename_i value hvalue
      obtain rfl := Option.some.inj (Option.filter_eq_some_iff.mp hvalue).1
      rw [hid, hnext]
      rfl
    · rfl

omit [Backend] in
theorem derived_other (hsane : Sane w) (h : Derived w.store) (other : OtherCall Uuid) :
    Derived (run operious.session.perform other.call.task w).2.store := by
  obtain ⟨call, hplain⟩ := other
  cases call with
  | merge call =>
    refine h.sameTurns (sameTurns_run ?_ w)
    refine Calls.bind (silent_await trivial) fun found => ?_
    cases found with
    | none => exact calls_pure ()
    | some session => exact silent_merge session call
  | amend session_id amendment => exact h.sameTurns (sameTurns_run (silent_amend _ _) w)
  | runtime call =>
    rw [runtime_call_store]
    have hupdate : ∀ (runtime : SessionRuntime) started_at (update : UpdateCall Uuid),
        kind_of update = none →
        Derived (run operious.session.perform (update.on runtime started_at).task w).2.store := by
      intro runtime started_at update hkind
      refine h.logged (logged_update hsane runtime started_at update) ?_
      rintro e ⟨-, c, p, -, hpropose, rfl⟩ - hturn
      exact absurd (hturn.symm.trans (proposed_other hkind hpropose)) (by decide)
    cases call with
    | open_session runtime request started_at generated gate =>
      exact h.sameTurns (sameTurns_run (silent_open_session runtime request started_at generated
        gate) w)
    | append_event runtime request started_at =>
      refine h.logged (logged_update hsane runtime started_at (.append_event request)) ?_
      rintro e ⟨-, c, p, -, hpropose, rfl⟩ - hturn
      obtain ⟨hkind, hget⟩ := proposed_append hpropose
      have hnone := hplain (hkind ▸ hturn)
      rw [hnone] at hget
      have hget' : (event_to_record p.event).payload.get? "turn_id" = none := hget
      unfold turn_id getText
      rw [hget']
      rfl
    | record_lifecycle runtime request started_at =>
      exact hupdate runtime started_at (.record_lifecycle request) rfl
    | record_context runtime request started_at =>
      exact hupdate runtime started_at (.record_context request) rfl
    | record_correlation runtime request started_at =>
      exact hupdate runtime started_at (.record_correlation request) rfl

end step

/-! ## Every run -/

def turns_of (log : List (SessionEventRecord Uuid)) : List ConversationTurn :=
  (log.filter fun e => isTurn e.kind).map (turn_from_event · none)

def beyond_page (log : List (SessionEventRecord Uuid)) : List (SessionEventRecord Uuid) :=
  match Backend.page_limit with
  | none => []
  | some limit => log.drop limit

/-- Each read of a session returns its last turns, and as many as were asked for if there are. -/
def ReadsLastTurns (w : World Uuid) (id : Uuid) (tenant : String) : Prop :=
  ∀ limit : Int, 0 < limit →
    recent_turns limit (page_of_events w id tenant) <:+ turns_of (w.store.log id) ∧
      (recent_turns limit (page_of_events w id tenant)).length =
        min limit.toNat (turns_of (w.store.log id)).length

structure TurnsKept (w : World Uuid) : Prop where
  derived : Derived w.store
  distinct : ∀ id id' e e', e ∈ w.store.log id → e' ∈ w.store.log id' → isTurn e.kind = true →
    isTurn e'.kind = true → turn_id e = turn_id e' → id = id' ∧ e.sequence = e'.sequence
  ordered : ∀ id, (turns_of (w.store.log id)).Pairwise fun a b => a.sequence < b.sequence
  read : ∀ id row tenant, w.store.row id = some row → row.tenant_id = some tenant →
    (ReadsLastTurns w id tenant ↔ ∀ e ∈ beyond_page (w.store.log id), isTurn e.kind = false)

omit [DecidableEq Uuid] [Builtins Uuid] [Backend] in
theorem derive_conversation_turn_id_inj [LawfulStdlib Uuid] {id id' : Uuid} {m n : Nat}
    (h : derive_conversation_turn_id Uuid (Stdlib.str id) m =
      derive_conversation_turn_id Uuid (Stdlib.str id') n) : id = id' ∧ m = n := by
  have hseed := LawfulStdlib.uuid5_inj _ (LawfulStdlib.str_inj h)
  have hlist := congrArg String.toList hseed
  simp only [String.toList_append, List.append_assoc] at hlist
  obtain ⟨hid, hsequence⟩ := cut_at_bar (LawfulStdlib.str_no_bar id) (LawfulStdlib.str_no_bar id')
    hlist
  exact ⟨LawfulStdlib.str_inj (String.toList_inj.mp hid),
    repr_inj (String.toList_inj.mp hsequence)⟩

variable {w : World Uuid}

omit [Backend] in
theorem ordered_turns (hindexed : w.store.Indexed) (id : Uuid) :
    (turns_of (w.store.log id)).Pairwise fun a b => a.sequence < b.sequence := by
  have hlog : (w.store.log id).Pairwise fun a b => a.sequence < b.sequence := by
    have hrange := List.pairwise_lt_range (n := (w.store.log id).length)
    rw [← hindexed.sequences id] at hrange
    exact List.pairwise_map.mp hrange
  exact List.pairwise_map.mpr (hlog.filter _)

omit [DecidableEq Uuid] [Stdlib Uuid] [Builtins Uuid] [Backend] in
theorem last_turns_spec {limit : Int} (hlimit : 0 < limit) (turns : List ConversationTurn) :
    last_turns limit turns <:+ turns ∧
      (last_turns limit turns).length = min limit.toNat turns.length := by
  unfold last_turns
  rw [if_pos hlimit]
  refine ⟨List.drop_suffix _ _, ?_⟩
  rw [List.length_drop]
  omega

theorem reads_last_turns_iff (hindexed : w.store.Indexed) {id : Uuid} {row : SessionRecord Uuid}
    {tenant : String} (hrow : w.store.row id = some row) (htenant : row.tenant_id = some tenant) :
    ReadsLastTurns w id tenant ↔ ∀ e ∈ beyond_page (w.store.log id), isTurn e.kind = false := by
  have hvisible : w.store.visible id (some tenant) = true := by
    unfold InMemorySessionPersistence.row at hrow
    simp [InMemorySessionPersistence.visible, hrow, htenant]
  have hpage : ∃ page, page_of_events w id tenant = page ∧
      page ++ beyond_page (w.store.log id) = w.store.log id := by
    unfold page_of_events beyond_page
    rw [list_events_all hindexed hvisible]
    cases Backend.page_limit with
    | none => exact ⟨_, rfl, List.append_nil _⟩
    | some limit => exact ⟨_, rfl, List.take_append_drop limit _⟩
  obtain ⟨page, hpage, hlog⟩ := hpage
  have hturns : turns_of (w.store.log id) =
      turns_of page ++ turns_of (beyond_page (w.store.log id)) := by
    unfold turns_of
    rw [← List.map_append, ← List.filter_append, hlog]
  have hnil : (∀ e ∈ beyond_page (w.store.log id), isTurn e.kind = false) ↔
      turns_of (beyond_page (w.store.log id)) = [] := by
    simp [turns_of]
  unfold ReadsLastTurns
  rw [hpage, hnil, hturns]
  constructor
  · intro h
    have hlimit : (0 : Int) < ((turns_of page ++
        turns_of (beyond_page (w.store.log id))).length : Int) + 1 := by omega
    obtain ⟨-, hlength⟩ := h _ hlimit
    have hread := (last_turns_spec hlimit (turns_of page)).2
    have heq := hread.symm.trans hlength
    simp only [List.length_append] at heq
    exact List.eq_nil_of_length_eq_zero (by omega)
  · intro h limit hlimit
    rw [h, List.append_nil]
    exact last_turns_spec hlimit (turns_of page)

/-- What holds of every state of a run: no task carries a turn id but the one of its derivation. -/
structure Kept (p : TurnPool Uuid) : Prop where
  sane : Sane p.world
  derived : Derived p.world.store
  tasks : ∀ i t, p.tasks i = some t → t.Only Carries

theorem Kept.perform {p : TurnPool Uuid} (h : Kept p) {i : Nat} {c : TurnCall Uuid}
    {k : c.Answer → Task (TurnCall Uuid) TurnCall.Answer (Except String Outcome)}
    (hwaits : p.tasks i = some (.await c k)) (hcarries : Carries c)
    (hunmoved : unmoved p (.resume i) = true) :
    Sane (perform c p.world).2 ∧ Derived (perform c p.world).2.store := by
  cases c with
  | get_session sid tenant => exact ⟨h.sane, h.derived⟩
  | list_events sid tenant => exact ⟨h.sane, h.derived⟩
  | request_diagnostic_execution request => exact ⟨h.sane, h.derived⟩
  | record_lifecycle runtime request started_at =>
    have hsane := sane_after h.sane (.runtime (.record_lifecycle runtime request started_at))
    have hderived := derived_other h.sane h.derived
      ⟨.runtime (.record_lifecycle runtime request started_at), trivial⟩
    rw [runtime_call_store] at hsane hderived
    exact ⟨hsane, hderived⟩
  | append_event derivation runtime request started_at =>
    have hsane := sane_after h.sane (.runtime (.append_event runtime request started_at))
    rw [runtime_call_store] at hsane
    refine ⟨hsane, derived_append h.sane h.derived runtime started_at hcarries ?_⟩
    rintro hkeyed d rfl
    simpa [unmoved, hwaits, hkeyed] using hunmoved

theorem Kept.next {p q : TurnPool Uuid} {action : Action Uuid} (h : Kept p)
    (hunmoved : unmoved p action = true) (hnext : next p action = some q) : Kept q := by
  cases action with
  | start i request =>
    simp only [conversation.next] at hnext
    split at hnext
    · cases hnext
    · obtain rfl := Option.some.inj hnext
      refine ⟨h.sane, h.derived, fun j t ht => ?_⟩
      rcases of_update_eq_some ht with ⟨-, rfl⟩ | ⟨-, ht⟩
      · exact carries_coroutine request
      · exact h.tasks j t ht
  | other other =>
    obtain rfl := Option.some.inj hnext
    exact ⟨sane_after h.sane other.call, derived_other h.sane h.derived other, h.tasks⟩
  | resume i =>
    simp only [conversation.next] at hnext
    split at hnext
    · rename_i c k hwaits
      obtain rfl := Option.some.inj hnext
      have honly := h.tasks i _ hwaits
      obtain ⟨hsane, hderived⟩ := h.perform hwaits honly.1 hunmoved
      refine ⟨hsane, hderived, fun j t ht => ?_⟩
      rcases of_update_eq_some ht with ⟨-, rfl⟩ | ⟨-, ht⟩
      · exact honly.2 _
      · exact h.tasks j t ht
    · cases hnext

theorem Kept.turns [LawfulStdlib Uuid] {p : TurnPool Uuid} (h : Kept p) : TurnsKept p.world where
  derived := h.derived
  distinct id id' e e' he he' hturn hturn' heq := by
    rw [h.derived id e he hturn, h.derived id' e' he' hturn'] at heq
    exact derive_conversation_turn_id_inj heq
  ordered := ordered_turns h.sane.indexed
  read _ _ _ hrow htenant := reads_last_turns_iff h.sane.indexed hrow htenant

def start : TurnPool Uuid := Pool.idle World.new

omit [Backend] in
theorem kept_start : Kept (start : TurnPool Uuid) := by
  refine ⟨sane_new, ?_, ?_⟩
  · intro id e he
    cases he
  · intro i t ht
    cases ht

/-- Along every run whose appends find no event stored since their reads, each stored turn has the id
of its own sequence, no two turns share one, and a read loses a turn only beyond its page. -/
theorem turns_kept_along [LawfulStdlib Uuid] {actions : List (Action Uuid)}
    (h : Meets next (fun p action => unmoved p action = true) start actions) :
    Along next (fun _ _ q => TurnsKept q.world) start actions := by
  refine along_when (I := Kept) (fun p action q hp hunmoved hnext => ?_) kept_start h
  have hq := hp.next hunmoved hnext
  exact ⟨hq, hq.turns⟩

end

/-! ## A reply with a message before it -/

/-- A store without a bound, and no diagnosis. -/
@[reducible] def sampleBackend : Backend where
  page_limit := none
  request_diagnostic_execution _ := .error "no requester"

attribute [local instance] sampleBackend

/-- A session of a tenant is opened. -/
def opened : OtherCall String := ⟨.runtime (sampleOpen 0 "s1"), trivial⟩

/-- A message of the customer comes in on another channel. -/
def ingested : OtherCall String :=
  ⟨.runtime (.append_event ⟨1⟩ (sampleAppend "s1" .customer_message none) 6), fun _ => rfl⟩

def sampleReply : TurnRequest :=
  .record_operator_reply ⟨2⟩
    { session_id := "s1"
      tenant_id := "acme"
      content := "We look into it."
      expected_tenant_id := "acme"
      source_channel := "console"
      provider_message_id := none
      replied_at := ⟨8, 9⟩ }

/-- The operator replies after the message. -/
def replyAfterMessage : List (Action String) :=
  [.other opened, .other ingested, .start 0 sampleReply, .resume 0, .resume 0]

/-- The message is stored between the read and the append of the reply. -/
def messageBeforeReply : List (Action String) :=
  [.other opened, .start 0 sampleReply, .resume 0, .other ingested, .resume 0]

theorem reply_after_message_kept :
    Along next (fun _ _ q => TurnsKept q.world) start replyAfterMessage :=
  turns_kept_along (by decide +kernel)

example : ((after next start replyAfterMessage).map fun q =>
    (turns_of (q.world.store.log "s1")).map fun turn => (turn.sequence, turn.content)) =
      some [(1, ""), (2, "We look into it.")] := by decide +kernel

/-- The reply has the id of the message. -/
theorem a_reply_has_the_id_of_a_message :
    ¬ ∀ actions : List (Action String),
      Along next (fun _ _ q => TurnsKept q.world) start actions := by
  intro h
  have hlast : (after next start messageBeforeReply).any fun q =>
      (q.world.store.log "s1").any fun e => isTurn e.kind &&
        turn_id e ≠ derive_conversation_turn_id String (Stdlib.str "s1") e.sequence := by
    decide +kernel
  obtain ⟨q, hq, hany⟩ := (Option.any_eq_true _ _).mp hlast
  obtain ⟨e, he, hcheck⟩ := List.any_eq_true.mp hany
  obtain ⟨hturn, hne⟩ := (Bool.and_eq_true _ _).mp hcheck
  have hsplit : messageBeforeReply =
      [.other opened, .start 0 sampleReply, .resume 0, .other ingested] ++ [.resume 0] := rfl
  have hrun := h messageBeforeReply
  rw [hsplit] at hrun hq
  rw [after_concat] at hq
  obtain ⟨p, hp, hnext⟩ := Option.bind_eq_some_iff.mp hq
  exact of_decide_eq_true hne ((hrun.last hp hnext).derived "s1" e he hturn)

end operious.session.conversation
