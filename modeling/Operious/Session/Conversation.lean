-- The live conversation of a session: the messages of the customer, the replies of an operator and
-- the answers of the assistant. Each of them is a turn, and a turn is one event of the timeline.
import Operious.Session.Usable

namespace operious.session.conversation

open awaits operious.session

variable {Uuid : Type}

/-! ## Turns -/

inductive Role
  | customer | assistant | operator
  deriving DecidableEq, Repr

structure ConversationTurn where
  turn_id : String
  sequence : Nat
  role : Role
  content : String
  timestamp : Datetime
  governance_decision_id : Option String
  execution_id : Option String

def isTurn (kind : SessionEventKind) : Bool :=
  kind = .customer_message || kind = .assistant_response

/-- `payload.get("author") == "operator"`. -/
def by_operator (payload : Payload) : Bool :=
  (payload.get? "author").any fun author => author.text? = some "operator"

section

variable [Stdlib Uuid]

def TURN_NAMESPACE : Uuid := Stdlib.uuid "c6f1fbdc-a31a-4e53-bc12-6c12f2de7801"

variable (Uuid) in
def derive_conversation_turn_id (session_id : String) (sequence : Int) : String :=
  Stdlib.str (Stdlib.uuid5 (TURN_NAMESPACE : Uuid) (session_id ++ "|" ++ sequence.repr))

variable [Builtins Uuid]

variable (Uuid) in
def optional_str : Option PayloadValue → Option String
  | none => none
  | some .none => none
  | some value => if value.str_ Uuid = "" then none else some (value.str_ Uuid)

def turn_id (event : SessionEventRecord Uuid) : String :=
  getText Uuid event.payload "turn_id"
    (derive_conversation_turn_id Uuid (Stdlib.str event.session_id) event.sequence)

def turn_from_event (event : SessionEventRecord Uuid) (role_override : Option Role) :
    ConversationTurn where
  turn_id := turn_id event
  sequence := event.sequence
  role := role_override.getD (
    if event.kind = .customer_message then .customer
    else if by_operator event.payload then .operator
    else .assistant)
  content := getText Uuid event.payload "content" ""
  timestamp := event.occurred_at
  governance_decision_id := optional_str Uuid (event.payload.get? "governance_decision_id")
  execution_id := optional_str Uuid (event.payload.get? "execution_id")

/-- `turns[-limit:]`. -/
def last_turns (limit : Int) (turns : List ConversationTurn) : List ConversationTurn :=
  turns.drop (if 0 < limit then turns.length - limit.toNat else (-limit).toNat)

/-- What `get_recent_turns` makes of a page of events. -/
def recent_turns (limit : Int) (events : List (SessionEventRecord Uuid)) : List ConversationTurn :=
  last_turns limit ((events.filter fun e => isTurn e.kind).map (turn_from_event · none))

end

/-! ## What the coroutines await

An append of the session runtime is one step here, with all that it reads and writes. -/

structure Derivation where
  session_id : String
  sequence : Int
  deriving DecidableEq, Repr

structure DiagnosticRequest where
  session_id : String
  tenant_id : String
  turn_id : String
  customer_message : String
  source_language : String
  conversation_history : List ConversationTurn

structure ConversationExecutionIntent where
  dispatch_id : String
  execution_id : String
  governance_decision_id : String
  deriving DecidableEq, Repr

/-- A call of a coroutine. The derivation of an append only says where its turn id comes from. -/
inductive TurnCall (Uuid : Type)
  | get_session (session_id : Uuid) (expected_tenant_id : String)
  | list_events (session_id : Uuid) (expected_tenant_id : String)
  | record_lifecycle (runtime : SessionRuntime) (request : RecordLifecycleRequest Uuid)
      (started_at : Instant)
  | append_event (derivation : Option Derivation) (runtime : SessionRuntime)
      (request : AppendEventRequest Uuid) (started_at : Instant)
  | request_diagnostic_execution (request : DiagnosticRequest)

@[reducible] def TurnCall.Answer : TurnCall Uuid → Type
  | get_session _ _ => Option (SessionRecord Uuid)
  | list_events _ _ => List (SessionEventRecord Uuid)
  | record_lifecycle _ _ _ => SessionEnvelope Uuid
  | append_event _ _ _ _ => SessionEnvelope Uuid
  | request_diagnostic_execution _ => Except String ConversationExecutionIntent

/-- What is behind the conversation: the events that a store lists at most, and the requester of
diagnoses. -/
class Backend where
  /-- The in-memory store has no bound. The database lists 500. -/
  page_limit : Option Nat
  request_diagnostic_execution : DiagnosticRequest → Except String ConversationExecutionIntent

section

variable [DecidableEq Uuid] [Stdlib Uuid] [Builtins Uuid] [Backend]

def page_of_events (w : World Uuid) (session_id : Uuid) (expected_tenant_id : String) :
    List (SessionEventRecord Uuid) :=
  let events := w.store.list_events ⟨session_id, none, none, none⟩ (some expected_tenant_id)
  match Backend.page_limit with
  | none => events
  | some limit => events.take limit

def perform : (c : TurnCall Uuid) → World Uuid → c.Answer × World Uuid
  | .get_session session_id expected_tenant_id, w =>
    (w.store.get_session session_id (some expected_tenant_id), w)
  | .list_events session_id expected_tenant_id, w =>
    (page_of_events w session_id expected_tenant_id, w)
  | .record_lifecycle runtime request started_at, w =>
    run operious.session.perform (RuntimeCall.record_lifecycle runtime request started_at).task w
  | .append_event _ runtime request started_at, w =>
    run operious.session.perform (RuntimeCall.append_event runtime request started_at).task w
  | .request_diagnostic_execution request, w => (Backend.request_diagnostic_execution request, w)

end

/-- A coroutine of the conversation. It may raise a `ConversationRuntimeError` with its message. -/
abbrev Conversation (Uuid α : Type) := ExceptT String (Task (TurnCall Uuid) TurnCall.Answer) α

def await (c : TurnCall Uuid) : Conversation Uuid c.Answer := ExceptT.lift (Task.call c)

/-! ## `ConversationSessionRuntime` -/

/-- When a call looks at the clock for an event, and when the append starts. -/
structure Moment where
  occurred_at : Instant
  started_at : Instant
  deriving DecidableEq, Repr

section runtime

variable (self : SessionRuntime)

def require_session (sid : Uuid) (expected_tenant_id : String) :
    Conversation Uuid (SessionRecord Uuid) := do
  match ← await (.get_session sid expected_tenant_id) with
  | none => throw "session not found"
  | some session => pure session

def require_live_session (sid : Uuid) (expected_tenant_id : String) :
    Conversation Uuid (SessionRecord Uuid) := do
  let session ← require_session sid expected_tenant_id
  if is_terminal session.lifecycle_phase then throw "session is terminal" else pure session

def require_non_empty_content (content : String) : Conversation Uuid Unit :=
  if content = "" then throw "message content is required" else pure ()

def record_active (sid : Uuid) (started_at : Instant) : Conversation Uuid Unit := do
  match ← await (.record_lifecycle self
    ⟨sid, .active, some "conversation_message_received", none⟩ started_at) with
  | .error _ => throw "session activation failed"
  | .ok _ => pure ()

/-- `_append_turn_event`, with what the turn id of the payload was derived from. -/
def append_turn_event (sid : Uuid) (kind : SessionEventKind) (payload : Payload)
    ( annotation : String) (derivation : Option Derivation) (moment : Moment) :
    Conversation Uuid (SessionResult Uuid) := do
  match ← await (.append_event derivation self
    { session_id := sid
      kind := kind
      occurred_at := .utc moment.occurred_at
      continuity_mode := .synchronous
      payload := payload
      annotation := some annotation
      external_correlation_id := none
      correlation_id := none
      idempotency_key := none } moment.started_at) with
  | .error _ => throw "conversation event append failed"
  | .ok result => pure result

variable [Stdlib Uuid] [Builtins Uuid]

def turn_from_append_result (result : SessionResult Uuid) (role : Role) :
    Conversation Uuid ConversationTurn :=
  match result.event with
  | none => throw "append returned no event"
  | some event => pure (turn_from_event (event_to_record event) (some role))

def customer_payload (content source_language : String) (raw_content : Option String) : Payload :=
  let payload := Dict.ofList
    [("content", .str content), ("source_channel", .str "conversation_api"), ("ingress_id", .none),
      ("source_language", .str source_language)]
  match raw_content with
  | some raw => if raw ≠ content then payload.set "raw_content" (.str raw) else payload
  | none => payload

def append_customer_turn (sid : Uuid) (content source_language : String)
    (raw_content : Option String) (moment : Moment) : Conversation Uuid ConversationTurn := do
  let result ← append_turn_event self sid .customer_message
    (customer_payload content source_language raw_content) "customer_message" none moment
  turn_from_append_result result .customer

def next_derivation (session_id : String) (session : SessionRecord Uuid) : Derivation :=
  ⟨session_id, session.sequence_head + 1⟩

variable (Uuid) in
def Derivation.turn_id (d : Derivation) : String :=
  derive_conversation_turn_id Uuid d.session_id d.sequence

def assistant_payload (content phase turn_id : String)
    (governance_decision_id execution_id : Option String) : Payload :=
  Dict.ofList
    [("content", .str content), ("phase", .str phase), ("turn_id", .str turn_id),
      ("governance_decision_id", .ofOption governance_decision_id),
      ("execution_id", .ofOption execution_id)]

/-- `_append_assistant_turn` of the phase A, the only one it is called for. -/
def append_assistant_turn (sid : Uuid) (content expected_tenant_id : String) (moment : Moment) :
    Conversation Uuid ConversationTurn := do
  let session ← require_session sid expected_tenant_id
  let derivation := next_derivation (Stdlib.str sid) session
  let result ← append_turn_event self sid .assistant_response
    (assistant_payload content "A" (derivation.turn_id Uuid) none none)
    "assistant_response_phase_a" (some derivation) moment
  turn_from_append_result result .assistant

def operator_payload (content turn_id source_channel : String)
    (provider_message_id : Option String) : Payload :=
  let payload := Dict.ofList
    [("content", .str content), ("turn_id", .str turn_id), ("author", .str "operator"),
      ("source_channel", .str source_channel)]
  match provider_message_id with
  | some message_id => payload.set "provider_message_id" (.str message_id)
  | none => payload

def append_operator_turn (sid : Uuid) (content source_channel : String)
    (provider_message_id : Option String) (expected_tenant_id : String) (moment : Moment) :
    Conversation Uuid ConversationTurn := do
  let session ← require_session sid expected_tenant_id
  let derivation := next_derivation (Stdlib.str sid) session
  let result ← append_turn_event self sid .assistant_response
    (operator_payload content (derivation.turn_id Uuid) source_channel provider_message_id)
    "assistant_response_operator" (some derivation) moment
  turn_from_append_result result .operator

/-! ### The template of the phase A -/

def CHARGING_ACK : String :=
  "I'm checking the warranty and charging policy now. Can you confirm " ++
    "your order number or product model while I look?"

def REFUND_ACK : String :=
  "I'm reviewing the refund eligibility now. Can you confirm the order number?"

def DEFAULT_ACK : String :=
  "I'm looking into this now. Can you share the order number or product " ++
    "model to help me find the right information?"

variable (Uuid) in
def diagnostic_category (payload : Payload) : Option String :=
  let completed := (payload.get? "event_type").any fun event_type =>
    event_type.text? = some "diagnostic_analysis_completed"
  match completed, payload.get? "payload" with
  | true, some (.dict nested) => optional_str Uuid ((Dict.ofList nested).get? "category")
  | _, _ => optional_str Uuid (payload.get? "diagnostic_category")

variable (Uuid) in
/-- The template that a payload asks for, if it asks for one. -/
def template_of (payload : Payload) : Option String :=
  match diagnostic_category Uuid payload with
  | some "charging_issue" => some CHARGING_ACK
  | some "refund" => some REFUND_ACK
  | some "returns_refunds_inquiry" => some REFUND_ACK
  | _ => none

def phase_a_template (sid : Uuid) (expected_tenant_id : String) : Conversation Uuid String := do
  let events ← await (.list_events sid expected_tenant_id)
  pure ((events.reverse.findSome? fun e => template_of Uuid e.payload).getD DEFAULT_ACK)

/-! ### The calls -/

def as_session_id (session_id : String) : Conversation Uuid Uuid :=
  match Builtins.parseUuid session_id with
  | some sid => pure sid
  | none => throw "badly formed hexadecimal UUID string"

def get_recent_turns (session_id expected_tenant_id : String) (limit : Int) :
    Conversation Uuid (List ConversationTurn) := do
  let sid ← as_session_id session_id
  let events ← await (.list_events sid expected_tenant_id)
  pure (recent_turns limit events)

structure ConversationSubmitResult where
  phase_a_turn : ConversationTurn
  execution : ConversationExecutionIntent

structure SubmitRequest where
  session_id : String
  tenant_id : String
  customer_message : String
  source_language : String
  raw_customer_message : Option String
  expected_tenant_id : String
  activated_at : Instant
  customer_at : Moment
  phase_a_at : Moment

def submit_message (request : SubmitRequest) : Conversation Uuid ConversationSubmitResult := do
  if request.tenant_id ≠ request.expected_tenant_id then throw "tenant scope mismatch"
  else
    let content := strip request.customer_message
    require_non_empty_content content
    let sid ← as_session_id request.session_id
    let session ← require_live_session sid request.expected_tenant_id
    (if session.lifecycle_phase = .initiated ∨ session.lifecycle_phase = .dormant then
      record_active self sid request.activated_at
    else pure ())
    let customer_turn ← append_customer_turn self sid content request.source_language
      request.raw_customer_message request.customer_at
    let phase_a_content ← phase_a_template sid request.expected_tenant_id
    let phase_a_turn ← append_assistant_turn self sid phase_a_content request.expected_tenant_id
      request.phase_a_at
    let history ← get_recent_turns request.session_id request.expected_tenant_id 20
    match ← await (.request_diagnostic_execution
      ⟨request.session_id, request.tenant_id, customer_turn.turn_id, content,
        request.source_language, history⟩) with
    | .error message => throw message
    | .ok execution => pure ⟨phase_a_turn, execution⟩

structure OperatorReplyRequest where
  session_id : String
  tenant_id : String
  content : String
  expected_tenant_id : String
  source_channel : String
  provider_message_id : Option String
  replied_at : Moment

def record_operator_reply (request : OperatorReplyRequest) : Conversation Uuid ConversationTurn := do
  let sid ← as_session_id request.session_id
  let content := strip request.content
  require_non_empty_content content
  append_operator_turn self sid content request.source_channel request.provider_message_id
    request.expected_tenant_id request.replied_at

end runtime

/-! ## The answer of the worker -/

structure PhaseBRequest where
  session_id : String
  tenant_id : String
  conversation_turn_id : Option String
  dispatch_id : String
  execution_id : String
  attempt_id : String
  success : Bool
  customer_reply : Option String
  governance_decision_id : Option String
  answered_at : Moment

structure ConversationPhaseBEvent where
  turn_id : String
  content : String
  governance_decision_id : String
  execution_id : String
  deriving DecidableEq, Repr

variable [Stdlib Uuid] [Builtins Uuid]

variable (Uuid) in
def phase_b_event (payload : Payload) (turn_id customer_reply governance_decision_id : String)
    (request : PhaseBRequest) : ConversationPhaseBEvent where
  turn_id := getText Uuid payload "turn_id" turn_id
  content := getText Uuid payload "content" customer_reply
  governance_decision_id := getText Uuid payload "governance_decision_id" governance_decision_id
  execution_id := getText Uuid payload "execution_id" request.execution_id

def append_conversation_phase_b_turn (runtime : SessionRuntime) (request : PhaseBRequest) :
    Conversation Uuid (Option ConversationPhaseBEvent) :=
  match request.conversation_turn_id, request.success, request.customer_reply,
    request.governance_decision_id with
  | some _, true, some customer_reply, some governance_decision_id => do
    let sid ← as_session_id request.session_id
    match ← await (.get_session sid request.tenant_id) with
    | none => pure none
    | some session =>
      let derivation := next_derivation request.session_id session
      match ← await (.append_event (some derivation) runtime
        { session_id := sid
          kind := .assistant_response
          occurred_at := .utc request.answered_at.occurred_at
          continuity_mode := .synchronous
          payload := assistant_payload customer_reply "B" (derivation.turn_id Uuid)
            (some governance_decision_id) (some request.execution_id)
          annotation := some "assistant_response_phase_b"
          external_correlation_id := none
          correlation_id := some request.dispatch_id
          idempotency_key := some
            ("conversation.phase_b:" ++ request.execution_id ++ ":" ++ request.attempt_id) }
        request.answered_at.started_at) with
      | .error _ => pure none
      | .ok result => pure (result.event.map fun event => phase_b_event Uuid event.payload
          (derivation.turn_id Uuid) customer_reply governance_decision_id request)
  | _, _, _, _ => pure none

end operious.session.conversation
