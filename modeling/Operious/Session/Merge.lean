-- The writer of customer-confirmed merges across channels. It works on session records and on the event
-- table directly, past the runtime.
import Operious.Session.Calls

namespace operious.session

/-- What the merge takes from Python: the parse of an id, and the text, the truth and the mapping of a
value that is neither a text nor a mapping. -/
class Builtins (Uuid : Type) where
  /-- `uuid.UUID(text)`. -/
  parseUuid : String → Option Uuid
  /-- `str(value)`. -/
  strOf : PayloadValue → String
  /-- `bool(value)`. -/
  truthOf : PayloadValue → Bool
  /-- `dict(value)`. -/
  dictOf : PayloadValue → Except SessionException Payload

variable {Uuid : Type} [Builtins Uuid]

variable (Uuid) in
def PayloadValue.str_ : PayloadValue → String
  | .str s => s
  | value => Builtins.strOf Uuid value

variable (Uuid) in
def PayloadValue.truth : PayloadValue → Bool
  | .none => false
  | .bool b => b
  | .str s => s ≠ ""
  | .dict items => items ≠ []
  | value => Builtins.truthOf Uuid value

variable (Uuid) in
/-- `str(payload.get(key) or default)`. -/
def getText (payload : Payload) (key default : String) : String :=
  match (payload.get? key).filter (PayloadValue.truth Uuid) with
  | some value => value.str_ Uuid
  | none => default

/-- `value or default` for an optional text. -/
def textOr (value : Option String) (default : String) : String := (orStr value none).getD default

/-! ## The answer of a customer -/

def YES_TOKENS : List String :=
  ["yes", "yeah", "yep", "yup", "y", "sure", "correct", "right", "affirmative", "ok", "okay",
    "confirm", "confirmed", "that's me", "thats me", "same", "link"]

def NO_TOKENS : List String :=
  ["no", "nope", "n", "nah", "different", "not me", "wrong", "separate", "not the same", "unlink",
    "cancel", "stop", "decline", "negative"]

/-- `text.rstrip("!.,?")`. -/
def rstripMarks (text : String) : String :=
  String.ofList (text.toList.reverse.dropWhile fun c => c ∈ ['!', '.', ',', '?']).reverse

/-- `text.split()[0] if text else ""`. -/
def first_word (text : String) : String :=
  String.ofList ((text.toList.dropWhile isSpace).takeWhile fun c => !isSpace c)

variable (Uuid) in
def parse_confirmation_response [Stdlib Uuid] (text : String) : Option String :=
  let normalised := rstripMarks (strip (Stdlib.lower Uuid text))
  if normalised ∈ YES_TOKENS then some "yes"
  else if normalised ∈ NO_TOKENS then some "no"
  else if first_word normalised ∈ YES_TOKENS then some "yes"
  else if first_word normalised ∈ NO_TOKENS then some "no"
  else none

/-! ## The state of a merge -/

def MERGE_KEY : String := "mvp7.merge"
def PRIOR_CONTEXT_KEY : String := "mvp7.prior_context"

def STATE_NONE : String := "none"
def STATE_CANDIDATE : String := "candidate"
def STATE_CONFIRMATION_SENT : String := "confirmation_sent"
def STATE_MERGED : String := "merged"
def STATE_ABANDONED : String := "abandoned"

def EVT_MERGE_CANDIDATE_FLAGGED : String := "cross_channel_merge_candidate_flagged"
def EVT_MERGE_CONFIRMATION_SENT : String := "cross_channel_merge_confirmation_sent"
def EVT_MERGE_COMPLETED : String := "cross_channel_merge_completed"
def EVT_MERGE_ABANDONED : String := "cross_channel_merge_abandoned"

def get_raw_merge_state (session : SessionRecord Uuid) : Except SessionException Payload :=
  match (session.context_attributes.get? MERGE_KEY).filter (PayloadValue.truth Uuid) with
  | none => .ok Dict.empty
  | some (.dict items) => .ok (Dict.ofList items)
  | some value => Builtins.dictOf Uuid value

def get_merge_status (session : SessionRecord Uuid) : Except SessionException String := do
  let state ← get_raw_merge_state session
  pure (((state.get? "status").getD (.str STATE_NONE)).str_ Uuid)

def is_merge_candidate (session : SessionRecord Uuid) : Except SessionException Bool :=
  (get_merge_status session).map fun status => status = STATE_CANDIDATE

def is_awaiting_confirmation (session : SessionRecord Uuid) : Except SessionException Bool :=
  (get_merge_status session).map fun status => status = STATE_CONFIRMATION_SENT

def is_already_merged (session : SessionRecord Uuid) : Except SessionException Bool :=
  (get_merge_status session).map fun status => status = STATE_MERGED

def with_attributes (session : SessionRecord Uuid) (attributes : Payload) : SessionRecord Uuid :=
  { session with context_attributes := attributes, revision := session.revision + 1 }

def with_merge_state (session : SessionRecord Uuid) (state : Payload) : SessionRecord Uuid :=
  with_attributes session (session.context_attributes.set MERGE_KEY (.dict state.items))

/-! ## The writes -/

/-- What one merge call reads of its clock and of the generator of event ids. -/
structure MergeStamp (Uuid : Type) where
  state_at : Instant
  payload_at : Instant
  recorded_at : Instant
  event_id : Uuid

variable [Stdlib Uuid]

def merge_event (session : SessionRecord Uuid) (event_type : String) (payload : Payload)
    (idempotency_key : String) (sequence : Nat) (stamp : MergeStamp Uuid) :
    SessionEventRecord Uuid where
  event_id := stamp.event_id
  session_id := session.session_id
  sequence := sequence
  kind := .operational_observation
  continuity_mode := .synchronous
  occurred_at := .utc stamp.recorded_at
  recorded_at := .utc stamp.recorded_at
  payload := (Dict.ofList [("event_type", .str event_type)]).update payload.items
  correlation_id := none
  annotation := some event_type
  idempotency_key := some idempotency_key

/-- `_append_merge_event`: the next event of the session, by the number of its events. -/
def append_merge_event (session : SessionRecord Uuid) (event_type : String) (payload : Payload)
    (idempotency_key : String) (stamp : MergeStamp Uuid) : Coroutine Uuid Unit :=
  swallow do
    match ← get_event_by_idempotency_key session.session_id idempotency_key with
    | some _ => pure ()
    | none =>
      let events ← list_events ⟨session.session_id, none, none, none⟩ none
      save_event
        (merge_event session event_type payload idempotency_key events.length stamp)

/-- What a merge call writes: the record with its new merge state, and the event about it. -/
structure MergeWrite (Uuid : Type) where
  updated : SessionRecord Uuid
  event_type : String
  payload : Payload
  idempotency_key : String

def save_merge_state (write : MergeWrite Uuid) (stamp : MergeStamp Uuid) :
    Coroutine Uuid (SessionRecord Uuid) := do
  let saved ← save_session write.updated
  append_merge_event saved write.event_type write.payload write.idempotency_key stamp
  pure saved

def candidate_write (session : SessionRecord Uuid) (prior_session_id customer_identity_id : String)
    (prior_channel prior_category match_field : Option String) (stamp : MergeStamp Uuid) :
    MergeWrite Uuid where
  updated := with_merge_state session (Dict.ofList
    [("status", .str STATE_CANDIDATE),
      ("prior_session_id", .str prior_session_id),
      ("customer_identity_id", .str customer_identity_id),
      ("prior_channel", .str (textOr prior_channel "another channel")),
      ("prior_category", .str (textOr prior_category "support")),
      ("match_field", .ofOption match_field),
      ("flagged_at", .str (Stdlib.isoformat Uuid stamp.state_at))])
  event_type := EVT_MERGE_CANDIDATE_FLAGGED
  payload := Dict.ofList
    [("prior_session_id", .str prior_session_id),
      ("customer_identity_id", .str customer_identity_id),
      ("prior_channel", .ofOption prior_channel),
      ("prior_category", .ofOption prior_category),
      ("match_field", .ofOption match_field)]
  idempotency_key := EVT_MERGE_CANDIDATE_FLAGGED ++ ":" ++ Stdlib.str session.session_id ++ ":" ++
    prior_session_id

def flag_merge_candidate (session : SessionRecord Uuid)
    (prior_session_id customer_identity_id : String)
    (prior_channel prior_category match_field : Option String) (stamp : MergeStamp Uuid) :
    Coroutine Uuid (SessionRecord Uuid) := do
  if ← compute (is_already_merged session) then pure session
  else if ← compute (is_merge_candidate session) then pure session
  else if ← compute (is_awaiting_confirmation session) then pure session
  else
    tryCatch
      (save_merge_state (candidate_write session prior_session_id customer_identity_id
        prior_channel prior_category match_field stamp) stamp)
      fun _ => pure session

def sent_write (session : SessionRecord Uuid) (state : Payload) (confirmation_text : String)
    (stamp : MergeStamp Uuid) : MergeWrite Uuid where
  updated := with_merge_state session ((state.set "status" (.str STATE_CONFIRMATION_SENT)).set
    "confirmation_sent_at" (.str (Stdlib.isoformat Uuid stamp.state_at)))
  event_type := EVT_MERGE_CONFIRMATION_SENT
  payload := Dict.ofList [("confirmation_text_length", .int confirmation_text.length)]
  idempotency_key := EVT_MERGE_CONFIRMATION_SENT ++ ":" ++ Stdlib.str session.session_id

def record_confirmation_sent (session : SessionRecord Uuid) (confirmation_text : String)
    (stamp : MergeStamp Uuid) : Coroutine Uuid (SessionRecord Uuid) := do
  if ← compute (is_merge_candidate session) then
    tryCatch
      (do
        let state ← compute (get_raw_merge_state session)
        save_merge_state (sent_write session state confirmation_text stamp) stamp)
      fun _ => pure session
  else pure session

/-- `uuid.UUID(text)`. -/
def uuid_of (text : String) : Except SessionException Uuid :=
  match Builtins.parseUuid text with
  | some id => .ok id
  | none => .error (.value_error "badly formed hexadecimal UUID string")

/-- Reads the prior session. A failure counts as none. -/
def load_prior_session (prior_session_id : String) (tenant_id : String) :
    Coroutine Uuid (Option (SessionRecord Uuid)) :=
  if prior_session_id = "" then pure none
  else
    tryCatch
      (do
        let id ← compute (uuid_of prior_session_id)
        get_session id (some tenant_id))
      fun _ => pure none

def stamp_prior_session (prior_session : Option (SessionRecord Uuid))
    (customer_identity_id : String) : Coroutine Uuid Unit :=
  match prior_session.filter fun prior => prior.customer_identity_id.isNone with
  | none => pure ()
  | some prior =>
    swallow do
      let customer ← compute (uuid_of customer_identity_id)
      let _ ← save_session
        { prior with
          customer_identity_id := some customer
          revision := prior.revision + 1 }

def merged_customer (session : SessionRecord Uuid) (customer_identity_id : String) :
    Except SessionException (Option Uuid) :=
  if customer_identity_id = "" then .ok session.customer_identity_id
  else (uuid_of customer_identity_id).map some

def merged_write (session : SessionRecord Uuid) (state : Payload) (customer : Option Uuid)
    (stamp : MergeStamp Uuid) : MergeWrite Uuid :=
  let prior_session_id := getText Uuid state "prior_session_id" ""
  let customer_identity_id := getText Uuid state "customer_identity_id" ""
  let prior_channel := getText Uuid state "prior_channel" ""
  let prior_category := getText Uuid state "prior_category" ""
  let merge_state := (state.set "status" (.str STATE_MERGED)).set "merged_at"
    (.str (Stdlib.isoformat Uuid stamp.state_at))
  let prior_context : Payload := Dict.ofList
    [("prior_session_id", .str prior_session_id), ("prior_channel", .str prior_channel),
      ("prior_category", .str prior_category),
      ("customer_identity_id", .str customer_identity_id)]
  { updated :=
      { with_attributes session
          ((session.context_attributes.set MERGE_KEY (.dict merge_state.items)).set
            PRIOR_CONTEXT_KEY (.dict prior_context.items)) with
        customer_identity_id := customer }
    event_type := EVT_MERGE_COMPLETED
    payload := Dict.ofList
      [("prior_session_id", .str prior_session_id),
        ("customer_identity_id", .str customer_identity_id),
        ("prior_channel", .str prior_channel), ("prior_category", .str prior_category),
        ("confirmation_evidence", .str "customer_confirmed_yes"),
        ("merged_at", .str (Stdlib.isoformat Uuid stamp.payload_at))]
    idempotency_key := EVT_MERGE_COMPLETED ++ ":" ++ Stdlib.str session.session_id }

def execute_merge (session : SessionRecord Uuid) (tenant_id : String) (stamp : MergeStamp Uuid) :
    Coroutine Uuid (String × SessionRecord Uuid) := do
  if ← compute (is_already_merged session) then pure ("yes", session)
  else
    let state ← compute (get_raw_merge_state session)
    let customer_identity_id := getText Uuid state "customer_identity_id" ""
    let prior_session ←
      load_prior_session (getText Uuid state "prior_session_id" "") tenant_id
    stamp_prior_session prior_session customer_identity_id
    let customer ← compute (merged_customer session customer_identity_id)
    let saved ← save_merge_state (merged_write session state customer stamp) stamp
    pure ("yes", saved)

def abandoned_write (session : SessionRecord Uuid) (state : Payload) (decision : String)
    (stamp : MergeStamp Uuid) : MergeWrite Uuid where
  updated := with_merge_state session (((state.set "status" (.str STATE_ABANDONED)).set
    "abandoned_at" (.str (Stdlib.isoformat Uuid stamp.state_at))).set "decision" (.str decision))
  event_type := EVT_MERGE_ABANDONED
  payload := Dict.ofList
    [("decision", .str decision),
      ("prior_session_id", .str (getText Uuid state "prior_session_id" "")),
      ("abandoned_at", .str (Stdlib.isoformat Uuid stamp.payload_at))]
  idempotency_key := EVT_MERGE_ABANDONED ++ ":" ++ Stdlib.str session.session_id

def abandon_merge (session : SessionRecord Uuid) (decision : String) (stamp : MergeStamp Uuid) :
    Coroutine Uuid (String × SessionRecord Uuid) := do
  let state ← compute (get_raw_merge_state session)
  tryCatch
    (do
      let saved ← save_merge_state (abandoned_write session state decision stamp) stamp
      pure (textOr (some decision) "no", saved))
    fun _ => pure (textOr (some decision) "no", session)

/-- What is done on a decision. No answer and an unclear one count as a no. -/
def act_on (decision : Option String) (session : SessionRecord Uuid) (tenant_id : String)
    (stamp : MergeStamp Uuid) : Coroutine Uuid (String × SessionRecord Uuid) :=
  if decision = some "yes" then execute_merge session tenant_id stamp
  else abandon_merge session (textOr decision "ambiguous") stamp

def handle_confirmation_response (session : SessionRecord Uuid) (customer_text tenant_id : String)
    (stamp : MergeStamp Uuid) : Coroutine Uuid (String × SessionRecord Uuid) := do
  if ← compute (is_awaiting_confirmation session) then
    tryCatch
      (act_on (parse_confirmation_response Uuid customer_text) session tenant_id stamp)
      fun _ => pure ("error", session)
  else pure ("not_pending", session)

/-! ## Built-ins over plain texts, to run the model on -/

instance : Builtins String where
  parseUuid text := if text = "" then none else some text
  strOf
    | .none => "None"
    | .bool b => if b then "True" else "False"
    | .int i => i.repr
    | .object text => text
    | _ => "..."
  truthOf
    | .int i => i ≠ 0
    | .list items => items ≠ []
    | .tuple items => items ≠ []
    | .set items => items ≠ []
    | _ => true
  dictOf _ := .error (.type_error "cannot convert dictionary update sequence")

end operious.session
