-- The delivery ledger of customer replies, the answer of a provider, and the sends of a channel as
-- callers over one ledger. A caller may stop for good before any of its calls.
import Operious.Lib.Runs
import Operious.Reply.Checks
import Operious.Tools.Values

namespace operious.customer_reply

open operious.agents.tools (JsonValue JsonObject parseInt textAt)
open operious.governance (PyException)

/-! ## The ledger -/

inductive DeliveryStatus
  | pending | sent | failed
  deriving DecidableEq, Repr

structure CustomerReplyDeliveryRecord (Uuid Target : Type) where
  delivery_id : Uuid
  tenant_id : String
  draft_id : Uuid
  proposal_id : Uuid
  governance_decision_id : Uuid
  target : Target
  draft_body_sha256 : String
  status : DeliveryStatus
  provider_message_id : Option String
  provider_status_code : Option Int
  error_code : Option String
  created_at : Instant
  updated_at : Instant
  sent_at : Option Instant
  metadata : Metadata

/-- The rows by tenant and delivery id. -/
abbrev DeliveryLedger (Uuid Target : Type) :=
  Dict (String × Uuid) (CustomerReplyDeliveryRecord Uuid Target)

/-- What a call writes on the row of its delivery once its provider call is over. -/
inductive Mark
  | sent (provider_message_id : String) (provider_status_code : Int)
  | failed (error_code : String) (provider_status_code : Option Int)
  deriving DecidableEq

section

variable {Uuid Target : Type} [DecidableEq Uuid]

/-- The row that is reserved, or the row that is there. -/
def reserve_delivery (ledger : DeliveryLedger Uuid Target)
    (record : CustomerReplyDeliveryRecord Uuid Target) :
    CustomerReplyDeliveryRecord Uuid Target × Bool × DeliveryLedger Uuid Target :=
  match ledger.get? (record.tenant_id, record.delivery_id) with
  | some existing => (existing, false, ledger)
  | none => (record, true, ledger.set (record.tenant_id, record.delivery_id) record)

def mark_sent (record : CustomerReplyDeliveryRecord Uuid Target) (provider_message_id : String)
    (provider_status_code : Int) (sent_at : Instant) : CustomerReplyDeliveryRecord Uuid Target :=
  { record with
    status := .sent, provider_message_id := some provider_message_id
    provider_status_code := some provider_status_code, error_code := none, sent_at := some sent_at
    updated_at := sent_at }

def mark_failed (record : CustomerReplyDeliveryRecord Uuid Target) (error_code : String)
    (provider_status_code : Option Int) (failed_at : Instant) :
    CustomerReplyDeliveryRecord Uuid Target :=
  { record with status := .failed, provider_status_code, error_code := some error_code
                updated_at := failed_at }

/-- The row after a mark. Neither of the two asks what the row was. -/
def Mark.apply (mark : Mark) (now : Instant) (record : CustomerReplyDeliveryRecord Uuid Target) :
    CustomerReplyDeliveryRecord Uuid Target :=
  match mark with
  | .sent provider_message_id code => mark_sent record provider_message_id code now
  | .failed error_code code => mark_failed record error_code code now

/-- `_update_delivery`: none where there is no row. -/
def update_delivery (ledger : DeliveryLedger Uuid Target) (key : String × Uuid) (mark : Mark)
    (now : Instant) : Option (CustomerReplyDeliveryRecord Uuid Target × DeliveryLedger Uuid Target) :=
  (ledger.get? key).map fun record => (mark.apply now record, ledger.set key (mark.apply now record))

end

/-! ## The provider -/

/-- How a provider call ends: it raises, or it is answered. The payload is what `response.json()`
gives, or the class of what it raises. -/
inductive ProviderReply (F : Type)
  | raised (class_name : String)
  | answered (status_code : Int) (payload : Except String (JsonValue F))

def ProviderReply.accepted {F : Type} : ProviderReply F → Bool
  | .raised _ => false
  | .answered status_code _ => 200 ≤ status_code && status_code < 300

/-- What sets the channels apart. -/
structure ReplyChannel (F Target : Type) where
  name : String
  error_prefix : String
  rejected : String
  send_failed : String
  message_id : JsonValue F → Option String
  /-- What the targets and the body digests of a row and of a request first differ in. -/
  conflict : Target × String → Target × String → Option String

section

variable {F : Type}

/-- `_provider_message_id` of SES. -/
def ses_message_id (payload : JsonValue F) : Option String :=
  payload.mapping?.bind (textAt · "MessageId")

/-- `_provider_message_id` of the Graph API: the id of the first message. -/
def graph_message_id (payload : JsonValue F) : Option String :=
  match payload.mapping?.bind (·.get? "messages") with
  | some (.list (first :: _)) => first.mapping?.bind (textAt · "id")
  | _ => none

def email : ReplyChannel F EmailTarget where
  name := "email"
  error_prefix := "ses_v2_http_"
  rejected := "ses v2 rejected the message"
  send_failed := "ses v2 send failed"
  message_id := ses_message_id
  conflict row asked :=
    if row.1.source_email_address ≠ asked.1.source_email_address then some "source email"
    else if row.1.recipient_email_address ≠ asked.1.recipient_email_address then some "recipient"
    else if row.1.subject ≠ asked.1.subject then some "subject"
    else if row.2 ≠ asked.2 then some "draft body"
    else if row.1.in_reply_to_message_id ≠ asked.1.in_reply_to_message_id then some "in-reply-to"
    else if row.1.references_header ≠ asked.1.references_header then some "references"
    else none

def whatsapp : ReplyChannel F WhatsAppTarget where
  name := "whatsapp"
  error_prefix := "whatsapp_graph_http_"
  rejected := "whatsapp graph api rejected the message"
  send_failed := "whatsapp graph api send failed"
  message_id := graph_message_id
  conflict row asked :=
    if row.1.phone_number_id ≠ asked.1.phone_number_id then some "phone_number_id"
    else if row.1.recipient_phone_number ≠ asked.1.recipient_phone_number then some "recipient"
    else if row.2 ≠ asked.2 then some "draft body"
    else none

end

namespace ReplyChannel

variable {F Target : Type} (channel : ReplyChannel F Target)

/-- The code of an answer that the sender takes for a failure. -/
def http_error (status_code : Int) : Mark :=
  .failed (channel.error_prefix ++ toString status_code) (some status_code)

/-- What the sender makes of the end of its provider call. An answer of success without an id in
its payload counts as one with the status 502. -/
def outcome : ProviderReply F → Mark
  | .raised class_name => .failed class_name none
  | .answered status_code payload =>
    if !(200 ≤ status_code && status_code < 300) then channel.http_error status_code
    else
      match payload with
      | .error class_name => .failed class_name none
      | .ok body =>
        match channel.message_id body with
        | none => channel.http_error 502
        | some message_id => .sent message_id status_code

/-- `_email_delivery_error_is_retryable`, `_whatsapp_delivery_error_is_retryable`. -/
def error_is_retryable (error_code : Option String) : Bool :=
  match error_code with
  | none => false
  | some code =>
    if !channel.error_prefix.toList.isPrefixOf code.toList then false
    else
      match parseInt (String.ofList (code.toList.drop channel.error_prefix.length)) with
      | none => false
      | some status_code => status_code = 429 || 500 ≤ status_code

end ReplyChannel

/-! ## A call of `send_draft`, from its reservation on -/

inductive SendStatus
  | sent | already_sent | pending
  deriving DecidableEq, Repr

structure SendResult (Uuid : Type) where
  delivery_id : Uuid
  status : SendStatus
  provider_message_id : Option String
  transmitted : Bool
  idempotent_replay : Bool

inductive Pc (Uuid Target : Type)
  | reserving (p : Prepared Uuid Target)
  | transmitting (p : Prepared Uuid Target)
  /-- The provider call is over, and its mark is not on the row yet. -/
  | marking (p : Prepared Uuid Target) (mark : Mark)
  | done (result : Except SendError (SendResult Uuid))
  | crashed

section

variable {Uuid Target F : Type}

def Prepared.key (p : Prepared Uuid Target) : String × Uuid := (p.tenant_id, p.delivery_id)

/-- The row that a call asks for. -/
def Prepared.record [Stdlib Uuid] (channel : ReplyChannel F Target) (p : Prepared Uuid Target)
    (now : Instant) : CustomerReplyDeliveryRecord Uuid Target where
  delivery_id := p.delivery_id
  tenant_id := p.tenant_id
  draft_id := p.draft_id
  proposal_id := p.proposal_id
  governance_decision_id := p.governance_decision_id
  target := p.target
  draft_body_sha256 := p.draft_body_sha256
  status := .pending
  provider_message_id := none
  provider_status_code := none
  error_code := none
  created_at := now
  updated_at := now
  sent_at := none
  metadata := Dict.ofList
    [("channel", .str channel.name), ("source", .str "resolution_outbound_draft"),
     ("proposal_id", .str (Stdlib.str p.proposal_id))]

/-- `_assert_delivery_matches_request` and the choice to transmit, once a row is reserved. -/
def afterReserve (channel : ReplyChannel F Target) (p : Prepared Uuid Target)
    (delivery : CustomerReplyDeliveryRecord Uuid Target) (created : Bool) : Pc Uuid Target :=
  match channel.conflict (delivery.target, delivery.draft_body_sha256)
      (p.target, p.draft_body_sha256) with
  | some difference =>
    .done (.error (.governance ("delivery idempotency " ++ difference ++ " conflict")))
  | none =>
    if created then .transmitting p
    else
      match delivery.status with
      | .sent => .done (.ok
          { delivery_id := delivery.delivery_id, status := .already_sent
            provider_message_id := delivery.provider_message_id, transmitted := false
            idempotent_replay := true })
      | .pending => .done (.ok
          { delivery_id := delivery.delivery_id, status := .pending
            provider_message_id := delivery.provider_message_id, transmitted := false
            idempotent_replay := true })
      | .failed =>
        if p.allow_failed_delivery_retry && channel.error_is_retryable delivery.error_code then
          .transmitting p
        else .done (.error (.provider
          (channel.name ++ " delivery previously failed and is not auto-retried")))

/-- How the call ends once its mark is on the row. -/
def afterMark (channel : ReplyChannel F Target) (mark : Mark)
    (record : CustomerReplyDeliveryRecord Uuid Target) : Except SendError (SendResult Uuid) :=
  match mark with
  | .sent .. => .ok
      { delivery_id := record.delivery_id, status := .sent
        provider_message_id := record.provider_message_id, transmitted := true
        idempotent_replay := false }
  | .failed _ none => .error (.provider channel.send_failed)
  | .failed _ (some _) => .error (.provider channel.rejected)

end

/-! ## Callers over one ledger -/

namespace SendDraft

/-- The ledger, the calls, and the deliveries that a provider call was answered for with a status of
success. -/
structure World (Uuid Target : Type) where
  ledger : DeliveryLedger Uuid Target
  calls : Dict Nat (Pc Uuid Target)
  accepted : List (String × Uuid)

def World.start {Uuid Target : Type} : World Uuid Target := ⟨.empty, .empty, []⟩

/-- How a call of the ledger with its commit ends. One that raises may have been committed. -/
inductive Reply
  | returns
  | raises (stored : Bool) (exc : PyException)

def Reply.stored : Reply → Bool
  | .returns => true
  | .raises stored _ => stored

/-- Where the call is next: what was raised ends it. -/
def Reply.pc {Uuid Target : Type} (goesOn : Pc Uuid Target) : Reply → Pc Uuid Target
  | .returns => goesOn
  | .raises _ exc => .done (.error (.raised exc))

inductive Action (Uuid Target F : Type)
  /-- `send_draft` is called, and its checks end in `prepared`. -/
  | send (caller : Nat) (prepared : Except SendError (Prepared Uuid Target))
  | reserve (caller : Nat) (now : Instant) (reply : Reply)
  | transmit (caller : Nat) (reply : ProviderReply F)
  | mark (caller : Nat) (now : Instant) (reply : Reply)
  | crash (caller : Nat)

variable {Uuid Target F : Type} [DecidableEq Uuid] [Stdlib Uuid]

def afterChecks : Except SendError (Prepared Uuid Target) → Pc Uuid Target
  | .error e => .done (.error e)
  | .ok p => .reserving p

def next (channel : ReplyChannel F Target) (w : World Uuid Target) :
    Action Uuid Target F → Option (World Uuid Target)
  | .send caller prepared =>
    if (w.calls.get? caller).isSome then none
    else some { w with calls := w.calls.set caller (afterChecks prepared) }
  | .reserve caller now reply =>
    match w.calls.get? caller with
    | some (.reserving p) =>
      let (delivery, created, ledger) := reserve_delivery w.ledger (p.record channel now)
      some { w with
        ledger := if reply.stored then ledger else w.ledger
        calls := w.calls.set caller (reply.pc (afterReserve channel p delivery created)) }
    | _ => none
  | .transmit caller reply =>
    match w.calls.get? caller with
    | some (.transmitting p) =>
      some { w with
        calls := w.calls.set caller (.marking p (channel.outcome reply))
        accepted := if reply.accepted then p.key :: w.accepted else w.accepted }
    | _ => none
  | .mark caller now reply =>
    match w.calls.get? caller with
    | some (.marking p mark) =>
      match update_delivery w.ledger p.key mark now with
      | none => some { w with
          calls := w.calls.set caller (.done (.error (valueError
            (channel.name ++ " delivery not found")))) }
      | some (record, ledger) => some { w with
          ledger := if reply.stored then ledger else w.ledger
          calls := w.calls.set caller (reply.pc (.done (afterMark channel mark record))) }
    | _ => none
  | .crash caller =>
    match w.calls.get? caller with
    | some _ => some { w with calls := w.calls.set caller .crashed }
    | none => none

end SendDraft

end operious.customer_reply
