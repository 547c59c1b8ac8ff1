-- What a channel webhook says of itself: where it is routed, when the provider sent it, and its nonce. Each
-- is looked up in headers and in the body, first come first.
import Operious.Tools.Values

namespace operious.ingress.webhooks

open operious.agents.tools (JsonObject JsonValue)

abbrev Bytes := List UInt8

/-- `text.encode("utf-8")`. -/
def encode (text : String) : Bytes := text.toByteArray.data.toList

abbrev Headers := Dict String String

/-- The channels that take webhooks. -/
inductive TenantChannelType
  | email | whatsapp | shulex | lark
  deriving DecidableEq, Repr

def TenantChannelType.value : TenantChannelType → String
  | email => "email"
  | whatsapp => "whatsapp"
  | shulex => "shulex"
  | lark => "lark"

/-- What the reading of a timestamp raises. Only a `ValueError` is handled. -/
inductive ParseError
  | value_error (reason : String)
  | overflow_error
  deriving DecidableEq, Repr

/-- What the code takes from Python and its standard library and stays a parameter: the case map, floats and
their texts, the readers of datetimes and of mail addresses, and the hashes. A naive datetime is read as UTC. -/
class WebhookLibrary (F : Type) where
  lower : String → String
  /-- `str(x)` of a float. -/
  strFloat : F → String
  isdigit : String → Bool
  /-- `float(text)`. -/
  float : String → Except ParseError F
  /-- `number > 10_000_000_000`. -/
  overTenBillion : F → Bool
  /-- `number / 1000`. -/
  thousandth : F → F
  fromtimestamp : F → Except ParseError Instant
  fromisoformat : String → Option Instant
  parsedate_to_datetime : String → Option Instant
  /-- The address of the first entry of `getaddresses([text])`. -/
  getaddresses : String → Option String
  /-- `hmac.new(secret, bytes, sha256).hexdigest()`. -/
  hmac_sha256 : String → Bytes → String
  /-- `b64encode(hmac.new(secret, bytes, sha1).digest())`. -/
  hmac_sha1_base64 : String → Bytes → String
  /-- `json.dumps(body, sort_keys=True, separators=(",", ":"))`, encoded. -/
  dumps : JsonValue F → Bytes
  /-- `str(value)`. -/
  str : JsonValue F → String

section

variable {F : Type} [WebhookLibrary F]

open WebhookLibrary (lower isdigit overTenBillion thousandth fromtimestamp fromisoformat
  parsedate_to_datetime getaddresses)

/-! ## Readers -/

/-- `_header`. The names that the code asks for are in lower case. -/
def header (F : Type) [WebhookLibrary F] (headers : Headers) (name : String) : Option String :=
  (headers.items.find? fun item => lower F item.1 = name).map (·.2)

def headerValue (F : Type) [WebhookLibrary F] (headers : Headers) (name : String) :
    Option (JsonValue F) :=
  (header F headers name).map JsonValue.str

/-- A text that is not blank, or a number, as `_first_text` takes them. A bool is a number. -/
def textOf : JsonValue F → Option String
  | .str s => if (strip s).isEmpty then none else some (strip s)
  | .int i => some i.repr
  | .float x => some (WebhookLibrary.strFloat x)
  | .bool true => some "True"
  | .bool false => some "False"
  | .null | .list _ | .dict _ => none

def first_text (values : List (Option (JsonValue F))) : Option String :=
  values.findSome? fun value => value.bind textOf

def nested (value : JsonObject F) : List String → Option (JsonValue F)
  | [] => none
  | [key] => value.get? key
  | key :: keys => ((value.get? key).bind JsonValue.mapping?).bind fun inner => nested inner keys

def mapping_or_empty (value : Option (JsonValue F)) : JsonObject F :=
  (value.bind JsonValue.mapping?).getD .empty

def firstMapping (value : Option (JsonValue F)) : Option (JsonObject F) :=
  match value with
  | some (.list (item :: _)) => item.mapping?
  | _ => none

def first_sequence_text (value : Option (JsonValue F)) : Option String :=
  match value with
  | some (.list items) => items.findSome? fun item => first_text [some item]
  | _ => first_text [value]

def first_whatsapp_value (body : JsonObject F) : Option (JsonObject F) :=
  ((firstMapping (body.get? "entry")).bind fun entry => firstMapping (entry.get? "changes")).bind
    fun change => (change.get? "value").bind JsonValue.mapping?

/-! ## The timestamp and the nonce -/

/-- `text.replace("Z", "+00:00")`. -/
def replaceZ (text : String) : String :=
  String.ofList ((ascii.chars text).flatMap fun c => if c = 'Z' then "+00:00".toList else [c])

/-- `_parse_timestamp` of a number. One that large is in milliseconds. -/
def parse_number (number : F) : Except ParseError Instant :=
  fromtimestamp (if overTenBillion number then thousandth number else number)

/-- `_parse_timestamp` of what `_first_text` returns. -/
def parse_timestamp (F : Type) [WebhookLibrary F] (value : Option String) :
    Except ParseError (Option Instant) :=
  match value.map strip with
  | none => .ok none
  | some text =>
    if text.isEmpty then .ok none
    else if isdigit F text then do
      let number : F ← WebhookLibrary.float text
      return some (← parse_number number)
    else match fromisoformat F (replaceZ text) with
      | some timestamp => .ok (some timestamp)
      | none => .ok (parsedate_to_datetime F text)

structure ChannelWebhookSecurityContext where
  timestamp : Instant
  nonce : String
  deriving DecidableEq

def timestampValues (channel : TenantChannelType) (body : JsonObject F) (headers : Headers) :
    List (Option (JsonValue F)) :=
  let named := headerValue F headers
  match channel with
  | .email =>
    [named "x-operious-webhook-timestamp", named "x-email-timestamp",
     named "x-amz-sns-message-timestamp", body.get? "timestamp", nested body ["mail", "timestamp"]]
  | .whatsapp =>
    let first := ((first_whatsapp_value body).bind fun value =>
      firstMapping (value.get? "messages")).getD .empty
    [named "x-operious-webhook-timestamp", named "x-whatsapp-timestamp", body.get? "Timestamp",
     body.get? "timestamp", first.get? "timestamp"]
  | .shulex =>
    [named "x-operious-webhook-timestamp", named "x-shulex-timestamp", body.get? "created_at",
     body.get? "timestamp"]
  | .lark =>
    [named "x-lark-request-timestamp", named "x-operious-webhook-timestamp",
     (mapping_or_empty (body.get? "header")).get? "create_time", body.get? "timestamp"]

def nonceValues (channel : TenantChannelType) (body : JsonObject F) (headers : Headers) :
    List (Option (JsonValue F)) :=
  let named := headerValue F headers
  match channel with
  | .email =>
    [named "x-operious-webhook-nonce", named "x-email-nonce", body.get? "nonce",
     body.get? "message_id", body.get? "messageId", body.get? "id", nested body ["mail", "messageId"]]
  | .whatsapp =>
    let first := ((first_whatsapp_value body).bind fun value =>
      firstMapping (value.get? "messages")).getD .empty
    [named "x-operious-webhook-nonce", named "x-whatsapp-nonce", body.get? "nonce",
     body.get? "MessageSid", body.get? "SmsMessageSid", body.get? "SmsSid", first.get? "id"]
  | .shulex =>
    [named "x-operious-webhook-nonce", named "x-shulex-nonce", body.get? "nonce",
     body.get? "event_id", body.get? "message_id", body.get? "id"]
  | .lark =>
    let event := mapping_or_empty (body.get? "event")
    [named "x-lark-request-nonce", named "x-operious-webhook-nonce", body.get? "nonce",
     (mapping_or_empty (body.get? "header")).get? "event_id",
     (mapping_or_empty (event.get? "message")).get? "message_id", body.get? "event_id"]

def extract_webhook_security_context (channel : TenantChannelType) (body : JsonValue F)
    (headers : Headers) : Except ParseError ChannelWebhookSecurityContext :=
  match body.mapping? with
  | none => .error (.value_error "channel webhook body must be a mapping")
  | some typed_body => do
    let some timestamp ← parse_timestamp F (first_text (timestampValues channel typed_body headers))
      | .error (.value_error "webhook timestamp missing or invalid")
    let some nonce := first_text (nonceValues channel typed_body headers)
      | .error (.value_error "webhook nonce missing")
    return { timestamp := timestamp, nonce := nonce }

/-! ## The route -/

/-- `extract_email_routing_address` and its siblings: the values that may name the route. -/
def routingValues (channel : TenantChannelType) (body : JsonObject F) (headers : Headers) :
    List (Option (JsonValue F)) :=
  let named := headerValue F headers
  match channel with
  | .email =>
    [body.get? "routing_address", body.get? "to", body.get? "recipient",
     (first_sequence_text (nested body ["mail", "destination"])).map .str,
     (first_sequence_text (nested body ["mail", "commonHeaders", "to"])).map .str,
     named "x-original-to", named "to"]
  | .whatsapp =>
    let metadata := mapping_or_empty ((first_whatsapp_value body).bind (·.get? "metadata"))
    [body.get? "routing_address", metadata.get? "phone_number_id",
     metadata.get? "display_phone_number", body.get? "To", named "x-whatsapp-phone-number-id"]
  | .shulex =>
    [body.get? "routing_address", body.get? "shop_id", body.get? "store_id",
     nested body ["shop", "id"], nested body ["store", "id"], named "x-shulex-shop-id"]
  | .lark =>
    let event := mapping_or_empty (body.get? "event")
    [body.get? "routing_address", (mapping_or_empty (body.get? "header")).get? "app_id",
     body.get? "app_id", (mapping_or_empty (event.get? "message")).get? "chat_id",
     named "x-lark-app-id"]

/-- `text.removeprefix(start)`. -/
def removeprefixOf (text start : String) : String :=
  if (ascii.chars start).isPrefixOf (ascii.chars text) then
    String.ofList ((ascii.chars text).drop (ascii.chars start).length)
  else text

/-- `normalize_routing_address` of a text that is not blank. -/
def normalize_routing_address (F : Type) [WebhookLibrary F] (channel : TenantChannelType)
    (text : String) : String :=
  match channel with
  | .email => lower F text
  | .whatsapp => strip (removeprefixOf text "whatsapp:")
  | .shulex | .lark => text

def extract_routing_address (channel : TenantChannelType) (body : JsonValue F) (headers : Headers) :
    Except String String :=
  match body.mapping? with
  | none => .error "channel webhook body must be a mapping"
  | some typed_body =>
    match first_text (routingValues channel typed_body headers) with
    | none => .error (channel.value ++ " routing address missing")
    | some value =>
      let route := match channel with
        | .email => ((getaddresses F value).filter (!·.isEmpty)).getD value
        | _ => value
      if (strip route).isEmpty then .error "routing address missing"
      else .ok (normalize_routing_address F channel (strip route))

end

end operious.ingress.webhooks
