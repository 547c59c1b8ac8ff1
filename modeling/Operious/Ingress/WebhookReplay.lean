-- `process_channel_webhook` up to its nonce: the route, the signature, the freshness and the nonce, and the
-- deliveries of what a provider signed.
import Operious.Ingress.WebhookContext
import Operious.Lib.Runs

namespace operious.ingress.webhooks

open operious.agents.tools (JsonObject JsonValue)
open WebhookLibrary (lower hmac_sha256 hmac_sha1_base64 dumps)

structure WebhookRequest (F : Type) where
  channel_type : String
  body : JsonValue F
  headers : Headers
  raw_body : Option Bytes := none
  tenant_hint : Option String := none
  request_path : Option String := none

structure TenantWebhookRoutingSecretRecord where
  tenant_id : String
  webhook_secret : String
  previous_webhook_secret : Option String := none
  credential_rotation_expires_at : Option Instant := none

/-- What is configured: the secrets of the routes, the tenants of the active channels, and the settings. -/
structure Deployment where
  routing_secret : TenantChannelType → String → Option TenantWebhookRoutingSecretRecord
  /-- `resolve_active_channel_for_routing_address`. -/
  channel_tenant : TenantChannelType → String → String → Option String
  trust_url_header : Bool := false
  public_base_url : String := ""

structure TicketIngressRejected where
  code : String
  reason : String
  status_code : Nat := 400
  deriving DecidableEq, Repr

/-- Why a webhook is not answered as a delivery. -/
inductive Refusal
  | rejected (rejection : TicketIngressRejected)
  | overflow_error
  /-- The body is an SNS message, which goes to `_process_email_sns_webhook`. -/
  | sns
  deriving DecidableEq, Repr

def uniform_webhook_rejection : Refusal :=
  .rejected { code := "webhook_rejected", reason := "webhook_rejected", status_code := 401 }

section

variable {F : Type} [WebhookLibrary F]

/-! ## The signature -/

def signature_bytes (body : JsonValue F) (raw_body : Option Bytes) : Bytes := raw_body.getD (dumps body)

/-- How a signature is made. -/
inductive SignatureKind
  | sha256 | twilio | lark
  deriving DecidableEq, Repr

/-- `rstrip("/")`. -/
def rstripSlash (text : String) : String := String.ofList ((ascii.chars text).rdropWhile (· = '/'))

def derive_canonical_webhook_url (public_base_url request_path : String) : Option String :=
  let base := rstripSlash (strip public_base_url)
  if base.isEmpty then none
  else some (base ++
    if ['/'].isPrefixOf (ascii.chars request_path) then request_path else "/" ++ request_path)

def twilio_canonical_url (deployment : Deployment) (request : WebhookRequest F) : Option String :=
  if deployment.trust_url_header then header F request.headers "x-operious-webhook-url"
  else request.request_path.bind (derive_canonical_webhook_url deployment.public_base_url)

def twilioPiece (params : JsonObject F) (key : String) : String :=
  key ++ match params.get? key with
    | none | some .null => ""
    | some value => WebhookLibrary.str value

def signed_bytes (deployment : Deployment) (request : WebhookRequest F) : SignatureKind → Option Bytes
  | .sha256 => some (signature_bytes request.body request.raw_body)
  | .twilio => do
    let params ← request.body.mapping?
    let url ← twilio_canonical_url deployment request
    return encode (String.join (url :: (agents.tools.sorted params.keys).map (twilioPiece params)))
  | .lark => do
    let timestamp ← header F request.headers "x-lark-request-timestamp"
    let nonce ← header F request.headers "x-lark-request-nonce"
    return encode timestamp ++ encode nonce ++ signature_bytes request.body request.raw_body

def signatureHeader (F : Type) [WebhookLibrary F] (headers : Headers) (names : List String) :
    Option String :=
  names.findSome? fun name => (header F headers name).filter (!·.isEmpty)

def digest_matches (F : Type) [WebhookLibrary F] (signature expected : String) : Bool :=
  lower F (removeprefixOf (strip signature) "sha256=") = lower F expected

def sha256_signature_matches (deployment : Deployment) (secret : String) (request : WebhookRequest F)
    (header_names : List String) : Bool :=
  match signatureHeader F request.headers header_names, signed_bytes deployment request .sha256 with
  | some signature, some bytes => digest_matches F signature (hmac_sha256 F secret bytes)
  | _, _ => false

def twilio_signature_matches (deployment : Deployment) (secret : String)
    (request : WebhookRequest F) : Bool :=
  match signatureHeader F request.headers ["x-twilio-signature"],
      signed_bytes deployment request .twilio with
  | some signature, some bytes =>
    !(strip secret).isEmpty && (twilio_canonical_url deployment request).any (!·.isEmpty) &&
      strip signature = hmac_sha1_base64 F (strip secret) bytes
  | _, _ => false

def lark_signature_matches (deployment : Deployment) (secret : String) (request : WebhookRequest F) :
    Bool :=
  match signatureHeader F request.headers ["x-lark-signature"], signed_bytes deployment request .lark with
  | some signature, some bytes => digest_matches F signature (hmac_sha256 F secret bytes)
  | _, _ => false

def webhook_signature_matches_secret (deployment : Deployment) (channel : TenantChannelType)
    (secret : String) (request : WebhookRequest F) : Bool :=
  match channel with
  | .email => sha256_signature_matches deployment secret request
      ["x-operious-signature", "x-email-signature", "x-amz-sns-message-signature"]
  | .whatsapp =>
    sha256_signature_matches deployment secret request ["x-hub-signature-256", "x-operious-signature"] ||
      twilio_signature_matches deployment secret request
  | .shulex => sha256_signature_matches deployment secret request
      ["x-shulex-signature", "x-operious-signature"]
  | .lark => lark_signature_matches deployment secret request

def webhook_signature_header_present (F : Type) [WebhookLibrary F] (channel : TenantChannelType)
    (headers : Headers) : Bool :=
  let names := match channel with
    | .email => ["x-operious-signature", "x-email-signature", "x-amz-sns-message-signature"]
    | .whatsapp => ["x-hub-signature-256", "x-operious-signature", "x-twilio-signature"]
    | .shulex => ["x-shulex-signature", "x-operious-signature"]
    | .lark => ["x-lark-signature"]
  names.any fun name => (header F headers name).isSome

def select_webhook_secret (deployment : Deployment) (channel : TenantChannelType)
    (config : TenantWebhookRoutingSecretRecord) (request : WebhookRequest F) (now : Instant) : String :=
  match config.previous_webhook_secret, config.credential_rotation_expires_at with
  | some previous_secret, some expires_at =>
    if expires_at ≤ now then config.webhook_secret
    else if webhook_signature_matches_secret deployment channel previous_secret request then
      previous_secret
    else config.webhook_secret
  | _, _ => config.webhook_secret

/-! ## The route and the tenant -/

def tenant_channel_type (channel_type : String) : Except Refusal TenantChannelType :=
  match [TenantChannelType.email, .whatsapp, .shulex, .lark].find? (·.value = channel_type) with
  | some channel => .ok channel
  | none => .error (.rejected
      { code := "unsupported_channel_type", reason := "channel type is not supported for webhooks" })

def first_text_value (values : List (Option (JsonValue F))) : Option String :=
  values.findSome? fun value => value.bind JsonValue.text

def is_sns_webhook_body (body : JsonValue F) : Bool :=
  match body.mapping? with
  | none => false
  | some typed =>
    (first_text_value [typed.get? "Type", typed.get? "TopicArn", typed.get? "SigningCertURL",
      typed.get? "Signature"]).isSome && (first_text_value [typed.get? "TopicArn"]).isSome

def routing_address_for_webhook (channel : TenantChannelType) (request : WebhookRequest F) :
    Except Refusal String :=
  (extract_routing_address channel request.body request.headers).mapError fun reason =>
    .rejected { code := "channel_routing_address_missing", reason := reason }

/-- Everything before the freshness: the channel and the tenant of a request whose signature is valid. -/
def authenticate (deployment : Deployment) (request : WebhookRequest F) (now : Instant) :
    Except Refusal (TenantChannelType × String) := do
  let channel ← tenant_channel_type request.channel_type
  if channel = .email ∧ is_sns_webhook_body request.body = true then .error .sns else do
  let routing_address ← routing_address_for_webhook channel request
  if webhook_signature_header_present F channel request.headers = false then
    .error uniform_webhook_rejection
  else match deployment.routing_secret channel routing_address with
    | none => .error uniform_webhook_rejection
    | some routing_secret =>
      let webhook_secret := select_webhook_secret deployment channel routing_secret request now
      if request.tenant_hint.any (· ≠ routing_secret.tenant_id) then .error uniform_webhook_rejection
      else if webhook_signature_matches_secret deployment channel webhook_secret request = false then
        .error uniform_webhook_rejection
      else match deployment.channel_tenant channel routing_address routing_secret.tenant_id with
        | none => .error uniform_webhook_rejection
        | some tenant_id => .ok (channel, tenant_id)

/-! ## The freshness and the nonce -/

def webhookFreshnessWindow : Int := 300 * 1000000

def webhookNonceTtl : Int := 24 * 60 * 60 * 1000000

/-- `_enforce_webhook_freshness`. -/
def fresh (timestamp received_at : Instant) : Bool := |received_at - timestamp| ≤ webhookFreshnessWindow

def stale_webhook_timestamp : Refusal :=
  .rejected
    { code := "stale_webhook_timestamp"
      reason := "webhook timestamp is outside the freshness window"
      status_code := 401 }

/-- What a `ValueError` of the context becomes. -/
def contextRefusal : ParseError → Refusal
  | .overflow_error => .overflow_error
  | .value_error reason =>
    if reason.toList.tails.any "nonce".toList.isPrefixOf then
      .rejected { code := "webhook_nonce_missing", reason := reason, status_code := 400 }
    else .rejected { code := "stale_webhook_timestamp", reason := reason, status_code := 401 }

def validated_webhook_security_context (channel : TenantChannelType) (request : WebhookRequest F)
    (now : Instant) : Except Refusal ChannelWebhookSecurityContext := do
  let context ← (extract_webhook_security_context channel request.body request.headers).mapError
    contextRefusal
  if fresh context.timestamp now then .ok context else .error stale_webhook_timestamp

structure WebhookNonceRecord where
  tenant_id : String
  channel_type : TenantChannelType
  nonce : String
  received_at : Instant
  expires_at : Instant
  deriving DecidableEq

/-- The row stands under the key. -/
def WebhookNonceRecord.keyed (record : WebhookNonceRecord) (tenant_id : String)
    (channel_type : TenantChannelType) (nonce : String) : Bool :=
  record.tenant_id = tenant_id && record.channel_type = channel_type && record.nonce = nonce

def webhook_nonce_exists (nonces : List WebhookNonceRecord) (tenant_id : String)
    (channel_type : TenantChannelType) (nonce : String) (now : Instant) : Bool :=
  nonces.any fun row => row.keyed tenant_id channel_type nonce && now < row.expires_at

/-- `record_webhook_nonce`, or none where the nonce is taken. -/
def record_webhook_nonce (nonces : List WebhookNonceRecord) (record : WebhookNonceRecord) :
    Option (List WebhookNonceRecord) :=
  let kept := nonces.filter fun row =>
    !(row.keyed record.tenant_id record.channel_type record.nonce && row.expires_at ≤ record.received_at)
  if kept.any (·.keyed record.tenant_id record.channel_type record.nonce) then none
  else some (record :: kept)

/-- The clock as one call reads it: for the secret, for the first check of the freshness, for the nonce, for
the second check, and for the record. -/
structure Clock where
  selected : Instant
  checked : Instant
  looked : Instant
  rechecked : Instant
  recorded : Instant
  selected_le : selected ≤ checked := by decide
  checked_le : checked ≤ looked := by decide
  looked_le : looked ≤ rechecked := by decide
  rechecked_le : rechecked ≤ recorded := by decide

/-- What the call does with a delivery: the nonce is recorded and the ingestion follows, or it is a
duplicate. -/
inductive Answer
  | duplicate
  | recorded (nonces : List WebhookNonceRecord)

/-- `process_channel_webhook` up to the ingestion. -/
def process_channel_webhook (deployment : Deployment) (request : WebhookRequest F) (clock : Clock)
    (nonces : List WebhookNonceRecord) : Except Refusal Answer := do
  let (channel, tenant_id) ← authenticate deployment request clock.selected
  let context ← validated_webhook_security_context channel request clock.checked
  let record : WebhookNonceRecord :=
    { tenant_id := tenant_id
      channel_type := channel
      nonce := context.nonce
      received_at := clock.recorded
      expires_at := clock.recorded + webhookNonceTtl }
  if webhook_nonce_exists nonces tenant_id channel context.nonce clock.looked then .ok .duplicate
  else if fresh context.timestamp clock.rechecked = false then .error stale_webhook_timestamp
  else match record_webhook_nonce nonces record with
    | none => .ok .duplicate
    | some nonces => .ok (.recorded nonces)

end

end operious.ingress.webhooks
