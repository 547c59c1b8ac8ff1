-- The signature of a channel webhook, checked twice: by the service over the body as it came, and by the
-- adapter of the channel over the payload that the service builds, whose text is in its canonical form.
import Operious.Ingress.WebhookReplay

namespace operious.ingress.webhooks

open operious.agents.tools (JsonObject JsonValue)
open WebhookLibrary (lower hmac_sha256 hmac_sha1_base64)

/-- The reader and the writer of `json` for texts inside a body. -/
class JsonTexts (F : Type) where
  /-- `json.loads`, or none where it raises `JSONDecodeError`. -/
  loads : String → Option (JsonValue F)
  /-- `json.dumps(value, sort_keys=True, separators=(",", ":"))`. -/
  dumps : JsonValue F → String

/-- What the check of a signature raises: `hmac.compare_digest` takes ASCII texts only. -/
inductive TypeError
  | not_ascii
  deriving DecidableEq, Repr

/-- `hmac.compare_digest` of a supplied text with a digest, whose text is ASCII. -/
def compare_digest (supplied digest : String) : Except TypeError Bool :=
  if (ascii.chars supplied).all (·.toNat < 128) then .ok (supplied = digest) else .error .not_ascii

section

variable {F : Type} [WebhookLibrary F]

/-! ## The check of the service -/

def sha256_digest (F : Type) [WebhookLibrary F] (secret : String) (bytes : Bytes) : String :=
  lower F (hmac_sha256 F secret bytes)

def suppliedDigest (F : Type) [WebhookLibrary F] (signature : String) : String :=
  lower F (removeprefixOf (strip signature) "sha256=")

variable (deployment : Deployment) (secret : String) (request : WebhookRequest F)

/-- `_sha256_signature_matches`. -/
def service_sha256_matches (header_names : List String) : Except TypeError Bool :=
  match signatureHeader F request.headers header_names with
  | none => .ok false
  | some signature => compare_digest (suppliedDigest F signature)
      (sha256_digest F secret (signature_bytes request.body request.raw_body))

/-- `_lark_signature_matches`. -/
def service_lark_matches : Except TypeError Bool :=
  match signatureHeader F request.headers ["x-lark-signature"], signed_bytes deployment request .lark with
  | some signature, some bytes =>
    compare_digest (suppliedDigest F signature) (sha256_digest F secret bytes)
  | _, _ => .ok false

/-- `verify_twilio_signature`, of a signature that is there. -/
def verify_twilio_signature (auth_token : String) (url : String) (params : JsonObject F)
    (signature : String) : Except TypeError Bool :=
  if (strip auth_token).isEmpty || url.isEmpty then .ok false
  else compare_digest (strip signature) (hmac_sha1_base64 F (strip auth_token)
    (encode (String.join (url :: (agents.tools.sorted params.keys).map (twilioPiece params)))))

/-- `_twilio_signature_matches`. -/
def service_twilio_matches : Except TypeError Bool :=
  match signatureHeader F request.headers ["x-twilio-signature"], request.body.mapping?,
      twilio_canonical_url deployment request with
  | some signature, some params, some url => verify_twilio_signature secret url params signature
  | _, _, _ => .ok false

/-- `_webhook_signature_matches_secret`. -/
def service_signature_matches (channel : TenantChannelType) : Except TypeError Bool :=
  match channel with
  | .email => service_sha256_matches secret request
      ["x-operious-signature", "x-email-signature", "x-amz-sns-message-signature"]
  | .whatsapp => do
    if ← service_sha256_matches secret request ["x-hub-signature-256", "x-operious-signature"] then
      return true
    service_twilio_matches deployment secret request
  | .shulex => service_sha256_matches secret request ["x-shulex-signature", "x-operious-signature"]
  | .lark => service_lark_matches deployment secret request

end

/-! ## The adapters -/

structure IngressPayload (F : Type) where
  body : JsonValue F
  content_type : Option String := none
  headers : Headers := .empty
  signature : Option String := none
  raw_bytes : Option Bytes := none
  request_path : Option String := none

/-- `_require_secret`, which the constructors of the adapters call. -/
def require_secret (value : String) : Option String :=
  if (strip value).isEmpty then none else some (strip value)

section

variable {F : Type} [WebhookLibrary F] (deployment : Deployment) (secret : String)
  (payload : IngressPayload F)

/-- `_signature_bytes`. -/
def payload_signature_bytes : Bytes :=
  match payload.raw_bytes with
  | some raw_bytes => raw_bytes
  | none => WebhookLibrary.dumps payload.body

/-- `_verify_sha256_signature`. A signature that the payload carries itself comes first. -/
def verify_sha256_signature (header_names : List String) : Except TypeError Bool :=
  let signature := match payload.signature with
    | some signature => if signature.isEmpty then none else some signature
    | none => signatureHeader F payload.headers header_names
  match signature with
  | none => .ok false
  | some signature => compare_digest (suppliedDigest F signature)
      (sha256_digest F secret (payload_signature_bytes payload))

/-- `_twilio_canonical_url`. -/
def payload_canonical_url : Option String :=
  if deployment.trust_url_header then header F payload.headers "x-operious-webhook-url"
  else payload.request_path.bind (derive_canonical_webhook_url deployment.public_base_url)

/-- `_verify_twilio_signature`. -/
def payload_twilio_signature : Except TypeError Bool :=
  match signatureHeader F payload.headers ["x-twilio-signature"], payload.body.mapping?,
      payload_canonical_url deployment payload with
  | some signature, some params, some url => verify_twilio_signature secret url params signature
  | _, _, _ => .ok false

def verify_lark_signature : Except TypeError Bool :=
  match signatureHeader F payload.headers ["x-lark-signature"],
      header F payload.headers "x-lark-request-timestamp",
      header F payload.headers "x-lark-request-nonce" with
  | some signature, some timestamp, some nonce => compare_digest (suppliedDigest F signature)
      (sha256_digest F secret (encode timestamp ++ encode nonce ++ payload_signature_bytes payload))
  | _, _, _ => .ok false

/-- The check at the start of an adapter's `normalize`. -/
def adapter_signature_matches (channel : TenantChannelType) : Except TypeError Bool :=
  match channel with
  | .email => verify_sha256_signature secret payload
      ["x-operious-signature", "x-email-signature", "x-amz-sns-message-signature"]
  | .whatsapp => do
    if ← verify_sha256_signature secret payload ["x-hub-signature-256", "x-operious-signature"] then
      return true
    payload_twilio_signature deployment secret payload
  | .shulex => verify_sha256_signature secret payload ["x-shulex-signature", "x-operious-signature"]
  | .lark => verify_lark_signature secret payload

/-- What comes of the start of an adapter's `normalize`, run by the normalizer. After it, no adapter says
that a delivery is unauthenticated. -/
inductive Authentication
  | malformed
  | adapter_error
  | unauthenticated
  | authenticated
  deriving DecidableEq, Repr

def adapter_authentication (channel : TenantChannelType) : Authentication :=
  match payload.body.mapping? with
  | none => .malformed
  | some _ =>
    match adapter_signature_matches deployment secret payload channel with
    | .error _ => .adapter_error
    | .ok false => .unauthenticated
    | .ok true => .authenticated

end

/-! ## The payload that the service builds -/

inductive PathKey
  | key (name : String)
  | index (i : Nat)

section

variable {F : Type}

/-- `_nested` of the service. -/
def nestedPath : List PathKey → Option (JsonValue F) → Option (JsonValue F)
  | [], value => value
  | .key name :: path, some (.dict items) => nestedPath path ((Dict.ofList items).get? name)
  | .index i :: path, some (.list items) => nestedPath path items[i]?
  | _ :: _, _ => none

def whatsappText : List PathKey :=
  [.key "entry", .index 0, .key "changes", .index 0, .key "value", .key "messages", .index 0, .key "text"]

def modifyPath (change : JsonValue F → JsonValue F) : List PathKey → JsonValue F → JsonValue F
  | [], value => change value
  | .key name :: path, .dict items =>
    match (Dict.ofList items).get? name with
    | some inner => .dict ((Dict.ofList items).set name (modifyPath change path inner)).items
    | none => .dict items
  | .index i :: path, .list items => .list (items.modify i (modifyPath change path))
  | _ :: _, value => value

/-- `value[key] = text`, of a value that is a dict. -/
def setText (key text : String) : JsonValue F → JsonValue F
  | .dict items => .dict ((Dict.ofList items).set key (.str text)).items
  | value => value

/-- The text is put under the first of two keys that is there. -/
def setEither (payload : JsonObject F) (first second text : String) : JsonValue F :=
  if (payload.get? first).isSome then setText first text (.dict payload.items)
  else if (payload.get? second).isSome then setText second text (.dict payload.items)
  else .dict payload.items

variable [WebhookLibrary F] [JsonTexts F]

def extract_lark_text : Option (JsonValue F) → Option String
  | some (.str content) =>
    match JsonTexts.loads (F := F) content with
    | none => first_text_value [some (JsonValue.str (F := F) content)]
    | some (.dict decoded) => first_text_value [(Dict.ofList decoded).get? "text"]
    | some _ => none
  | some (.dict content) => first_text_value [(Dict.ofList content).get? "text"]
  | _ => none

def extract_webhook_ticket_text (channel : TenantChannelType) (body : JsonValue F) : Option String :=
  match body.mapping? with
  | none => none
  | some payload =>
    match channel with
    | .email => first_text_value [payload.get? "text", payload.get? "message"]
    | .whatsapp => first_text_value [nestedPath (whatsappText ++ [.key "body"]) (some body)]
    | .shulex => first_text_value [payload.get? "message", payload.get? "text"]
    | .lark => extract_lark_text (nestedPath [.key "event", .key "message", .key "content"] (some body))

def replaceLarkContent (text : String) : JsonValue F → JsonValue F
  | .str content =>
    match JsonTexts.loads (F := F) content with
    | some (.dict decoded) => .str (JsonTexts.dumps (setText "text" text (JsonValue.dict (F := F) decoded)))
    | _ => .str text
  | content => content

def replace_webhook_ticket_text (channel : TenantChannelType) (body : JsonValue F) (text : String) :
    JsonValue F :=
  match body.mapping? with
  | none => body
  | some payload =>
    match channel with
    | .email => setEither payload "text" "message" text
    | .whatsapp => modifyPath (setText "body" text) whatsappText body
    | .shulex => setEither payload "message" "text" text
    | .lark => modifyPath (replaceLarkContent text) [.key "event", .key "message", .key "content"] body

/-- The body with its text in canonical form, as language detection and translation give it. -/
def canonical_body (channel : TenantChannelType) (body : JsonValue F) (canonicalize : String → String) :
    JsonValue F :=
  match extract_webhook_ticket_text channel body with
  | none => body
  | some ticket_text => replace_webhook_ticket_text channel body (canonicalize ticket_text)

/-- The payload of `process_channel_webhook`. -/
def webhook_payload (channel : TenantChannelType) (request : WebhookRequest F)
    (content_type : Option String) (canonicalize : String → String) : IngressPayload F where
  body := canonical_body channel request.body canonicalize
  content_type := content_type
  headers := request.headers
  raw_bytes := request.raw_body
  request_path := request.request_path

end

end operious.ingress.webhooks
