-- The messages of SNS as the mail adapter verifies them: a text of the signed fields, one line for each
-- name and each value, and an RSA signature by a key whose certificate the message itself points to.
import Operious.Core.UrlSplit
import Operious.Lib.Base64
import Operious.Lib.Joined

namespace operious.boundary.email_ses

open utf8 (Text Encodable encode ofString)
open urllib (Unicode SplitResult partition urlsplit)

abbrev Bytes := List UInt8

/-! ## URLs -/

/-- What `urlparse` makes of a text with lone surrogates. -/
class SurrogateUrls where
  urlparse : Text → Except String SplitResult

def without_params (path : List Char) : List Char :=
  let last := (path.reverse.takeWhile (· ≠ '/')).reverse
  path.take (path.length - last.length) ++ last.takeWhile (· ≠ ';')

section urls

variable [Unicode] [SurrogateUrls]

/-- `urlparse`, or the message of its `ValueError`. -/
def urlparse (url : Text) : Except String SplitResult :=
  match url.mapM utf8.toChar? with
  | some cs => (urlsplit (String.ofList cs)).map fun parts =>
      if parts.scheme = "https".toList then { parts with path := without_params parts.path }
      else parts
  | none => SurrogateUrls.urlparse url

/-- `parsed.username or parsed.password`, as a condition. -/
def has_credentials (parts : SplitResult) : Bool :=
  let userinfo := (parts.netloc.reverse.dropWhile (· ≠ '@')).tail.reverse
  !(partition ':' userinfo).1.isEmpty || !(partition ':' userinfo).2.isEmpty

/-- `(parsed.hostname or "").lower()`. -/
def lower_host (parts : SplitResult) : String := Unicode.lower (parts.hostname.getD "")

def is_aws_sns_host (host : String) : Bool :=
  host = "sns.amazonaws.com" ||
    ("sns.".toList.isPrefixOf host.toList && ".amazonaws.com".toList.isSuffixOf host.toList)

/-- What the verifier raises: its own error and those that it does not catch. -/
inductive Exc
  | sns (message : String)
  | value_error
  | unicode_encode_error
  | overflow_error
  | transport_error
  deriving DecidableEq, Repr

def validate_aws_sns_url (url : Text) (require_pem : Bool) : Except Exc Unit :=
  match urlparse url with
  | .error _ => .error .value_error
  | .ok parts =>
    if parts.scheme ≠ "https".toList then .error (.sns "sns url must use https")
    else if has_credentials parts then
      .error (.sns "sns url must not include credentials or port")
    else
      match parts.port with
      | .error _ => .error .value_error
      | .ok (some _) => .error (.sns "sns url must not include credentials or port")
      | .ok none =>
        if !is_aws_sns_host (lower_host parts) then .error (.sns "sns url host is not AWS-owned")
        else if require_pem && !".pem".toList.isSuffixOf parts.path then
          .error (.sns "sns signing certificate url must end with .pem")
        else .ok ()

end urls

/-! ## Payloads -/

/-- A value of a JSON payload. A text may have lone surrogates. -/
inductive Field
  | text (t : Text)
  | other

abbrev Payload := Dict String Field

def isBlank (n : Nat) : Bool := (utf8.toChar? n).any isSpace

/-- `text.strip()`. -/
def strip (t : Text) : Text := ((t.dropWhile isBlank).reverse.dropWhile isBlank).reverse

def optional_sns_text (payload : Payload) (key : String) : Option Text :=
  match payload.get? key with
  | some (.text t) => if strip t = [] then none else some (strip t)
  | _ => none

def required_sns_text (payload : Payload) (key : String) : Except Exc Text :=
  match optional_sns_text payload key with
  | some value => .ok value
  | none => .error (.sns ("sns field " ++ key ++ " is required"))

inductive Kind
  | notification | subscription_confirmation
  deriving DecidableEq, Repr

def Kind.text : Kind → Text
  | .notification => ofString "Notification"
  | .subscription_confirmation => ofString "SubscriptionConfirmation"

/-- `_SUPPORTED_SNS_TYPES`. -/
def supported_type (t : Text) : Option Kind :=
  if t = Kind.text .notification then some .notification
  else if t = Kind.text .subscription_confirmation then some .subscription_confirmation
  else none

/-- The names of the fields in the order in which they are signed. -/
def signed_names (kind : Kind) (subject : Bool) : List String :=
  match kind with
  | .notification =>
    ["Message", "MessageId"] ++ (if subject then ["Subject"] else []) ++
      ["Timestamp", "TopicArn", "Type"]
  | .subscription_confirmation =>
    ["Message", "MessageId", "SubscribeURL", "Timestamp", "Token", "TopicArn", "Type"]

def lineFeed : Nat := 10

/-- `"\n".join(lines) + "\n"`, of the names and the values. -/
def join_fields (fields : List (String × Text)) : Text :=
  [lineFeed].intercalate (fields.flatMap fun f => [ofString f.1, f.2]) ++ [lineFeed]

def canonical_sns_string (payload : Payload) (kind : Kind) : Except Exc Text := do
  let fields ← (signed_names kind (optional_sns_text payload "Subject").isSome).mapM fun name =>
    (required_sns_text payload name).map fun value => (name, value)
  return join_fields fields

/-! ## The verifier -/

inductive Digest
  | sha1 | sha256
  deriving DecidableEq, Repr

/-- `base64.b64decode(value, validate=True)`. -/
def decode_signature (value : Text) : Except Exc Bytes :=
  match if value.all (· < 128) then base64.a2b 0 0 0 value else none with
  | some bytes => .ok bytes
  | none => .error (.sns "sns signature is not valid base64")

def signature_digest (version : Text) : Except Exc Digest :=
  if version = ofString "1" then .ok .sha1
  else if version = ofString "2" then .ok .sha256
  else .error (.sns "unsupported sns signature version")

/-- What a certificate URL answers. -/
inductive Served (K : Type)
  | unreachable
  | status (code : Nat)
  /-- No PEM certificate. -/
  | malformed
  | not_rsa
  | rsa (key : K)

/-- What the verifier takes from the network, the clock module and the cryptography library. -/
class Platform (K Stamp : Type) where
  served : Text → Served K
  /-- `public_key.verify(signature, data, PKCS1v15(), digest)` raises nothing. -/
  rsa_verify : K → Bytes → Bytes → Digest → Bool
  /-- `_parse_timestamp` and the change to UTC: none where the text is no timestamp, an error where
  the change leaves the range of dates. -/
  timestamp : Text → Except Unit (Option Stamp)

structure SnsVerifiedMessage (Stamp : Type) where
  message_type : Kind
  message_id : Text
  topic_arn : Text
  timestamp : Stamp
  message : Text
  subscribe_url : Option Text

/-- What a payload comes to before the certificate is asked for. -/
structure Prepared where
  kind : Kind
  topic_arn : Text
  url : Text
  signature : Bytes
  digest : Digest
  canonical : Text
  deriving DecidableEq

section verifier

variable [Unicode] [SurrogateUrls]

/-- The part of `verify` before the certificate is asked for. -/
def prepare (payload : Payload) (expected_topic_arn : Text) : Except Exc Prepared := do
  let message_type ← required_sns_text payload "Type"
  match supported_type message_type with
  | none => .error (.sns "unsupported sns message type")
  | some kind =>
    let topic_arn ← required_sns_text payload "TopicArn"
    if topic_arn ≠ expected_topic_arn then .error (.sns "sns topic arn mismatch")
    else do
      let url ← required_sns_text payload "SigningCertURL"
      validate_aws_sns_url url true
      let signature_text ← required_sns_text payload "Signature"
      let signature ← decode_signature signature_text
      let version ← required_sns_text payload "SignatureVersion"
      let digest ← signature_digest version
      let canonical ← canonical_sns_string payload kind
      return ⟨kind, topic_arn, url, signature, digest, canonical⟩

variable {K Stamp : Type} [Platform K Stamp]

variable (K Stamp) in
def certificate_key (url : Text) : Except Exc K :=
  match Platform.served Stamp url with
  | .unreachable => .error .transport_error
  | .status code => .error (.sns ("sns certificate fetch returned " ++ code.repr))
  | .malformed => .error .value_error
  | .not_rsa => .error (.sns "sns certificate public key is not RSA")
  | .rsa key => .ok key

def encoded (text : Text) : Except Exc Bytes :=
  match encode text with
  | some bytes => .ok bytes
  | none => .error .unicode_encode_error

variable (K Stamp) in
def parse_required_timestamp (value : Text) : Except Exc Stamp :=
  match Platform.timestamp K value with
  | .error _ => .error .overflow_error
  | .ok none => .error (.sns "sns timestamp is invalid")
  | .ok (some stamp) => .ok stamp

variable (K Stamp) in
def verified_message (payload : Payload) (p : Prepared) :
    Except Exc (SnsVerifiedMessage Stamp) := do
  let message_id ← required_sns_text payload "MessageId"
  let timestamp_text ← required_sns_text payload "Timestamp"
  let timestamp ← parse_required_timestamp K Stamp timestamp_text
  let message ← required_sns_text payload "Message"
  let subscribe_url ← match p.kind with
    | .notification => pure none
    | .subscription_confirmation => (required_sns_text payload "SubscribeURL").map some
  return ⟨p.kind, message_id, p.topic_arn, timestamp, message, subscribe_url⟩

variable (K Stamp) in
/-- `SnsMessageVerifier.verify`. -/
def verify (payload : Payload) (expected_topic_arn : Text) :
    Except Exc (SnsVerifiedMessage Stamp) := do
  let p ← prepare payload expected_topic_arn
  let key ← certificate_key K Stamp p.url
  let data ← encoded p.canonical
  if Platform.rsa_verify Stamp key p.signature data p.digest then
    verified_message K Stamp payload p
  else .error (.sns "sns signature verification failed")

def requested (payload : Payload) (expected_topic_arn : Text) : Option Text :=
  (prepare payload expected_topic_arn).toOption.map Prepared.url

end verifier

/-! ## What AWS signs -/

/-- A message as AWS sends it. -/
inductive Envelope
  | notification (message message_id : Text) (subject : Option Text) (timestamp topic_arn : Text)
  | subscription_confirmation (message message_id subscribe_url timestamp token topic_arn : Text)

namespace Envelope

def kind : Envelope → Kind
  | notification .. => .notification
  | subscription_confirmation .. => .subscription_confirmation

def message : Envelope → Text
  | notification message _ _ _ _ => message
  | subscription_confirmation message _ _ _ _ _ => message

def message_id : Envelope → Text
  | notification _ message_id _ _ _ => message_id
  | subscription_confirmation _ message_id _ _ _ _ => message_id

def timestamp : Envelope → Text
  | notification _ _ _ timestamp _ => timestamp
  | subscription_confirmation _ _ _ timestamp _ _ => timestamp

def topic_arn : Envelope → Text
  | notification _ _ _ _ topic_arn => topic_arn
  | subscription_confirmation _ _ _ _ _ topic_arn => topic_arn

/-- The signed fields, as sent. -/
def fields : Envelope → List (String × Text)
  | notification message message_id subject timestamp topic_arn =>
    [("Message", message), ("MessageId", message_id)] ++
      (subject.map fun s => ("Subject", s)).toList ++
      [("Timestamp", timestamp), ("TopicArn", topic_arn), ("Type", Kind.text .notification)]
  | subscription_confirmation message message_id subscribe_url timestamp token topic_arn =>
    [("Message", message), ("MessageId", message_id), ("SubscribeURL", subscribe_url),
      ("Timestamp", timestamp), ("Token", token), ("TopicArn", topic_arn),
      ("Type", Kind.text .subscription_confirmation)]

/-- The documented string to sign. -/
def canonical (e : Envelope) : Text := join_fields e.fields

def NoSubject : Envelope → Prop
  | notification _ _ subject _ _ => subject = none
  | subscription_confirmation .. => False

end Envelope

/-- The payload has the signed fields as they were sent, and no subject that was not signed. -/
structure Carries (payload : Payload) (e : Envelope) : Prop where
  fields : ∀ f ∈ e.fields, payload.get? f.1 = some (.text f.2)
  no_subject : e.NoSubject → optional_sns_text payload "Subject" = none

structure Aws (K : Type) where
  key : K
  signed : Digest → Envelope → Prop
  sign : Digest → Bytes → Bytes

/-- The hosts of SNS: one for all regions, and one for each region. -/
def GenuineHost (host : String) : Prop :=
  host = "sns.amazonaws.com" ∨
    ∃ label : String, label ≠ "" ∧ '.' ∉ label.toList ∧ host = "sns." ++ label ++ ".amazonaws.com"

section signed

variable [Unicode] [SurrogateUrls]

def GenuineUrl (url : Text) : Prop :=
  ∃ parts, urlparse url = .ok parts ∧ parts.scheme = "https".toList ∧ GenuineHost (lower_host parts)

variable {K : Type} (Stamp : Type) [Platform K Stamp]

/-- RSA signatures are ideal, and what hosts of SNS serve as certificates are the signer's own. -/
structure Aws.Ideal (aws : Aws K) : Prop where
  verifies : ∀ sig data d, Platform.rsa_verify Stamp aws.key sig data d = true ↔
    ∃ e, aws.signed d e ∧ encode e.canonical = some data ∧ sig = aws.sign d data
  sign_injective : ∀ d, Function.Injective (aws.sign d)
  certificates : ∀ url key, GenuineUrl url → Platform.served Stamp url = .rsa key → key = aws.key

/-- The payload has what is sent along with a message: where the certificate is, the signature,
and its version. -/
structure Attached (aws : Aws K) (payload : Payload) (d : Digest) (e : Envelope) : Prop where
  certificate : ∃ url, optional_sns_text payload "SigningCertURL" = some url ∧
    validate_aws_sns_url url true = .ok () ∧ GenuineUrl url ∧
    Platform.served Stamp url = .rsa aws.key
  signature : ∃ text data, optional_sns_text payload "Signature" = some text ∧
    encode e.canonical = some data ∧ decode_signature text = .ok (aws.sign d data)
  version : ∃ text, optional_sns_text payload "SignatureVersion" = some text ∧
    signature_digest text = .ok d

def Genuine (aws : Aws K) (payload : Payload) (expected_topic_arn : Text) (e : Envelope) : Prop :=
  e.topic_arn = expected_topic_arn ∧
    ∃ d, aws.signed d e ∧ Carries payload e ∧ Attached Stamp aws payload d e

end signed

/-- A result with the fields of a message. -/
structure Matches (K : Type) {Stamp : Type} [Platform K Stamp] (m : SnsVerifiedMessage Stamp)
    (e : Envelope) : Prop where
  message_type : m.message_type = e.kind
  message : m.message = e.message
  message_id : m.message_id = e.message_id
  timestamp : Platform.timestamp K e.timestamp = .ok (some m.timestamp)
  topic_arn : m.topic_arn = e.topic_arn

section exact

variable [Unicode] [SurrogateUrls] {K : Type} (Stamp : Type) [Platform K Stamp]

structure Exact (aws : Aws K) (payload : Payload) (expected_topic_arn : Text) : Prop where
  returns_iff : (∃ m, verify K Stamp payload expected_topic_arn = .ok m) ↔
    ∃ e, Genuine Stamp aws payload expected_topic_arn e
  fields : ∀ m e, verify K Stamp payload expected_topic_arn = .ok m →
    Genuine Stamp aws payload expected_topic_arn e → Matches K m e
  errors : ∀ exc, verify K Stamp payload expected_topic_arn = .error exc →
    ∃ message, exc = .sns message
  requests : ∀ url, requested payload expected_topic_arn = some url → GenuineUrl url

end exact

end operious.boundary.email_ses
