-- When the two checks of a webhook's signature agree: the adapter checks a stripped secret, and the bytes of
-- the rewritten body where the raw bytes are not those signed.
import Operious.Ingress.WebhookAdapters

namespace operious.ingress.webhooks

open operious.agents.tools (JsonObject JsonValue)
open WebhookLibrary (hmac_sha1_base64)

section

variable {F : Type} [WebhookLibrary F] {deployment : Deployment} {secret : String}
  {request request' : WebhookRequest F} {channel : TenantChannelType}

/-! ## One check -/

section

variable [JsonTexts F] {content_type : Option String} {canonicalize : String → String}

theorem payload_signature_bytes_payload :
    payload_signature_bytes (webhook_payload channel request content_type canonicalize) =
      signature_bytes (canonical_body channel request.body canonicalize) request.raw_body := by
  unfold payload_signature_bytes signature_bytes webhook_payload
  cases request.raw_body <;> rfl

theorem verify_sha256_payload {names : List String} :
    verify_sha256_signature secret (webhook_payload channel request content_type canonicalize) names =
      service_sha256_matches secret
        { request with body := canonical_body channel request.body canonicalize } names := by
  unfold verify_sha256_signature service_sha256_matches
  rw [payload_signature_bytes_payload]
  rfl

theorem verify_lark_payload :
    verify_lark_signature secret (webhook_payload channel request content_type canonicalize) =
      service_lark_matches deployment secret
        { request with body := canonical_body channel request.body canonicalize } := by
  unfold verify_lark_signature service_lark_matches
  rw [payload_signature_bytes_payload]
  simp only [webhook_payload, signed_bytes]
  cases signatureHeader F request.headers ["x-lark-signature"] <;>
    cases header F request.headers "x-lark-request-timestamp" <;>
    cases header F request.headers "x-lark-request-nonce" <;> rfl

theorem adapter_signature_matches_payload :
    adapter_signature_matches deployment secret
        (webhook_payload channel request content_type canonicalize) channel =
      service_signature_matches deployment secret
        { request with body := canonical_body channel request.body canonicalize } channel := by
  cases channel with
  | email => exact verify_sha256_payload
  | whatsapp =>
    simp only [adapter_signature_matches, service_signature_matches, verify_sha256_payload]
    rfl
  | shulex => exact verify_sha256_payload
  | lark => exact verify_lark_payload

end

/-! ## The signatures of a delivery -/

/-- The signatures that a channel takes, and the headers in which they come. -/
def signaturesOf : TenantChannelType → List (SignatureKind × List String)
  | .email => [(.sha256, ["x-operious-signature", "x-email-signature", "x-amz-sns-message-signature"])]
  | .whatsapp =>
    [(.sha256, ["x-hub-signature-256", "x-operious-signature"]), (.twilio, ["x-twilio-signature"])]
  | .shulex => [(.sha256, ["x-shulex-signature", "x-operious-signature"])]
  | .lark => [(.lark, ["x-lark-signature"])]

def digestBy (deployment : Deployment) (secret : String) (request : WebhookRequest F)
    (kind : SignatureKind) : Option String :=
  (signed_bytes deployment request kind).map <|
    match kind with
    | .twilio => hmac_sha1_base64 F (strip secret)
    | .sha256 | .lark => sha256_digest F secret

def usable (deployment : Deployment) (secret : String) (request : WebhookRequest F) :
    SignatureKind → Bool
  | .twilio => !(strip secret).isEmpty && (twilio_canonical_url deployment request).any (!·.isEmpty)
  | .sha256 | .lark => true

def supplied (F : Type) [WebhookLibrary F] (kind : SignatureKind) (signature : String) : String :=
  match kind with
  | .twilio => strip signature
  | .sha256 | .lark => suppliedDigest F signature

/-- What the check says of one of the signatures. -/
def matchesBy (deployment : Deployment) (secret : String) (request : WebhookRequest F)
    (signature : SignatureKind × List String) : Except TypeError Bool :=
  match signatureHeader F request.headers signature.2, digestBy deployment secret request signature.1 with
  | some text, some digest =>
    if usable deployment secret request signature.1 then
      compare_digest (supplied F signature.1 text) digest
    else .ok false
  | _, _ => .ok false

theorem sha256_matches_eq {names : List String} : service_sha256_matches secret request names =
    matchesBy deployment secret request (.sha256, names) := by
  unfold service_sha256_matches matchesBy
  cases signatureHeader F request.headers names <;> rfl

theorem lark_matches_eq : service_lark_matches deployment secret request =
    matchesBy deployment secret request (.lark, ["x-lark-signature"]) := by
  unfold service_lark_matches matchesBy digestBy
  cases signatureHeader F request.headers ["x-lark-signature"] <;>
    cases signed_bytes deployment request .lark <;> rfl

theorem twilio_matches_eq : service_twilio_matches deployment secret request =
    matchesBy deployment secret request (.twilio, ["x-twilio-signature"]) := by
  unfold service_twilio_matches matchesBy digestBy usable
  rcases signatureHeader F request.headers ["x-twilio-signature"] with _ | text
  · rfl
  · simp only [signed_bytes]
    rcases request.body.mapping? with _ | params
    · rfl
    · rcases hurl : twilio_canonical_url deployment request with _ | url
      · rfl
      · simp only [verify_twilio_signature]
        cases (strip secret).isEmpty <;> cases hu : url.isEmpty <;> simp [hu]; rfl

theorem service_refuses : service_signature_matches deployment secret request channel = .ok false ↔
    ∀ signature ∈ signaturesOf channel, matchesBy deployment secret request signature = .ok false := by
  cases channel with
  | email => simp [service_signature_matches, signaturesOf, ← sha256_matches_eq]
  | whatsapp =>
    simp only [service_signature_matches, signaturesOf, @sha256_matches_eq F _ deployment,
      twilio_matches_eq, List.mem_cons, List.not_mem_nil, or_false, forall_eq_or_imp, forall_eq]
    rcases matchesBy deployment secret request
      (.sha256, ["x-hub-signature-256", "x-operious-signature"]) with _ | ⟨_ | _⟩ <;>
      simp [bind, Except.bind, pure, Except.pure]
  | shulex => simp [service_signature_matches, signaturesOf, ← sha256_matches_eq]
  | lark => simp [service_signature_matches, signaturesOf, lark_matches_eq]

/-! ## A signature that still proves the payload -/

theorem compare_digest_true {text digest : String} (h : compare_digest text digest = .ok true) :
    text = digest ∧ ∀ other, compare_digest text other = .ok (text = other) := by
  unfold compare_digest at h ⊢
  split at h
  · refine ⟨by simpa using h, fun other => ?_⟩
    simp [*]
  · cases h

theorem matchesBy_rewritten {signature : SignatureKind × List String} {body : JsonValue F}
    (h : matchesBy deployment secret request signature = .ok true) :
    matchesBy deployment (strip secret) { request with body := body } signature ≠ .ok false ↔
      digestBy deployment (strip secret) { request with body := body } signature.1 =
        digestBy deployment secret request signature.1 := by
  have husable : usable deployment (strip secret) { request with body := body } signature.1 =
      usable deployment secret request signature.1 := by
    cases signature.1 with
    | twilio =>
      simp only [usable, strip_strip]
      rfl
    | sha256 => rfl
    | lark => rfl
  unfold matchesBy at h ⊢
  rw [husable]
  simp only
  cases htext : signatureHeader F request.headers signature.2 with
  | none => simp [htext] at h
  | some text =>
    cases hdigest : digestBy deployment secret request signature.1 with
    | none => simp [htext, hdigest] at h
    | some digest =>
      simp only [htext, hdigest] at h
      split at h
      · obtain ⟨htrue, hother⟩ := compare_digest_true h
        cases digestBy deployment (strip secret) { request with body := body } signature.1 with
        | none => simp
        | some digest' =>
          simp only
          rw [if_pos ‹_›, hother, htrue]
          simp only [ne_eq, Except.ok.injEq, decide_eq_false_iff_not, not_not, Option.some.injEq]
          exact eq_comm
      · cases h

end

/-! ## The law -/

section

variable {F : Type} [WebhookLibrary F] [JsonTexts F] (deployment : Deployment) (secret : String)
  (request : WebhookRequest F) (channel : TenantChannelType) (content_type : Option String)
  (canonicalize : String → String)

def AcceptedByBoth : Prop :=
  ∀ adapter_secret, require_secret secret = some adapter_secret →
    service_signature_matches deployment secret request channel = .ok true →
    adapter_authentication deployment adapter_secret
      (webhook_payload channel request content_type canonicalize) channel ≠ .unauthenticated

/-- A delivery that proves itself to the adapter: a signature that the service accepts has the same digest
under the stripped secret and over the rewritten body, or another signature, which the service does not
accept, is not refused there. -/
structure StillProved : Prop where
  proved : (canonical_body channel request.body canonicalize).mapping?.isSome →
    ∃ signature ∈ signaturesOf channel,
      (matchesBy deployment secret request signature = .ok true ∧
        digestBy deployment (strip secret)
            { request with body := canonical_body channel request.body canonicalize } signature.1 =
          digestBy deployment secret request signature.1) ∨
      (matchesBy deployment secret request signature ≠ .ok true ∧
        matchesBy deployment (strip secret)
          { request with body := canonical_body channel request.body canonicalize } signature ≠ .ok false)

end

section

variable {F : Type} [WebhookLibrary F] [JsonTexts F] {deployment : Deployment} {secret : String}
  {request : WebhookRequest F} {channel : TenantChannelType} {content_type : Option String}
  {canonicalize : String → String}

theorem adapter_unauthenticated {adapter_secret : String} :
    adapter_authentication deployment adapter_secret
        (webhook_payload channel request content_type canonicalize) channel = .unauthenticated ↔
      (canonical_body channel request.body canonicalize).mapping?.isSome = true ∧
      ∀ signature ∈ signaturesOf channel, matchesBy deployment adapter_secret
        { request with body := canonical_body channel request.body canonicalize } signature =
          .ok false := by
  have hpayload : adapter_signature_matches deployment adapter_secret
      (webhook_payload channel request content_type canonicalize) channel =
        service_signature_matches deployment adapter_secret
          { request with body := canonical_body channel request.body canonicalize } channel :=
    adapter_signature_matches_payload
  rw [← service_refuses, ← hpayload]
  unfold adapter_authentication
  have hbody : (webhook_payload channel request content_type canonicalize).body =
      canonical_body channel request.body canonicalize := rfl
  rw [hbody]
  cases (canonical_body channel request.body canonicalize).mapping? with
  | none => simp
  | some _ =>
    rcases adapter_signature_matches deployment adapter_secret
      (webhook_payload channel request content_type canonicalize) channel with _ | ⟨_ | _⟩ <;> simp

/-- The adapter does not turn away what the service accepted exactly when it is still proved. -/
theorem accepted_by_both_iff :
    AcceptedByBoth deployment secret request channel content_type canonicalize ↔
      ((require_secret secret).isSome →
        service_signature_matches deployment secret request channel = .ok true →
        StillProved deployment secret request channel canonicalize) := by
  have hcase (signature : SignatureKind × List String) :
      matchesBy deployment (strip secret)
          { request with body := canonical_body channel request.body canonicalize } signature ≠
        .ok false ↔
      (matchesBy deployment secret request signature = .ok true ∧
        digestBy deployment (strip secret)
            { request with body := canonical_body channel request.body canonicalize } signature.1 =
          digestBy deployment secret request signature.1) ∨
      (matchesBy deployment secret request signature ≠ .ok true ∧
        matchesBy deployment (strip secret)
          { request with body := canonical_body channel request.body canonicalize } signature ≠
            .ok false) := by
    by_cases hmatch : matchesBy deployment secret request signature = .ok true
    · rw [matchesBy_rewritten hmatch]
      simp [hmatch]
    · simp [hmatch]
  have hproved : StillProved deployment secret request channel canonicalize ↔
      ¬ ((canonical_body channel request.body canonicalize).mapping?.isSome = true ∧
        ∀ signature ∈ signaturesOf channel, matchesBy deployment (strip secret)
          { request with body := canonical_body channel request.body canonicalize } signature =
            .ok false) := by
    simp only [not_and, not_forall, exists_prop]
    constructor
    · rintro ⟨h⟩ hmapping
      obtain ⟨signature, hmem, hproves⟩ := h hmapping
      exact ⟨signature, hmem, (hcase signature).mpr hproves⟩
    · intro h
      refine ⟨fun hmapping => ?_⟩
      obtain ⟨signature, hmem, hproves⟩ := h hmapping
      exact ⟨signature, hmem, (hcase signature).mp hproves⟩
  rw [hproved, ← @adapter_unauthenticated F _ _ deployment request channel content_type]
  unfold AcceptedByBoth require_secret
  cases (strip secret).isEmpty <;> simp

end

/-! ## A secret with a space at its end -/

def helloText : String := "\x7b\"event_id\":\"e1\",\"message\":\"hello\",\"shop_id\":\"s1\"\x7d"

/-- A library whose floats are natural numbers, for texts in lower case, that knows the HMAC-SHA256 digests of
one body under two secrets. -/
instance : WebhookLibrary Nat where
  lower := id
  strFloat := Nat.repr
  isdigit s := !s.isEmpty && (ascii.chars s).all Char.isDigit
  float _ := .error (.value_error "could not convert string to float")
  overTenBillion n := 10000000000 < n
  thousandth n := n / 1000
  fromtimestamp n := .ok (n * 1000000)
  fromisoformat _ := none
  parsedate_to_datetime _ := none
  getaddresses s := some s
  hmac_sha256 secret bytes :=
    if bytes = encode helloText then
      if secret = "acme-secret " then "77f0bcb6f7193b50d77ac843f3ba4d2b62f509df6eeb74866099870a482a774c"
      else if secret = "acme-secret" then
        "d385cf49c3f0b16b74cf479edbb20d57532a96fc57d57254b7d49326653a9682"
      else ""
    else ""
  hmac_sha1_base64 _ _ := ""
  dumps _ := []
  str _ := ""

instance : JsonTexts Nat where
  loads _ := none
  dumps _ := ""

/-- The message, signed with the secret and its space. -/
def helloRequest : WebhookRequest Nat where
  channel_type := "shulex"
  body := .dict [("event_id", .str "e1"), ("message", .str "hello"), ("shop_id", .str "s1")]
  headers := Dict.ofList
    [("x-shulex-signature", "77f0bcb6f7193b50d77ac843f3ba4d2b62f509df6eeb74866099870a482a774c")]
  raw_body := some (encode helloText)

/-- The service checks with the space, the adapter without. -/
theorem secret_with_a_space_splits_the_checks :
    ¬ ∀ (deployment : Deployment) (secret : String) (request : WebhookRequest Nat)
      (channel : TenantChannelType) (content_type : Option String) (canonicalize : String → String),
      AcceptedByBoth deployment secret request channel content_type canonicalize := by
  intro h
  have haccepts : (service_signature_matches
      { routing_secret := fun _ _ => none, channel_tenant := fun _ _ _ => none }
      "acme-secret " helloRequest .shulex).toOption = some true := by decide +kernel
  have hrefuses : adapter_authentication
      { routing_secret := fun _ _ => none, channel_tenant := fun _ _ _ => none } "acme-secret"
      (webhook_payload .shulex helloRequest (some "application/json") id) .shulex =
        .unauthenticated := by decide +kernel
  refine h { routing_secret := fun _ _ => none, channel_tenant := fun _ _ _ => none } "acme-secret "
    helloRequest .shulex (some "application/json") id "acme-secret" (by decide +kernel) ?_ hrefuses
  revert haccepts
  cases service_signature_matches
      { routing_secret := fun _ _ => none, channel_tenant := fun _ _ _ => none }
      "acme-secret " helloRequest .shulex with
  | error _ => simp [Except.toOption]
  | ok b => simp [Except.toOption]

end operious.ingress.webhooks
