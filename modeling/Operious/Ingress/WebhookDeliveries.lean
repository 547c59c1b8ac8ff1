-- The deliveries of the messages that a provider signed, by the provider and by whoever holds a copy: when each
-- message is accepted at most once and while it is fresh.
import Mathlib.Algebra.Order.Group.Int
import Mathlib.Tactic.Linarith
import Operious.Ingress.WebhookReplay

namespace operious.ingress.webhooks

open runs

section

variable {F : Type} [WebhookLibrary F]

/-! ## What a request says -/

/-- The key and the time that a request is read to have. -/
structure Reading where
  tenant_id : String
  channel : TenantChannelType
  context : ChannelWebhookSecurityContext
  deriving DecidableEq

/-- The reading of a request, by the fields alone: no clock, no signature and no store. -/
def reading (deployment : Deployment) (request : WebhookRequest F) : Option Reading := do
  let channel ← (tenant_channel_type request.channel_type).toOption
  let routing_address ← (routing_address_for_webhook channel request).toOption
  let routing_secret ← deployment.routing_secret channel routing_address
  let tenant_id ← deployment.channel_tenant channel routing_address routing_secret.tenant_id
  let context ← (extract_webhook_security_context channel request.body request.headers).toOption
  return { tenant_id := tenant_id, channel := channel, context := context }

def WebhookNonceRecord.keyedBy (row : WebhookNonceRecord) (r : Reading) : Bool :=
  row.keyed r.tenant_id r.channel r.context.nonce

omit [WebhookLibrary F] in
theorem mapError_eq_ok {ε ε' α : Type} {x : Except ε α} {f : ε → ε'} {a : α} :
    x.mapError f = .ok a ↔ x = .ok a := by
  cases x with
  | error e => exact ⟨nofun, nofun⟩
  | ok b => exact ⟨fun h => by cases h; rfl, fun h => by cases h; rfl⟩

variable {request : WebhookRequest F} {now : Instant}

variable {deployment : Deployment}

theorem authenticate_ok {channel : TenantChannelType} {tenant_id : String}
    (h : authenticate deployment request now = .ok (channel, tenant_id)) :
    tenant_channel_type request.channel_type = .ok channel ∧ ∃ routing_address secret,
      routing_address_for_webhook channel request = .ok routing_address ∧
      deployment.routing_secret channel routing_address = some secret ∧
      deployment.channel_tenant channel routing_address secret.tenant_id = some tenant_id := by
  unfold authenticate at h
  obtain ⟨channel', hchannel, h⟩ := bind_eq_ok.mp h
  split at h
  · cases h
  obtain ⟨routing_address, hrouting, h⟩ := bind_eq_ok.mp h
  split at h
  · cases h
  split at h
  · cases h
  rename_i secret hsecret
  simp only at h
  split at h
  · cases h
  split at h
  · cases h
  split at h
  · cases h
  rename_i htenant
  cases h
  exact ⟨hchannel, routing_address, secret, hrouting, hsecret, htenant⟩

theorem validated_ok {channel : TenantChannelType} {context : ChannelWebhookSecurityContext}
    (h : validated_webhook_security_context channel request now = .ok context) :
    extract_webhook_security_context channel request.body request.headers = .ok context ∧
      fresh context.timestamp now = true := by
  obtain ⟨context', hcontext, h⟩ := bind_eq_ok.mp h
  split at h <;> cases h
  rename_i hfresh
  exact ⟨mapError_eq_ok.mp hcontext, hfresh⟩

variable {nonces : List WebhookNonceRecord}

omit [WebhookLibrary F] in
theorem taken_of_record_none {record : WebhookNonceRecord}
    (h : record_webhook_nonce nonces record = none) :
    ∃ row ∈ nonces, row.keyed record.tenant_id record.channel_type record.nonce = true := by
  unfold record_webhook_nonce at h
  simp only at h
  split at h
  · rename_i htaken
    obtain ⟨row, hrow, hkeyed⟩ := List.any_eq_true.mp htaken
    exact ⟨row, List.mem_of_mem_filter hrow, hkeyed⟩
  · cases h

variable {clock : Clock}

/-- A request that gets as far as its nonce has a reading, by which everything else goes. -/
theorem process_ok {answer : Answer}
    (h : process_channel_webhook deployment request clock nonces = .ok answer) :
    ∃ r, reading deployment request = some r ∧ fresh r.context.timestamp clock.checked = true ∧
      ((answer = .duplicate ∧ ∃ row ∈ nonces, row.keyedBy r = true) ∨
        (fresh r.context.timestamp clock.rechecked = true ∧
          (∀ row ∈ nonces, row.keyedBy r = true → row.expires_at ≤ clock.looked) ∧
          ∃ nonces', answer = .recorded nonces' ∧ record_webhook_nonce nonces
            { tenant_id := r.tenant_id
              channel_type := r.channel
              nonce := r.context.nonce
              received_at := clock.recorded
              expires_at := clock.recorded + webhookNonceTtl } = some nonces')) := by
  obtain ⟨⟨channel, tenant_id⟩, hauth, h⟩ := bind_eq_ok.mp h
  obtain ⟨context, hcontext, h⟩ := bind_eq_ok.mp h
  obtain ⟨hchannel, routing_address, secret, hrouting, hsecret, htenant⟩ := authenticate_ok hauth
  obtain ⟨hextract, hfresh⟩ := validated_ok hcontext
  have hreading : reading deployment request = some ⟨tenant_id, channel, context⟩ := by
    simp only [reading, hchannel, Except.toOption, Option.bind_eq_bind, Option.bind_some, hrouting,
      hsecret, htenant, hextract]
    rfl
  refine ⟨_, hreading, hfresh, ?_⟩
  simp only at h
  split at h
  · rename_i hexists
    cases h
    obtain ⟨row, hrow, hkeyed⟩ := List.any_eq_true.mp hexists
    exact .inl ⟨rfl, row, hrow, (Bool.and_eq_true_iff.mp hkeyed).1⟩
  rename_i hexists
  split at h
  · cases h
  rename_i hrechecked
  split at h
  · rename_i hrecord
    cases h
    exact .inl ⟨rfl, taken_of_record_none hrecord⟩
  · rename_i nonces' hrecord
    cases h
    refine .inr ⟨Bool.eq_true_of_not_eq_false hrechecked, fun row hrow hkeyed => ?_, nonces', rfl, hrecord⟩
    by_contra hlive
    refine hexists (List.any_eq_true.mpr ⟨row, hrow, ?_⟩)
    exact Bool.and_eq_true_iff.mpr ⟨hkeyed, decide_eq_true (not_le.mp hlive)⟩

/-! ## Deliveries -/

/-- A message as the provider sent it, and how it signed it. -/
structure SentMessage (F : Type) where
  request : WebhookRequest F
  kind : SignatureKind

/-- The request goes where the message went, and its signed bytes are those of the message. Everything else
may differ: the other headers, and how the bytes are divided between headers and body. -/
structure Variant (deployment : Deployment) (sent : SentMessage F) (request : WebhookRequest F) :
    Prop where
  channel : request.channel_type = sent.request.channel_type
  bytes : signed_bytes deployment request sent.kind = signed_bytes deployment sent.request sent.kind

/-- How the ingestion ends that follows a recorded nonce. -/
inductive Ingested
  | accepted
  /-- It fails, and the nonce stays. -/
  | kept
  /-- It fails, and the nonce goes with its transaction. -/
  | rolled_back
  deriving DecidableEq

structure Delivery {Message : Type} (deployment : Deployment) (sent : Message → SentMessage F) where
  message : Message
  request : WebhookRequest F
  variant : Variant deployment (sent message) request
  clock : Clock
  ingested : Ingested := .accepted

/-- The rows of the nonces, the messages accepted and those that a delivery was made of, and the time. -/
structure Inbox (Message : Type) where
  nonces : List WebhookNonceRecord := []
  accepted : List Message := []
  delivered : List Message := []
  now : Instant

variable {Message : Type} {deployment : Deployment} {sent : Message → SentMessage F}

def deliver (w : Inbox Message) (d : Delivery deployment sent) : Option (Inbox Message) :=
  if d.clock.selected < w.now then none
  else
    let w' := { w with delivered := d.message :: w.delivered, now := d.clock.recorded }
    match process_channel_webhook deployment d.request d.clock w.nonces with
    | .ok (.recorded nonces) =>
      match d.ingested with
      | .accepted => some { w' with nonces := nonces, accepted := d.message :: w.accepted }
      | .kept => some { w' with nonces := nonces }
      | .rolled_back => some w'
    | _ => some w'

/-- Each message is accepted once, while it is fresh by the timestamp of the provider, and a message that
was not delivered before is a duplicate only where the provider gave its nonce to one that was. -/
structure Guarded (w : Inbox Message) (d : Delivery deployment sent) (w' : Inbox Message) : Prop where
  once : w'.accepted.Nodup
  in_time : w'.accepted = d.message :: w.accepted →
    ∃ own, reading deployment (sent d.message).request = some own ∧
      fresh own.context.timestamp d.clock.checked = true ∧
      fresh own.context.timestamp d.clock.rechecked = true
  unblocked : d.request = (sent d.message).request → d.message ∉ w.delivered →
    process_channel_webhook deployment d.request d.clock w.nonces matches .ok .duplicate →
    ∃ own, reading deployment d.request = some own ∧ ∃ earlier ∈ w.delivered, ∃ other,
      reading deployment (sent earlier).request = some other ∧ other.tenant_id = own.tenant_id ∧
      other.channel = own.channel ∧ other.context.nonce = own.context.nonce

def ReadAsSent (_ : Inbox Message) (d : Delivery deployment sent) : Prop :=
  ∀ r, reading deployment d.request = some r → reading deployment (sent d.message).request = some r

/-- What holds between two deliveries. -/
structure Recorded (sent : Message → SentMessage F) (deployment : Deployment) (w : Inbox Message) :
    Prop where
  once : w.accepted.Nodup
  /-- The nonce of an accepted message is held for as long as the message is fresh. -/
  held : ∀ m ∈ w.accepted, ∀ r, reading deployment (sent m).request = some r →
    (∃ row ∈ w.nonces, row.keyedBy r = true ∧
      r.context.timestamp - webhookFreshnessWindow + webhookNonceTtl ≤ row.expires_at) ∨
    r.context.timestamp + webhookFreshnessWindow < w.now
  named : ∀ row ∈ w.nonces, ∃ m ∈ w.delivered, ∃ r,
    reading deployment (sent m).request = some r ∧ row.keyedBy r = true

omit [WebhookLibrary F] in
theorem record_eq_some {nonces nonces' : List WebhookNonceRecord} {record : WebhookNonceRecord}
    (h : record_webhook_nonce nonces record = some nonces') :
    record ∈ nonces' ∧ (∀ row ∈ nonces', row = record ∨ row ∈ nonces) ∧
      ∀ row ∈ nonces, row ∈ nonces' ∨ row.expires_at ≤ record.received_at := by
  unfold record_webhook_nonce at h
  simp only at h
  split at h <;> cases h
  refine ⟨List.mem_cons_self, fun row hrow => ?_, fun row hrow => ?_⟩
  · rcases List.mem_cons.mp hrow with rfl | hrow
    · exact .inl rfl
    · exact .inr (List.mem_of_mem_filter hrow)
  · rcases le_or_gt row.expires_at record.received_at with hle | hlt
    · exact .inr hle
    · refine .inl (List.mem_cons_of_mem _ (List.mem_filter.mpr ⟨hrow, ?_⟩))
      simp [not_le.mpr hlt]

omit [WebhookLibrary F] in
theorem fresh_bounds {timestamp received_at : Instant} (h : fresh timestamp received_at = true) :
    timestamp - webhookFreshnessWindow ≤ received_at ∧
      received_at ≤ timestamp + webhookFreshnessWindow := by
  obtain ⟨hlow, hhigh⟩ := abs_le.mp (of_decide_eq_true h)
  constructor <;> linarith

theorem window_lt_ttl : webhookFreshnessWindow + webhookFreshnessWindow < webhookNonceTtl := by decide

omit [WebhookLibrary F] in
theorem Clock.selected_le_rechecked (clock : Clock) : clock.selected ≤ clock.rechecked :=
  clock.selected_le.trans (clock.checked_le.trans clock.looked_le)

variable {w w' : Inbox Message} {d : Delivery deployment sent}

variable {m : Message}

theorem Recorded.later (hw : Recorded sent deployment w) (hnow : w.now ≤ now) :
    Recorded sent deployment { w with delivered := m :: w.delivered, now := now } := by
  refine ⟨hw.once, fun m' hm' r hr => ?_, fun row hrow => ?_⟩
  · rcases hw.held m' hm' r hr with hrow | hpast
    · exact .inl hrow
    · exact .inr (hpast.trans_le hnow)
  · obtain ⟨m', hm', r, hr, hkeyed⟩ := hw.named row hrow
    exact ⟨m', List.mem_cons_of_mem _ hm', r, hr, hkeyed⟩

variable {r : Reading}

theorem Recorded.record (hw : Recorded sent deployment w)
    (hr : reading deployment (sent m).request = some r) (hnow : w.now ≤ clock.selected)
    (hfresh : fresh r.context.timestamp clock.rechecked = true)
    (hrecord : record_webhook_nonce w.nonces
      { tenant_id := r.tenant_id
        channel_type := r.channel
        nonce := r.context.nonce
        received_at := clock.recorded
        expires_at := clock.recorded + webhookNonceTtl } = some nonces) {accepted : List Message}
    (haccepted : accepted = w.accepted ∨ accepted = m :: w.accepted) (honce : accepted.Nodup) :
    Recorded sent deployment
      { nonces := nonces, accepted := accepted, delivered := m :: w.delivered, now := clock.recorded } := by
  obtain ⟨hnew, hrows, hkept⟩ := record_eq_some hrecord
  obtain ⟨hlow, -⟩ := fresh_bounds hfresh
  have hlater := clock.rechecked_le
  have hselected := clock.selected_le_rechecked
  have hwindow := window_lt_ttl
  refine ⟨honce, fun m' hm' r' hr' => ?_, fun row hrow => ?_⟩
  · have hcases : m' = m ∨ m' ∈ w.accepted := by
      rcases haccepted with rfl | rfl
      · exact .inr hm'
      · exact List.mem_cons.mp hm'
    rcases hcases with rfl | hm'
    · cases hr.symm.trans hr'
      refine .inl ⟨_, hnew, by simp [WebhookNonceRecord.keyedBy, WebhookNonceRecord.keyed], ?_⟩
      simp only
      linarith
    · rcases hw.held m' hm' r' hr' with ⟨row, hrow, hkeyed, hexpires⟩ | hpast
      · rcases hkept row hrow with hrow | hexpired
        · exact .inl ⟨row, hrow, hkeyed, hexpires⟩
        · refine .inr ?_
          simp only at hexpired ⊢
          linarith
      · refine .inr ?_
        simp only
        linarith
  · rcases hrows row hrow with rfl | hrow
    · refine ⟨m, List.mem_cons_self, r, hr, ?_⟩
      simp [WebhookNonceRecord.keyedBy, WebhookNonceRecord.keyed]
    · obtain ⟨m', hm', r', hr', hkeyed⟩ := hw.named row hrow
      exact ⟨m', List.mem_cons_of_mem _ hm', r', hr', hkeyed⟩

theorem Recorded.not_accepted (hw : Recorded sent deployment w)
    (hr : reading deployment (sent m).request = some r) (hnow : w.now ≤ clock.selected)
    (hfresh : fresh r.context.timestamp clock.rechecked = true)
    (hfree : ∀ row ∈ w.nonces, row.keyedBy r = true → row.expires_at ≤ clock.looked) :
    m ∉ w.accepted := by
  intro hm
  obtain ⟨-, hhigh⟩ := fresh_bounds hfresh
  have hselected := clock.selected_le_rechecked
  have hlooked := clock.looked_le
  have hwindow := window_lt_ttl
  rcases hw.held m hm r hr with ⟨row, hrow, hkeyed, hexpires⟩ | hpast
  · have := hfree row hrow hkeyed
    linarith
  · linarith

omit [WebhookLibrary F] in
theorem same_key {row : WebhookNonceRecord} {r' : Reading} (h : row.keyedBy r = true)
    (h' : row.keyedBy r' = true) :
    r'.tenant_id = r.tenant_id ∧ r'.channel = r.channel ∧ r'.context.nonce = r.context.nonce := by
  simp only [WebhookNonceRecord.keyedBy, WebhookNonceRecord.keyed, Bool.and_eq_true,
    decide_eq_true_eq] at h h'
  exact ⟨h'.1.1.symm.trans h.1.1, h'.1.2.symm.trans h.1.2, h'.2.symm.trans h.2⟩

theorem deliver_step (hw : Recorded sent deployment w) (hC : ReadAsSent w d)
    (h : deliver w d = some w') : Recorded sent deployment w' ∧ Guarded w d w' := by
  unfold deliver at h
  split at h
  · cases h
  rename_i hclock
  have hnow : w.now ≤ d.clock.selected := not_lt.mp hclock
  have hthen : w.now ≤ d.clock.recorded :=
    hnow.trans (d.clock.selected_le_rechecked.trans d.clock.rechecked_le)
  have hself : w.accepted ≠ d.message :: w.accepted := fun heq => by
    simpa using congrArg List.length heq
  simp only at h
  split at h
  · rename_i nonces hprocess
    obtain ⟨r, hr, hchecked, hdup | ⟨hrechecked, hfree, nonces', hanswer, hrecord⟩⟩ := process_ok hprocess
    · cases hdup.1
    cases hanswer
    have hown := hC r hr
    have hnew := hw.not_accepted hown hnow hrechecked hfree
    split at h <;> cases h
    · have honce : (d.message :: w.accepted).Nodup := List.nodup_cons.mpr ⟨hnew, hw.once⟩
      refine ⟨hw.record hown hnow hrechecked hrecord (.inr rfl) honce, honce, fun _ => ?_, ?_⟩
      · exact ⟨r, hown, hchecked, hrechecked⟩
      · intro _ _ hdup
        rw [hprocess] at hdup
        cases hdup
    · refine ⟨hw.record hown hnow hrechecked hrecord (.inl rfl) hw.once, hw.once, ?_, ?_⟩
      · exact fun heq => absurd heq hself
      · intro _ _ hdup
        rw [hprocess] at hdup
        cases hdup
    · refine ⟨hw.later hthen, hw.once, fun heq => absurd heq hself, ?_⟩
      intro _ _ hdup
      rw [hprocess] at hdup
      cases hdup
  · cases h
    refine ⟨hw.later hthen, hw.once, fun heq => absurd heq hself, fun horiginal _ hdup => ?_⟩
    split at hdup
    · rename_i hprocess
      obtain ⟨r, hr, -, ⟨-, row, hrow, hkeyed⟩ | ⟨-, -, _, hanswer, -⟩⟩ := process_ok hprocess
      · obtain ⟨m, hm, other, hother, hnamed⟩ := hw.named row hrow
        exact ⟨r, hr, m, hm, other, hother, same_key hkeyed hnamed⟩
      · cases hanswer
    · cases hdup

/-- Along every run of deliveries that are read as their messages were sent, each message is accepted at
most once and while it is fresh, and blocks no message of another nonce. -/
theorem guarded_when_read_as_sent (deployment : Deployment) (sent : Message → SentMessage F)
    (start : Instant) (ds : List (Delivery deployment sent))
    (h : Meets deliver ReadAsSent { now := start } ds) : Along deliver Guarded { now := start } ds := by
  refine along_when (I := Recorded sent deployment) (fun _ _ _ => deliver_step) ?_ h
  exact ⟨List.nodup_nil, fun _ hm => absurd hm List.not_mem_nil,
    fun _ hrow => absurd hrow List.not_mem_nil⟩

end

/-! ## Copies that are read otherwise -/

/-- The HMAC-SHA256 digests of the messages below, under their secret. -/
def acmeDigests : List (String × String) :=
  [("\x7b\"created_at\":\"1700000000\",\"event_id\":\"e1\",\"shop_id\":\"s1\"\x7d",
    "9a8c68480699e39c108518c1d762cd041bc8c23e3c189016a858c28d07898f10"),
   ("\x7b\"created_at\":\"1700000060\",\"event_id\":\"e2\",\"shop_id\":\"s1\"\x7d",
    "706003686e31f78ac4ddeaf90099b317580bb83d8e366dbccf792eeea3abdfd4"),
   ("1700000000123abc\x7b\"app_id\":\"a1\"\x7d",
    "8e99609eb1588cdc58d084510ed7442c45d89b84f5f4e74b411dbe2e258b40f2")]

/-- A library whose floats are whole numbers, for texts in lower case, that knows these digests. -/
instance : WebhookLibrary Int where
  lower := id
  strFloat := Int.repr
  isdigit s := !s.isEmpty && (ascii.chars s).all Char.isDigit
  float s := match readInt s with
    | some i => .ok i
    | none => .error (.value_error "could not convert string to float")
  overTenBillion i := 10000000000 < i
  thousandth i := i / 1000
  fromtimestamp i := .ok (i * 1000000)
  fromisoformat _ := none
  parsedate_to_datetime _ := none
  getaddresses s := some s
  hmac_sha256 secret bytes :=
    if secret = "acme-secret" then
      ((acmeDigests.find? fun digest => encode digest.1 = bytes).map (·.2)).getD ""
    else ""
  hmac_sha1_base64 _ _ := ""
  dumps _ := []
  str _ := ""

def acme : Deployment where
  routing_secret _ _ := some { tenant_id := "acme", webhook_secret := "acme-secret" }
  channel_tenant _ _ tenant_id := some tenant_id

def shulexMessage (created_at event_id : String) (digest : String × String) : SentMessage Int where
  request :=
    { channel_type := "shulex"
      body := .dict [("created_at", .str created_at), ("event_id", .str event_id), ("shop_id", .str "s1")]
      headers := Dict.ofList [("x-shulex-signature", digest.2)]
      raw_body := some (encode digest.1) }
  kind := .sha256

def larkMessage (timestamp nonce : String) (digest : String × String) : SentMessage Int where
  request :=
    { channel_type := "lark"
      body := .dict [("app_id", .str "a1")]
      headers := Dict.ofList
        [("x-lark-signature", digest.2), ("x-lark-request-timestamp", timestamp),
         ("x-lark-request-nonce", nonce)]
      raw_body := some (encode "\x7b\"app_id\":\"a1\"\x7d") }
  kind := .lark

def acmeSent (m : Nat) : SentMessage Int :=
  match m with
  | 0 => shulexMessage "1700000000" "e1" (acmeDigests[0])
  | 1 => shulexMessage "1700000060" "e2" (acmeDigests[1])
  | _ => larkMessage "1700000000" "123abc" (acmeDigests[2])

def clockAt (seconds : Int) : Clock where
  selected := seconds * 1000000
  checked := seconds * 1000000
  looked := seconds * 1000000
  rechecked := seconds * 1000000
  recorded := seconds * 1000000
  selected_le := le_rfl
  checked_le := le_rfl
  looked_le := le_rfl
  rechecked_le := le_rfl

/-- The message as the provider sends it. -/
def original (m : Nat) (seconds : Int) : Delivery acme acmeSent where
  message := m
  request := (acmeSent m).request
  variant := ⟨rfl, rfl⟩
  clock := clockAt seconds

/-- A copy of a message of the shop, with a timestamp and a nonce in headers of its own. -/
def withHeaders (m : Nat) (timestamp nonce : String) : WebhookRequest Int :=
  { (acmeSent m).request with
    headers := (acmeSent m).request.headers.update
      [("x-operious-webhook-timestamp", timestamp), ("x-operious-webhook-nonce", nonce)] }

/-- The message is delivered, and again by somebody with a header that is not read. -/
def forwarded : List (Delivery acme acmeSent) :=
  [original 0 1700000000,
   { message := 0
     request := { (acmeSent 0).request with
       headers := (acmeSent 0).request.headers.set "user-agent" "forwarder" }
     variant := ⟨rfl, rfl⟩
     clock := clockAt 1700000010 }]

theorem guarded_when_read_as_sent_acme : Along deliver Guarded { now := 0 } forwarded := by
  refine guarded_when_read_as_sent acme acmeSent 0 forwarded fun _ _ => ⟨fun r hr => hr, fun _ _ => ?_⟩
  refine ⟨fun r hr => ?_, trivial⟩
  rw [← hr]
  decide +kernel

def replayedLater : List (Delivery acme acmeSent) :=
  [original 0 1700000000,
   { message := 0
     request := withHeaders 0 "1700090000" "n2"
     variant := ⟨rfl, rfl⟩
     clock := clockAt 1700090000 }]

/-- A copy of the first message takes the nonce of the second. -/
def nonceTaken : List (Delivery acme acmeSent) :=
  [{ message := 0
     request := withHeaders 0 "1700000050" "e2"
     variant := ⟨rfl, rfl⟩
     clock := clockAt 1700000050 }]

/-- A message of lark is delivered, and a copy that ends the timestamp three digits later. -/
def dividedOtherwise : List (Delivery acme acmeSent) :=
  [original 2 1700000000,
   { message := 2
     request := (larkMessage "1700000000123" "abc" (acmeDigests[2])).request
     variant := ⟨rfl, by decide +kernel⟩
     clock := clockAt 1700000100 }]

/-- Two messages are accepted twice, one of them a day late, and a message that was not delivered is
answered as a duplicate. -/
theorem copies_are_accepted :
    (after deliver { now := 0 } replayedLater).map (·.accepted) = some [0, 0] ∧
      (after deliver { now := 0 } nonceTaken).map (fun w =>
        process_channel_webhook acme (acmeSent 1).request (clockAt 1700000060) w.nonces matches
          .ok .duplicate) = some true ∧
      (after deliver { now := 0 } dividedOtherwise).map (·.accepted) = some [2, 2] := by
  decide +kernel

end operious.ingress.webhooks
