-- When the verifier accepts exactly the payloads that were signed for the topic.
import Operious.Ingress.SnsFields

namespace operious.boundary.email_ses

open utf8 (Text Encodable encode ofString)
open urllib (Unicode SplitResult)

variable {payload : Payload} {expected : Text} {e : Envelope}

/-! ## What the verifier reads before it asks for the certificate -/

theorem supported_type_text (kind : Kind) : supported_type kind.text = some kind := by
  cases kind <;> rfl

variable {kind : Kind}

theorem text_of_supported {t : Text} (h : supported_type t = some kind) : t = kind.text := by
  unfold supported_type at h
  split at h
  · rename_i ht
    cases h
    exact ht
  · split at h
    · rename_i ht
      cases h
      exact ht
    · cases h

variable {url : Text}

section readings

variable [Unicode] [SurrogateUrls] {p : Prepared} {x : Exc}

structure Addressed (payload : Payload) (expected : Text) (kind : Kind) (url : Text) : Prop where
  type : optional_sns_text payload "Type" = some kind.text
  topic_arn : optional_sns_text payload "TopicArn" = some expected
  url : optional_sns_text payload "SigningCertURL" = some url

/-- The readings of a payload that the verifier finds in order. -/
structure Reads (payload : Payload) (expected : Text) (p : Prepared) : Prop where
  addressed : Addressed payload expected p.kind p.url
  topic_arn : p.topic_arn = expected
  url_valid : validate_aws_sns_url p.url true = .ok ()
  signature : ∃ text, optional_sns_text payload "Signature" = some text ∧
    decode_signature text = .ok p.signature
  version : ∃ text, optional_sns_text payload "SignatureVersion" = some text ∧
    signature_digest text = .ok p.digest
  canonical : canonical_sns_string payload p.kind = .ok p.canonical

theorem prepare_of_addressed (h : Addressed payload expected kind url) :
    prepare payload expected = (do
      validate_aws_sns_url url true
      let signature_text ← required_sns_text payload "Signature"
      let signature ← decode_signature signature_text
      let version ← required_sns_text payload "SignatureVersion"
      let digest ← signature_digest version
      let canonical ← canonical_sns_string payload kind
      return ⟨kind, expected, url, signature, digest, canonical⟩) := by
  unfold prepare
  rw [required_eq_ok_iff.mpr h.type, required_eq_ok_iff.mpr h.topic_arn,
    required_eq_ok_iff.mpr h.url]
  simp only [ok_bind, supported_type_text]
  rw [if_neg (not_not_intro rfl)]

theorem prepare_of_reads (h : Reads payload expected p) : prepare payload expected = .ok p := by
  obtain ⟨text, htext, hsignature⟩ := h.signature
  obtain ⟨version, hversion, hdigest⟩ := h.version
  rw [prepare_of_addressed h.addressed, h.url_valid, required_eq_ok_iff.mpr htext,
    required_eq_ok_iff.mpr hversion, h.canonical]
  simp only [ok_bind, hsignature, hdigest]
  rw [← h.topic_arn]
  rfl

theorem addressed_or_error (payload : Payload) (expected : Text) :
    (∃ kind url, Addressed payload expected kind url) ∨
      ∃ message, prepare payload expected = .error (.sns message) := by
  unfold prepare
  cases htype : optional_sns_text payload "Type" with
  | none => exact .inr ⟨_, by rw [required_of_none htype]; rfl⟩
  | some type =>
    rw [required_eq_ok_iff.mpr htype, ok_bind]
    cases hkind : supported_type type with
    | none => exact .inr ⟨_, rfl⟩
    | some kind =>
      rw [text_of_supported hkind] at htype
      cases htopic : optional_sns_text payload "TopicArn" with
      | none => exact .inr ⟨_, by simp only [required_of_none htopic]; rfl⟩
      | some topic =>
        simp only [required_eq_ok_iff.mpr htopic, ok_bind]
        split
        · exact .inr ⟨_, rfl⟩
        · rename_i hsame
          rw [not_not.mp hsame] at htopic
          cases hurl : optional_sns_text payload "SigningCertURL" with
          | none => exact .inr ⟨_, by rw [required_of_none hurl]; rfl⟩
          | some url => exact .inl ⟨kind, url, htype, htopic, hurl⟩

theorem reads_of_prepare (h : prepare payload expected = .ok p) : Reads payload expected p := by
  obtain ⟨kind, url, haddressed⟩ | ⟨message, hmessage⟩ := addressed_or_error payload expected
  · rw [prepare_of_addressed haddressed] at h
    obtain ⟨⟨⟩, hvalid, h⟩ := bind_eq_ok.mp h
    obtain ⟨text, htext, h⟩ := bind_eq_ok.mp h
    obtain ⟨signature, hsignature, h⟩ := bind_eq_ok.mp h
    obtain ⟨version, hversion, h⟩ := bind_eq_ok.mp h
    obtain ⟨digest, hdigest, h⟩ := bind_eq_ok.mp h
    obtain ⟨canonical, hcanonical, h⟩ := bind_eq_ok.mp h
    cases h
    exact ⟨haddressed, rfl, hvalid, ⟨text, required_eq_ok_iff.mp htext, hsignature⟩,
      ⟨version, required_eq_ok_iff.mp hversion, hdigest⟩, hcanonical⟩
  · cases hmessage.symm.trans h

variable {require_pem : Bool}

theorem validate_error {exc : Exc} (h : validate_aws_sns_url url require_pem = .error exc) :
    exc = .value_error ∨ ∃ message, exc = .sns message := by
  unfold validate_aws_sns_url at h
  split at h
  · exact .inl (Except.error.inj h).symm
  · split_ifs at h
    · exact .inr ⟨_, (Except.error.inj h).symm⟩
    · exact .inr ⟨_, (Except.error.inj h).symm⟩
    all_goals
      split at h
      · exact .inl (Except.error.inj h).symm
      · exact .inr ⟨_, (Except.error.inj h).symm⟩
      · first
        | exact .inr ⟨_, (Except.error.inj h).symm⟩
        | cases h

theorem own_validate (h : validate_aws_sns_url url require_pem ≠ .error .value_error) :
    Own (validate_aws_sns_url url require_pem) := by
  intro exc hexc
  obtain rfl | hown := validate_error hexc
  · exact absurd hexc h
  · exact hown

theorem own_prepare (h : ∀ kind url, Addressed payload expected kind url →
    validate_aws_sns_url url true ≠ .error .value_error) : Own (prepare payload expected) := by
  obtain ⟨kind, url, haddressed⟩ | ⟨message, hmessage⟩ := addressed_or_error payload expected
  · rw [prepare_of_addressed haddressed]
    refine Own.bind (own_validate (h kind url haddressed)) fun _ _ => ?_
    refine Own.bind (own_required payload _) fun _ _ => ?_
    refine Own.bind (own_decode _) fun _ _ => ?_
    refine Own.bind (own_required payload _) fun _ _ => ?_
    refine Own.bind (own_digest _) fun _ _ => ?_
    exact Own.bind (own_canonical payload kind) fun _ _ => own_ok _
  · rw [hmessage]
    exact own_sns message

end readings

/-! ## What the verifier accepts -/

theorem kind_of_text {kind' : Kind} (h : kind.text = kind'.text) : kind = kind' :=
  Option.some.inj ((supported_type_text kind).symm.trans (h ▸ supported_type_text kind'))

theorem strip_text (kind : Kind) : strip kind.text = kind.text := by
  cases kind <;> rfl

variable {data : Bytes}

theorem encode_inj {t u : Text} (ht : encode t = some data) (hu : encode u = some data) :
    t = u := by
  have hdecode : ∀ v, encode v = some data → utf8.decode data = some v := by
    intro v hv
    obtain ⟨b, hb, hv'⟩ := utf8.decode_encode ((utf8.encode_isSome v).mp (by rw [hv]; rfl))
    cases hv.symm.trans hb
    exact hv'
  exact Option.some.inj ((hdecode t ht).symm.trans (hdecode u hu))

theorem optional_of_canonical {canonical : Text}
    (h : canonical_sns_string payload kind = .ok canonical) {name : String}
    (hname : name ∈ signed_names kind (optional_sns_text payload "Subject").isSome) :
    ∃ value, optional_sns_text payload name = some value := by
  obtain ⟨fields, hfields, -⟩ := bind_eq_ok.mp h
  obtain ⟨hnames, htexts⟩ := mapM_required_inv hfields
  rw [← hnames] at hname
  obtain ⟨f, hf, rfl⟩ := List.mem_map.mp hname
  exact ⟨f.2, htexts f hf⟩

section verified

variable {K Stamp : Type} [Platform K Stamp] {p : Prepared}

/-- Once the signed text is there, only the timestamp can still be refused. -/
theorem verified_message_eq (h : canonical_sns_string payload p.kind = .ok p.canonical) :
    ∃ message message_id timestamp subscribe_url,
      optional_sns_text payload "Message" = some message ∧
      optional_sns_text payload "MessageId" = some message_id ∧
      optional_sns_text payload "Timestamp" = some timestamp ∧
      verified_message K Stamp payload p =
        (parse_required_timestamp K Stamp timestamp).map fun stamp =>
          ⟨p.kind, message_id, p.topic_arn, stamp, message, subscribe_url⟩ := by
  have hpresent : ∀ name ∈ ["Message", "MessageId", "Timestamp"],
      ∃ value, optional_sns_text payload name = some value := by
    intro name hname
    refine optional_of_canonical h ?_
    cases p.kind <;> simp [signed_names] at hname ⊢ <;> tauto
  obtain ⟨message, hmessage⟩ := hpresent "Message" (by simp)
  obtain ⟨message_id, hid⟩ := hpresent "MessageId" (by simp)
  obtain ⟨timestamp, htimestamp⟩ := hpresent "Timestamp" (by simp)
  unfold verified_message
  rw [required_eq_ok_iff.mpr hid, required_eq_ok_iff.mpr htimestamp,
    required_eq_ok_iff.mpr hmessage]
  simp only [ok_bind]
  cases hkind : p.kind with
  | notification =>
    refine ⟨message, message_id, timestamp, none, hmessage, hid, htimestamp, ?_⟩
    cases parse_required_timestamp K Stamp timestamp <;> rfl
  | subscription_confirmation =>
    rw [hkind] at h
    have hsigned : "SubscribeURL" ∈ signed_names .subscription_confirmation
        (optional_sns_text payload "Subject").isSome := by
      simp [signed_names]
    obtain ⟨url, hurl⟩ := optional_of_canonical h hsigned
    refine ⟨message, message_id, timestamp, some url, hmessage, hid, htimestamp, ?_⟩
    rw [required_eq_ok_iff.mpr hurl]
    cases parse_required_timestamp K Stamp timestamp <;> rfl

end verified

/-! ## When verification is exact -/

section exactness

variable [Unicode] [SurrogateUrls] {K Stamp : Type} [Platform K Stamp] {aws : Aws K} {p : Prepared}

theorem verify_of_reads (h : Reads payload expected p) : verify K Stamp payload expected = (do
    let key ← certificate_key K Stamp p.url
    let data ← encoded p.canonical
    if Platform.rsa_verify Stamp key p.signature data p.digest then
      verified_message K Stamp payload p
    else .error (.sns "sns signature verification failed")) := by
  unfold verify
  rw [prepare_of_reads h, ok_bind]

omit [Unicode] [SurrogateUrls] in
theorem certificate_key_eq_ok {key : K} :
    certificate_key K Stamp url = .ok key ↔ Platform.served Stamp url = .rsa key := by
  unfold certificate_key
  split <;> simp_all

omit [Unicode] [SurrogateUrls] in
theorem encoded_eq_ok {text : Text} : encoded text = .ok data ↔ encode text = some data := by
  unfold encoded
  cases encode text <;> simp

variable {m : SnsVerifiedMessage Stamp}

theorem verify_eq_ok (h : verify K Stamp payload expected = .ok m) :
    ∃ p, ∃ key : K, ∃ data, Reads payload expected p ∧ Platform.served Stamp p.url = .rsa key ∧
      encode p.canonical = some data ∧
      Platform.rsa_verify Stamp key p.signature data p.digest = true ∧
      verified_message K Stamp payload p = .ok m := by
  obtain ⟨p, hp, h⟩ := bind_eq_ok.mp h
  obtain ⟨key, hkey, h⟩ := bind_eq_ok.mp h
  obtain ⟨data, hdata, h⟩ := bind_eq_ok.mp h
  split at h
  · rename_i hverified
    exact ⟨p, key, data, reads_of_prepare hp, certificate_key_eq_ok.mp hkey,
      encoded_eq_ok.mp hdata, hverified, h⟩
  · cases h

variable (Stamp aws) in
structure Vouched (payload : Payload) (expected : Text) (p : Prepared) (e : Envelope) : Prop where
  reads : Reads payload expected p
  served : Platform.served Stamp p.url = .rsa aws.key
  signed : aws.signed p.digest e
  canonical : e.canonical = p.canonical
  signature : ∃ data, encode p.canonical = some data ∧ p.signature = aws.sign p.digest data

variable (Stamp aws) in
structure InOrder (payload : Payload) (expected : Text) : Prop where
  /-- The certificate URL is one that `urlparse` takes, port and all. -/
  parses : ∀ kind url, Addressed payload expected kind url →
    validate_aws_sns_url url true ≠ .error .value_error
  /-- Its host is one of SNS: no further labels. -/
  genuine : ∀ p, Reads payload expected p → GenuineUrl p.url
  /-- It answers, with a certificate or with no success. -/
  answered : ∀ p, Reads payload expected p →
    Platform.served Stamp p.url ≠ (.unreachable : Served K) ∧
      Platform.served Stamp p.url ≠ (.malformed : Served K)
  /-- The text to verify has no lone surrogate. -/
  encodable : ∀ p, ∀ key : K, Reads payload expected p → Platform.served Stamp p.url = .rsa key →
    Encodable p.canonical
  in_range : ∀ p e timestamp, Vouched Stamp aws payload expected p e →
    optional_sns_text payload "Timestamp" = some timestamp →
    (Platform.timestamp K timestamp : Except Unit (Option Stamp)) ≠ .error ()
  /-- Text that was signed stands in the fields that it was signed for, as it was sent. -/
  in_place : ∀ p e timestamp stamp, Vouched Stamp aws payload expected p e →
    optional_sns_text payload "Timestamp" = some timestamp →
    Platform.timestamp K timestamp = .ok (some (stamp : Stamp)) →
    ∃ e', aws.signed p.digest e' ∧ Carries payload e' ∧ e'.canonical = p.canonical
  /-- A signed message has no field that is empty or has blanks around it, and a timestamp. -/
  kept : ∀ e, Genuine Stamp aws payload expected e →
    e.Plain ∧ ∃ stamp : Stamp, Platform.timestamp K e.timestamp = .ok (some stamp)

theorem same_canonical (ideal : aws.Ideal Stamp) {d : Digest}
    (hattached : Attached Stamp aws payload d e) (hreads : Reads payload expected p)
    (hdata : encode p.canonical = some data) (hsignature : p.signature = aws.sign p.digest data) :
    d = p.digest ∧ e.canonical = p.canonical := by
  obtain ⟨version, hversion, hd⟩ := hattached.version
  obtain ⟨version', hversion', hd'⟩ := hreads.version
  cases hversion.symm.trans hversion'
  cases hd.symm.trans hd'
  obtain ⟨text, data', htext, hdata', hdecode⟩ := hattached.signature
  obtain ⟨text', htext', hdecode'⟩ := hreads.signature
  cases htext.symm.trans htext'
  have hsame : aws.sign p.digest data' = aws.sign p.digest data :=
    (Except.ok.inj (hdecode.symm.trans hdecode')).trans hsignature
  cases ideal.sign_injective _ hsame
  exact ⟨rfl, encode_inj hdata' hdata⟩

theorem kind_of_carries (hcarries : Carries payload e) (hreads : Reads payload expected p) :
    e.kind = p.kind := by
  obtain ⟨-, t, ht, hstrip⟩ := optional_eq_some_iff.mp hreads.addressed.type
  cases (hcarries.fields _ e.mem_type).symm.trans ht
  rw [strip_text] at hstrip
  exact kind_of_text hstrip

theorem plain_of_reads (hcarries : Carries payload e) (hreads : Reads payload expected p)
    (hcanonical : e.canonical = p.canonical) : e.Plain := by
  refine plain_of_canonical hcarries ?_
  rw [kind_of_carries hcarries hreads, hreads.canonical, hcanonical]

omit [Unicode] [SurrogateUrls] in
theorem optional_of_carries (hcarries : Carries payload e) (hplain : e.Plain) {f : String × Text}
    (hf : f ∈ e.fields) : optional_sns_text payload f.1 = some f.2 :=
  optional_of_plain (hplain f hf) (hcarries.fields f hf)

theorem verify_of_vouched (ideal : aws.Ideal Stamp) (h : Vouched Stamp aws payload expected p e) :
    verify K Stamp payload expected = verified_message K Stamp payload p := by
  obtain ⟨data, hdata, hsignature⟩ := h.signature
  rw [verify_of_reads h.reads, certificate_key_eq_ok.mpr h.served, encoded_eq_ok.mpr hdata]
  simp only [ok_bind]
  rw [if_pos]
  exact (ideal.verifies _ _ _).mpr ⟨e, h.signed, h.canonical ▸ hdata, hsignature⟩

theorem vouched_of_ok (ideal : aws.Ideal Stamp)
    (hgenuine : ∀ p, Reads payload expected p → GenuineUrl p.url)
    (h : verify K Stamp payload expected = .ok m) :
    ∃ p e, Vouched Stamp aws payload expected p e := by
  obtain ⟨p, key, data, hreads, hserved, hdata, hverified, -⟩ := verify_eq_ok h
  cases ideal.certificates _ _ (hgenuine p hreads) hserved
  obtain ⟨e, hsigned, hcanonical, hsignature⟩ := (ideal.verifies _ _ _).mp hverified
  exact ⟨p, e, hreads, hserved, hsigned, encode_inj hcanonical hdata, data, hdata, hsignature⟩

theorem vouched_of_genuine (hgenuine : Genuine Stamp aws payload expected e) (hplain : e.Plain) :
    ∃ p, Vouched Stamp aws payload expected p e := by
  obtain ⟨htopic, d, hsigned, hcarries, hattached⟩ := hgenuine
  obtain ⟨url, hurl, hvalid, -, hserved⟩ := hattached.certificate
  obtain ⟨text, data, htext, hdata, hdecode⟩ := hattached.signature
  have htype := optional_of_carries hcarries hplain e.mem_type
  have htopic' := optional_of_carries hcarries hplain e.mem_topic_arn
  rw [htopic] at htopic'
  refine ⟨⟨e.kind, expected, url, aws.sign d data, d, e.canonical⟩, ?_, hserved, hsigned, rfl,
    data, hdata, rfl⟩
  exact ⟨⟨htype, htopic', hurl⟩, rfl, hvalid, ⟨text, htext, hdecode⟩, hattached.version,
    canonical_of_plain hcarries hplain⟩

theorem matches_of_ok (h : verify K Stamp payload expected = .ok m)
    (hgenuine : Genuine Stamp aws payload expected e) (hplain : e.Plain) : Matches K m e := by
  obtain ⟨p, key, data, hreads, -, -, -, hm⟩ := verify_eq_ok h
  obtain ⟨htopic, d, -, hcarries, -⟩ := hgenuine
  obtain ⟨message, message_id, timestamp, url, hmessage, hid, htimestamp, heq⟩ :=
    @verified_message_eq payload K Stamp _ p hreads.canonical
  cases hmessage.symm.trans (optional_of_carries hcarries hplain e.mem_message)
  cases hid.symm.trans (optional_of_carries hcarries hplain e.mem_message_id)
  cases htimestamp.symm.trans (optional_of_carries hcarries hplain e.mem_timestamp)
  rw [heq] at hm
  unfold parse_required_timestamp at hm
  split at hm
  · cases hm
  · cases hm
  · rename_i stamp hstamp
    cases hm
    exact ⟨(kind_of_carries hcarries hreads).symm, rfl, rfl, hstamp,
      hreads.topic_arn.trans htopic.symm⟩

theorem genuine_of_vouched {e' : Envelope} (h : Vouched Stamp aws payload expected p e)
    (hurl : GenuineUrl p.url) (hsigned : aws.signed p.digest e') (hcarries : Carries payload e')
    (hcanonical : e'.canonical = p.canonical) : Genuine Stamp aws payload expected e' := by
  have hplain := plain_of_reads hcarries h.reads hcanonical
  have htopic := optional_of_carries hcarries hplain e'.mem_topic_arn
  cases htopic.symm.trans h.reads.addressed.topic_arn
  obtain ⟨data, hdata, hsignature⟩ := h.signature
  obtain ⟨text, htext, hdecode⟩ := h.reads.signature
  refine ⟨rfl, p.digest, hsigned, hcarries, ?_, ⟨text, data, htext, ?_, ?_⟩, h.reads.version⟩
  · exact ⟨p.url, h.reads.addressed.url, h.reads.url_valid, hurl, h.served⟩
  · rw [hcanonical, hdata]
  · rw [hdecode, hsignature]

theorem verify_of_stamp (ideal : aws.Ideal Stamp) (h : Vouched Stamp aws payload expected p e)
    {timestamp : Text} {stamp : Stamp}
    (htimestamp : optional_sns_text payload "Timestamp" = some timestamp)
    (hstamp : Platform.timestamp K timestamp = .ok (some stamp)) :
    ∃ m, verify K Stamp payload expected = .ok m := by
  obtain ⟨message, message_id, timestamp', url, -, -, htimestamp', heq⟩ :=
    @verified_message_eq payload K Stamp _ p h.reads.canonical
  cases htimestamp.symm.trans htimestamp'
  rw [verify_of_vouched ideal h, heq]
  unfold parse_required_timestamp
  rw [hstamp]
  exact ⟨_, rfl⟩

theorem own_verify (ideal : aws.Ideal Stamp) (h : InOrder Stamp aws payload expected) :
    Own (verify K Stamp payload expected) := by
  refine Own.bind (own_prepare h.parses) fun p hp => ?_
  have hreads := reads_of_prepare hp
  refine Own.bind ?_ fun key hkey => Own.bind ?_ fun data hdata => ?_
  · obtain ⟨hreached, hformed⟩ := h.answered p hreads
    unfold certificate_key
    split
    · exact absurd ‹_› hreached
    · exact own_sns _
    · exact absurd ‹_› hformed
    · exact own_sns _
    · exact own_ok _
  · have hserved := certificate_key_eq_ok.mp hkey
    obtain ⟨data, hdata⟩ := Option.isSome_iff_exists.mp
      ((utf8.encode_isSome _).mpr (h.encodable p key hreads hserved))
    rw [encoded_eq_ok.mpr hdata]
    exact own_ok _
  · split
    · rename_i hverified
      have hserved := certificate_key_eq_ok.mp hkey
      have hdata := encoded_eq_ok.mp hdata
      cases ideal.certificates _ _ (h.genuine p hreads) hserved
      obtain ⟨e, hsigned, hcanonical, hsignature⟩ := (ideal.verifies _ _ _).mp hverified
      have hvouched : Vouched Stamp aws payload expected p e :=
        ⟨hreads, hserved, hsigned, encode_inj hcanonical hdata, data, hdata, hsignature⟩
      obtain ⟨_, _, timestamp, _, -, -, htimestamp, heq⟩ :=
        @verified_message_eq payload K Stamp _ p hreads.canonical
      have hrange := h.in_range p e timestamp hvouched htimestamp
      rw [heq]
      unfold parse_required_timestamp
      split
      · exact absurd ‹_› hrange
      · exact own_sns _
      · exact own_ok _
    · exact own_sns _

theorem InOrder.exact (ideal : aws.Ideal Stamp) (h : InOrder Stamp aws payload expected) :
    Exact Stamp aws payload expected := by
  refine ⟨⟨?_, ?_⟩, ?_, own_verify ideal h, ?_⟩
  · rintro ⟨m, hm⟩
    obtain ⟨p, e, hvouched⟩ := vouched_of_ok ideal h.genuine hm
    obtain ⟨_, _, timestamp, _, -, -, htimestamp, heq⟩ :=
      @verified_message_eq payload K Stamp _ p hvouched.reads.canonical
    rw [verify_of_vouched ideal hvouched, heq] at hm
    unfold parse_required_timestamp at hm
    split at hm
    · cases hm
    · cases hm
    · rename_i stamp hstamp
      obtain ⟨e', hsigned, hcarries, hcanonical⟩ :=
        h.in_place p e timestamp stamp hvouched htimestamp hstamp
      exact ⟨e', genuine_of_vouched hvouched (h.genuine p hvouched.reads) hsigned hcarries
        hcanonical⟩
  · rintro ⟨e, hgenuine⟩
    obtain ⟨hplain, stamp, hstamp⟩ := h.kept e hgenuine
    obtain ⟨p, hvouched⟩ := vouched_of_genuine hgenuine hplain
    obtain ⟨-, d, -, hcarries, -⟩ := hgenuine
    exact verify_of_stamp ideal hvouched (optional_of_carries hcarries hplain e.mem_timestamp) hstamp
  · intro m e hm hgenuine
    exact matches_of_ok hm hgenuine (h.kept e hgenuine).1
  · intro url hurl
    unfold requested at hurl
    cases hp : prepare payload expected with
    | error exc =>
      rw [hp] at hurl
      cases hurl
    | ok p =>
      rw [hp] at hurl
      cases hurl
      exact h.genuine p (reads_of_prepare hp)

theorem own_of_reads (hown : Own (verify K Stamp payload expected))
    (hreads : Reads payload expected p) : Own (certificate_key K Stamp p.url) ∧
      ∀ key : K, Platform.served Stamp p.url = .rsa key → Own (encoded p.canonical) := by
  rw [verify_of_reads hreads] at hown
  refine ⟨fun exc hexc => hown exc (by rw [hexc]; rfl), fun key hkey exc hexc => hown exc ?_⟩
  rw [certificate_key_eq_ok.mpr hkey, ok_bind, hexc]
  rfl

theorem Exact.inOrder (ideal : aws.Ideal Stamp) (h : Exact Stamp aws payload expected) :
    InOrder Stamp aws payload expected := by
  have hgenuine : ∀ p, Reads payload expected p → GenuineUrl p.url := by
    intro p hreads
    refine h.requests p.url ?_
    unfold requested
    rw [prepare_of_reads hreads]
    rfl
  refine ⟨?_, hgenuine, ?_, ?_, ?_, ?_, ?_⟩
  · intro kind url haddressed hvalue
    obtain ⟨message, hmessage⟩ := h.errors .value_error (by
      unfold verify
      rw [prepare_of_addressed haddressed, hvalue]
      rfl)
    cases hmessage
  · intro p hreads
    obtain ⟨hown, -⟩ := own_of_reads h.errors hreads
    unfold certificate_key at hown
    constructor
    · intro hserved
      rw [hserved] at hown
      obtain ⟨message, hmessage⟩ := hown _ rfl
      cases hmessage
    · intro hserved
      rw [hserved] at hown
      obtain ⟨message, hmessage⟩ := hown _ rfl
      cases hmessage
  · intro p key hreads hkey
    have hown := (own_of_reads h.errors hreads).2 key hkey
    unfold encoded at hown
    refine (utf8.encode_isSome _).mp ?_
    cases hencode : encode p.canonical with
    | some data => rfl
    | none =>
      rw [hencode] at hown
      obtain ⟨message, hmessage⟩ := hown _ rfl
      cases hmessage
  · intro p e timestamp hvouched htimestamp hrange
    obtain ⟨_, _, timestamp', _, -, -, htimestamp', heq⟩ :=
      @verified_message_eq payload K Stamp _ p hvouched.reads.canonical
    cases htimestamp.symm.trans htimestamp'
    obtain ⟨message, hmessage⟩ := h.errors .overflow_error (by
      rw [verify_of_vouched ideal hvouched, heq]
      unfold parse_required_timestamp
      rw [hrange]
      rfl)
    cases hmessage
  · intro p e timestamp stamp hvouched htimestamp hstamp
    obtain ⟨e', -, d, hsigned, hcarries, hattached⟩ :=
      h.returns_iff.mp (verify_of_stamp ideal hvouched htimestamp hstamp)
    obtain ⟨data, hdata, hsignature⟩ := hvouched.signature
    obtain ⟨rfl, hcanonical⟩ := same_canonical ideal hattached hvouched.reads hdata hsignature
    exact ⟨e', hsigned, hcarries, hcanonical⟩
  · intro e hg
    obtain ⟨m, hm⟩ := h.returns_iff.mpr ⟨e, hg⟩
    refine ⟨?_, m.timestamp, (h.fields m e hm hg).timestamp⟩
    obtain ⟨p, e', hvouched⟩ := vouched_of_ok ideal hgenuine hm
    obtain ⟨data, hdata, hsignature⟩ := hvouched.signature
    obtain ⟨-, d, -, hcarries, hattached⟩ := hg
    obtain ⟨-, hcanonical⟩ := same_canonical ideal hattached hvouched.reads hdata hsignature
    exact plain_of_reads hcarries hvouched.reads hcanonical

end exactness

/-! ## Two payloads -/

section runs

@[reducible] def asciiCase : Unicode where
  nfkc := id
  lower s := String.ofList ((ascii.chars s).map Char.toLower)
  repr s := "'" ++ s ++ "'"
  lower_ascii := urllib.lower_chars

attribute [local instance] asciiCase

@[reducible] def noSurrogates : SurrogateUrls where
  urlparse _ := .error "not ASCII"

attribute [local instance] noSurrogates

inductive KeyHolder
  | aws | stranger
  deriving DecidableEq

def topic : Text := ofString "arn:aws:sns:us-east-1:1:mail"

def mail : Envelope :=
  .notification (ofString "hello") (ofString "m-1") none (ofString "2024-05-01T00:00:00Z") topic

def regionUrl : Text := ofString "https://sns.us-east-1.amazonaws.com/key.pem"

/-- The URL of an object in a bucket that is named `sns.shop`. -/
def bucketUrl : Text := ofString "https://sns.shop.s3.amazonaws.com/key.pem"

def mailBytes : Bytes := (encode mail.canonical).getD []

def mailSigner : Aws KeyHolder where
  key := .aws
  signed d e := d = .sha256 ∧ e = mail
  sign _ data := 1 :: data

@[reducible] def mailPlatform : Platform KeyHolder Nat where
  served url :=
    if url = regionUrl then .rsa .aws else if url = bucketUrl then .rsa .stranger else .status 404
  rsa_verify key signature data digest :=
    match key with
    | .aws => decide (digest = .sha256 ∧ data = mailBytes ∧ signature = 1 :: data)
    | .stranger => decide (signature = 2 :: data)
  timestamp text :=
    .ok (if text = ofString "2024-05-01T00:00:00Z" then some 1714521600 else none)

attribute [local instance] mailPlatform

def mailPayload : Payload :=
  Dict.ofList [("Type", .text (Kind.text .notification)), ("MessageId", .text (ofString "m-1")),
    ("TopicArn", .text topic), ("Message", .text (ofString "hello")),
    ("Timestamp", .text (ofString "2024-05-01T00:00:00Z")),
    ("SignatureVersion", .text (ofString "2")),
    ("Signature", .text (base64.b2a (1 :: mailBytes))), ("SigningCertURL", .text regionUrl)]

theorem encode_mail : encode mail.canonical = some mailBytes := by
  rfl

theorem genuine_region : GenuineUrl regionUrl := by
  refine ⟨⟨"https".toList, "sns.us-east-1.amazonaws.com".toList, "/key.pem".toList, [], []⟩, ?_, rfl,
    .inr ⟨"us-east-1", ?_, ?_, ?_⟩⟩ <;> decide

theorem not_genuine_bucket : ¬ GenuineUrl bucketUrl := by
  rintro ⟨parts, hparts, -, hhost⟩
  have hparsed : urlparse bucketUrl = .ok ⟨"https".toList, "sns.shop.s3.amazonaws.com".toList,
      "/key.pem".toList, [], []⟩ := by rfl
  cases hparsed.symm.trans hparts
  have hlower : lower_host ⟨"https".toList, "sns.shop.s3.amazonaws.com".toList,
      "/key.pem".toList, [], []⟩ = "sns." ++ "shop.s3" ++ ".amazonaws.com" := by rfl
  rw [hlower] at hhost
  obtain hhost | ⟨label, -, hlabel, hhost⟩ := hhost
  · exact absurd hhost (by decide)
  · have hsame : label = "shop.s3" := by
      have hlist := congrArg String.toList hhost
      simp only [String.toList_append] at hlist
      exact String.toList_injective
        (List.append_cancel_left (List.append_cancel_right hlist)).symm
    rw [hsame] at hlabel
    exact absurd hlabel (by decide)

theorem mail_ideal : mailSigner.Ideal Nat := by
  refine ⟨?_, fun _ _ _ h => (List.cons.inj h).2, ?_⟩
  · intro sig data d
    constructor
    · intro h
      obtain ⟨hd, hdata, hsig⟩ := of_decide_eq_true h
      exact ⟨mail, ⟨hd, rfl⟩, hdata ▸ encode_mail, hsig⟩
    · rintro ⟨_, ⟨hd, rfl⟩, hdata, hsig⟩
      exact decide_eq_true ⟨hd, (Option.some.inj (encode_mail.symm.trans hdata)).symm, hsig⟩
  · intro url key hgenuine hserved
    simp only [Platform.served] at hserved
    split_ifs at hserved with hregion hbucket
    · cases hserved
      rfl
    · cases hbucket
      exact absurd hgenuine not_genuine_bucket

theorem prepare_mail : prepare mailPayload topic =
    .ok ⟨.notification, topic, regionUrl, 1 :: mailBytes, .sha256, mail.canonical⟩ := by
  decide +kernel

theorem mail_plain : mail.Plain := by
  unfold Envelope.Plain Plain
  decide

theorem carries_mail : Carries mailPayload mail := by
  refine ⟨?_, fun _ => by rfl⟩
  simp only [mail, Envelope.fields, Option.map_none, Option.toList_none, List.append_nil,
    List.cons_append, List.nil_append, List.forall_mem_cons]
  exact ⟨rfl, rfl, rfl, rfl, rfl, fun _ h => absurd h List.not_mem_nil⟩

theorem mail_in_order : InOrder Nat mailSigner mailPayload topic := by
  have hreads : ∀ p, Reads mailPayload topic p →
      p = ⟨.notification, topic, regionUrl, 1 :: mailBytes, .sha256, mail.canonical⟩ := fun p h =>
    Except.ok.inj ((prepare_of_reads h).symm.trans prepare_mail)
  refine ⟨?_, ?_, ?_, ?_, ?_, ?_, ?_⟩
  · intro kind url haddressed
    have hurl : optional_sns_text mailPayload "SigningCertURL" = some regionUrl := by rfl
    cases hurl.symm.trans haddressed.url
    decide
  · intro p h
    rw [hreads p h]
    exact genuine_region
  · intro p h
    rw [hreads p h]
    have hserved : Platform.served Nat regionUrl = Served.rsa KeyHolder.aws := if_pos rfl
    rw [hserved]
    constructor <;> intro h <;> cases h
  · intro p _ h _
    rw [hreads p h]
    exact (utf8.encode_isSome _).mp (by rw [encode_mail]; rfl)
  · intro _ _ _ _ _ h
    cases h
  · intro p _ _ _ h _ _
    rw [hreads p h.reads]
    exact ⟨mail, ⟨rfl, rfl⟩, carries_mail, rfl⟩
  · rintro e ⟨-, d, ⟨-, rfl⟩, -, -⟩
    exact ⟨mail_plain, 1714521600, congrArg _ (if_pos rfl)⟩

def forged : Payload :=
  let fields := [("Message", ofString "pay"), ("MessageId", ofString "m-2"),
    ("Timestamp", ofString "2024-05-01T00:00:00Z"), ("TopicArn", topic),
    ("Type", Kind.text .notification)]
  Dict.ofList (fields.map (fun f => (f.1, .text f.2)) ++ [("SignatureVersion", .text (ofString "2")),
    ("Signature", .text (base64.b2a (2 :: (encode (join_fields fields)).getD []))),
    ("SigningCertURL", .text bucketUrl)])

end runs

end operious.boundary.email_ses
