-- The tokens of voice sessions: a tenant, a session and an expiry, each without a dot, and a MAC over
-- the text of the three. The comparison of two texts takes ASCII only, and the bytes of a text are made
-- outside of the guarded part, so some texts raise what no caller expects.
import Operious.Lib.Base64
import Operious.Lib.Joined
import Operious.Tools.Values

namespace operious.boundary.voice

open utf8 (Text Encodable encode decode ofString)
open operious.agents.tools (parseInt literalDigits natLiteral digitValue maxStrDigits)

abbrev Bytes := List UInt8

/-- `hmac.new(key, message, sha256).hexdigest()`. -/
class Hmac where
  hexdigest : Bytes → Bytes → Text
  /-- A digest is written with the digits of base sixteen. -/
  hex : ∀ key message, ∀ d ∈ hexdigest key message, (48 ≤ d ∧ d ≤ 57) ∨ (97 ≤ d ∧ d ≤ 102)

/-- What the module raises, its own error and those that it does not catch. -/
inductive Exc
  | voiceSessionTokenError (message : String)
  | typeError
  | unicodeEncodeError
  | valueError
  deriving DecidableEq, Repr

/-! ## The model -/

/-- `text.encode("utf-8")`. -/
def encoded (text : Text) : Except Exc Bytes :=
  match encode text with
  | some bytes => .ok bytes
  | none => .error .unicodeEncodeError

def b64u_encode (value : Text) : Except Exc Text := do
  let bytes ← encoded value
  return base64.unpadded (base64.b2a bytes)

/-- `_b64u_decode`, or none where it raises a `ValueError`. -/
def b64u_decode (value : Text) : Option Text :=
  if value.all (· < 128) then (base64.a2b 0 0 0 (base64.padded value)).bind decode else none

/-- `str(n)`, which takes so many digits and no more. -/
def str_int (n : Int) : Except Exc Text :=
  if maxStrDigits < (Nat.toDigits 10 n.natAbs).length then .error .valueError
  else .ok (ofString n.repr)

/-- `int(text)`, or none where it raises a `ValueError`. -/
def int_of (text : Text) : Option Int :=
  (text.mapM utf8.toChar?).bind fun cs => parseInt (String.ofList cs)

/-- `hmac.compare_digest`, which takes ASCII texts. -/
def compare_digest (a b : Text) : Except Exc Bool :=
  if a.all (· < 128) && b.all (· < 128) then .ok (a = b) else .error .typeError

def dot : Nat := 46

/-- The version of the format, `v1`. -/
def VERSION : Text := [118, 49]

/-- The signed part of a token. -/
def signing_text (version tenant_b64 session_b64 exp_raw : Text) : Text :=
  version ++ dot :: (tenant_b64 ++ dot :: (session_b64 ++ dot :: exp_raw))

/-- What a token is minted for. -/
structure MintCall where
  tenant_id : Text
  session_id : Text
  expires_at : Int
  deriving DecidableEq, Repr

section

variable [Hmac]

def signature (secret signing_input : Text) : Except Exc Text := do
  let key ← encoded secret
  let message ← encoded signing_input
  return Hmac.hexdigest key message

def MintCall.signing_input (call : MintCall) : Except Exc Text := do
  let tenant_b64 ← b64u_encode call.tenant_id
  let session_b64 ← b64u_encode call.session_id
  let exp_raw ← str_int call.expires_at
  return signing_text VERSION tenant_b64 session_b64 exp_raw

def mint_voice_session_token (secret : Text) (call : MintCall) : Except Exc Text :=
  if secret = [] then .error (.voiceSessionTokenError "voice session token secret is not configured")
  else if call.tenant_id = [] ∨ call.session_id = [] then
    .error (.voiceSessionTokenError "tenant_id and session_id are required")
  else do
    let signing_input ← call.signing_input
    let signature ← signature secret signing_input
    return signing_input ++ dot :: signature

def verify_voice_session_token (secret token session_id : Text) (now : Int) : Except Exc Text :=
  if secret = [] then .error (.voiceSessionTokenError "voice session token secret is not configured")
  else
    match token.splitOn dot with
    | [version, tenant_b64, session_b64, exp_raw, supplied] =>
      if version ≠ VERSION then
        .error (.voiceSessionTokenError "unsupported voice session token version")
      else do
        let expected ← signature secret (signing_text version tenant_b64 session_b64 exp_raw)
        let genuine ← compare_digest supplied expected
        if !genuine then
          .error (.voiceSessionTokenError "voice session token signature mismatch")
        else
          match b64u_decode tenant_b64, b64u_decode session_b64, int_of exp_raw with
          | some tenant_id, some bound_session, some expires_at => do
            let bound ← compare_digest bound_session session_id
            if !bound then
              .error (.voiceSessionTokenError "voice session token session mismatch")
            else if now ≥ expires_at then
              .error (.voiceSessionTokenError "voice session token expired")
            else return tenant_id
          | _, _, _ => .error (.voiceSessionTokenError "malformed voice session token")
    | _ => .error (.voiceSessionTokenError "malformed voice session token")

end

/-! ## The law -/

def Ascii (text : Text) : Prop := ∀ d ∈ text, d < 128

section

variable [Hmac]

def Minted (secret : Text) (calls : List MintCall) (call : MintCall) (token : Text) : Prop :=
  call ∈ calls ∧ mint_voice_session_token secret call = .ok token

/-- The MAC is ideal: the token ends with the digest of what stands before it only if that text was
signed for one of the calls. -/
def Unforged (secret : Text) (calls : List MintCall) (token : Text) : Prop :=
  ∀ input key message, encode secret = some key → encode input = some message →
    token = input ++ dot :: Hmac.hexdigest key message →
      ∃ call ∈ calls, (∃ made, mint_voice_session_token secret call = .ok made) ∧
        call.signing_input = .ok input

/-- The verification returns the tenant of a token of this session that has not expired, in every other
case it raises its own error, and a token is minted for one call. -/
structure Exact (secret token session_id : Text) (now : Int) (calls : List MintCall) : Prop where
  returns : ∀ tenant_id, verify_voice_session_token secret token session_id now = .ok tenant_id ↔
    ∃ expires_at, Minted secret calls ⟨tenant_id, session_id, expires_at⟩ token ∧ now < expires_at
  raises : ∀ exc, verify_voice_session_token secret token session_id now = .error exc →
    ∃ message, exc = .voiceSessionTokenError message
  apart : ∀ call call', mint_voice_session_token secret call = .ok token →
    mint_voice_session_token secret call' = .ok token → call = call'

/-- A text of the form of a token has bytes where they are made, and ASCII where texts are compared. -/
def Readable (secret token session_id : Text) (calls : List MintCall) : Prop :=
  ∀ tenant_b64 session_b64 exp_raw supplied,
    token.splitOn dot = [VERSION, tenant_b64, session_b64, exp_raw, supplied] →
      Encodable secret ∧ Encodable tenant_b64 ∧ Encodable session_b64 ∧ Encodable exp_raw ∧
        Ascii supplied ∧
        ∀ call, Minted secret calls call token → Ascii call.session_id ∧ Ascii session_id

end

/-! ## The texts of a token -/

variable {text : Text}

theorem encoded_of_encodable (h : Encodable text) :
    ∃ bytes, encode text = some bytes ∧ encoded text = .ok bytes ∧ decode bytes = some text := by
  obtain ⟨bytes, hbytes, hdecode⟩ := utf8.decode_encode h
  refine ⟨bytes, hbytes, ?_, hdecode⟩
  unfold encoded
  rw [hbytes]

theorem encoded_of_not_encodable (h : ¬ Encodable text) :
    encoded text = .error .unicodeEncodeError := by
  unfold encoded
  cases hbytes : encode text with
  | none => rfl
  | some bytes => exact absurd ((utf8.encode_isSome text).mp (by rw [hbytes]; rfl)) h

theorem encoded_ok {bytes : Bytes} (h : encoded text = .ok bytes) :
    Encodable text ∧ encode text = some bytes ∧ decode bytes = some text := by
  by_cases henc : Encodable text
  · obtain ⟨bytes', hbytes, hok, hdecode⟩ := encoded_of_encodable henc
    cases hok.symm.trans h
    exact ⟨henc, hbytes, hdecode⟩
  · rw [encoded_of_not_encodable henc] at h
    cases h

theorem b64u_encode_ok {value : Text} (h : b64u_encode value = .ok text) :
    dot ∉ text ∧ Ascii text ∧ b64u_decode text = some value := by
  obtain ⟨bytes, hbytes, htext⟩ := bind_eq_ok.mp h
  cases htext
  obtain ⟨-, -, hdecode⟩ := encoded_ok hbytes
  have hascii : Ascii (base64.unpadded (base64.b2a bytes)) := by
    rw [base64.unpadded_b2a]
    exact fun d hd => (base64.isDigit_digits bytes d hd).2
  refine ⟨fun hdot => ?_, hascii, ?_⟩
  · rw [base64.unpadded_b2a] at hdot
    have hsome := base64.isSome_digits bytes dot hdot
    revert hsome
    decide
  · have hall : (base64.unpadded (base64.b2a bytes)).all (· < 128) = true := by
      rw [List.all_eq_true]
      exact fun d hd => decide_eq_true (hascii d hd)
    unfold b64u_decode
    rw [if_pos hall, base64.unpadded_b2a, base64.a2b_padded_digits, Option.bind_some, hdecode]

theorem isDigit_range {c : Char} (h : c.isDigit) : 48 ≤ c.toNat ∧ c.toNat ≤ 57 := by
  unfold Char.isDigit at h
  rw [Bool.and_eq_true, decide_eq_true_eq, decide_eq_true_eq] at h
  exact ⟨UInt32.le_iff_toNat_le.mp h.1, UInt32.le_iff_toNat_le.mp h.2⟩

theorem natLiteral_toDigits {n : Nat} (h : (Nat.toDigits 10 n).length ≤ maxStrDigits) :
    natLiteral (Nat.toDigits 10 n) = some n := by
  have hvalue : ∀ c : Char, c.isDigit → digitValue c = some (c.toNat - 48) := by
    intro c hc
    have hrange := isDigit_range hc
    unfold digitValue operious.agents.tools.decimalZeros
    rw [List.find?_cons_of_pos (by simpa using ⟨hrange.1, by omega⟩)]
    rfl
  have hdigits : ∀ cs : List Char, cs ≠ [] → (∀ c ∈ cs, c.isDigit) →
      literalDigits cs = some (cs.map fun c => c.toNat - 48) := by
    intro cs hne hcs
    induction cs with
    | nil => exact absurd rfl hne
    | cons c rest ih =>
      have hc := hvalue c (hcs c List.mem_cons_self)
      cases rest with
      | nil => simp [literalDigits, hc]
      | cons d rest =>
        have hd : d ≠ '_' := by
          rintro rfl
          have := hcs '_' (List.mem_cons_of_mem _ List.mem_cons_self)
          revert this
          decide
        have hrest := ih (List.cons_ne_nil _ _) fun x hx => hcs x (List.mem_cons_of_mem _ hx)
        rw [literalDigits.eq_4 _ _ (by simp) (by simp [hd]), hc, hrest]
        rfl
  have hall : ∀ c ∈ Nat.toDigits 10 n, c.isDigit := fun c hc =>
    Nat.isDigit_of_mem_toDigits (by decide) (by decide) hc
  unfold natLiteral
  rw [hdigits _ Nat.toDigits_ne_nil hall, Option.bind_some, List.length_map,
    if_neg (Nat.not_lt_of_le h), List.foldl_map]
  exact congrArg some Nat.ofDigitChars_ten_toDigits

theorem int_repr_toList (n : Int) :
    n.repr.toList = (if n < 0 then ['-'] else []) ++ Nat.toDigits 10 n.natAbs := by
  cases n with
  | ofNat m => exact (Nat.toList_repr (n := m)).trans rfl
  | negSucc m =>
    have hneg : Int.negSucc m < 0 := Int.negSucc_lt_zero m
    rw [if_pos hneg]
    have happend : (Int.negSucc m).repr = "-" ++ (m + 1).repr := rfl
    rw [happend, String.toList_append, Nat.toList_repr]
    rfl

theorem parseInt_repr {n : Int} (h : (Nat.toDigits 10 n.natAbs).length ≤ maxStrDigits) :
    parseInt n.repr = some n := by
  have hdigit : ∀ c ∈ Nat.toDigits 10 n.natAbs, c.isDigit := fun c hc =>
    Nat.isDigit_of_mem_toDigits (by decide) (by decide) hc
  have hspace : ∀ c : Char, c.isDigit → isSpace c = false := by
    intro c hc
    have hrange := isDigit_range hc
    unfold isSpace
    simp only [Bool.or_eq_false_iff, Bool.and_eq_false_iff, decide_eq_false_iff_not, beq_eq_false_iff_ne]
    omega
  have hstrip : strip n.repr = n.repr := by
    refine strip_eq_self fun c hc => ?_
    rw [int_repr_toList, List.mem_append] at hc
    rcases hc with hsign | hc
    · split at hsign
      · rw [List.mem_singleton.mp hsign]
        decide
      · cases hsign
    · exact hspace c (hdigit c hc)
  have hliteral := natLiteral_toDigits h
  unfold parseInt
  rw [hstrip, int_repr_toList]
  rcases lt_or_ge n 0 with hneg | hpos
  · rw [if_pos hneg]
    simp only [List.cons_append, List.nil_append, hliteral]
    have hself : -(n.natAbs : Int) = n := by omega
    exact congrArg some hself
  · rw [if_neg (Int.not_lt.mpr hpos), List.nil_append]
    have hnat : Int.ofNat n.natAbs = n := Int.natAbs_of_nonneg hpos
    cases hdigits : Nat.toDigits 10 n.natAbs with
    | nil => exact absurd hdigits Nat.toDigits_ne_nil
    | cons c rest =>
      rw [hdigits] at hdigit hliteral
      have hc := hdigit c List.mem_cons_self
      split
      · rename_i heq
        rw [(List.cons.inj heq).1] at hc
        cases hc
      · rename_i heq
        rw [(List.cons.inj heq).1] at hc
        cases hc
      · rw [hliteral, Option.map_some, hnat]

theorem str_int_ok {n : Int} (h : str_int n = .ok text) :
    dot ∉ text ∧ Ascii text ∧ int_of text = some n := by
  unfold str_int at h
  split at h
  · cases h
  rename_i hdigits
  cases h
  have hchar : ∀ c ∈ n.repr.toList, c.toNat < 128 ∧ c.toNat ≠ dot := by
    intro c hc
    rw [int_repr_toList, List.mem_append] at hc
    rcases hc with hsign | hc
    · split at hsign
      · rw [List.mem_singleton.mp hsign]
        decide
      · cases hsign
    · have hrange := isDigit_range (Nat.isDigit_of_mem_toDigits (by decide) (by decide) hc)
      unfold dot
      omega
  refine ⟨fun hdot => ?_, fun d hd => ?_, ?_⟩
  · rw [utf8.ofString_eq] at hdot
    obtain ⟨c, hc, heq⟩ := List.mem_map.mp hdot
    exact (hchar c hc).2 heq
  · rw [utf8.ofString_eq] at hd
    obtain ⟨c, hc, rfl⟩ := List.mem_map.mp hd
    exact (hchar c hc).1
  · unfold int_of
    rw [utf8.mapM_toChar?_ofString, Option.bind_some, String.ofList_toList]
    exact parseInt_repr (Nat.le_of_not_lt hdigits)

variable {session_b64 tenant_b64 exp_raw : Text}

theorem splitOn_token {supplied : Text} (ht : dot ∉ tenant_b64) (hs : dot ∉ session_b64)
    (he : dot ∉ exp_raw) (hd : dot ∉ supplied) :
    (signing_text VERSION tenant_b64 session_b64 exp_raw ++ dot :: supplied).splitOn dot =
      [VERSION, tenant_b64, session_b64, exp_raw, supplied] := by
  have hv : dot ∉ VERSION := by decide
  unfold signing_text
  simp only [List.append_assoc, List.cons_append]
  rw [List.splitOn_append_cons_self_of_not_mem hv, List.splitOn_append_cons_self_of_not_mem ht,
    List.splitOn_append_cons_self_of_not_mem hs, List.splitOn_append_cons_self_of_not_mem he,
    List.splitOn_eq_singleton hd]

theorem token_of_parts {token supplied : Text}
    (h : token.splitOn dot = [VERSION, tenant_b64, session_b64, exp_raw, supplied]) :
    token = signing_text VERSION tenant_b64 session_b64 exp_raw ++ dot :: supplied := by
  have hjoin : [dot].intercalate (token.splitOn dot) = token := List.intercalate_splitOn dot
  rw [h] at hjoin
  rw [← hjoin]
  simp [List.intercalate, signing_text]

theorem encodable_signing_text :
    Encodable (signing_text VERSION tenant_b64 session_b64 exp_raw) ↔
      Encodable tenant_b64 ∧ Encodable session_b64 ∧ Encodable exp_raw := by
  have hdot : ∀ text : Text, Encodable (dot :: text) ↔ Encodable text := by
    intro text
    have hvalid : Nat.isValidChar dot := by decide
    simp [utf8.Encodable, hvalid]
  have hversion : Encodable VERSION := by decide
  unfold signing_text
  rw [utf8.encodable_append, hdot, utf8.encodable_append, hdot, utf8.encodable_append, hdot]
  exact and_iff_right hversion

section

variable [Hmac] {secret token session_id : Text} {now : Int} {calls : List MintCall}

structure MintedFrom (secret : Text) (call : MintCall) (token tenant_b64 session_b64 exp_raw : Text)
    (key message : Bytes) : Prop where
  tenant : b64u_encode call.tenant_id = .ok tenant_b64
  session : b64u_encode call.session_id = .ok session_b64
  expires : str_int call.expires_at = .ok exp_raw
  secret_bytes : encode secret = some key
  signed_bytes : encode (signing_text VERSION tenant_b64 session_b64 exp_raw) = some message
  parts : token.splitOn dot = [VERSION, tenant_b64, session_b64, exp_raw, Hmac.hexdigest key message]

theorem dot_not_mem_hexdigest (key message : Bytes) : dot ∉ Hmac.hexdigest key message := by
  intro hdot
  have hrange := Hmac.hex key message dot hdot
  revert hrange
  decide

theorem ascii_hexdigest (key message : Bytes) : Ascii (Hmac.hexdigest key message) := by
  intro d hd
  have hrange := Hmac.hex key message d hd
  omega

variable {call : MintCall}

omit [Hmac] in
theorem signing_input_ok {input : Text} (h : call.signing_input = .ok input) :
    ∃ tenant_b64 session_b64 exp_raw, b64u_encode call.tenant_id = .ok tenant_b64 ∧
      b64u_encode call.session_id = .ok session_b64 ∧ str_int call.expires_at = .ok exp_raw ∧
      input = signing_text VERSION tenant_b64 session_b64 exp_raw := by
  obtain ⟨tenant_b64, ht, h⟩ := bind_eq_ok.mp h
  obtain ⟨session_b64, hs, h⟩ := bind_eq_ok.mp h
  obtain ⟨exp_raw, he, h⟩ := bind_eq_ok.mp h
  exact ⟨tenant_b64, session_b64, exp_raw, ht, hs, he, (Except.ok.inj h).symm⟩

theorem mint_ok (h : mint_voice_session_token secret call = .ok token) :
    ∃ tenant_b64 session_b64 exp_raw key message,
      MintedFrom secret call token tenant_b64 session_b64 exp_raw key message := by
  unfold mint_voice_session_token at h
  split at h
  · cases h
  split at h
  · cases h
  obtain ⟨input, hinput, hrest⟩ := bind_eq_ok.mp h
  obtain ⟨supplied, hsigned, htoken⟩ := bind_eq_ok.mp hrest
  obtain ⟨key, hkey, hkeyed⟩ := bind_eq_ok.mp hsigned
  obtain ⟨message, hmessage, hdigest⟩ := bind_eq_ok.mp hkeyed
  obtain ⟨tenant_b64, session_b64, exp_raw, ht, hs, he, rfl⟩ := signing_input_ok hinput
  cases hdigest
  cases htoken
  refine ⟨tenant_b64, session_b64, exp_raw, key, message, {
    tenant := ht
    session := hs
    expires := he
    secret_bytes := (encoded_ok hkey).2.1
    signed_bytes := (encoded_ok hmessage).2.1
    parts := ?_ }⟩
  exact splitOn_token (b64u_encode_ok ht).1 (b64u_encode_ok hs).1 (str_int_ok he).1
    (dot_not_mem_hexdigest key message)

variable {call' : MintCall}

omit [Hmac] in
theorem call_eq (ht : b64u_encode call.tenant_id = .ok tenant_b64)
    (hs : b64u_encode call.session_id = .ok session_b64)
    (he : str_int call.expires_at = .ok exp_raw)
    (ht' : b64u_encode call'.tenant_id = .ok tenant_b64)
    (hs' : b64u_encode call'.session_id = .ok session_b64)
    (he' : str_int call'.expires_at = .ok exp_raw) : call = call' := by
  obtain ⟨tenant_id, session_id, expires_at⟩ := call
  obtain ⟨tenant_id', session_id', expires_at'⟩ := call'
  have htenant := (b64u_encode_ok ht).2.2.symm.trans (b64u_encode_ok ht').2.2
  have hsession := (b64u_encode_ok hs).2.2.symm.trans (b64u_encode_ok hs').2.2
  have hexpires := (str_int_ok he).2.2.symm.trans (str_int_ok he').2.2
  cases htenant
  cases hsession
  cases hexpires
  rfl

theorem mint_injective (h : mint_voice_session_token secret call = .ok token)
    (h' : mint_voice_session_token secret call' = .ok token) : call = call' := by
  obtain ⟨_, _, _, _, _, hmade⟩ := mint_ok h
  obtain ⟨_, _, _, _, _, hmade'⟩ := mint_ok h'
  have hparts := hmade.parts.symm.trans hmade'.parts
  simp only [List.cons.injEq, true_and] at hparts
  obtain ⟨rfl, rfl, rfl, -⟩ := hparts
  exact call_eq hmade.tenant hmade.session hmade.expires hmade'.tenant hmade'.session hmade'.expires

/-! ## The verification -/

omit [Hmac] in
theorem compare_digest_of_ascii {a b : Text} (ha : Ascii a) (hb : Ascii b) :
    compare_digest a b = .ok (a = b) := by
  have hall : ∀ {text : Text}, Ascii text → text.all (· < 128) = true := by
    intro text htext
    rw [List.all_eq_true]
    exact fun d hd => decide_eq_true (htext d hd)
  unfold compare_digest
  rw [hall ha, hall hb]
  rfl

omit [Hmac] in
theorem compare_digest_of_not_ascii {a b : Text} (h : ¬ (Ascii a ∧ Ascii b)) :
    compare_digest a b = .error .typeError := by
  unfold compare_digest
  refine if_neg fun hall => h ?_
  simp only [Bool.and_eq_true, List.all_eq_true, decide_eq_true_eq] at hall
  exact hall

theorem verify_without_parts (hsecret : secret ≠ [])
    (h : ∀ tenant_b64 session_b64 exp_raw supplied,
      token.splitOn dot ≠ [VERSION, tenant_b64, session_b64, exp_raw, supplied]) :
    ∃ message, verify_voice_session_token secret token session_id now =
      .error (.voiceSessionTokenError message) := by
  unfold verify_voice_session_token
  rw [if_neg hsecret]
  split
  · rename_i version tenant_b64 session_b64 exp_raw supplied hparts
    split
    · exact ⟨_, rfl⟩
    · rename_i hversion
      rw [not_not.mp hversion] at hparts
      exact absurd hparts (h _ _ _ _)
  · exact ⟨_, rfl⟩

variable {tenant_b64 session_b64 exp_raw supplied : Text}

theorem signature_of_encodable {signing_input : Text} (hsecret : Encodable secret)
    (hinput : Encodable signing_input) : ∃ key message, encode secret = some key ∧
      encode signing_input = some message ∧
      signature secret signing_input = .ok (Hmac.hexdigest key message) := by
  obtain ⟨key, hkey, hkeyed, -⟩ := encoded_of_encodable hsecret
  obtain ⟨message, hmessage, hsigned, -⟩ := encoded_of_encodable hinput
  refine ⟨key, message, hkey, hmessage, ?_⟩
  unfold signature
  rw [hkeyed, hsigned]
  rfl

theorem signature_of_not_encodable {signing_input : Text}
    (h : ¬ (Encodable secret ∧ Encodable signing_input)) :
    signature secret signing_input = .error .unicodeEncodeError := by
  unfold signature
  by_cases hsecret : Encodable secret
  · obtain ⟨key, -, hkeyed, -⟩ := encoded_of_encodable hsecret
    rw [hkeyed, encoded_of_not_encodable fun hinput => h ⟨hsecret, hinput⟩]
    rfl
  · rw [encoded_of_not_encodable hsecret]
    rfl

theorem verify_not_encodable (hsecret : secret ≠ [])
    (hparts : token.splitOn dot = [VERSION, tenant_b64, session_b64, exp_raw, supplied])
    (h : ¬ (Encodable secret ∧ Encodable (signing_text VERSION tenant_b64 session_b64 exp_raw))) :
    verify_voice_session_token secret token session_id now = .error .unicodeEncodeError := by
  unfold verify_voice_session_token
  rw [if_neg hsecret, hparts]
  simp only [ne_eq, not_true_eq_false, if_false, signature_of_not_encodable h]
  rfl

variable {key message : Bytes}

theorem verify_supplied_not_ascii (hsecret : secret ≠ [])
    (hparts : token.splitOn dot = [VERSION, tenant_b64, session_b64, exp_raw, supplied])
    (hsigned : signature secret (signing_text VERSION tenant_b64 session_b64 exp_raw) =
      .ok (Hmac.hexdigest key message)) (h : ¬ Ascii supplied) :
    verify_voice_session_token secret token session_id now = .error .typeError := by
  have hraises : compare_digest supplied (Hmac.hexdigest key message) = .error .typeError :=
    compare_digest_of_not_ascii fun hboth => h hboth.1
  unfold verify_voice_session_token
  rw [if_neg hsecret, hparts]
  simp only [ne_eq, not_true_eq_false, if_false, hsigned, bind, Except.bind, hraises]

theorem verify_mismatch (hsecret : secret ≠ [])
    (hparts : token.splitOn dot = [VERSION, tenant_b64, session_b64, exp_raw, supplied])
    (hsigned : signature secret (signing_text VERSION tenant_b64 session_b64 exp_raw) =
      .ok (Hmac.hexdigest key message)) (hascii : Ascii supplied)
    (h : supplied ≠ Hmac.hexdigest key message) :
    ∃ text, verify_voice_session_token secret token session_id now =
      .error (.voiceSessionTokenError text) := by
  have hdiffers := compare_digest_of_ascii hascii (ascii_hexdigest key message)
  rw [decide_eq_false h] at hdiffers
  unfold verify_voice_session_token
  rw [if_neg hsecret, hparts]
  simp only [ne_eq, not_true_eq_false, if_false, hsigned, bind, Except.bind, hdiffers]
  exact ⟨_, rfl⟩

theorem verify_genuine (session_id : Text) (now : Int) (hsecret : secret ≠ [])
    (hmade : MintedFrom secret call token tenant_b64 session_b64 exp_raw key message) :
    verify_voice_session_token secret token session_id now =
      (compare_digest call.session_id session_id).bind fun bound =>
        if !bound then
          .error (.voiceSessionTokenError "voice session token session mismatch")
        else if now ≥ call.expires_at then
          .error (.voiceSessionTokenError "voice session token expired")
        else .ok call.tenant_id := by
  have hsigned : signature secret (signing_text VERSION tenant_b64 session_b64 exp_raw) =
      .ok (Hmac.hexdigest key message) := by
    unfold signature encoded
    rw [hmade.secret_bytes, hmade.signed_bytes]
    rfl
  have hsame := compare_digest_of_ascii (ascii_hexdigest key message) (ascii_hexdigest key message)
  unfold verify_voice_session_token
  rw [if_neg hsecret, hmade.parts]
  simp only [ne_eq, not_true_eq_false, if_false, hsigned, bind, Except.bind, hsame, decide_true,
    Bool.not_true, Bool.false_eq_true, (b64u_encode_ok hmade.tenant).2.2,
    (b64u_encode_ok hmade.session).2.2, (str_int_ok hmade.expires).2.2]
  rfl

theorem minted_of_genuine (hideal : Unforged secret calls token)
    (hkey : encode secret = some key)
    (hmessage : encode (signing_text VERSION tenant_b64 session_b64 exp_raw) = some message)
    (hparts : token.splitOn dot =
      [VERSION, tenant_b64, session_b64, exp_raw, Hmac.hexdigest key message]) :
    ∃ call, Minted secret calls call token ∧
      MintedFrom secret call token tenant_b64 session_b64 exp_raw key message := by
  have htoken := token_of_parts hparts
  obtain ⟨call, hcall, ⟨made, hmade⟩, hinput⟩ := hideal _ key message hkey hmessage htoken
  obtain ⟨tenant', session', exp', ht, hs, he, hsame⟩ := signing_input_ok hinput
  obtain ⟨tenant'', session'', exp'', key', message', hfrom⟩ := mint_ok hmade
  have ht' := Except.ok.inj (ht.symm.trans hfrom.tenant)
  have hs' := Except.ok.inj (hs.symm.trans hfrom.session)
  have he' := Except.ok.inj (he.symm.trans hfrom.expires)
  subst ht' hs' he'
  have hk := Option.some.inj (hkey.symm.trans hfrom.secret_bytes)
  rw [hsame] at hmessage
  have hm := Option.some.inj (hmessage.symm.trans hfrom.signed_bytes)
  subst hk hm
  rw [hsame] at htoken
  have hmade' : made = token := (token_of_parts hfrom.parts).trans htoken.symm
  rw [hmade'] at hmade hfrom
  have hboth := hparts.symm.trans hfrom.parts
  simp only [List.cons.injEq, true_and, and_true] at hboth
  obtain ⟨rfl, rfl, rfl⟩ := hboth
  exact ⟨call, ⟨hcall, hmade⟩, hfrom⟩

theorem Minted.parts (h : Minted secret calls call token) :
    ∃ tenant_b64 session_b64 exp_raw key message,
      MintedFrom secret call token tenant_b64 session_b64 exp_raw key message := mint_ok h.2

theorem unforged_of_minted (h : mint_voice_session_token secret call = .ok token) :
    Unforged secret [call] token := by
  obtain ⟨tenant_b64, session_b64, exp_raw, key, message, hfrom⟩ := mint_ok h
  intro input key' message' _ _ htoken
  refine ⟨call, List.mem_singleton_self _, ⟨token, h⟩, ?_⟩
  -- the digests have no dot, so the two texts are cut at the same place
  have hsame := congrArg List.reverse ((token_of_parts hfrom.parts).symm.trans htoken)
  rw [List.reverse_append, List.reverse_append, List.reverse_cons, List.reverse_cons,
    List.append_assoc, List.append_assoc, List.singleton_append, List.singleton_append] at hsame
  have hcut := joined.cut (fun hdot => dot_not_mem_hexdigest key message (List.mem_reverse.mp hdot))
    (fun hdot => dot_not_mem_hexdigest key' message' (List.mem_reverse.mp hdot)) hsame
  rw [List.reverse_injective hcut.2.symm]
  unfold MintCall.signing_input
  rw [hfrom.tenant, hfrom.session, hfrom.expires]
  rfl

/-- Under an ideal MAC the verification is exact for a token exactly when its texts are readable. -/
theorem verification_exact_iff (hsecret : secret ≠ []) (hideal : Unforged secret calls token) :
    Exact secret token session_id now calls ↔ Readable secret token session_id calls := by
  have hapart : ∀ call call', mint_voice_session_token secret call = .ok token →
      mint_voice_session_token secret call' = .ok token → call = call' :=
    fun call call' h h' => mint_injective h h'
  -- a token that is minted for no call is refused, and that is exact
  have hrefused : (∀ call, ¬ Minted secret calls call token) →
      (∃ message, verify_voice_session_token secret token session_id now =
        .error (.voiceSessionTokenError message)) → Exact secret token session_id now calls := by
    rintro hnone ⟨message, hverify⟩
    refine { returns := fun tenant_id => ?_, raises := fun exc hexc => ?_, apart := hapart }
    · rw [hverify]
      refine iff_of_false (by simp) ?_
      rintro ⟨expires_at, hminted, -⟩
      exact hnone _ hminted
    · exact ⟨message, Except.error.inj (hexc.symm.trans hverify)⟩
  have hother : ∀ exc, (∀ message, exc ≠ .voiceSessionTokenError message) →
      verify_voice_session_token secret token session_id now = .error exc →
        ¬ Exact secret token session_id now calls := by
    intro exc hexc hverify hexact
    obtain ⟨message, hmessage⟩ := hexact.raises exc hverify
    exact hexc message hmessage
  by_cases hparts : ∃ tenant_b64 session_b64 exp_raw supplied,
      token.splitOn dot = [VERSION, tenant_b64, session_b64, exp_raw, supplied]
  case neg =>
    have hnone : ∀ call, ¬ Minted secret calls call token := by
      intro call hminted
      obtain ⟨_, _, _, _, _, hfrom⟩ := hminted.parts
      exact hparts ⟨_, _, _, _, hfrom.parts⟩
    refine iff_of_true (hrefused hnone (verify_without_parts hsecret ?_)) ?_
    · exact fun t s e d hsplit => hparts ⟨t, s, e, d, hsplit⟩
    · exact fun t s e d hsplit => absurd ⟨t, s, e, d, hsplit⟩ hparts
  obtain ⟨tenant_b64, session_b64, exp_raw, supplied, hparts⟩ := hparts
  -- the condition is about these parts
  have hreadable : Readable secret token session_id calls ↔
      (Encodable secret ∧ Encodable (signing_text VERSION tenant_b64 session_b64 exp_raw)) ∧
        Ascii supplied ∧
        ∀ call, Minted secret calls call token → Ascii call.session_id ∧ Ascii session_id := by
    rw [encodable_signing_text]
    constructor
    · intro h
      obtain ⟨h1, h2, h3, h4, h5, h6⟩ := h _ _ _ _ hparts
      exact ⟨⟨h1, h2, h3, h4⟩, h5, h6⟩
    · rintro ⟨⟨h1, h2, h3, h4⟩, h5, h6⟩ t s e d hsplit
      have hsame := hparts.symm.trans hsplit
      simp only [List.cons.injEq, true_and, and_true] at hsame
      obtain ⟨rfl, rfl, rfl, rfl⟩ := hsame
      exact ⟨h1, h2, h3, h4, h5, h6⟩
  rw [hreadable]
  by_cases hencodable :
      Encodable secret ∧ Encodable (signing_text VERSION tenant_b64 session_b64 exp_raw)
  case neg =>
    refine iff_of_false (hother .unicodeEncodeError (by simp) ?_) fun h => hencodable h.1
    exact verify_not_encodable hsecret hparts hencodable
  obtain ⟨key, message, hkey, hmessage, hsigned⟩ :=
    signature_of_encodable hencodable.1 hencodable.2
  by_cases hascii : Ascii supplied
  case neg =>
    refine iff_of_false (hother .typeError (by simp) ?_) fun h => hascii h.2.1
    exact verify_supplied_not_ascii hsecret hparts hsigned hascii
  rw [and_iff_right hencodable, and_iff_right hascii]
  by_cases hgenuine : supplied = Hmac.hexdigest key message
  case neg =>
    have hnone : ∀ call, ¬ Minted secret calls call token := by
      intro call hminted
      obtain ⟨_, _, _, _, _, hfrom⟩ := hminted.parts
      have hsame := hparts.symm.trans hfrom.parts
      simp only [List.cons.injEq, true_and, and_true] at hsame
      obtain ⟨rfl, rfl, rfl, hdigest⟩ := hsame
      obtain rfl := Option.some.inj (hkey.symm.trans hfrom.secret_bytes)
      obtain rfl := Option.some.inj (hmessage.symm.trans hfrom.signed_bytes)
      exact hgenuine hdigest
    refine iff_of_true ?_ fun call hminted => absurd hminted (hnone call)
    exact hrefused hnone (verify_mismatch hsecret hparts hsigned hascii hgenuine)
  subst hgenuine
  obtain ⟨call, hminted, hfrom⟩ := minted_of_genuine hideal hkey hmessage hparts
  have hverify := verify_genuine session_id now hsecret hfrom
  have honly : ∀ call', Minted secret calls call' token → call' = call :=
    fun call' h => hapart call' call h.2 hminted.2
  by_cases hsessions : Ascii call.session_id ∧ Ascii session_id
  case neg =>
    refine iff_of_false (hother .typeError (by simp) ?_) fun h => hsessions (h call hminted)
    rw [hverify, compare_digest_of_not_ascii hsessions]
    rfl
  rw [compare_digest_of_ascii hsessions.1 hsessions.2] at hverify
  refine iff_of_true ?_ fun call' h => honly call' h ▸ hsessions
  refine { returns := fun tenant_id => ?_, raises := fun exc hexc => ?_, apart := hapart }
  · rw [hverify]
    constructor
    · intro hok
      simp only [Except.bind] at hok
      split at hok
      · cases hok
      rename_i hbound
      split at hok
      · cases hok
      rename_i hfresh
      cases hok
      have hsession : call.session_id = session_id := by simpa using hbound
      exact ⟨call.expires_at, hsession ▸ hminted, Int.lt_of_not_ge hfresh⟩
    · rintro ⟨expires_at, hother', hnow⟩
      have hcall := honly _ hother'
      subst hcall
      simp only [Except.bind, decide_true, Bool.not_true, Bool.false_eq_true, if_false]
      exact if_neg (Int.not_le.mpr hnow)
  · rw [hverify] at hexc
    simp only [Except.bind] at hexc
    split at hexc
    · exact ⟨_, (Except.error.inj hexc).symm⟩
    · split at hexc
      · exact ⟨_, (Except.error.inj hexc).symm⟩
      · cases hexc

end

/-! ## A token, and one that no one expects -/

def hexDigit (v : Nat) : Nat := if v < 10 then v + 48 else v + 87

/-- A MAC that shows what it is made of. -/
@[reducible] def open_mac : Hmac where
  hexdigest key message :=
    (key ++ message).flatMap fun b => [hexDigit (b.toNat / 16), hexDigit (b.toNat % 16)]
  hex key message d hd := by
    obtain ⟨b, -, hd⟩ := List.mem_flatMap.mp hd
    have hb : b.toNat < 256 := b.toNat_lt
    simp only [List.mem_cons, List.not_mem_nil, or_false] at hd
    unfold hexDigit at hd
    split_ifs at hd <;> omega

def call_of_t : MintCall where
  tenant_id := [116]
  session_id := [115]
  expires_at := 100

def token_of_t : Text :=
  match @mint_voice_session_token open_mac [107] call_of_t with
  | .ok token => token
  | .error _ => []

theorem token_of_t_minted : @mint_voice_session_token open_mac [107] call_of_t = .ok token_of_t := by
  decide +kernel

theorem token_of_t_exact : @Exact open_mac [107] token_of_t [115] 99 [call_of_t] ↔
    @Readable open_mac [107] token_of_t [115] [call_of_t] :=
  @verification_exact_iff open_mac _ _ _ _ _ (by decide)
    (@unforged_of_minted open_mac _ _ _ token_of_t_minted)

/-- `v1.dA.cw.100.é`. -/
def accented : Text := [118, 49, 46, 100, 65, 46, 99, 119, 46, 49, 48, 48, 46, 233]

theorem an_accent_raises : ¬ ∀ (_ : Hmac) (secret token session_id : Text) (now : Int)
    (calls : List MintCall), secret ≠ [] → Unforged secret calls token →
      Exact secret token session_id now calls := by
  intro hall
  have hideal : @Unforged open_mac [107] [] accented := by
    intro input key message _ _ htoken
    have hlast : 233 ∈ dot :: @Hmac.hexdigest open_mac key message := by
      have hmem : accented.getLast? = some 233 := rfl
      rw [htoken, List.getLast?_append_of_ne_nil _ (List.cons_ne_nil _ _)] at hmem
      exact List.mem_of_getLast? hmem
    rcases List.mem_cons.mp hlast with hdot | hdigest
    · exact absurd hdot (by decide)
    · have hrange := @Hmac.hex open_mac key message 233 hdigest
      exact absurd hrange (by decide)
  have hexact := hall open_mac [107] accented [115] 99 [] (by decide) hideal
  obtain ⟨message, hmessage⟩ := @Exact.raises open_mac _ _ _ _ _ hexact .typeError (by decide +kernel)
  cases hmessage

end operious.boundary.voice
