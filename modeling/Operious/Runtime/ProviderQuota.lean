-- The quota of a provider, counted in Redis: a call reads the clock once, looks at the tokens of its
-- minute, and counts itself in the bucket of its minute and then in the bucket of its hour. The counters
-- are named by texts joined with colons and expire some time after they were last counted up.
import Operious.Lib.Joined
import Operious.Lib.Runs
import Operious.Python

namespace operious.agents.quota

/-! ## Counters -/

structure Caller where
  tenant_id : String
  provider : String
  model : String
  deriving DecidableEq, Repr

/-- The windows in which requests are counted. -/
inductive Window
  | minute | hour
  deriving DecidableEq, Repr

def Window.seconds : Window → Int
  | minute => 60
  | hour => 3600

/-- `int(now // seconds)`, from microseconds. -/
def Window.bucket (w : Window) (now : Instant) : Int := now / (w.seconds * 1000000)

inductive Kind
  | requests (w : Window)
  | tokens
  deriving DecidableEq, Repr

/-- What a counter counts. -/
structure Slot where
  caller : Caller
  kind : Kind
  bucket : Int
  deriving DecidableEq, Repr

/-- `_minute_key`, `_hour_key` and `_token_minute_key`. -/
def Slot.key (slot : Slot) : String :=
  let {tenant_id, provider, model} := slot.caller
  ":".intercalate <| match slot.kind with
    | .requests .minute => ["quota", tenant_id, provider, model, slot.bucket.repr]
    | .requests .hour => ["quota", tenant_id, provider, model, "hour", slot.bucket.repr]
    | .tokens => ["quota", tenant_id, provider, model, "tokens", slot.bucket.repr]

structure Counter where
  count : Nat
  expires_at : Instant
  deriving DecidableEq, Repr

/-- The counters that were ever written. An expired one counts as none. -/
abbrev Redis := Dict String Counter

def Redis.count (redis : Redis) (clock : Instant) (key : String) : Nat :=
  match redis.get? key with
  | some counter => if clock < counter.expires_at then counter.count else 0
  | none => 0

/-- `INCRBY` and `EXPIRE` in one pipeline. -/
def Redis.incrby (redis : Redis) (clock : Instant) (key : String) (amount : Nat) (seconds : Int) :
    Redis :=
  redis.set key { count := redis.count clock key + amount, expires_at := clock + seconds * 1000000 }

/-! ## Calls -/

structure Limits where
  requests_per_minute_limit : Int := 60
  tokens_per_minute_limit : Int := 100000
  requests_per_hour_limit : Int := 1000

def Limits.requests (limits : Limits) : Window → Int
  | .minute => limits.requests_per_minute_limit
  | .hour => limits.requests_per_hour_limit

inductive OperatorCircuitState
  | force_open | force_close
  deriving DecidableEq, Repr

inductive QuotaType
  | operator_override
  | quota_backend_unavailable
  | tokens_per_minute
  | requests_per_minute
  | requests_per_hour
  deriving DecidableEq, Repr

/-- How far a call is: what it does next, or how it ended. -/
inductive Phase
  | token_check
  | check (w : Window)
  | admitted
  /-- The operator lets every call pass, and nothing is counted. -/
  | bypassed
  /-- `ProviderQuotaExceededError`, and whether the call had been let pass by its minute before. -/
  | refused (quota_type : QuotaType) (after_minute : Bool)
  deriving DecidableEq, Repr

structure Call where
  caller : Caller
  now : Instant
  phase : Phase
  deriving DecidableEq, Repr

def Call.slot (call : Call) (w : Window) : Slot where
  caller := call.caller
  kind := .requests w
  bucket := w.bucket call.now

def Call.token_slot (call : Call) : Slot where
  caller := call.caller
  kind := .tokens
  bucket := Window.minute.bucket call.now

structure System where
  clock : Instant
  redis : Redis := Dict.empty
  calls : List Call := []
  /-- The counters of tokens that were written. -/
  recorded : List Slot := []

inductive Event
  | tick (microseconds : Nat)
  /-- A call looks the override up and reads the clock. -/
  | arrive (caller : Caller) (operator_state : Option OperatorCircuitState)
  /-- The call of this number reads the tokens of its minute. -/
  | read_tokens (n : Nat) (available : Bool)
  /-- The call of this number runs its pipeline for a window. -/
  | count (n : Nat) (w : Window) (available : Bool)
  /-- `record_token_usage`. -/
  | record_token_usage (caller : Caller) (tokens : Int) (available : Bool)
  deriving DecidableEq

/-- Where a call is that has read the override. -/
def arrival : Option OperatorCircuitState → Phase
  | some .force_open => .refused .operator_override false
  | some .force_close => .bypassed
  | none => .token_check

/-- Where the pipeline for a window leads a call. -/
def Window.verdict (w : Window) (limits : Limits) (count : Nat) : Phase :=
  match w with
  | .minute =>
    if count > limits.requests .minute then .refused .requests_per_minute false else .check .hour
  | .hour => if count > limits.requests .hour then .refused .requests_per_hour true else .admitted

/-- Where a pipeline that fails leads it. -/
def Window.unavailable : Window → Phase
  | minute => .refused .quota_backend_unavailable false
  | hour => .refused .quota_backend_unavailable true

section

variable (limits : Limits)

def System.place (s : System) (n : Nat) (call : Call) (phase : Phase) : System :=
  { s with calls := s.calls.set n { call with phase } }

/-- One step of `check_and_increment`, or one of those around it. -/
def next (s : System) : Event → Option System
  | .tick microseconds => some { s with clock := s.clock + microseconds }
  | .arrive caller operator_state =>
    some { s with calls := s.calls ++ [{ caller, now := s.clock, phase := arrival operator_state }] }
  | .read_tokens n available =>
    match s.calls[n]? with
    | none => none
    | some call =>
      if call.phase ≠ .token_check then none
      else if !available then some (s.place n call (.refused .quota_backend_unavailable false))
      else if s.redis.count s.clock call.token_slot.key ≥ limits.tokens_per_minute_limit then
        some (s.place n call (.refused .tokens_per_minute false))
      else some (s.place n call (.check .minute))
  | .count n w available =>
    match s.calls[n]? with
    | none => none
    | some call =>
      if call.phase ≠ .check w then none
      else if !available then some (s.place n call w.unavailable)
      else
        let redis := s.redis.incrby s.clock (call.slot w).key 1 w.seconds
        let count := redis.count s.clock (call.slot w).key
        some { s.place n call (w.verdict limits count) with redis }
  | .record_token_usage caller tokens available =>
    let slot : Slot := { caller, kind := .tokens, bucket := Window.minute.bucket s.clock }
    if tokens ≤ 0 || !available then some s
    else some { s with
      redis := s.redis.incrby s.clock slot.key tokens.toNat 60
      recorded := slot :: s.recorded }

end

/-! ## The names of the counters -/

/-- No identifier of the caller holds a colon. -/
def Caller.Plain (caller : Caller) : Prop :=
  ':' ∉ caller.tenant_id.toList ∧ ':' ∉ caller.provider.toList ∧ ':' ∉ caller.model.toList

instance (caller : Caller) : Decidable caller.Plain := by
  unfold Caller.Plain
  infer_instance

theorem int_repr_negSucc (m : Nat) : (Int.negSucc m).repr.toList = '-' :: Nat.toDigits 10 (m + 1) := by
  have happend : (Int.negSucc m).repr = "-" ++ (m + 1).repr := rfl
  rw [happend, String.toList_append, Nat.toList_repr]
  rfl

theorem colon_not_mem_repr (n : Int) : ':' ∉ n.repr.toList := by
  have hdigits : ∀ m : Nat, ':' ∉ Nat.toDigits 10 m := by
    intro m hm
    have hdigit := Nat.isDigit_of_mem_toDigits (by decide) (by decide) hm
    revert hdigit
    decide
  cases n with
  | ofNat m =>
    have hm := hdigits m
    rwa [← Nat.toList_repr] at hm
  | negSucc m =>
    rw [int_repr_negSucc, List.mem_cons]
    rintro (hsign | hm)
    · revert hsign
      decide
    · exact hdigits _ hm

theorem int_repr_inj {m n : Int} (h : m.repr = n.repr) : m = n := by
  have hsign : ∀ k j : Nat, k.repr ≠ (Int.negSucc j).repr := by
    intro k j hkj
    have hmem : '-' ∈ k.repr.toList := by
      rw [hkj, int_repr_negSucc]
      exact List.mem_cons_self
    rw [Nat.toList_repr] at hmem
    have hdigit := Nat.isDigit_of_mem_toDigits (by decide) (by decide) hmem
    revert hdigit
    decide
  cases m with
  | ofNat k =>
    cases n with
    | ofNat j => exact congrArg Int.ofNat (repr_inj h)
    | negSucc j => exact absurd h (hsign k j)
  | negSucc k =>
    cases n with
    | ofNat j => exact absurd h.symm (hsign j k)
    | negSucc j =>
      have hlist := congrArg String.toList h
      rw [int_repr_negSucc, int_repr_negSucc, ← Nat.toList_repr, ← Nat.toList_repr] at hlist
      have hnat := repr_inj (String.toList_injective (List.cons.inj hlist).2)
      exact congrArg Int.negSucc (Nat.succ.inj hnat)

def Slot.parts (slot : Slot) : List String :=
  match slot.kind with
  | .requests .minute => ["quota", slot.caller.tenant_id, slot.caller.provider, slot.caller.model,
      slot.bucket.repr]
  | .requests .hour => ["quota", slot.caller.tenant_id, slot.caller.provider, slot.caller.model, "hour",
      slot.bucket.repr]
  | .tokens => ["quota", slot.caller.tenant_id, slot.caller.provider, slot.caller.model, "tokens",
      slot.bucket.repr]

theorem Slot.key_eq (slot : Slot) : slot.key = ":".intercalate slot.parts := rfl

theorem Slot.parts_plain {slot : Slot} (h : slot.caller.Plain) :
    ∀ part ∈ slot.parts, ':' ∉ part.toList := by
  obtain ⟨ht, hp, hm⟩ := h
  have hbucket := colon_not_mem_repr slot.bucket
  have hquota : ':' ∉ "quota".toList := by decide
  have hhour : ':' ∉ "hour".toList := by decide
  have htokens : ':' ∉ "tokens".toList := by decide
  unfold Slot.parts
  split <;> simp only [List.forall_mem_cons]
  · exact ⟨hquota, ht, hp, hm, hbucket, fun _ h => absurd h List.not_mem_nil⟩
  · exact ⟨hquota, ht, hp, hm, hhour, hbucket, fun _ h => absurd h List.not_mem_nil⟩
  · exact ⟨hquota, ht, hp, hm, htokens, hbucket, fun _ h => absurd h List.not_mem_nil⟩

theorem Slot.parts_injective {slot slot' : Slot} (h : slot.parts = slot'.parts) : slot = slot' := by
  obtain ⟨⟨t, p, m⟩, kind, bucket⟩ := slot
  obtain ⟨⟨t', p', m'⟩, kind', bucket'⟩ := slot'
  have hrepr : bucket.repr = bucket'.repr → bucket = bucket' := int_repr_inj
  unfold Slot.parts at h
  rcases kind with (_ | _) | _ <;> rcases kind' with (_ | _) | _ <;>
    simp only [List.cons.injEq, true_and, and_true, List.cons_ne_nil, and_false, reduceCtorEq] at h
  · obtain ⟨rfl, rfl, rfl, hb⟩ := h
    rw [hrepr hb]
  · obtain ⟨rfl, rfl, rfl, hb⟩ := h
    rw [hrepr hb]
  · exact absurd h.2.2.2.1 (by decide)
  · exact absurd h.2.2.2.1 (by decide)
  · obtain ⟨rfl, rfl, rfl, hb⟩ := h
    rw [hrepr hb]

theorem Slot.key_injective {slot slot' : Slot} (h : slot.caller.Plain) (h' : slot'.caller.Plain)
    (hkey : slot.key = slot'.key) : slot = slot' := by
  refine Slot.parts_injective ?_
  have hlist := congrArg String.toList hkey
  rw [Slot.key_eq, Slot.key_eq, String.toList_intercalate, String.toList_intercalate] at hlist
  have hparts : ∀ {s : Slot}, s.caller.Plain →
      ([':'].intercalate (s.parts.map String.toList)).splitOn ':' = s.parts.map String.toList := by
    intro s hs
    refine List.splitOn_intercalate ':' (fun part hpart => ?_) ?_
    · obtain ⟨text, htext, rfl⟩ := List.mem_map.mp hpart
      exact Slot.parts_plain hs text htext
    · unfold Slot.parts
      split <;> simp
  have hsplit := congrArg (List.splitOn ':') hlist
  have hcolon : ":".toList = [':'] := rfl
  rw [hcolon, hparts h, hparts h'] at hsplit
  exact List.map_injective_iff.mpr (fun _ _ h => String.toList_injective h) hsplit

end operious.agents.quota
