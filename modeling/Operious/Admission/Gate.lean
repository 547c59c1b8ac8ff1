-- The admission gate: the pressure that the telemetry reports, and the chain of thresholds that admits,
-- defers or rejects. A warn level that is tested early hides the reject levels tested after it.
import Mathlib.Data.List.Infix
import Operious.Governance.Engine

namespace operious.admission

open operious.governance (PyException)

/-! ## Decisions -/

inductive AdmissionOutcome
  | ADMIT | DEFER | REJECT
  deriving DecidableEq, Repr

/-- How restrictive an outcome is. -/
def AdmissionOutcome.rank : AdmissionOutcome → Nat
  | ADMIT => 0
  | DEFER => 1
  | REJECT => 2

inductive AdmissionReason
  | QUEUE_DEPTH_EXCEEDED | QUEUE_AGE_EXCEEDED | REDIS_MEMORY_PRESSURE | DB_POOL_PRESSURE
  | TELEMETRY_UNAVAILABLE_PROCESSING | TELEMETRY_UNAVAILABLE_REALTIME | TELEMETRY_UNAVAILABLE_VOICE
  deriving DecidableEq, Repr

inductive AdmissionChannelClass
  | ASYNC_TICKET | BATCH | REALTIME_CHAT | VOICE | INTERNAL_EXECUTION
  deriving DecidableEq, Repr

section

variable (Uuid F : Type)

structure AdmissionDecision where
  decision_id : Uuid
  outcome : AdmissionOutcome
  reason : Option AdmissionReason
  queue_name : String
  queue_depth : Int
  queue_age_seconds : Option F
  redis_memory_pct : Option F
  db_pool_wait_ms : Option F
  retry_after_seconds : Nat
  queue_depth_available : Bool
  queue_age_available : Bool
  redis_memory_available : Bool
  unavailable_reasons : List String
  channel_class : AdmissionChannelClass

/-- The levels of pressure that the chain tests. -/
structure AdmissionGateThresholds where
  queue_depth_warn : Int
  queue_depth_reject : Int
  queue_age_warn_seconds : F
  queue_age_reject_seconds : F
  redis_memory_pct_reject : F
  db_pool_wait_warn_ms : F
  db_pool_wait_reject_ms : F

/-! ## Telemetry -/

/-- What `zrange` has of the oldest message of a queue: a score, from which the age is taken, or nothing
that could be read as one. The age raises when the score is a text that is no number. -/
inductive OldestEntry
  | missing
  | scored (age : Except PyException F)

/-- What the probes answer at the time of one evaluation, or raise. -/
structure Telemetry where
  /-- The percentage of the memory in use, or none when the memory is unbounded. -/
  redis_memory : Except PyException (Option F)
  queue_depth : String → Except PyException Int
  queue_oldest : String → Except PyException (OldestEntry F)

structure TelemetrySample (α : Type) where
  value : Option α
  available : Bool
  unavailable_reasons : List String := []

end

variable {Uuid F : Type}

section

variable (telemetry : Telemetry F)

def redis_memory_pct_sample : TelemetrySample F :=
  match telemetry.redis_memory with
  | .ok pct => { value := pct, available := true }
  | .error _ =>
    { value := none, available := false, unavailable_reasons := ["redis_memory_unavailable"] }

def single_queue_depth_sample (queue_name : String) : TelemetrySample Int :=
  match telemetry.queue_depth queue_name with
  | .ok depth => { value := some depth, available := true }
  | .error _ => {
      value := some 0, available := false
      unavailable_reasons := ["queue_depth_unavailable:" ++ queue_name] }

/-- `_queue_depth_sample`: the depths add up. -/
def queue_depth_sample (queue_names : List String) : TelemetrySample Int :=
  let samples := queue_names.map (single_queue_depth_sample telemetry)
  let unavailable_reasons := samples.flatMap (·.unavailable_reasons)
  { value := some ((samples.map fun sample => sample.value.getD 0).sum)
    available := unavailable_reasons.isEmpty
    unavailable_reasons }

/-- The queue is known to hold nothing, so that a sentinel in it is an orphan. -/
def knownEmpty (depth_sample : TelemetrySample Int) : Bool :=
  depth_sample.available && depth_sample.value.getD 0 ≤ 0

def single_queue_age_seconds_sample (queue_name : String) (depth_sample : TelemetrySample Int) :
    TelemetrySample F :=
  let unavailable : TelemetrySample F := {
    value := none, available := false
    unavailable_reasons := ["queue_age_unavailable:" ++ queue_name] }
  match telemetry.queue_oldest queue_name with
  | .error _ => unavailable
  | .ok .missing => { value := none, available := true }
  | .ok (.scored age) =>
    if knownEmpty depth_sample then { value := none, available := true }
    else match age with
      | .ok age => { value := some age, available := true }
      | .error _ => unavailable

/-- `_queue_age_seconds_sample`: the oldest of the ages. -/
def queue_age_seconds_sample [LinearOrder F] (queue_names : List String) : TelemetrySample F :=
  let samples := queue_names.map fun queue_name =>
    single_queue_age_seconds_sample telemetry queue_name (single_queue_depth_sample telemetry queue_name)
  let unavailable_reasons := samples.flatMap (·.unavailable_reasons)
  { value := (samples.filterMap (·.value)).max?
    available := unavailable_reasons.isEmpty
    unavailable_reasons }

end

def dedupe_reasons (reasons : List String) : List String :=
  (reasons.filter (· ≠ "")).eraseDups

/-! ## The request -/

def REALTIME_CHAT_CHANNELS : List String :=
  ["realtime_chat", "whatsapp_live", "whatsapp_realtime", "livechat", "live_chat", "webchat", "web_chat"]

def VOICE_CHANNELS : List String := ["voice", "call", "calls"]

def BATCH_CHANNELS : List String := ["batch", "batch_ingest", "batch_ingestion"]

def INTERNAL_EXECUTION_CHANNELS : List String :=
  ["internal_execution", "execution", "execution_publish", "execution_recovery", "diagnostic_execution",
    "diagnostic_internal"]

def ASYNC_TICKET_CHANNELS : List String :=
  ["email", "lark", "shulex", "zendesk", "ticket", "webhook", "whatsapp", "whatsapp_webhook",
    "async_ticket"]

/-- `part in text`. -/
def isPart (part text : String) : Bool :=
  ascii.chars part <:+: ascii.chars text

section

variable (Uuid) [Stdlib Uuid]

def classify_admission_channel (channel : Option String) : AdmissionChannelClass :=
  let lowered := Stdlib.lower Uuid (strip (channel.getD ""))
  let normalized := String.ofList ((ascii.chars lowered).map fun c => if c = '-' then '_' else c)
  if normalized ∈ REALTIME_CHAT_CHANNELS then .REALTIME_CHAT
  else if normalized ∈ VOICE_CHANNELS then .VOICE
  else if normalized ∈ BATCH_CHANNELS then .BATCH
  else if normalized ∈ INTERNAL_EXECUTION_CHANNELS then .INTERNAL_EXECUTION
  else if normalized ∈ ASYNC_TICKET_CHANNELS then .ASYNC_TICKET
  else if isPart "livechat" normalized || isPart "webchat" normalized then .REALTIME_CHAT
  else if isPart "voice" normalized || isPart "call" normalized then .VOICE
  else if isPart "batch" normalized then .BATCH
  else if isPart "execution" normalized || isPart "diagnostic" normalized then .INTERNAL_EXECUTION
  else .ASYNC_TICKET

end

/-- The arguments of an evaluation, apart from the wait for a connection. -/
structure AdmissionRequest where
  queue_name : Option String := none
  queue_names : List String := []
  tenant_id : Option String := none
  channel : Option String := none
  request_correlation_id : Option String := none

def queue_targets (request : AdmissionRequest) : Except PyException (List String) :=
  let stripped := request.queue_names.map strip
  if "" ∈ stripped then .error ⟨"ValueError", "queue names must be non-empty"⟩
  else
    match (request.queue_name.toList ++ stripped).eraseDups with
    | [] => .error ⟨"ValueError", "AdmissionGate requires at least one queue name"⟩
    | deduped => .ok deduped

/-! ## The chain of thresholds -/

/-- The pressure that the chain looks at. -/
structure Pressure (F : Type) where
  redis_memory_pct : Option F
  db_pool_wait_ms : Option F
  queue_depth : Int
  queue_age_seconds : Option F
  unavailable_reasons : List String

section

variable [LinearOrder F]

def reaches (signal : Option F) (level : F) : Prop := ∃ v, signal = some v ∧ level ≤ v

instance (signal : Option F) (level : F) : Decidable (reaches signal level) :=
  decidable_of_iff (signal.any (decide <| level ≤ ·) = true) (by cases signal <;> simp [reaches])

/-- The chain: the first level that is reached decides. -/
def verdict (thresholds : AdmissionGateThresholds F) (channel_class : AdmissionChannelClass)
    (p : Pressure F) : AdmissionOutcome × Option AdmissionReason × Nat :=
  if reaches p.redis_memory_pct thresholds.redis_memory_pct_reject then
    (.REJECT, some .REDIS_MEMORY_PRESSURE, 60)
  else if reaches p.db_pool_wait_ms thresholds.db_pool_wait_reject_ms then
    (.REJECT, some .DB_POOL_PRESSURE, 60)
  else if reaches p.db_pool_wait_ms thresholds.db_pool_wait_warn_ms then
    (.DEFER, some .DB_POOL_PRESSURE, 30)
  else if thresholds.queue_depth_reject ≤ p.queue_depth then
    (.REJECT, some .QUEUE_DEPTH_EXCEEDED, 30)
  else if thresholds.queue_depth_warn ≤ p.queue_depth then
    (.DEFER, some .QUEUE_DEPTH_EXCEEDED, 15)
  else if reaches p.queue_age_seconds thresholds.queue_age_reject_seconds then
    (.REJECT, some .QUEUE_AGE_EXCEEDED, 60)
  else if reaches p.queue_age_seconds thresholds.queue_age_warn_seconds then
    (.DEFER, some .QUEUE_AGE_EXCEEDED, 20)
  else if p.unavailable_reasons = [] then (.ADMIT, none, 30)
  else match channel_class with
    | .REALTIME_CHAT => (.DEFER, some .TELEMETRY_UNAVAILABLE_REALTIME, 15)
    | .VOICE => (.REJECT, some .TELEMETRY_UNAVAILABLE_VOICE, 10)
    | _ => (.ADMIT, some .TELEMETRY_UNAVAILABLE_PROCESSING, 30)

def pressureOf (queue_names : List String) (telemetry : Telemetry F) (db_pool_wait_ms : Option F) :
    Pressure F where
  redis_memory_pct := (redis_memory_pct_sample telemetry).value
  db_pool_wait_ms := db_pool_wait_ms
  queue_depth := (queue_depth_sample telemetry queue_names).value.getD 0
  queue_age_seconds := (queue_age_seconds_sample telemetry queue_names).value
  unavailable_reasons := dedupe_reasons (
    (redis_memory_pct_sample telemetry).unavailable_reasons ++
      (queue_depth_sample telemetry queue_names).unavailable_reasons ++
      (queue_age_seconds_sample telemetry queue_names).unavailable_reasons)

/-- `AdmissionGate.evaluate`. -/
def evaluate [Stdlib Uuid] (thresholds : AdmissionGateThresholds F) (request : AdmissionRequest)
    (telemetry : Telemetry F) (db_pool_wait_ms : Option F) :
    Except PyException (AdmissionDecision Uuid F) := do
  let targets ← queue_targets request
  let queue_identity := ",".intercalate targets
  let pressure := pressureOf targets telemetry db_pool_wait_ms
  let channel_class := classify_admission_channel Uuid request.channel
  let (outcome, reason, retry_after_seconds) := verdict thresholds channel_class pressure
  return {
    decision_id := Stdlib.uuid5 (Stdlib.uuid "6ba7b811-9dad-11d1-80b4-00c04fd430c8")
      ("|".intercalate ["operious-admission", queue_identity, request.tenant_id.getD "",
        request.channel.getD "", request.request_correlation_id.getD ""])
    outcome, reason
    queue_name := queue_identity
    queue_depth := pressure.queue_depth
    queue_age_seconds := pressure.queue_age_seconds
    redis_memory_pct := pressure.redis_memory_pct
    db_pool_wait_ms
    retry_after_seconds
    queue_depth_available := (queue_depth_sample telemetry targets).available
    queue_age_available := (queue_age_seconds_sample telemetry targets).available
    redis_memory_available := (redis_memory_pct_sample telemetry).available
    unavailable_reasons := pressure.unavailable_reasons
    channel_class }

end

end operious.admission
