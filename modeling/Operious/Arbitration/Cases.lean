-- Arbitration: what a case is, how its signals become one decision, and which patterns of a case
-- count as a deadlock.
import Operious.Tools.Values

namespace operious.arbitration

open operious.agents.tools (sorted)

/-! ## The vocabulary -/

inductive ArbitrationAuthorityLevel
  | governance | topology | policy | arbitration | supervisor | execution
  deriving DecidableEq, Repr

namespace ArbitrationAuthorityLevel

def value : ArbitrationAuthorityLevel → String
  | governance => "governance"
  | topology => "topology"
  | policy => "policy"
  | arbitration => "arbitration"
  | supervisor => "supervisor"
  | execution => "execution"

/-- A lower number has more authority. -/
def precedence : ArbitrationAuthorityLevel → Nat
  | governance => 0
  | topology => 1
  | policy => 2
  | arbitration => 3
  | supervisor => 4
  | execution => 5

end ArbitrationAuthorityLevel

inductive ArbitrationOutcome
  | resolved | escalated | inconclusive | deadlock | conflict | error
  deriving DecidableEq, Repr

def ArbitrationOutcome.value : ArbitrationOutcome → String
  | resolved => "arbitration_resolved"
  | escalated => "arbitration_escalated"
  | inconclusive => "arbitration_inconclusive"
  | deadlock => "arbitration_deadlock"
  | conflict => "arbitration_conflict"
  | error => "arbitration_error"

inductive ArbitrationVerdictKind
  | allow | deny | escalate | degrade | pass | fail | safe | unsafe_ | valid | invalid | warn | unknown
  deriving DecidableEq, Repr

def ArbitrationVerdictKind.value : ArbitrationVerdictKind → String
  | allow => "allow"
  | deny => "deny"
  | escalate => "escalate"
  | degrade => "degrade"
  | pass => "pass"
  | fail => "fail"
  | safe => "safe"
  | unsafe_ => "unsafe"
  | valid => "valid"
  | invalid => "invalid"
  | warn => "warn"
  | unknown => "unknown"

inductive ArbitrationConflictKind
  | authorisation_conflict | quality_conflict | authorisation_quality_cross | escalation_conflict
  | supervisor_disagreement | recommendation_conflict
  deriving DecidableEq, Repr

inductive ArbitrationDeadlockKind
  | iteration_exhausted | repeated_blocked_state | contradictory_escalation_chain
  | cyclic_case_lineage
  deriving DecidableEq, Repr

def ArbitrationDeadlockKind.value : ArbitrationDeadlockKind → String
  | iteration_exhausted => "iteration_exhausted"
  | repeated_blocked_state => "repeated_blocked_state"
  | contradictory_escalation_chain => "contradictory_escalation_chain"
  | cyclic_case_lineage => "cyclic_case_lineage"

/-- `repr` of a string. -/
class TextRepr where
  repr : String → String

instance : TextRepr := ⟨fun s => "'" ++ s ++ "'"⟩

/-! ## Cases -/

def defaultMaxIterations : Nat := 3

section

variable (Uuid : Type)

structure ArbitrationSignal where
  signal_id : Uuid
  authority : ArbitrationAuthorityLevel
  verdict : ArbitrationVerdictKind
  source_substrate : String
  source_id : String
  reason : String := ""
  emitted_at : Option Instant := none
  metadata : Metadata := .empty

structure ArbitrationRecommendation where
  recommendation_id : Uuid
  authority : ArbitrationAuthorityLevel
  directive : String
  source_substrate : String
  source_id : String
  reason : String := ""
  emitted_at : Option Instant := none
  metadata : Metadata := .empty

structure ArbitrationCase where
  case_id : Uuid
  signals : List (ArbitrationSignal Uuid) := []
  recommendations : List (ArbitrationRecommendation Uuid) := []
  prior_case_ids : List Uuid := []
  iteration_count : Nat := 1
  max_iterations : Nat := defaultMaxIterations
  subject : Option String := none
  tenant_id : Option String := none
  metadata : Metadata := .empty

structure ArbitrationRequest where
  case_ : ArbitrationCase Uuid
  correlation_id : Option String := none
  request_id : Option String := none
  tenant_id : Option String := none
  evaluator_names : Option (List String) := none
  evaluation_id_override : Option Uuid := none
  metadata : Metadata := .empty

/-! ## What an evaluator finds -/

structure ArbitrationFinding where
  finding_id : Uuid
  evaluator_name : String
  outcome_hint : ArbitrationOutcome
  code : String
  message : String
  related_deadlock_witness_id : Option Uuid := none
  authority : Option ArbitrationAuthorityLevel := none

structure ArbitrationConflict where
  conflict_id : Uuid
  kind : ArbitrationConflictKind
  participants : List String
  summary : String := ""

structure DeadlockWitness where
  witness_id : Uuid
  kind : ArbitrationDeadlockKind
  contributing_ids : List String := []
  summary : String := ""
  iteration_count : Nat := 0

structure ArbitrationEvaluatorOutput where
  findings : List (ArbitrationFinding Uuid)
  conflicts : List (ArbitrationConflict Uuid) := []
  deadlock_witnesses : List (DeadlockWitness Uuid) := []

end

structure ResolutionAuthority where
  level : ArbitrationAuthorityLevel
  source_substrate : String
  source_id : String
  verdict : String
  reason : String := ""

structure ArbitrationDecision where
  outcome : ArbitrationOutcome
  prevailing_authority : Option ResolutionAuthority
  reason : String

/-! ## The decision -/

section

variable {Uuid : Type}

def ArbitrationSignal.precedence (s : ArbitrationSignal Uuid) : Nat := s.authority.precedence

/-- The signals of the highest authority among them. -/
def top_signals (signals : List (ArbitrationSignal Uuid)) : List (ArbitrationSignal Uuid) :=
  signals.filter fun s => signals.all fun t => s.precedence ≤ t.precedence

/-- `authority:substrate:id` of a signal. -/
def ArbitrationSignal.origin (s : ArbitrationSignal Uuid) : String :=
  s.authority.value ++ ":" ++ s.source_substrate ++ ":" ++ s.source_id

/-- What the decision says when the signals of the highest authority agree with `prevailing`. -/
def agreedDecision (prevailing : ArbitrationSignal Uuid) (conflicts : List (ArbitrationConflict Uuid)) :
    ArbitrationDecision :=
  let authority : ResolutionAuthority :=
    { level := prevailing.authority
      source_substrate := prevailing.source_substrate
      source_id := prevailing.source_id
      verdict := prevailing.verdict.value
      reason := prevailing.reason }
  let lower_conflict_note :=
    if conflicts.isEmpty then ""
    else " lower-authority conflicts recorded: " ++ toString conflicts.length
  match prevailing.verdict with
  | .escalate =>
    { outcome := .escalated
      prevailing_authority := some authority
      reason := "prevailing authority " ++ prevailing.origin ++ " ESCALATE" ++ lower_conflict_note }
  | .unknown =>
    { outcome := .inconclusive
      prevailing_authority := none
      reason := "top authority " ++ prevailing.authority.value ++
        " reported UNKNOWN; no definite opinion to interpret." }
  | verdict =>
    { outcome := .resolved
      prevailing_authority := some authority
      reason := "prevailing authority " ++ prevailing.origin ++ " " ++ verdict.value ++
        lower_conflict_note }

def build_arbitration_decision (signals : List (ArbitrationSignal Uuid))
    (conflicts : List (ArbitrationConflict Uuid)) (deadlock_witnesses : List (DeadlockWitness Uuid)) :
    ArbitrationDecision :=
  if !deadlock_witnesses.isEmpty then
    { outcome := .deadlock
      prevailing_authority := none
      reason := "deadlock pattern(s) detected: " ++
        String.intercalate ", " (sorted (deadlock_witnesses.map (·.kind.value)).dedup) }
  else
    match top_signals signals with
    | [] =>
      { outcome := .inconclusive, prevailing_authority := none, reason := "no signals submitted" }
    | prevailing :: rest =>
      if rest.all (·.verdict = prevailing.verdict) then agreedDecision prevailing conflicts
      else
        { outcome := .conflict
          prevailing_authority := none
          reason := "top authority " ++ prevailing.authority.value ++ " signals disagree: " ++
            String.intercalate ", "
              (sorted ((prevailing :: rest).map (·.verdict.value)).dedup) }

theorem outcome_eq_deadlock_iff (signals : List (ArbitrationSignal Uuid))
    (conflicts : List (ArbitrationConflict Uuid)) (witnesses : List (DeadlockWitness Uuid)) :
    (build_arbitration_decision signals conflicts witnesses).outcome = .deadlock ↔
      witnesses ≠ [] := by
  have hagreed : ∀ prevailing : ArbitrationSignal Uuid,
      (agreedDecision prevailing conflicts).outcome ≠ .deadlock := by
    intro prevailing
    unfold agreedDecision
    cases prevailing.verdict <;> simp
  unfold build_arbitration_decision
  cases witnesses with
  | cons w rest => simp
  | nil =>
    simp only [List.isEmpty_nil, Bool.not_true, Bool.false_eq_true, if_false, ne_eq,
      not_true_eq_false, iff_false]
    cases top_signals signals with
    | nil => simp
    | cons prevailing rest =>
      simp only
      split
      · exact hagreed prevailing
      · simp

end

/-! ## Identifiers -/

section

variable {Uuid : Type} [Stdlib Uuid]

def caseNamespace : Uuid := Stdlib.uuid "a1b2c3d4-0001-4001-8001-000000000001"
def evaluationNamespace : Uuid := Stdlib.uuid "a1b2c3d4-0002-4002-8002-000000000002"
def chainNamespace : Uuid := Stdlib.uuid "a1b2c3d4-0003-4003-8003-000000000003"
def signalNamespace : Uuid := Stdlib.uuid "a1b2c3d4-0004-4004-8004-000000000004"
def recommendationNamespace : Uuid := Stdlib.uuid "a1b2c3d4-0006-4006-8006-000000000006"
def findingNamespace : Uuid := Stdlib.uuid "a1b2c3d4-0007-4007-8007-000000000007"
def deadlockNamespace : Uuid := Stdlib.uuid "a1b2c3d4-0008-4008-8008-000000000008"

/-- `derive_chain_id` of one or more names. -/
def derive_chain_id (evaluator_names : List String) : Uuid :=
  Stdlib.uuid5 chainNamespace (String.intercalate "|" (sorted evaluator_names))

def derive_finding_id (evaluation_id : Uuid) (evaluator_name code : String) (ordinal : Nat) : Uuid :=
  Stdlib.uuid5 findingNamespace
    (Stdlib.str evaluation_id ++ ":" ++ evaluator_name ++ ":" ++ code ++ ":" ++ toString ordinal)

def derive_deadlock_witness_id (evaluation_id : Uuid) (kind : String) (ordinal : Nat) : Uuid :=
  Stdlib.uuid5 deadlockNamespace (Stdlib.str evaluation_id ++ ":" ++ kind ++ ":" ++ toString ordinal)

/-! ## The deadlock evaluator -/

def deadlockDetected : String := "arbitration.deadlock_detected"
def deadlockRisk : String := "arbitration.deadlock_risk"
def noConflict : String := "arbitration.no_conflict"

/-- `str(value)`, with none for `None`. -/
def strOf : Value → Option String
  | .none => none
  | .bool b => some (if b then "True" else "False")
  | .int i => some (toString i)
  | .str s => some s

/-- The kind, the ids and the summary of a pattern that was found. -/
abbrev Pattern := ArbitrationDeadlockKind × List String × String

def exhaustedPattern (c : ArbitrationCase Uuid) : List Pattern :=
  if c.max_iterations ≤ c.iteration_count then
    [(.iteration_exhausted, c.prior_case_ids.map Stdlib.str ++ [Stdlib.str c.case_id],
      "iteration_count=" ++ toString c.iteration_count ++ " reached max_iterations=" ++
        toString c.max_iterations)]
  else []

/-- The ids that the lineage holds more than once, each time they come back. -/
def repeated : List String → List String → List String
  | _, [] => []
  | seen, key :: rest =>
    (if key ∈ seen then [key] else []) ++ repeated (key :: seen) rest

def cycle_ids (c : ArbitrationCase Uuid) : List String :=
  let priors := c.prior_case_ids.map Stdlib.str
  repeated [] priors ++ (if Stdlib.str c.case_id ∈ priors then [Stdlib.str c.case_id] else [])

def cyclicPattern (c : ArbitrationCase Uuid) : List Pattern :=
  if (cycle_ids c).isEmpty then []
  else [(.cyclic_case_lineage, cycle_ids c,
    "case lineage contains a duplicate identifier; arbitration history references itself.")]

def escalations (c : ArbitrationCase Uuid) : List (String × String × String) :=
  c.signals.filterMap fun s =>
    if s.verdict = .escalate then
      ((s.metadata.get? "escalation_target").bind strOf).map fun target =>
        (s.source_substrate, target, Stdlib.str s.signal_id)
    else none

def escalationPatterns [TextRepr] (c : ArbitrationCase Uuid) : List Pattern :=
  (sorted ((escalations c).map (·.1)).dedup).filterMap fun substrate =>
    let own := (escalations c).filter (·.1 = substrate)
    let targets := sorted (own.map (·.2.1)).dedup
    if targets.length < 2 then none
    else some (.contradictory_escalation_chain, own.map (·.2.2),
      "substrate " ++ TextRepr.repr substrate ++ " escalates to [" ++
        String.intercalate ", " (targets.map TextRepr.repr) ++ "] simultaneously.")

def witnessed (name : String) (evaluation_id : Uuid) (c : ArbitrationCase Uuid)
    (patterns : List Pattern) : List (DeadlockWitness Uuid × ArbitrationFinding Uuid) :=
  patterns.zipIdx.map fun ((kind, ids, summary), ordinal) =>
    let witness_id := derive_deadlock_witness_id evaluation_id kind.value ordinal
    ({ witness_id, kind, contributing_ids := ids, summary, iteration_count := c.iteration_count },
     { finding_id := derive_finding_id evaluation_id name deadlockDetected ordinal
       evaluator_name := name
       outcome_hint := .deadlock
       code := deadlockDetected
       message := summary
       related_deadlock_witness_id := some witness_id })

def quietFinding (name : String) (evaluation_id : Uuid) (c : ArbitrationCase Uuid) :
    ArbitrationFinding Uuid :=
  if 1 < c.iteration_count then
    { finding_id := derive_finding_id evaluation_id name deadlockRisk 0
      evaluator_name := name
      outcome_hint := .inconclusive
      code := deadlockRisk
      message := "case has been arbitrated " ++ toString c.iteration_count ++
        " times without a deadlock pattern; bound is " ++ toString c.max_iterations ++ "." }
  else
    { finding_id := derive_finding_id evaluation_id name noConflict 0
      evaluator_name := name
      outcome_hint := .resolved
      code := noConflict
      message := "No deadlock pattern detected." }

/-- `DeadlockDetectionEvaluator.evaluate`. -/
def detect_deadlocks [TextRepr] (name : String) (request : ArbitrationRequest Uuid)
    (evaluation_id : Uuid) : ArbitrationEvaluatorOutput Uuid :=
  let c := request.case_
  let found := witnessed name evaluation_id c
    (exhaustedPattern c ++ cyclicPattern c ++ escalationPatterns c)
  { findings :=
      if found.isEmpty then [quietFinding name evaluation_id c] else found.map (·.2)
    deadlock_witnesses := found.map (·.1) }

theorem detect_deadlocks_exhausted [TextRepr] {name : String} {request : ArbitrationRequest Uuid}
    {evaluation_id : Uuid} (h : request.case_.max_iterations ≤ request.case_.iteration_count) :
    (detect_deadlocks name request evaluation_id).deadlock_witnesses ≠ [] := by
  simp [detect_deadlocks, witnessed, exhaustedPattern, h]

end

end operious.arbitration
