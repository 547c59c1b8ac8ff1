-- The arbitration runtime: one pass of all evaluators over a case, the decision, and the record.
-- An evaluator that raises makes the outcome an error, and the envelope has a result all the same.
import Operious.Arbitration.Cases
import Operious.Governance.Engine

namespace operious.arbitration

open operious.agents.tools (sorted)
open operious.governance (PyException)

variable {Uuid : Type}

/-- An evaluator. It may return nothing, and it may raise. -/
structure ArbitrationEvaluator (Uuid : Type) where
  name : String
  evaluate : ArbitrationRequest Uuid → Uuid →
    Except PyException (Option (ArbitrationEvaluatorOutput Uuid))

structure ArbitrationResult (Uuid : Type) where
  evaluation_id : Uuid
  chain_id : Uuid
  case_id : Uuid
  decision : ArbitrationDecision
  findings : List (ArbitrationFinding Uuid)
  conflicts : List (ArbitrationConflict Uuid)
  deadlock_witnesses : List (DeadlockWitness Uuid)
  evaluator_names : List String
  reason : String
  tenant_id : Option String
  error : Option String

structure ArbitrationEnvelope (Uuid : Type) where
  outcome : ArbitrationOutcome
  result : Option (ArbitrationResult Uuid)
  error : Option PyException

/-- How the store answers a record. -/
inductive SaveReply
  | saved
  | duplicate (exc : PyException)
  | raised (exc : PyException)

/-- What the runtime is made of. The evaluators are in the order of their names. -/
structure OperationalArbitrationRuntime (Uuid : Type) where
  evaluators : List (ArbitrationEvaluator Uuid)
  nonempty : evaluators ≠ []
  /-- The capability gate: the denial, if it denies. -/
  gate : ArbitrationRequest Uuid → Except PyException (Option PyException)
  persistence : Option (ArbitrationResult Uuid → SaveReply)

/-- What the evaluators have left so far. -/
structure Gathered (Uuid : Type) where
  findings : List (ArbitrationFinding Uuid) := []
  conflicts : List (ArbitrationConflict Uuid) := []
  deadlock_witnesses : List (DeadlockWitness Uuid) := []
  framework_error : Option PyException := none

section

variable [TextRepr] [Stdlib Uuid]

def resolutionInconclusive : String := "arbitration.resolution_inconclusive"
def authorityPrecedenceApplied : String := "arbitration.authority_precedence_applied"

def evaluator_failure_finding (evaluator_name : String) (evaluation_id : Uuid) (ordinal : Nat)
    (error : PyException) : ArbitrationFinding Uuid where
  finding_id := derive_finding_id evaluation_id evaluator_name resolutionInconclusive ordinal
  evaluator_name
  outcome_hint := .error
  code := resolutionInconclusive
  message := "evaluator " ++ TextRepr.repr evaluator_name ++ " raised " ++ error.describe

/-- One evaluator more. What an evaluator raises is kept as the framework's error. -/
def gather (request : ArbitrationRequest Uuid) (evaluation_id : Uuid) (g : Gathered Uuid)
    (evaluator : ArbitrationEvaluator Uuid) : Gathered Uuid :=
  match evaluator.evaluate request evaluation_id with
  | .error exc =>
    { g with
      framework_error := some ⟨"ArbitrationEvaluationError",
        "evaluator " ++ TextRepr.repr evaluator.name ++ " raised: " ++ exc.describe⟩
      findings := g.findings ++
        [evaluator_failure_finding evaluator.name evaluation_id g.findings.length exc] }
  | .ok none => g
  | .ok (some output) =>
    { g with
      findings := g.findings ++ output.findings
      conflicts := g.conflicts ++ output.conflicts
      deadlock_witnesses := g.deadlock_witnesses ++ output.deadlock_witnesses }

def gathered (request : ArbitrationRequest Uuid) (evaluation_id : Uuid)
    (evaluators : List (ArbitrationEvaluator Uuid)) : Gathered Uuid :=
  evaluators.foldl (gather request evaluation_id) {}

def decisionOf (request : ArbitrationRequest Uuid) (g : Gathered Uuid) : ArbitrationDecision :=
  match g.framework_error with
  | none => build_arbitration_decision request.case_.signals g.conflicts g.deadlock_witnesses
  | some exc => { outcome := .error, prevailing_authority := none, reason := exc.text }

def authority_precedence_finding (evaluation_id : Uuid) (ordinal : Nat)
    (decision : ArbitrationDecision) : List (ArbitrationFinding Uuid) :=
  match decision.prevailing_authority with
  | none => []
  | some prevailing =>
    [{ finding_id := derive_finding_id evaluation_id "arbitration_runtime"
         authorityPrecedenceApplied ordinal
       evaluator_name := "arbitration_runtime"
       outcome_hint := decision.outcome
       code := authorityPrecedenceApplied
       message := decision.reason
       authority := some prevailing.level }]

def resolve_evaluators (runtime : OperationalArbitrationRuntime Uuid)
    (request : ArbitrationRequest Uuid) : Except PyException (List (ArbitrationEvaluator Uuid)) :=
  match request.evaluator_names with
  | none => .ok runtime.evaluators
  | some [] => .error ⟨"ArbitrationConfigurationError",
      "request.evaluator_names was empty; pass None to use the full registered chain."⟩
  | some names =>
    match names.find? fun name => !runtime.evaluators.any (·.name = name) with
    | some name => .error ⟨"ArbitrationConfigurationError",
        "unknown arbitration evaluator: " ++ TextRepr.repr name⟩
    | none => .ok ((sorted names).filterMap fun name => runtime.evaluators.find? (·.name = name))

def failed_envelope (error : PyException) : ArbitrationEnvelope Uuid :=
  { outcome := .error, result := none, error := some error }

def resultOf (request : ArbitrationRequest Uuid) (evaluation_id : Uuid)
    (evaluators : List (ArbitrationEvaluator Uuid)) : ArbitrationResult Uuid :=
  let g := gathered request evaluation_id evaluators
  let decision := decisionOf request g
  { evaluation_id
    chain_id := derive_chain_id (evaluators.map (·.name))
    case_id := request.case_.case_id
    decision
    findings := g.findings ++ authority_precedence_finding evaluation_id g.findings.length decision
    conflicts := g.conflicts
    deadlock_witnesses := g.deadlock_witnesses
    evaluator_names := evaluators.map (·.name)
    reason := decision.reason
    tenant_id := request.tenant_id
    error := g.framework_error.map (·.text) }

/-- What the store's answer leaves of the error. A duplicate under an id of the caller's own is a
replay. -/
def savedError (request : ArbitrationRequest Uuid) (framework_error : Option PyException) :
    SaveReply → Option PyException
  | .saved => framework_error
  | .duplicate exc => if request.evaluation_id_override.isSome then framework_error else some exc
  | .raised exc => some exc

/-- `evaluate`: the gate, the evaluators, the decision and the record. `fresh` is the id that
`generate_evaluation_id` would make. -/
def OperationalArbitrationRuntime.evaluate (runtime : OperationalArbitrationRuntime Uuid)
    (fresh : Uuid) (request : ArbitrationRequest Uuid) :
    Except PyException (ArbitrationEnvelope Uuid) := do
  let evaluation_id := request.evaluation_id_override.getD fresh
  match ← runtime.gate request with
  | some denial => return failed_envelope denial
  | none =>
    match resolve_evaluators runtime request with
    | .error exc => return failed_envelope exc
    | .ok evaluators =>
      let result := resultOf request evaluation_id evaluators
      let framework_error := (gathered request evaluation_id evaluators).framework_error
      return {
        outcome := result.decision.outcome
        result := some result
        error := match runtime.persistence with
          | none => framework_error
          | some save => savedError request framework_error (save result) }

/-! ## What a pass comes to -/

def Raises (request : ArbitrationRequest Uuid) (evaluation_id : Uuid)
    (evaluator : ArbitrationEvaluator Uuid) : Prop :=
  ∃ exc, evaluator.evaluate request evaluation_id = .error exc

def Witnesses (request : ArbitrationRequest Uuid) (evaluation_id : Uuid)
    (evaluator : ArbitrationEvaluator Uuid) : Prop :=
  ∃ output, evaluator.evaluate request evaluation_id = .ok (some output) ∧
    output.deadlock_witnesses ≠ []

variable (request : ArbitrationRequest Uuid)

theorem foldl_gather_error (evaluation_id : Uuid)
    (evaluators : List (ArbitrationEvaluator Uuid)) (g : Gathered Uuid) :
    (evaluators.foldl (gather request evaluation_id) g).framework_error = none ↔
      g.framework_error = none ∧ ∀ e ∈ evaluators, ¬ Raises request evaluation_id e := by
  induction evaluators generalizing g with
  | nil => simp
  | cons e rest ih =>
    rw [List.foldl_cons, ih, List.forall_mem_cons]
    unfold gather Raises
    cases he : e.evaluate request evaluation_id with
    | error exc => simp
    | ok output =>
      cases output with
      | none => simp
      | some output => simp

theorem foldl_gather_witnesses (evaluation_id : Uuid)
    (evaluators : List (ArbitrationEvaluator Uuid)) (g : Gathered Uuid) :
    (evaluators.foldl (gather request evaluation_id) g).deadlock_witnesses ≠ [] ↔
      g.deadlock_witnesses ≠ [] ∨ ∃ e ∈ evaluators, Witnesses request evaluation_id e := by
  induction evaluators generalizing g with
  | nil => simp
  | cons e rest ih =>
    rw [List.foldl_cons, ih, List.exists_mem_cons_iff, ← or_assoc]
    refine or_congr_left ?_
    unfold gather Witnesses
    cases he : e.evaluate request evaluation_id with
    | error exc => simp
    | ok output =>
      cases output with
      | none => simp
      | some output =>
        simp only [ne_eq, List.append_eq_nil_iff, Except.ok.injEq, Option.some.injEq,
          exists_eq_left']
        tauto

theorem deadlock_iff (evaluation_id : Uuid)
    (evaluators : List (ArbitrationEvaluator Uuid)) :
    (resultOf request evaluation_id evaluators).decision.outcome = .deadlock ↔
      (∀ e ∈ evaluators, ¬ Raises request evaluation_id e) ∧
        ∃ e ∈ evaluators, Witnesses request evaluation_id e := by
  have herror := foldl_gather_error request evaluation_id evaluators {}
  have hwitness := foldl_gather_witnesses request evaluation_id evaluators {}
  simp only [true_and, ne_eq, not_true_eq_false, false_or] at herror hwitness
  rw [← herror, ← hwitness]
  change (decisionOf request (gathered request evaluation_id evaluators)).outcome = .deadlock ↔ _
  unfold decisionOf gathered
  cases hf : (evaluators.foldl (gather request evaluation_id) {}).framework_error with
  | none => simp [outcome_eq_deadlock_iff]
  | some exc => simp

end

end operious.arbitration
