-- The audit store of the arbitration. It is write-once, and a dispatch that comes back under its
-- evaluation id is taken for a replay of the first.
import Operious.Arbitration.Dispatch
import Operious.Lib.Runs
import Operious.Lib.WriteOnce

namespace operious.dispatch_arbitration

open operious.arbitration
open operious.governance (PyException)

/-! ## The store -/

structure ArbitrationRecord (Uuid : Type) where
  evaluation_id : Uuid
  chain_id : Uuid
  case_id : Uuid
  outcome : ArbitrationOutcome
  prevailing_authority_level : Option ArbitrationAuthorityLevel
  prevailing_authority_source_substrate : Option String
  prevailing_authority_source_id : Option String
  prevailing_authority_verdict : Option String
  reason : String
  evaluator_names : List String
  findings : List (ArbitrationFinding Uuid)
  conflicts : List (ArbitrationConflict Uuid)
  deadlock_witnesses : List (DeadlockWitness Uuid)
  tenant_id : Option String
  error : Option String

def result_to_record {Uuid : Type} (result : ArbitrationResult Uuid) : ArbitrationRecord Uuid :=
  let prevailing := result.decision.prevailing_authority
  { evaluation_id := result.evaluation_id
    chain_id := result.chain_id
    case_id := result.case_id
    outcome := result.decision.outcome
    prevailing_authority_level := prevailing.map (·.level)
    prevailing_authority_source_substrate := prevailing.map (·.source_substrate)
    prevailing_authority_source_id := prevailing.map (·.source_id)
    prevailing_authority_verdict := prevailing.map (·.verdict)
    reason := result.reason
    evaluator_names := result.evaluator_names
    findings := result.findings
    conflicts := result.conflicts
    deadlock_witnesses := result.deadlock_witnesses
    tenant_id := result.tenant_id
    error := result.error }

abbrev InMemoryArbitrationPersistence (Uuid : Type) := Dict Uuid (ArbitrationRecord Uuid)

section

variable {Uuid : Type} [DecidableEq Uuid] [Stdlib Uuid]

def InMemoryArbitrationPersistence.save (store : InMemoryArbitrationPersistence Uuid)
    (record : ArbitrationRecord Uuid) : Except PyException (InMemoryArbitrationPersistence Uuid) :=
  match store.get? record.evaluation_id with
  | some _ => .error ⟨"DuplicateArbitrationRecordError",
      "duplicate arbitration record: evaluation_id=" ++ Stdlib.str record.evaluation_id⟩
  | none => .ok (store.set record.evaluation_id record)

/-- What the runtime hears of saving a result. -/
def InMemoryArbitrationPersistence.reply (store : InMemoryArbitrationPersistence Uuid)
    (result : ArbitrationResult Uuid) : SaveReply :=
  match InMemoryArbitrationPersistence.save store (result_to_record result) with
  | .ok _ => .saved
  | .error exc => .duplicate exc

/-- The store after an evaluation. Whatever has a result was offered to it, once. -/
def InMemoryArbitrationPersistence.offered (store : InMemoryArbitrationPersistence Uuid)
    (envelope : ArbitrationEnvelope Uuid) : InMemoryArbitrationPersistence Uuid :=
  match envelope.result with
  | none => store
  | some result =>
    match InMemoryArbitrationPersistence.save store (result_to_record result) with
    | .ok store => store
    | .error _ => store

theorem offered_eq_keep {store : InMemoryArbitrationPersistence Uuid}
    {envelope : ArbitrationEnvelope Uuid} {result : ArbitrationResult Uuid}
    (h : envelope.result = some result) :
    InMemoryArbitrationPersistence.offered store envelope =
      store.keep result.evaluation_id (result_to_record result) := by
  have hid : (result_to_record result).evaluation_id = result.evaluation_id := rfl
  unfold InMemoryArbitrationPersistence.offered InMemoryArbitrationPersistence.save Dict.keep
  rw [h]
  cases hget : store.get? result.evaluation_id <;> simp only [hid, hget]

end

/-! ## Calls over one store -/

/-- One call of `DispatchArbitrationRuntime.evaluate`: what its runtime is made of but for the store,
and its arguments. -/
structure DispatchCall (Uuid : Type) where
  evaluators : List (ArbitrationEvaluator Uuid)
  nonempty : evaluators ≠ []
  gate : ArbitrationRequest Uuid → Except PyException (Option PyException) := fun _ => .ok none
  project_evaluation : Uuid → String → Except PyException Unit := fun _ _ => .ok ()
  fresh : Uuid
  coordination_result : CoordinationDispatchResult Uuid
  proposals : List DispatchArbitrationProposal
  tenant_id : String
  correlation_id : Option String := none
  request_id : Option String := none
  metadata : Metadata := .empty

section

variable {Uuid : Type} [DecidableEq Uuid] [TextRepr] [Stdlib Uuid]

namespace DispatchCall

def seed (c : DispatchCall Uuid) : String := case_seed c.coordination_result c.tenant_id c.proposals

def request (c : DispatchCall Uuid) : ArbitrationRequest Uuid :=
  dispatchRequest c.coordination_result c.proposals c.tenant_id c.correlation_id c.request_id c.metadata

def evaluation_id (c : DispatchCall Uuid) : Uuid :=
  dispatchEvaluationId c.coordination_result c.proposals c.tenant_id

def runtime (c : DispatchCall Uuid) (store : InMemoryArbitrationPersistence Uuid) :
    DispatchArbitrationRuntime Uuid where
  arbitration_runtime :=
    { evaluators := c.evaluators
      nonempty := c.nonempty
      gate := c.gate
      persistence := some (InMemoryArbitrationPersistence.reply store) }
  project_evaluation := c.project_evaluation

def arbitration (c : DispatchCall Uuid) (store : InMemoryArbitrationPersistence Uuid) :
    Except PyException (ArbitrationEnvelope Uuid) :=
  (c.runtime store).arbitration_runtime.evaluate c.fresh c.request

def evaluate (c : DispatchCall Uuid) (store : InMemoryArbitrationPersistence Uuid) :
    Except PyException (DispatchArbitrationEvaluation Uuid) :=
  (c.runtime store).evaluate c.fresh c.coordination_result c.proposals c.tenant_id c.correlation_id
    c.request_id c.metadata

/-- The store after the call. A projection that fails comes after the save. -/
def storeAfter (c : DispatchCall Uuid) (store : InMemoryArbitrationPersistence Uuid) :
    InMemoryArbitrationPersistence Uuid :=
  match c.arbitration store with
  | .error _ => store
  | .ok envelope => InMemoryArbitrationPersistence.offered store envelope

def reported (c : DispatchCall Uuid) (store : InMemoryArbitrationPersistence Uuid) :
    Option (ArbitrationResult Uuid) :=
  match c.evaluate store with
  | .error _ => none
  | .ok evaluation => evaluation.envelope.result

/-- The gate lets the call through to the evaluators. -/
def Arbitrated (c : DispatchCall Uuid) : Prop := c.gate c.request = .ok none

instance (c : DispatchCall Uuid) : Decidable c.Arbitrated :=
  match h : c.gate c.request with
  | .ok none => isTrue h
  | .ok (some exc) => isFalse fun h' => by unfold Arbitrated at h'; rw [h] at h'; cases h'
  | .error exc => isFalse fun h' => by unfold Arbitrated at h'; rw [h] at h'; cases h'

def Projected (c : DispatchCall Uuid) : Prop :=
  c.project_evaluation c.evaluation_id c.tenant_id = .ok ()

/-- What an arbitrated call comes to. The store has no part in it. -/
def result (c : DispatchCall Uuid) : ArbitrationResult Uuid :=
  resultOf c.request c.evaluation_id c.evaluators

end DispatchCall

structure Audit (Uuid : Type) where
  records : InMemoryArbitrationPersistence Uuid := Dict.empty
  calls : List (DispatchCall Uuid) := []
  reports : List (ArbitrationResult Uuid) := []

def next (s : Audit Uuid) (c : DispatchCall Uuid) : Option (Audit Uuid) :=
  some {
    records := c.storeAfter s.records
    calls := if c.Arbitrated then s.calls ++ [c] else s.calls
    reports := s.reports ++ (c.reported s.records).toList }

/-- Two calls are about one dispatch: the tenant, what the coordination said, and the set of
proposals. -/
structure SameDispatch (c d : DispatchCall Uuid) : Prop where
  tenant_id : c.tenant_id = d.tenant_id
  coordination_result : c.coordination_result = d.coordination_result
  proposals : ∀ p, p ∈ c.proposals ↔ p ∈ d.proposals

/-- Every report says what the store says under its id, and the calls that share an id are about
one dispatch. -/
structure OneDecision (s : Audit Uuid) : Prop where
  reported : ∀ result ∈ s.reports, ∃ record, s.records.get? result.evaluation_id = some record ∧
    record.outcome = result.decision.outcome
  shared : s.calls.Pairwise fun c d => c.evaluation_id = d.evaluation_id → SameDispatch c d

/-! ## What a call does to the store -/

variable {c : DispatchCall Uuid}

theorem arbitration_of_gated (h : ¬ c.Arbitrated) (store : InMemoryArbitrationPersistence Uuid)
    {envelope : ArbitrationEnvelope Uuid} (he : c.arbitration store = .ok envelope) :
    envelope.result = none :=
  have hgate : (c.runtime store).arbitration_runtime.gate c.request ≠ .ok none := h
  evaluate_gated hgate he

theorem arbitration_of_arbitrated (h : c.Arbitrated) (store : InMemoryArbitrationPersistence Uuid) :
    ∃ envelope, c.arbitration store = .ok envelope ∧ envelope.result = some c.result :=
  have hgate : (c.runtime store).arbitration_runtime.gate c.request = .ok none := h
  evaluate_eq rfl rfl hgate

theorem storeAfter_eq (c : DispatchCall Uuid) (store : InMemoryArbitrationPersistence Uuid) :
    c.storeAfter store =
      if c.Arbitrated then store.keep c.evaluation_id (result_to_record c.result) else store := by
  unfold DispatchCall.storeAfter
  by_cases h : c.Arbitrated
  · obtain ⟨envelope, he, hresult⟩ := arbitration_of_arbitrated h store
    rw [if_pos h, he]
    exact offered_eq_keep hresult
  · rw [if_neg h]
    cases he : c.arbitration store with
    | error exc => rfl
    | ok envelope =>
      simp only [InMemoryArbitrationPersistence.offered, arbitration_of_gated h store he]

theorem reported_eq_some_iff (c : DispatchCall Uuid) (store : InMemoryArbitrationPersistence Uuid)
    (result : ArbitrationResult Uuid) :
    c.reported store = some result ↔ c.Arbitrated ∧ c.Projected ∧ result = c.result := by
  have hevaluate : c.evaluate store = (c.arbitration store).bind fun envelope =>
      match envelope.result with
      | none => .ok ⟨envelope, false, none⟩
      | some result => (c.project_evaluation result.evaluation_id c.tenant_id).bind fun _ =>
        .ok ⟨envelope, haltsOn envelope.result,
          if haltsOn envelope.result then some result.reason else none⟩ := rfl
  unfold DispatchCall.reported
  rw [hevaluate]
  by_cases h : c.Arbitrated
  · obtain ⟨envelope, he, hresult⟩ := arbitration_of_arbitrated h store
    have hid : c.result.evaluation_id = c.evaluation_id := rfl
    rw [he]
    simp only [Except.bind, hresult, hid, h, true_and, DispatchCall.Projected]
    cases c.project_evaluation c.evaluation_id c.tenant_id with
    | error exc => simp
    | ok _ => simp [hresult, eq_comm]
  · cases he : c.arbitration store with
    | error exc => simp [Except.bind, h]
    | ok envelope => simp [Except.bind, arbitration_of_gated h store he, h]

/-! ## The outcome of a call -/

def DispatchCall.Fails (c : DispatchCall Uuid) : Prop :=
  ∃ e ∈ c.evaluators, Raises c.request c.evaluation_id e

def DispatchCall.Stuck (c : DispatchCall Uuid) : Prop :=
  ∃ e ∈ c.evaluators, Witnesses c.request c.evaluation_id e

/-- The outcome where nothing raises and nothing is stuck: the coordination's own verdict, unless a
proposal with the authority of governance is against it. -/
def settled (outcome : CoordinationDispatchOutcome) (proposals : List DispatchArbitrationProposal) :
    ArbitrationOutcome :=
  let verdict := verdict_from_coordination outcome
  if proposals.all fun p => p.authority ≠ .governance || p.verdict = verdict then
    match verdict with
    | .escalate => .escalated
    | .unknown => .inconclusive
    | _ => .resolved
  else .conflict

omit [DecidableEq Uuid] [TextRepr] in
theorem top_signals_governance (result : CoordinationDispatchResult Uuid) (seed : String)
    (signals : List (ArbitrationSignal Uuid)) :
    top_signals (governance_signal result seed :: signals) =
      governance_signal result seed :: signals.filter (·.authority = .governance) := by
  have hzero : (governance_signal result seed).precedence = 0 := rfl
  have htop : ∀ s : ArbitrationSignal Uuid,
      (governance_signal result seed :: signals).all (fun t => s.precedence ≤ t.precedence) =
        decide (s.authority = .governance) := by
    intro s
    have hprecedence : s.precedence = 0 ↔ s.authority = .governance := by
      unfold ArbitrationSignal.precedence
      cases s.authority <;> decide
    rw [Bool.eq_iff_iff, decide_eq_true_iff, ← hprecedence, List.all_cons, hzero]
    constructor
    · intro h
      simpa using (Bool.and_eq_true_iff.mp h).1
    · intro h
      simp [h]
  unfold top_signals
  simp only [htop]
  exact List.filter_cons_of_pos (decide_eq_true rfl)

omit [DecidableEq Uuid] [TextRepr] [Stdlib Uuid] in
theorem agreedDecision_outcome (prevailing : ArbitrationSignal Uuid)
    (conflicts : List (ArbitrationConflict Uuid)) :
    (agreedDecision prevailing conflicts).outcome =
      match prevailing.verdict with
      | .escalate => .escalated
      | .unknown => .inconclusive
      | _ => .resolved := by
  unfold agreedDecision
  cases prevailing.verdict <;> rfl

omit [DecidableEq Uuid] [TextRepr] in
theorem decision_outcome (result : CoordinationDispatchResult Uuid)
    (proposals : List DispatchArbitrationProposal) (tenant_id seed : String) (metadata : Metadata)
    (conflicts : List (ArbitrationConflict Uuid)) :
    (build_arbitration_decision (build_case result proposals tenant_id seed metadata).signals
      conflicts []).outcome = settled result.outcome proposals := by
  have hall : ((proposals.zipIdx.map fun x =>
      (proposal_signal seed x.2 x.1 : ArbitrationSignal Uuid)).filter
        (·.authority = .governance)).all
          (·.verdict = (governance_signal result seed : ArbitrationSignal Uuid).verdict) =
      proposals.all fun p => p.authority ≠ .governance ||
        p.verdict = verdict_from_coordination result.outcome := by
    rw [List.all_filter, List.all_map]
    conv_rhs => rw [← List.zipIdx_map_fst 0 proposals, List.all_map]
    refine List.all_congr rfl fun x => ?_
    rw [Bool.eq_iff_iff]
    simp only [proposal_signal, governance_signal, Bool.or_eq_true, decide_eq_true_iff,
      Function.comp, Bool.not_eq_true']
    exact or_congr decide_eq_false_iff_not decide_eq_true_iff
  unfold build_arbitration_decision build_case
  simp only [List.isEmpty_nil, Bool.not_true, Bool.false_eq_true, if_false]
  rw [top_signals_governance]
  simp only [hall]
  unfold settled
  by_cases ha : (proposals.all fun p => p.authority ≠ .governance ||
      p.verdict = verdict_from_coordination result.outcome) = true
  · rw [if_pos ha, if_pos ha]
    exact agreedDecision_outcome _ conflicts
  · rw [if_neg ha, if_neg ha]

omit [DecidableEq Uuid] in
theorem outcome_eq (c : DispatchCall Uuid) :
    (c.Fails → c.result.decision.outcome = .error) ∧
      (¬ c.Fails → c.Stuck → c.result.decision.outcome = .deadlock) ∧
      (¬ c.Fails → ¬ c.Stuck → c.result.decision.outcome =
        settled c.coordination_result.outcome c.proposals) := by
  have herror := foldl_gather_error c.request c.evaluation_id c.evaluators {}
  have hwitness := foldl_gather_witnesses c.request c.evaluation_id c.evaluators {}
  simp only [true_and, ne_eq, not_true_eq_false, false_or] at herror hwitness
  have hquiet : (¬ c.Fails) ↔ ∀ e ∈ c.evaluators, ¬ Raises c.request c.evaluation_id e := by
    unfold DispatchCall.Fails
    push Not
    rfl
  have hdecision : c.result.decision =
      decisionOf c.request (gathered c.request c.evaluation_id c.evaluators) := rfl
  refine ⟨fun hfails => ?_, fun hfails hstuck => ?_, fun hfails hstuck => ?_⟩
  · rw [hdecision]
    unfold decisionOf gathered
    cases hf : (c.evaluators.foldl (gather c.request c.evaluation_id) {}).framework_error with
    | none => exact absurd (herror.mp hf) fun h => hquiet.mpr h hfails
    | some exc => rfl
  · exact (deadlock_iff c.request c.evaluation_id c.evaluators).mpr ⟨hquiet.mp hfails, hstuck⟩
  · have hnone : (gathered c.request c.evaluation_id c.evaluators).deadlock_witnesses = [] := by
      by_contra h
      exact hstuck (hwitness.mp h)
    have hclear : (gathered c.request c.evaluation_id c.evaluators).framework_error = none :=
      herror.mpr (hquiet.mp hfails)
    rw [hdecision]
    unfold decisionOf
    rw [hclear]
    simp only [hnone]
    exact decision_outcome c.coordination_result c.proposals c.tenant_id _ _ _

omit [TextRepr] in
theorem settled_congr {proposals others : List DispatchArbitrationProposal}
    (h : ∀ p, p ∈ proposals ↔ p ∈ others) (outcome : CoordinationDispatchOutcome) :
    settled outcome proposals = settled outcome others := by
  have hall : ∀ f : DispatchArbitrationProposal → Bool, proposals.all f = others.all f := by
    intro f
    rw [Bool.eq_iff_iff, List.all_eq_true, List.all_eq_true]
    exact forall_congr' fun p => by rw [h p]
  unfold settled
  simp only [hall]

omit [TextRepr] in
theorem settled_ne (outcome : CoordinationDispatchOutcome)
    (proposals : List DispatchArbitrationProposal) :
    settled outcome proposals ≠ .error ∧ settled outcome proposals ≠ .deadlock := by
  unfold settled
  simp only
  split
  · cases verdict_from_coordination outcome <;> decide
  · decide

/-- An evaluator stands in the way of both calls, or of neither. -/
structure SameObstacle (c d : DispatchCall Uuid) : Prop where
  fails : c.Fails ↔ d.Fails
  stuck : ¬ d.Fails → (c.Stuck ↔ d.Stuck)

omit [DecidableEq Uuid] in
/-- Two calls about one dispatch have one outcome iff the same stands in their way. -/
theorem SameDispatch.outcome_eq_iff {c d : DispatchCall Uuid} (h : SameDispatch c d) :
    c.result.decision.outcome = d.result.decision.outcome ↔ SameObstacle c d := by
  obtain ⟨hcfails, hcstuck, hcsettled⟩ := outcome_eq c
  obtain ⟨hdfails, hdstuck, hdsettled⟩ := outcome_eq d
  have hsettled : settled c.coordination_result.outcome c.proposals =
      settled d.coordination_result.outcome d.proposals := by
    rw [h.coordination_result]
    exact settled_congr h.proposals _
  obtain ⟨hnerror, hndeadlock⟩ := settled_ne d.coordination_result.outcome d.proposals
  rw [hsettled] at hcsettled
  by_cases hcf : c.Fails <;> by_cases hdf : d.Fails
  · exact iff_of_true ((hcfails hcf).trans (hdfails hdf).symm)
      ⟨iff_of_true hcf hdf, fun hn => absurd hdf hn⟩
  · refine iff_of_false (fun heq => ?_) fun hsame => hdf (hsame.fails.mp hcf)
    rw [hcfails hcf] at heq
    by_cases hds : d.Stuck
    · rw [hdstuck hdf hds] at heq
      cases heq
    · exact hnerror (heq.trans (hdsettled hdf hds)).symm
  · refine iff_of_false (fun heq => ?_) fun hsame => hcf (hsame.fails.mpr hdf)
    rw [hdfails hdf] at heq
    by_cases hcs : c.Stuck
    · rw [hcstuck hcf hcs] at heq
      cases heq
    · exact hnerror ((hcsettled hcf hcs).symm.trans heq)
  · by_cases hcs : c.Stuck <;> by_cases hds : d.Stuck
    · exact iff_of_true ((hcstuck hcf hcs).trans (hdstuck hdf hds).symm)
        ⟨iff_of_false hcf hdf, fun _ => iff_of_true hcs hds⟩
    · refine iff_of_false (fun heq => ?_) fun hsame => hds ((hsame.stuck hdf).mp hcs)
      exact hndeadlock ((hdsettled hdf hds).symm.trans (heq.symm.trans (hcstuck hcf hcs)))
    · refine iff_of_false (fun heq => ?_) fun hsame => hcs ((hsame.stuck hdf).mpr hds)
      exact hndeadlock ((hcsettled hcf hcs).symm.trans (heq.trans (hdstuck hdf hds)))
    · exact iff_of_true ((hcsettled hcf hcs).trans (hdsettled hdf hds).symm)
        ⟨iff_of_false hcf hdf, fun _ => iff_of_false hcs hds⟩

/-! ## Runs -/

/-- The call is the first of its seed, or it repeats what came with that seed: every earlier call of
the seed is about the same dispatch, and what stood in the way of the first stands in its way. -/
structure Repeats (s : Audit Uuid) (c : DispatchCall Uuid) : Prop where
  dispatch : ∀ d ∈ s.calls, d.seed = c.seed → SameDispatch d c
  obstacle : c.Projected → ∀ d, (s.calls.find? fun d => d.seed = c.seed) = some d →
    SameObstacle d c

def Sound (s : Audit Uuid) : Prop :=
  Dict.FirstOf (fun c : DispatchCall Uuid => c.evaluation_id) (fun c => result_to_record c.result)
    s.calls s.records

theorem Sound.next {s t : Audit Uuid} (h : Sound s) (hnext : next s c = some t) : Sound t := by
  cases hnext
  unfold Sound
  rw [storeAfter_eq]
  split
  · exact Dict.FirstOf.keep h c
  · exact h

omit [DecidableEq Uuid] [TextRepr] in
theorem evaluation_id_eq_iff [LawfulStdlib Uuid] (c d : DispatchCall Uuid) :
    c.evaluation_id = d.evaluation_id ↔ c.seed = d.seed := by
  constructor
  · intro h
    exact (String.append_left_inj _).mp (LawfulStdlib.uuid5_inj _ h)
  · intro h
    exact congrArg (fun seed => Stdlib.uuid5 evaluationNamespace (seed ++ ":evaluation")) h

/-- A call keeps the reports true and the ids apart iff it repeats what it must. -/
theorem oneDecision_next_iff [LawfulStdlib Uuid] {s t : Audit Uuid} (hsound : Sound s)
    (hone : OneDecision s) (hnext : next s c = some t) :
    OneDecision t ↔ (c.Arbitrated → Repeats s c) := by
  have hreports : ∀ result, result ∈ (c.reported s.records).toList ↔
      c.Arbitrated ∧ c.Projected ∧ result = c.result := by
    intro result
    rw [Option.mem_toList]
    exact reported_eq_some_iff c s.records result
  have hstays : ∀ id record, s.records.get? id = some record →
      (c.storeAfter s.records).get? id = some record := by
    intro id record hget
    rw [storeAfter_eq]
    split
    · exact Dict.get?_keep_of_some hget
    · exact hget
  cases hnext
  by_cases harb : c.Arbitrated
  · have hshared : (s.calls ++ [c]).Pairwise
          (fun d e => d.evaluation_id = e.evaluation_id → SameDispatch d e) ↔
        ∀ d ∈ s.calls, d.seed = c.seed → SameDispatch d c := by
      rw [List.pairwise_append, and_iff_right hone.shared,
        and_iff_right (List.pairwise_singleton _ _)]
      simp only [List.mem_singleton, forall_eq, evaluation_id_eq_iff]
    have hfirst : (c.storeAfter s.records).get? c.evaluation_id =
        some (result_to_record ((s.calls.find? fun d => d.seed = c.seed).getD c).result) := by
      rw [storeAfter_eq, if_pos harb]
      simpa only [evaluation_id_eq_iff] using Dict.FirstOf.get?_keep_self hsound c
    simp only [harb, if_true, forall_const]
    constructor
    · intro h
      have hdispatch := hshared.mp h.shared
      refine ⟨hdispatch, fun hprojected d hd => ?_⟩
      obtain ⟨record, hget, houtcome⟩ := h.reported c.result
        (List.mem_append_right _ ((hreports c.result).mpr ⟨harb, hprojected, rfl⟩))
      change (c.storeAfter s.records).get? c.evaluation_id = some record at hget
      rw [hfirst, hd] at hget
      cases hget
      have hsame := hdispatch d (List.mem_of_find?_eq_some hd) (by simpa using List.find?_some hd)
      exact hsame.outcome_eq_iff.mp houtcome
    · intro h
      refine ⟨fun result hresult => ?_, hshared.mpr h.dispatch⟩
      rcases List.mem_append.mp hresult with hold | hnew
      · obtain ⟨record, hget, houtcome⟩ := hone.reported result hold
        exact ⟨record, hstays _ _ hget, houtcome⟩
      · obtain ⟨-, hprojected, rfl⟩ := (hreports result).mp hnew
        refine ⟨_, hfirst, ?_⟩
        cases hd : s.calls.find? fun d => d.seed = c.seed with
        | none => rfl
        | some d =>
          have hsame := h.dispatch d (List.mem_of_find?_eq_some hd)
            (by simpa using List.find?_some hd)
          exact hsame.outcome_eq_iff.mpr (h.obstacle hprojected d hd)
  · refine iff_of_true ⟨?_, ?_⟩ fun h => absurd h harb
    · intro result hresult
      rcases List.mem_append.mp hresult with hold | hnew
      · obtain ⟨record, hget, houtcome⟩ := hone.reported result hold
        exact ⟨record, hstays _ _ hget, houtcome⟩
      · exact absurd ((hreports result).mp hnew).1 harb
    · rw [if_neg harb]
      exact hone.shared

/-- Along a run of calls over one store, every report says what the store says and every id stands
for one dispatch iff every arbitrated call repeats what came with its seed. -/
theorem one_decision_iff [LawfulStdlib Uuid] (calls : List (DispatchCall Uuid)) :
    runs.Along next (fun _ _ t => OneDecision t) ({} : Audit Uuid) calls ↔
      runs.Meets next (fun s c => c.Arbitrated → Repeats s c) ({} : Audit Uuid) calls := by
  refine runs.along_iff_meets (I := fun s => Sound s ∧ OneDecision s) ?_ ?_ ?_
  · rintro s c t ⟨hsound, hone⟩ hrepeats hnext
    exact ⟨hsound.next hnext, (oneDecision_next_iff hsound hone hnext).mpr hrepeats⟩
  · rintro s c t ⟨hsound, hone⟩ hnext
    exact oneDecision_next_iff hsound hone hnext
  · refine ⟨Dict.firstOf_empty, ⟨fun result h => ?_, List.Pairwise.nil⟩⟩
    exact absurd h List.not_mem_nil

end

/-! ## Two agents that escalate -/

def handsOver (proposer_id target : String) : DispatchArbitrationProposal where
  proposer_id
  directive := "hand_over"
  verdict := .escalate
  metadata := Dict.ofList [("escalation_target", .str target)]

def calledWith (tenant_id coordination_id : String) (proposals : List DispatchArbitrationProposal) :
    DispatchCall String where
  evaluators := [deadlockEvaluator]
  nonempty := List.cons_ne_nil _ _
  fresh := "f"
  coordination_result := { coordination_id, outcome := .accepted, governance_decision_id := some "d" }
  proposals
  tenant_id

/-- Both hand it to one desk. -/
def united : DispatchCall String :=
  calledWith "t" "c" [handsOver "agent:triage" "desk", handsOver "agent:risk" "desk"]

/-- They hand it to two desks. -/
def torn : DispatchCall String :=
  calledWith "t" "c" [handsOver "agent:triage" "desk", handsOver "agent:risk" "legal"]

/-- A call that comes back as it was is a replay. -/
theorem united_twice :
    runs.Along next (fun _ _ t => OneDecision t) ({} : Audit String) [united, united] := by
  refine (one_decision_iff [united, united]).mpr fun t ht => ?_
  cases ht
  refine ⟨fun _ => ⟨fun d hd => absurd hd List.not_mem_nil, fun _ d hd => ?_⟩, fun t ht => ?_⟩
  · cases hd
  cases ht
  have hcalls : (if united.Arbitrated then [] ++ [united] else []) = [united] := if_pos rfl
  refine ⟨fun _ => ⟨fun d hd _ => ?_, fun _ d hd => ?_⟩, trivial⟩
  · rw [hcalls, List.mem_singleton] at hd
    rw [hd]
    exact ⟨rfl, rfl, fun _ => Iff.rfl⟩
  · simp only [hcalls, List.find?_singleton, decide_true, if_true, Option.some.injEq] at hd
    rw [← hd]
    exact ⟨Iff.rfl, fun _ => Iff.rfl⟩

/-- The seed has no metadata, so the torn call is taken for the united one: it reports a deadlock
under an id that the store says is resolved. -/
theorem torn_under_the_same_id :
    ¬ runs.Along next (fun _ _ t => OneDecision t) ({} : Audit String) [united, torn] ∧
      (runs.after next ({} : Audit String) [united, torn]).map (fun t =>
        (t.reports.map (·.decision.outcome), t.records.values.map (·.outcome))) =
          some ([.resolved, .deadlock], [.resolved]) := by
  refine ⟨fun h => ?_, by decide +kernel⟩
  have hcalls : (if torn.Arbitrated then (if united.Arbitrated then [] ++ [united] else []) ++ [torn]
      else (if united.Arbitrated then [] ++ [united] else [])) = [united, torn] := rfl
  have hshared := ((h _ rfl).2 _ rfl).1.shared
  rw [hcalls] at hshared
  have hid : united.evaluation_id = torn.evaluation_id := by decide +kernel
  have hsame := (List.rel_of_pairwise_cons hshared (List.mem_singleton_self torn)) hid
  have hmem : handsOver "agent:risk" "legal" ∈ united.proposals :=
    (hsame.proposals _).mpr (by simp [torn, calledWith])
  have htargets : united.proposals.map (·.metadata.get? "escalation_target") =
      [some (.str "desk"), some (.str "desk")] := by decide +kernel
  have htarget := List.mem_map_of_mem (f := fun p : DispatchArbitrationProposal =>
    p.metadata.get? "escalation_target") hmem
  rw [htargets] at htarget
  revert htarget
  decide +kernel

end operious.dispatch_arbitration
