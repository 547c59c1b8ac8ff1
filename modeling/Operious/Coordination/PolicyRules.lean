-- The rules of the coordination policies, and the two evaluators that read them. The one takes the
-- rules of the topology, the other those that escalate: some rules fall to both and some to neither.
import Operious.Coordination.Gates
import Mathlib.Data.List.Perm.Basic

namespace operious.coordination

open operious.arbitration (TextRepr)

/-! ## Glob patterns -/

/-- One element of a glob pattern. -/
inductive GlobItem
  | star
  | any
  | lit (c : Char)
  | set (negated : Bool) (ranges : List (Char × Char))

def GlobItem.admits : GlobItem → Char → Bool
  | star, _ => false
  | any, _ => true
  | lit c, d => c == d
  | set negated ranges, d => negated != ranges.any fun (lo, hi) => lo ≤ d && d ≤ hi

/-- The ranges that the text of a bracket lists. -/
def setRanges : List Char → List (Char × Char)
  | lo :: '-' :: hi :: rest => (lo, hi) :: setRanges rest
  | c :: rest => (c, c) :: setRanges rest
  | [] => []

/-- The text of a bracket up to its `]`, and what follows. A `]` at its start is part of the text. -/
def closeBracket (text : List Char) : Option (List Char × List Char) :=
  let (first, rest) := match text with
    | ']' :: rest => ([']'], rest)
    | _ => ([], text)
  match rest.dropWhile (· ≠ ']') with
  | [] => none
  | _ :: after => some (first ++ rest.takeWhile (· ≠ ']'), after)

/-- The bracket that the rest of a pattern starts with, if it is closed. -/
def readSet : List Char → Option (GlobItem × List Char)
  | '!' :: text => (closeBracket text).map fun (inner, after) => (.set true (setRanges inner), after)
  | text => (closeBracket text).map fun (inner, after) => (.set false (setRanges inner), after)

/-- The elements of a pattern. The number bounds how many there are. -/
def globItems : Nat → List Char → List GlobItem
  | 0, _ => []
  | _, [] => []
  | n + 1, '*' :: rest => .star :: globItems n rest
  | n + 1, '?' :: rest => .any :: globItems n rest
  | n + 1, '[' :: rest =>
    match readSet rest with
    | some (item, after) => item :: globItems n after
    | none => .lit '[' :: globItems n rest
  | n + 1, c :: rest => .lit c :: globItems n rest

def globMatches : List GlobItem → List Char → Bool
  | [], value => value.isEmpty
  | .star :: items, value => value.tails.any (globMatches items)
  | _ :: _, [] => false
  | item :: items, c :: value => item.admits c && globMatches items value

/-- `fnmatch.fnmatchcase`. -/
def fnmatchcase (value pattern : String) : Bool :=
  let pattern := ascii.chars pattern
  globMatches (globItems pattern.length pattern) (ascii.chars value)

def pattern_matches : Option String → Option String → Bool
  | none, _ => true
  | some _, none => false
  | some pattern, some value => fnmatchcase value pattern

/-! ## Rules and their bundles -/

structure CoordinationPolicyRule where
  rule_id : String
  scope : CoordinationPolicyScope
  decision : CoordinationPolicyDecision
  description : String := ""
  sender_pattern : Option String := none
  recipient_pattern : Option String := none
  direction : Option CoordinationDirection := none
  message_type : Option CoordinationMessageType := none
  sender_tenant_pattern : Option String := none
  recipient_tenant_pattern : Option String := none
  restrictions : List CoordinationPolicyRestriction := []
  escalations : List CoordinationPolicyEscalation := []

/-- A named bundle of rules. -/
structure CoordinationPolicy where
  /-- `str(policy_id)`. -/
  policy_id : String
  scope : CoordinationPolicyScope
  rules : List CoordinationPolicyRule

variable {Uuid : Type}

/-- `_rule_matches`, the same in both evaluators. -/
def rule_matches (rule : CoordinationPolicyRule)
    (request : CoordinationPolicyEvaluationRequest Uuid) : Bool :=
  pattern_matches rule.sender_pattern (some request.sender_id) &&
    pattern_matches rule.recipient_pattern (some request.recipient_id) &&
    rule.direction.all (· == request.direction) &&
    rule.message_type.all (· == request.message_type) &&
    pattern_matches rule.sender_tenant_pattern request.sender_tenant_id &&
    pattern_matches rule.recipient_tenant_pattern request.recipient_tenant_id

/-! ## The two evaluators -/

def TOPOLOGY_SCOPES : List CoordinationPolicyScope :=
  [.sender, .recipient, .direction, .message_type, .topology, .global]

def CODE_BY_DECISION : CoordinationPolicyDecision → String
  | .allow | .annotate => "topology.authorized"
  | .restrict => "topology.restricted"
  | .escalate => "escalation.required"
  | .deny => "topology.denied"

def ESCALATION_KIND_CODE (kind : String) : String :=
  if kind = "human_review" then "escalation.human_review"
  else if kind = "tenant_owner_approval" then "escalation.tenant_owner"
  else if kind = "operational_review" then "escalation.operational_review"
  else "escalation.required"

section

variable [TextRepr] (policies : List CoordinationPolicy)
  (request : CoordinationPolicyEvaluationRequest Uuid)

/-- `TopologyEvaluator._finding_for`. -/
def topology_finding (policy : CoordinationPolicy) (rule : CoordinationPolicyRule) :
    CoordinationPolicyFinding where
  evaluator_name := "topology"
  scope := rule.scope
  decision := rule.decision
  code := CODE_BY_DECISION rule.decision
  message :=
    if rule.description ≠ "" then rule.description
    else "rule " ++ TextRepr.repr rule.rule_id ++ " matched on sender=" ++
      TextRepr.repr request.sender_id ++ " recipient=" ++ TextRepr.repr request.recipient_id
  policy_id := some policy.policy_id
  rule_id := some rule.rule_id
  restrictions := rule.restrictions
  escalations := rule.escalations

/-- `TopologyEvaluator.evaluate`. -/
def topology_findings : List CoordinationPolicyFinding :=
  (policies.filter (·.scope ∈ TOPOLOGY_SCOPES)).flatMap fun policy =>
    ((policy.rules.filter (·.scope ∈ TOPOLOGY_SCOPES)).filter (rule_matches · request)).map
      (topology_finding request policy)

def rule_applies (rule : CoordinationPolicyRule) : Bool :=
  rule.scope = .escalation || rule.decision = .escalate

/-- `EscalationEvaluator._finding_for`. -/
def escalation_finding (policy : CoordinationPolicy) (rule : CoordinationPolicyRule) :
    CoordinationPolicyFinding where
  evaluator_name := "escalation"
  scope := .escalation
  decision := rule.decision
  code := match rule.escalations with
    | first :: _ => ESCALATION_KIND_CODE first.kind
    | [] => "escalation.required"
  message :=
    if rule.description ≠ "" then rule.description
    else "rule " ++ TextRepr.repr rule.rule_id ++ " requires escalation"
  policy_id := some policy.policy_id
  rule_id := some rule.rule_id
  restrictions := rule.restrictions
  escalations := rule.escalations

/-- `EscalationEvaluator.evaluate`. -/
def escalation_findings : List CoordinationPolicyFinding :=
  policies.flatMap fun policy =>
    ((policy.rules.filter rule_applies).filter (rule_matches · request)).map
      (escalation_finding policy)

def TopologyEvaluator : CoordinationPolicyEvaluator Uuid where
  name := "topology"
  type_name := "TopologyEvaluator"
  evaluate request := .ok (topology_findings policies request)

def EscalationEvaluator : CoordinationPolicyEvaluator Uuid where
  name := "escalation"
  type_name := "EscalationEvaluator"
  evaluate request := .ok (escalation_findings policies request)

/-- The runtime with both evaluators over the same bundles. -/
def rulesRuntime : CoordinationPolicyRuntime Uuid where
  evaluators := [EscalationEvaluator policies, TopologyEvaluator policies]
  nonempty := by simp
  names_sorted := by
    change agents.tools.sorted ["escalation", "topology"] = ["escalation", "topology"]
    decide +kernel
  names_distinct := by
    change ["escalation", "topology"].Nodup
    decide +kernel

def ruleResult : CoordinationPolicyEvaluationResult :=
  CoordinationPolicyRuntime.resultOf request (rulesRuntime policies).evaluators

end

/-! ## What the rules come to -/

structure MostRestrictive (verdict : CoordinationPolicyDecision)
    (decisions : List CoordinationPolicyDecision) : Prop where
  baseline : decisions = [] → verdict = .allow
  taken : decisions ≠ [] → verdict ∈ decisions
  least : ∀ d ∈ decisions, verdict.precedence ≤ d.precedence

def matchingDecisions (policies : List CoordinationPolicy)
    (request : CoordinationPolicyEvaluationRequest Uuid) : List CoordinationPolicyDecision :=
  policies.flatMap fun policy => (policy.rules.filter (rule_matches · request)).map (·.decision)

def verdictOf (finding : CoordinationPolicyFinding) :
    Option String × Option String × CoordinationPolicyDecision :=
  (finding.policy_id, finding.rule_id, finding.decision)

section

variable [TextRepr] (policies : List CoordinationPolicy)
  (request : CoordinationPolicyEvaluationRequest Uuid)

/-- Every rule that matches adds one finding, its own, to what the others add, and the verdict of the
request is the most restrictive decision among those rules. -/
structure EveryRuleCounts : Prop where
  once : ∀ before policy after earlier rule later, policies = before ++ policy :: after →
    policy.rules = earlier ++ rule :: later → rule_matches rule request = true →
    ((ruleResult policies request).findings.map verdictOf).Perm
      ((some policy.policy_id, some rule.rule_id, rule.decision) ::
        (ruleResult (before ++ { policy with rules := earlier ++ later } :: after)
          request).findings.map verdictOf)
  most_restrictive :
    MostRestrictive (ruleResult policies request).aggregate_decision (matchingDecisions policies request)
  denies : ∀ policy ∈ policies, ∀ rule ∈ policy.rules, rule_matches rule request = true →
    rule.decision = .deny →
    is_blocking_policy_decision (ruleResult policies request).aggregate_decision = true

end

def OfTopology (policy : CoordinationPolicy) (rule : CoordinationPolicyRule) : Prop :=
  policy.scope ∈ TOPOLOGY_SCOPES ∧ rule.scope ∈ TOPOLOGY_SCOPES

instance (policy : CoordinationPolicy) (rule : CoordinationPolicyRule) :
    Decidable (OfTopology policy rule) :=
  inferInstanceAs (Decidable (_ ∧ _))

def OneOwner (policies : List CoordinationPolicy)
    (request : CoordinationPolicyEvaluationRequest Uuid) : Prop :=
  ∀ policy ∈ policies, ∀ rule ∈ policy.rules, rule_matches rule request = true →
    (OfTopology policy rule ↔ rule_applies rule = false)

/-! ## The verdict of the aggregate -/

theorem strictest_least (first : CoordinationPolicyDecision)
    (rest : List CoordinationPolicyDecision) :
    strictest first rest ∈ first :: rest ∧
      ∀ d ∈ first :: rest, (strictest first rest).precedence ≤ d.precedence := by
  induction rest generalizing first with
  | nil => simp [strictest]
  | cons d rest ih =>
    have hstep : strictest first (d :: rest) =
        strictest (if d.precedence < first.precedence then d else first) rest := rfl
    rw [hstep]
    obtain ⟨hmem, hleast⟩ := ih (if d.precedence < first.precedence then d else first)
    refine ⟨?_, ?_⟩
    · rcases List.mem_cons.mp hmem with h | h
      · rw [h]
        split <;> simp
      · simp [h]
    · have hboth : (if d.precedence < first.precedence then d else first).precedence ≤
            first.precedence ∧
          (if d.precedence < first.precedence then d else first).precedence ≤ d.precedence := by
        split <;> omega
      have hchosen := hleast _ List.mem_cons_self
      rintro e he
      rcases List.mem_cons.mp he with rfl | he
      · exact hchosen.trans hboth.1
      rcases List.mem_cons.mp he with rfl | he
      · exact hchosen.trans hboth.2
      · exact hleast e (List.mem_cons_of_mem _ he)

theorem build_policy_decision_mostRestrictive (findings : List CoordinationPolicyFinding) :
    MostRestrictive (build_policy_decision findings).1 (findings.map (·.decision)) := by
  cases findings with
  | nil => exact { baseline := fun _ => rfl, taken := by simp, least := by simp }
  | cons first rest =>
    obtain ⟨hmem, hleast⟩ := strictest_least first.decision (rest.map (·.decision))
    exact { baseline := by simp, taken := fun _ => hmem, least := hleast }

theorem MostRestrictive.congr {verdict : CoordinationPolicyDecision}
    {l l' : List CoordinationPolicyDecision} (h : MostRestrictive verdict l)
    (hmem : ∀ d, d ∈ l ↔ d ∈ l') : MostRestrictive verdict l' := by
  have hnil : l = [] ↔ l' = [] := by simp only [List.eq_nil_iff_forall_not_mem, hmem]
  exact {
    baseline := fun hl => h.baseline (hnil.mpr hl)
    taken := fun hl => (hmem _).mp (h.taken fun hl' => hl (hnil.mp hl'))
    least := fun d hd => h.least d ((hmem d).mpr hd) }

theorem mem_matchingDecisions {policies : List CoordinationPolicy}
    {request : CoordinationPolicyEvaluationRequest Uuid} {d : CoordinationPolicyDecision} :
    d ∈ matchingDecisions policies request ↔ ∃ policy ∈ policies, ∃ rule ∈ policy.rules,
      rule_matches rule request = true ∧ rule.decision = d := by
  simp [matchingDecisions, and_assoc]

/-! ## The findings, rule by rule -/

section

variable {policies : List CoordinationPolicy} {policy : CoordinationPolicy}
  {rule : CoordinationPolicyRule} {request : CoordinationPolicyEvaluationRequest Uuid}

/-- What the two evaluators say on behalf of a rule. -/
def verdictsOn (request : CoordinationPolicyEvaluationRequest Uuid) (policy : CoordinationPolicy)
    (rule : CoordinationPolicyRule) :
    List (Option String × Option String × CoordinationPolicyDecision) :=
  let verdict := (some policy.policy_id, some rule.rule_id, rule.decision)
  (if rule_applies rule && rule_matches rule request then [verdict] else []) ++
    if OfTopology policy rule ∧ rule_matches rule request = true then [verdict] else []

theorem mem_verdictsOn {v : Option String × Option String × CoordinationPolicyDecision}
    (h : v ∈ verdictsOn request policy rule) :
    v = (some policy.policy_id, some rule.rule_id, rule.decision) ∧
      rule_matches rule request = true := by
  simp only [verdictsOn, List.mem_append] at h
  rcases h with h | h
  · split at h <;> simp_all
  · split at h <;> simp_all

theorem length_verdictsOn (h : rule_matches rule request = true) :
    (verdictsOn request policy rule).length = 1 ↔
      (OfTopology policy rule ↔ rule_applies rule = false) := by
  cases happ : rule_applies rule <;> by_cases htop : OfTopology policy rule <;>
    simp [verdictsOn, h, happ, htop]

end

theorem flatMap_filter {α β : Type} (p : α → Bool) (f : α → List β) (l : List α) :
    (l.filter p).flatMap f = l.flatMap fun a => if p a then f a else [] := by
  induction l with
  | nil => rfl
  | cons a rest ih => cases h : p a <;> simp [h, ih]

section

variable [TextRepr] {policies : List CoordinationPolicy}
  {request : CoordinationPolicyEvaluationRequest Uuid}

theorem escalation_verdicts : (escalation_findings policies request).map verdictOf =
    policies.flatMap fun policy => policy.rules.flatMap fun rule =>
      if rule_applies rule && rule_matches rule request then
        [(some policy.policy_id, some rule.rule_id, rule.decision)] else [] := by
  rw [escalation_findings, List.map_flatMap]
  refine List.flatMap_congr fun policy _ => ?_
  rw [List.map_map, List.map_eq_flatMap, List.filter_filter, flatMap_filter]
  refine List.flatMap_congr fun rule _ => ?_
  rw [Bool.and_comm]
  rfl

theorem topology_verdicts : (topology_findings policies request).map verdictOf =
    policies.flatMap fun policy => policy.rules.flatMap fun rule =>
      if OfTopology policy rule ∧ rule_matches rule request = true then
        [(some policy.policy_id, some rule.rule_id, rule.decision)] else [] := by
  rw [topology_findings, List.map_flatMap, flatMap_filter]
  refine List.flatMap_congr fun policy _ => ?_
  rw [List.map_map, List.map_eq_flatMap, List.filter_filter, flatMap_filter]
  by_cases hpolicy : policy.scope ∈ TOPOLOGY_SCOPES
  · rw [if_pos (decide_eq_true hpolicy)]
    refine List.flatMap_congr fun rule _ => ?_
    simp only [OfTopology, hpolicy, true_and, Bool.and_eq_true, decide_eq_true_eq, and_comm]
    rfl
  · rw [if_neg (by simpa using hpolicy)]
    simp [OfTopology, hpolicy]

theorem ruleResult_findings : (ruleResult policies request).findings =
    escalation_findings policies request ++ topology_findings policies request := by
  simp [ruleResult, CoordinationPolicyRuntime.resultOf, rulesRuntime, run_policy_evaluators_fst,
    contribution, EscalationEvaluator, TopologyEvaluator]

theorem ruleResult_verdicts : ((ruleResult policies request).findings.map verdictOf).Perm
    (policies.flatMap fun policy => policy.rules.flatMap (verdictsOn request policy)) := by
  rw [ruleResult_findings, List.map_append, escalation_verdicts, topology_verdicts]
  refine (List.flatMap_append_perm _ _ _).trans (List.Perm.flatMap_left _ ?_)
  intro policy _
  exact List.flatMap_append_perm _ _ _

theorem ruleResult_verdicts_split {before after : List CoordinationPolicy}
    {policy : CoordinationPolicy} {earlier later : List CoordinationPolicyRule}
    {rule : CoordinationPolicyRule} (hrules : policy.rules = earlier ++ rule :: later) :
    ((ruleResult (before ++ policy :: after) request).findings.map verdictOf).Perm
      (verdictsOn request policy rule ++
        (ruleResult (before ++ { policy with rules := earlier ++ later } :: after)
          request).findings.map verdictOf) := by
  refine ruleResult_verdicts.trans ((?_ : List.Perm _ _).trans
    (ruleResult_verdicts.symm.append_left _))
  have hsame : verdictsOn request { policy with rules := earlier ++ later } =
      verdictsOn request policy := rfl
  simp only [List.flatMap_append, List.flatMap_cons, hrules, hsame, List.append_assoc]
  exact ((List.perm_append_comm_assoc _ _ _).append_left _).trans (List.perm_append_comm_assoc _ _ _)

/-! ## The law -/

theorem mem_finding_decisions {d : CoordinationPolicyDecision} :
    d ∈ (ruleResult policies request).findings.map (·.decision) ↔
      ∃ policy ∈ policies, ∃ rule ∈ policy.rules, ∃ v ∈ verdictsOn request policy rule, v.2.2 = d := by
  have hverdicts : (ruleResult policies request).findings.map (·.decision) =
      ((ruleResult policies request).findings.map verdictOf).map (·.2.2) := by
    rw [List.map_map]
    rfl
  rw [hverdicts, (ruleResult_verdicts.map _).mem_iff]
  simp only [List.mem_map, List.mem_flatMap]
  constructor
  · rintro ⟨v, ⟨policy, hpolicy, rule, hrule, hv⟩, hd⟩
    exact ⟨policy, hpolicy, rule, hrule, v, hv, hd⟩
  · rintro ⟨policy, hpolicy, rule, hrule, v, hv, hd⟩
    exact ⟨v, ⟨policy, hpolicy, rule, hrule, hv⟩, hd⟩

theorem OneOwner.most_restrictive (h : OneOwner policies request) :
    MostRestrictive (ruleResult policies request).aggregate_decision
      (matchingDecisions policies request) := by
  refine (build_policy_decision_mostRestrictive (ruleResult policies request).findings).congr ?_
  intro d
  rw [mem_finding_decisions, mem_matchingDecisions]
  constructor
  · rintro ⟨policy, hpolicy, rule, hrule, v, hv, rfl⟩
    obtain ⟨rfl, hmatch⟩ := mem_verdictsOn hv
    exact ⟨policy, hpolicy, rule, hrule, hmatch, rfl⟩
  · rintro ⟨policy, hpolicy, rule, hrule, hmatch, rfl⟩
    obtain ⟨v, hv⟩ := List.length_eq_one_iff.mp
      ((length_verdictsOn hmatch).mpr (h policy hpolicy rule hrule hmatch))
    have hmem : v ∈ verdictsOn request policy rule := by simp [hv]
    exact ⟨policy, hpolicy, rule, hrule, v, hmem, by rw [(mem_verdictsOn hmem).1]⟩

/-- Every rule that matches counts once, and the strictest of them decides, exactly when each of them
falls to one of the two evaluators. -/
theorem every_rule_counts_iff : EveryRuleCounts policies request ↔ OneOwner policies request := by
  constructor
  · intro h policy hpolicy rule hrule hmatch
    obtain ⟨before, after, rfl⟩ := List.append_of_mem hpolicy
    obtain ⟨earlier, later, hrules⟩ := List.append_of_mem hrule
    have hperm := h.once before policy after earlier rule later rfl hrules hmatch
    have hlength := ((ruleResult_verdicts_split hrules).symm.trans hperm).length_eq
    rw [List.length_append, List.length_cons] at hlength
    exact (length_verdictsOn hmatch).mp (by omega)
  · intro h
    refine { once := ?_, most_restrictive := h.most_restrictive, denies := ?_ }
    · rintro before policy after earlier rule later rfl hrules hmatch
      obtain ⟨v, hv⟩ := List.length_eq_one_iff.mp
        ((length_verdictsOn hmatch).mpr (h policy (by simp) rule (by simp [hrules]) hmatch))
      have hsays := (mem_verdictsOn (v := v) (by rw [hv]; simp)).1
      have hsplit := @ruleResult_verdicts_split _ _ request before after policy earlier later rule hrules
      rwa [hv, hsays] at hsplit
    · intro policy hpolicy rule hrule hmatch hdeny
      have hleast := h.most_restrictive.least .deny
        (mem_matchingDecisions.mpr ⟨policy, hpolicy, rule, hrule, hmatch, hdeny⟩)
      revert hleast
      cases (ruleResult policies request).aggregate_decision <;> decide

end

/-! ## A rule that nobody reads -/

section

def legacyBundle : CoordinationPolicy where
  policy_id := "6f2d7c1e-6f0b-4c55-9a3e-0d5b8a1c2e44"
  scope := .escalation
  rules := [{
    rule_id := "deny-legacy", scope := .sender, decision := .deny
    sender_pattern := some "agent:legacy*" }]

def legacyRequest : CoordinationPolicyEvaluationRequest Nat where
  sender_id := "agent:legacy-v1"
  recipient_id := "agent:billing"
  direction := .agent_to_agent
  message_type := .request
  coordination_id := 1
  coordination_message_id := 2
  priority := 50

/-- The denial matches the request, and the verdict is ALLOW. -/
theorem denial_of_an_escalation_bundle_is_ignored :
    ¬ ∀ (policies : List CoordinationPolicy) (request : CoordinationPolicyEvaluationRequest Nat),
      EveryRuleCounts policies request := by
  intro h
  have hmatch : ∀ rule ∈ legacyBundle.rules, rule_matches rule legacyRequest = true ∧
      rule.decision = .deny := by decide +kernel
  have hallows : is_blocking_policy_decision
      (ruleResult [legacyBundle] legacyRequest).aggregate_decision = false := by decide +kernel
  obtain ⟨hrule, hdeny⟩ := hmatch _ List.mem_cons_self
  have hblocks := (h [legacyBundle] legacyRequest).denies legacyBundle List.mem_cons_self _
    List.mem_cons_self hrule hdeny
  rw [hallows] at hblocks
  cases hblocks

/-- A rule of the topology that escalates is found twice. -/
example : ((ruleResult [{ legacyBundle with scope := .global, rules := [{
    rule_id := "escalate-all", scope := .global, decision := .escalate }] }]
    legacyRequest).findings.map (·.rule_id)) = [some "escalate-all", some "escalate-all"] := by
  decide +kernel

end

end operious.coordination
