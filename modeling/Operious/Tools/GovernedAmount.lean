-- The amount that governance compares and the amount that a refund pays. The two are read from the
-- action by different rules, and they part on a zero, on a text and on a missing field.
import Operious.Tools.GovernedOperation

namespace operious.agents.tools

open operious.governance

variable {F : Type} [Interpreter F]

def amountKey : String := "refund_amount_cents"
def confidenceKey : String := "diagnostic_confidence"

/-! ## The parsed rule -/

structure AmountRuleParsed (ceiling : Int) (rule : AmountThresholdRule F) : Prop where
  field : rule.amount_field = amountKey
  confidence : rule.confidence_field = some confidenceKey
  limit : 0 ≤ rule.amount_lte ∧ rule.amount_lte ≤ ceiling

omit [Interpreter F] in
theorem requireInt_ok {value : Option (JsonValue F)} {field : String} {i : Int}
    (h : requireInt value field = .ok i) : 0 ≤ i := by
  unfold requireInt at h
  split at h
  · split at h
    · cases h
    · cases h
      omega
  · cases h

variable {ceiling : Int} {policy_key : String}

omit [Interpreter F] in
theorem parseLimit_ok {allow : JsonObject F} {limit : Int}
    (h : parseLimit ceiling policy_key allow = .ok limit) : 0 ≤ limit ∧ limit ≤ ceiling := by
  unfold parseLimit at h
  obtain ⟨parsed, hparsed, h⟩ := bind_eq_ok.mp h
  split at h
  · cases h
  · cases h
    exact ⟨requireInt_ok hparsed, by omega⟩

variable {rule : AmountThresholdRule F}

theorem parse_amount_rule {rule_kind : RuleKind} {entry : JsonObject F}
    (h : parse_operation_rule ceiling rule_kind policy_key entry = .ok (.amount_threshold rule)) :
    AmountRuleParsed ceiling rule := by
  unfold parse_operation_rule at h
  cases rule_kind with
  | confidence_membership =>
    obtain ⟨_, _, h⟩ := bind_eq_ok.mp h
    obtain ⟨_, _, h⟩ := bind_eq_ok.mp h
    obtain ⟨_, _, h⟩ := bind_eq_ok.mp h
    obtain ⟨_, _, h⟩ := bind_eq_ok.mp h
    cases h
  | always =>
    obtain ⟨_, _, h⟩ := bind_eq_ok.mp h
    cases h
  | amount_threshold =>
    obtain ⟨_, _, h⟩ := bind_eq_ok.mp h
    obtain ⟨limit, hlimit, h⟩ := bind_eq_ok.mp h
    obtain ⟨_, _, h⟩ := bind_eq_ok.mp h
    obtain ⟨_, _, h⟩ := bind_eq_ok.mp h
    cases h
    exact ⟨rfl, rfl, parseLimit_ok hlimit⟩
  | value_bands =>
    obtain ⟨_, _, h⟩ := bind_eq_ok.mp h
    obtain ⟨_, _, h⟩ := bind_eq_ok.mp h
    obtain ⟨_, _, h⟩ := bind_eq_ok.mp h
    obtain ⟨_, _, h⟩ := bind_eq_ok.mp h
    cases h

variable {id : String}

theorem parseRules_mem {tools : JsonObject F} {operations : List (RegisteredOperation F)}
    {rules : List (String × OperationRule F)} (h : parseRules ceiling tools operations = .ok rules)
    {rule : OperationRule F} (hmem : (id, rule) ∈ rules) :
    ∃ rule_kind policy_key entry,
      parse_operation_rule ceiling rule_kind policy_key entry = .ok rule := by
  induction operations generalizing rules with
  | nil =>
    cases h
    cases hmem
  | cons operation rest ih =>
    unfold parseRules at h
    split at h
    · split at h
      · exact ih h hmem
      · obtain ⟨_, _, h⟩ := bind_eq_ok.mp h
        obtain ⟨parsed, hparsed, h⟩ := bind_eq_ok.mp h
        obtain ⟨parsed_rules, hrest, h⟩ := bind_eq_ok.mp h
        cases h
        rcases List.mem_cons.mp hmem with heq | hmem
        · cases heq
          exact ⟨_, _, _, hparsed⟩
        · exact ih hrest hmem
    · exact ih h hmem

theorem parsed_amount_rule {record : TenantGovernancePolicyRecord F} {policy : ParsedActionPolicy F}
    (h : parse_action_tools_policy ceiling record = .ok policy)
    (hrule : policy.rules.get? id = some (.amount_threshold rule)) :
    AmountRuleParsed ceiling rule := by
  unfold parse_action_tools_policy at h
  obtain ⟨parameters, -, h⟩ := bind_eq_ok.mp h
  unfold parse_action_tools_parameters at h
  obtain ⟨tools, -, h⟩ := bind_eq_ok.mp h
  dsimp only at h
  split at h
  · cases h
  · obtain ⟨parsed_rules, hparsed, h⟩ := bind_eq_ok.mp h
    obtain ⟨custom_tools, -, h⟩ := bind_eq_ok.mp h
    cases h
    obtain ⟨_, _, _, hentry⟩ := parseRules_mem hparsed (Dict.mem_of_get?_ofList hrule)
    exact parse_amount_rule hentry

/-! ## What the rule allows -/

variable {binding : ActionPolicyBinding}

omit [Interpreter F] in
theorem elseResult_decision {else_decision : Decision} {reason : String} :
    (elseResult else_decision reason binding).decision ≠ .allow := by
  unfold elseResult
  split
  · exact fun h => nomatch h
  · exact fun h => nomatch h

theorem amount_rule_allows {metadata : JsonObject F} :
    (∃ r, evaluate_operation_rule metadata (.amount_threshold rule) binding = .ok r ∧
      r.decision = .allow) ↔
      ∃ amount, intAt metadata rule.amount_field = some amount ∧ amount ≤ rule.amount_lte ∧
        confidenceOk metadata rule = .ok true := by
  constructor
  · rintro ⟨r, hr, hallow⟩
    unfold evaluate_operation_rule at hr
    cases hamount : intAt metadata rule.amount_field with
    | none =>
      simp only [hamount] at hr
      cases hr
      cases hallow
    | some amount =>
      simp only [hamount] at hr
      obtain ⟨confidence_ok, hconf, hr⟩ := bind_eq_ok.mp hr
      split at hr
      · rename_i hallowed
        exact ⟨amount, rfl, hallowed.1, by rw [hconf, hallowed.2]⟩
      · cases hr
        exact absurd hallow elseResult_decision
  · rintro ⟨amount, hamount, hle, hconf⟩
    refine ⟨allow "operation amount is within auto-allow threshold" binding, ?_, rfl⟩
    simp [evaluate_operation_rule, hamount, hconf, hle, bind, Except.bind, pure, Except.pure]

/-! ## The amount that governance compares -/

/-- The scalar that ends up in the metadata: the one of an explicit payload, or else the action's
own. -/
def governedAmount (action : JsonObject F) : Option Int :=
  (((explicitPayload action).bind (metadataValue · amountKey)).or
    (metadataValue action amountKey)).bind JsonValue.int?

/-- The confidence that ends up in the metadata: the action's own, or else the proposal's. -/
def statedConfidence (proposal : Proposal F) (action : JsonObject F) : JsonObject F :=
  Dict.ofList [(confidenceKey, (metadataValue action confidenceKey).getD (.float proposal.confidence))]

/-- The operation behind a refund action: that of its tool, or else the refund. -/
def refundOperation (tool_name : String) : RegisteredOperation F :=
  (registeredByTool tool_name).getD refundRequest

theorem resolve_refund (tool_name : String) :
    resolve_operation .empty (some tool_name) (some "refund_request") =
      some (.from_registered (refundOperation tool_name : RegisteredOperation F)
        (some "refund_request")) := by
  cases h : (registeredByTool tool_name : Option (RegisteredOperation F)) with
  | some operation =>
    rw [resolve_by_tool h]
    unfold refundOperation
    rw [h]
    rfl
  | none =>
    have htype : (registeredByActionType "refund_request" : Option (RegisteredOperation F)) =
        some refundRequest := rfl
    unfold resolve_operation resolve_explicit_metadata refundOperation textAt
    simp [h, htype]

section

variable {proposal : Proposal F} {action : JsonObject F} {tool_name : String}
  {target_resource idempotency_key : String}

theorem intAt_request_metadata :
    intAt (request_metadata proposal action "refund_request" tool_name target_resource
      idempotency_key) amountKey = governedAmount action := by
  have hbase : (registeredBase proposal "refund_request" tool_name target_resource idempotency_key
      (refundOperation tool_name)).get? amountKey = none := by
    rw [get?_registeredBase]
    unfold baseMetadata
    rw [Dict.get?_ofList (by simp)]
    simp [declared, Dict.find, operationIdKey, commitmentKindKey, approvalPolicyKey,
      targetResourceExprKey, amountKey]
  unfold intAt governedAmount
  rw [request_metadata_resolved (resolve_refund tool_name), get?_withIssueCategory _ _ (by decide),
    get?_withPayloadFields, if_pos (by decide), get?_withActionFields, if_neg (by decide), hbase,
    Option.or_none]

theorem confidence_request_metadata :
    (request_metadata proposal action "refund_request" tool_name target_resource
      idempotency_key).get? confidenceKey = (statedConfidence proposal action).get? confidenceKey := by
  have hbase : (registeredBase proposal "refund_request" tool_name target_resource idempotency_key
      (refundOperation tool_name)).get? confidenceKey = some (.float proposal.confidence) := by
    rw [get?_registeredBase]
    unfold baseMetadata
    rw [Dict.get?_ofList (by simp)]
    simp [declared, Dict.find, operationIdKey, commitmentKindKey, approvalPolicyKey,
      targetResourceExprKey, confidenceKey]
  unfold statedConfidence
  rw [request_metadata_resolved (resolve_refund tool_name), get?_withIssueCategory _ _ (by decide),
    get?_withPayloadFields, if_neg (by decide), get?_withActionFields, if_neg (by decide), hbase,
    Dict.get?_ofList (by simp)]
  cases metadataValue action confidenceKey <;> simp [Dict.find]

theorem confidenceOk_request_metadata (hrule : AmountRuleParsed ceiling rule) :
    confidenceOk (request_metadata proposal action "refund_request" tool_name target_resource
      idempotency_key) rule = confidenceOk (statedConfidence proposal action) rule := by
  unfold confidenceOk floatAt
  rw [hrule.confidence]
  cases rule.confidence_gte with
  | none => rfl
  | some confidence_gte =>
    dsimp only
    rw [confidence_request_metadata]

end

/-! ## The amount that is paid -/

/-- The amount `n` is what the payload pays: an explicit payload has it itself, and otherwise the
refund is built from the fields, where a zero gives way to the amount as a text. -/
def Pays (action : JsonObject F) (tool_name : String) (n : Int) : Prop :=
  match explicitPayload action with
  | some payload => payload.get? amountKey = some (.int n)
  | none =>
    (tool_name = "refund.request" ∨ (registeredByTool tool_name : Option (RegisteredOperation F)) = none) ∧
      (n = 0 → amount_to_cents F (textAt action "amount") = .ok (some 0))

variable {proposal : Proposal F} {action : JsonObject F} {operation : RegisteredOperation F}
  {action_type : String}

variable {payload : JsonObject F}

theorem other_payload (h : operation ∈ registeredOperations)
    (hother : operation.tool_name ≠ "refund.request") {builder : PayloadBuilder F}
    (hbuilder : operation.payload_builder = some builder)
    (hpayload : builder action proposal action_type = .ok payload) :
    payload.get? amountKey = none := by
  simp only [registeredOperations, List.mem_cons, List.not_mem_nil, or_false] at h
  rcases h with rfl | rfl | rfl | rfl | rfl | rfl | rfl | rfl
  · cases hbuilder
    cases hpayload
    rw [Dict.get?_ofList (by simp)]
    simp [Dict.find, amountKey]
  · cases hbuilder
    cases hpayload
    rw [Dict.get?_ofList (by simp)]
    simp [Dict.find, amountKey]
  · exact absurd rfl hother
  · cases hbuilder
    cases hpayload
    rw [Dict.get?_ofList (by simp)]
    simp [Dict.find, amountKey]
  · cases hbuilder
  · cases hbuilder
  · cases hbuilder
  · cases hbuilder
    cases hpayload
    rw [Dict.get?_ofList (by simp)]
    simp [Dict.find, amountKey]

variable {n : Int}

theorem refund_payload_amount :
    (∃ payload, refund_payload action proposal action_type = .ok payload ∧
      payload.get? amountKey = some (.int n)) ↔ refundCents action = .ok (some n) := by
  unfold refund_payload
  constructor
  · rintro ⟨payload, hpayload, hget⟩
    obtain ⟨cents, hcents, hpayload⟩ := bind_eq_ok.mp hpayload
    cases hpayload
    rw [Dict.get?_ofList (by simp)] at hget
    simp only [Dict.find, amountKey] at hget
    cases cents with
    | none => simp at hget
    | some m =>
      simp at hget
      rw [hcents, hget]
  · intro hcents
    refine ⟨_, bind_eq_ok.mpr ⟨some n, hcents, rfl⟩, ?_⟩
    rw [Dict.get?_ofList (by simp)]
    simp [Dict.find, amountKey]

theorem refundCents_eq (h : intAt action amountKey = some n) :
    refundCents action = .ok (some n) ↔
      (n = 0 → amount_to_cents F (textAt action "amount") = .ok (some 0)) := by
  have hint : intAt action "refund_amount_cents" = some n := h
  unfold refundCents
  rw [hint]
  by_cases hn : n = 0
  · subst hn
    simp
  · simp [hn]

variable {tool_name : String}

theorem default_payload_refund
    (h : (refundOperation tool_name : RegisteredOperation F) = refundRequest) :
    default_payload action proposal "refund_request" tool_name =
      refund_payload action proposal "refund_request" := by
  have hbuilder : (some (ResolvedOperation.from_registered (refundOperation tool_name)
      (some "refund_request")) : Option (ResolvedOperation F)).bind (·.payload_builder) =
      some refund_payload := by
    rw [h]
    rfl
  unfold default_payload payload_for_operation
  simp only [resolve_refund, hbuilder]
  cases refund_payload action proposal "refund_request" <;> rfl

theorem default_payload_other (h : registeredByTool tool_name = some operation)
    (hother : tool_name ≠ "refund.request")
    (hpayload : default_payload action proposal "refund_request" tool_name = .ok payload) :
    payload.get? amountKey = none := by
  obtain ⟨hmem, hname⟩ := registeredByTool_some h
  rw [← hname] at hother
  unfold default_payload payload_for_operation at hpayload
  simp only [resolve_by_tool h, Option.bind_some, ResolvedOperation.from_registered] at hpayload
  cases hbuilder : operation.payload_builder with
  | none =>
    simp only [hbuilder] at hpayload
    cases hpayload
    rfl
  | some builder =>
    simp only [hbuilder] at hpayload
    cases hbuilt : builder action proposal "refund_request" with
    | error exc =>
      rw [hbuilt] at hpayload
      cases hpayload
    | ok built =>
      rw [hbuilt] at hpayload
      cases hpayload
      exact other_payload hmem hother hbuilder hbuilt

omit [Interpreter F] in
theorem metadataValue_bind_int? (mapping : JsonObject F) (key : String) :
    (metadataValue mapping key).bind JsonValue.int? = intAt mapping key := by
  unfold metadataValue intAt
  cases mapping.get? key with
  | none => rfl
  | some value => cases value <;> rfl

theorem pays_iff (hgoverned : governedAmount action = some n) :
    (∃ payload, payload_for_recommended_action action proposal "refund_request" tool_name =
      .ok payload ∧ payload.get? amountKey = some (.int n)) ↔ Pays action tool_name n := by
  unfold payload_for_recommended_action Pays
  cases hexplicit : explicitPayload action with
  | some payload => simp
  | none =>
    have hint : intAt action amountKey = some n := by
      unfold governedAmount at hgoverned
      rw [hexplicit, Option.bind_none, Option.none_or, metadataValue_bind_int?] at hgoverned
      exact hgoverned
    dsimp only
    cases hreg : (registeredByTool tool_name : Option (RegisteredOperation F)) with
    | none =>
      rw [default_payload_refund (by simp [refundOperation, hreg]), refund_payload_amount,
        refundCents_eq hint]
      simp
    | some operation =>
      by_cases htool : tool_name = "refund.request"
      · subst htool
        rw [default_payload_refund rfl, refund_payload_amount, refundCents_eq hint]
        simp
      · constructor
        · rintro ⟨payload, hpayload, hget⟩
          rw [default_payload_other hreg htool hpayload] at hget
          cases hget
        · rintro ⟨hcases, -⟩
          simp [htool] at hcases

/-! ## The governed amount is the paid amount -/

theorem allows_iff {target_resource idempotency_key : String}
    (hrule : AmountRuleParsed ceiling rule) :
    (∃ r, evaluate_operation_rule (request_metadata proposal action "refund_request" tool_name
        target_resource idempotency_key) (.amount_threshold rule) binding = .ok r ∧
      r.decision = .allow) ↔
      ∃ n, governedAmount action = some n ∧ n ≤ rule.amount_lte ∧
        confidenceOk (statedConfidence proposal action) rule = .ok true := by
  rw [amount_rule_allows, hrule.field, intAt_request_metadata, confidenceOk_request_metadata hrule]

/-- What is allowed is paid: whenever the rule allows, the payload holds the amount that the rule
compared, and that amount lies between zero, the limit and the ceiling. -/
def PaidAsGoverned (proposal : Proposal F) (action : JsonObject F)
    (tool_name target_resource idempotency_key : String) (ceiling : Int)
    (rule : AmountThresholdRule F) (binding : ActionPolicyBinding) : Prop :=
  let metadata := request_metadata proposal action (actionTypeOf action) tool_name target_resource
    idempotency_key
  ∀ r, evaluate_operation_rule metadata (.amount_threshold rule) binding = .ok r →
    r.decision = .allow →
    ∃ payload amount, payload_for_recommended_action action proposal (actionTypeOf action)
        tool_name = .ok payload ∧
      payload.get? amountKey = some (.int amount) ∧
      intAt metadata rule.amount_field = some amount ∧
      0 ≤ amount ∧ amount ≤ rule.amount_lte ∧ rule.amount_lte ≤ ceiling

section

variable {proposal : Proposal F} {action : JsonObject F}
  {tool_name target_resource idempotency_key : String} {ceiling : Int}
  {rule : AmountThresholdRule F} {binding : ActionPolicyBinding}

omit [Interpreter F] in
theorem actionTypeOf_refund (htype : textAt action "type" = some "refund_request") :
    actionTypeOf action = "refund_request" := by
  unfold actionTypeOf
  rw [htype]
  rfl

theorem PaidAsGoverned.pays (htype : textAt action "type" = some "refund_request")
    (hrule : AmountRuleParsed ceiling rule)
    (h : PaidAsGoverned proposal action tool_name target_resource idempotency_key ceiling rule
      binding) (hn : governedAmount action = some n) (hle : n ≤ rule.amount_lte)
    (hconf : confidenceOk (statedConfidence proposal action) rule = .ok true) :
    0 ≤ n ∧ Pays action tool_name n := by
  unfold PaidAsGoverned at h
  simp only [actionTypeOf_refund htype, hrule.field, intAt_request_metadata] at h
  obtain ⟨r, hr, hallow⟩ := (allows_iff hrule).mpr ⟨n, hn, hle, hconf⟩
  obtain ⟨payload, amount, hpayload, hget, hamount, hnonneg, -, -⟩ := h r hr hallow
  rw [hn] at hamount
  cases hamount
  exact ⟨hnonneg, (pays_iff hn).mp ⟨payload, hpayload, hget⟩⟩

theorem PaidAsGoverned.of_pays (htype : textAt action "type" = some "refund_request")
    (hrule : AmountRuleParsed ceiling rule)
    (h : ∀ n, governedAmount action = some n → n ≤ rule.amount_lte →
      confidenceOk (statedConfidence proposal action) rule = .ok true →
      0 ≤ n ∧ Pays action tool_name n) :
    PaidAsGoverned proposal action tool_name target_resource idempotency_key ceiling rule
      binding := by
  unfold PaidAsGoverned
  simp only [actionTypeOf_refund htype, hrule.field, intAt_request_metadata]
  intro r hr hallow
  obtain ⟨n, hn, hle, hconf⟩ := (allows_iff hrule).mp ⟨r, hr, hallow⟩
  obtain ⟨hnonneg, hpays⟩ := h n hn hle hconf
  obtain ⟨payload, hpayload, hget⟩ := (pays_iff hn).mpr hpays
  exact ⟨payload, n, hpayload, hget, hn, hnonneg, hle, hrule.limit.2⟩

end

/-- Exactly where every amount that passes the rule is no negative one, and is what the payload
pays. -/
theorem paid_as_governed_iff (proposal : Proposal F) (action : JsonObject F) {tool_name : String}
    (target_resource idempotency_key : String) {ceiling : Int}
    {record : TenantGovernancePolicyRecord F} {policy : ParsedActionPolicy F} {id : String}
    {rule : AmountThresholdRule F} (htype : textAt action "type" = some "refund_request")
    (_ : tool_name_for action = some tool_name)
    (hparse : parse_action_tools_policy ceiling record = .ok policy)
    (hrule : policy.rules.get? id = some (.amount_threshold rule)) :
    PaidAsGoverned proposal action tool_name target_resource idempotency_key ceiling rule
        policy.binding ↔
      ∀ n, governedAmount action = some n → n ≤ rule.amount_lte →
        confidenceOk (statedConfidence proposal action) rule = .ok true →
        0 ≤ n ∧ Pays action tool_name n := by
  have hparsed := parsed_amount_rule hparse hrule
  constructor
  · intro h n hn hle hconf
    exact h.pays htype hparsed hn hle hconf
  · intro h
    exact PaidAsGoverned.of_pays htype hparsed h

/-! ## A refund of another amount -/

def sampleAmountRule : AmountThresholdRule Int where
  amount_field := amountKey
  amount_lte := 5000
  else_decision := .deny
  confidence_field := some confidenceKey

theorem samplePolicy_parsed : ∃ policy,
    parse_action_tools_policy 10000 samplePolicyRecord = .ok policy ∧
      policy.rules.get? "operation.refund_request" = some (.amount_threshold sampleAmountRule) :=
  ⟨_, rfl, rfl⟩

def refundAction : JsonObject Int := Dict.ofList
  [("type", .str "refund_request"), ("refund_amount_cents", .int 1200)]

/-- No cents, and 500 dollars as a text. -/
def zeroRefundAction : JsonObject Int := Dict.ofList
  [("type", .str "refund_request"), ("refund_amount_cents", .int 0), ("amount", .str "$500")]

theorem a_refund_is_paid_as_governed : ∃ policy,
    parse_action_tools_policy 10000 samplePolicyRecord = .ok policy ∧
      policy.rules.get? "operation.refund_request" = some (.amount_threshold sampleAmountRule) ∧
      PaidAsGoverned sampleProposal refundAction "refund.request" "order:A-1" "key-1" 10000
        sampleAmountRule policy.binding := by
  obtain ⟨policy, hparse, hrule⟩ := samplePolicy_parsed
  refine ⟨policy, hparse, hrule, ?_⟩
  refine (paid_as_governed_iff sampleProposal refundAction "order:A-1" "key-1"
    (by decide +kernel) (by decide +kernel) hparse hrule).mpr ?_
  intro n hn _ _
  have hgoverned : governedAmount refundAction = some 1200 := by decide +kernel
  rw [hgoverned] at hn
  cases hn
  exact ⟨by decide, Or.inl rfl, fun h => absurd h (by decide)⟩

/-- The rule allows a refund of nothing, and the payload pays ten times the limit. -/
theorem a_zero_refund_pays_above_the_limit :
    textAt zeroRefundAction "type" = some "refund_request" ∧
    tool_name_for zeroRefundAction = some "refund.request" ∧
    sampleVerdicts zeroRefundAction "refund.request" = some [.allow] ∧
    (payload_for_recommended_action zeroRefundAction sampleProposal "refund_request"
      "refund.request").toOption.map (intAt · amountKey) = some (some 50000) ∧
    ∃ policy, parse_action_tools_policy 10000 samplePolicyRecord = .ok policy ∧
      policy.rules.get? "operation.refund_request" = some (.amount_threshold sampleAmountRule) ∧
      ¬ PaidAsGoverned sampleProposal zeroRefundAction "refund.request" "order:A-1" "key-1" 10000
        sampleAmountRule policy.binding := by
  obtain ⟨policy, hparse, hrule⟩ := samplePolicy_parsed
  refine ⟨by decide +kernel, by decide +kernel, by decide +kernel, by decide +kernel, policy,
    hparse, hrule, ?_⟩
  intro h
  obtain ⟨-, -, hpays⟩ := h.pays (by decide +kernel) (parsed_amount_rule hparse hrule)
    (by decide +kernel : governedAmount zeroRefundAction = some 0) (by decide) rfl
  have hcents : (amount_to_cents Int (textAt zeroRefundAction "amount")).toOption =
      some (some 50000) := by decide +kernel
  rw [hpays rfl] at hcents
  cases hcents

end operious.agents.tools
