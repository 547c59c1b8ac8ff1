-- Which operation governance sees behind the metadata of an action. The fields of the action win
-- over what the registered operation declares, so an action can name another operation, or take the
-- approval away from its own.
import Operious.Tools.TenantActionPolicy

namespace operious.agents.tools

open operious.governance

variable {F : Type} [Interpreter F]

/-! ## The texts of the registry -/

/-- A text that reads as itself. -/
def Plain (s : String) : Prop := strip s = s ∧ s.isEmpty = false

instance (s : String) : Decidable (Plain s) := inferInstanceAs (Decidable (_ ∧ _))

omit [Interpreter F] in
theorem text_of_plain {s : String} (h : Plain s) : (JsonValue.str s : JsonValue F).text = some s := by
  unfold JsonValue.text
  simp [h.1, h.2]

structure Readable (operation : RegisteredOperation F) : Prop where
  id : Plain operation.operation_id
  tool : Plain operation.tool_name
  kind : Plain operation.commitment_kind.value
  policy : Plain operation.approval_policy.value
  expr : Plain operation.target_resource_expr
  apart : operation.tool_name ≠ operation.operation_id

variable {operation : RegisteredOperation F}

theorem readable_registered (h : operation ∈ registeredOperations) : Readable operation := by
  simp only [registeredOperations, List.mem_cons, List.not_mem_nil, or_false] at h
  rcases h with rfl | rfl | rfl | rfl | rfl | rfl | rfl | rfl
  all_goals
    simp only [warrantyClaim, replacementOrder, refundRequest, warehouseRepairReport,
      repairDispatch, replacementDispatch, warrantyDispatch, repairBooking, dispatchOperation]
    constructor <;> dsimp only <;> decide +kernel

variable {tool_name : String}

theorem registeredByTool_some (h : registeredByTool tool_name = some operation) :
    operation ∈ registeredOperations ∧ operation.tool_name = tool_name := by
  unfold registeredByTool at h
  exact ⟨List.mem_of_find?_eq_some h, by simpa using List.find?_some h⟩

theorem resolve_by_tool (h : registeredByTool tool_name = some operation)
    (action_type : Option String) :
    resolve_operation .empty (some tool_name) action_type =
      some (.from_registered operation action_type) := by
  unfold resolve_operation resolve_explicit_metadata textAt
  simp [h]

/-! ## The metadata under the keys of an operation -/

def declared (operation : RegisteredOperation F) : List (String × JsonValue F) :=
  [(operationIdKey, .str operation.operation_id),
   (commitmentKindKey, .str operation.commitment_kind.value),
   (approvalPolicyKey, .str operation.approval_policy.value),
   (targetResourceExprKey, .str operation.target_resource_expr)]

omit [Interpreter F] in
theorem declared_distinct (operation : RegisteredOperation F) :
    ((declared operation).map Prod.fst).Nodup := by
  simp only [declared, List.map_cons, List.map_nil]
  decide

omit [Interpreter F] in
theorem operation_metadata_registered (operation : RegisteredOperation F)
    (action_type : Option String) :
    operation_metadata (some (.from_registered operation action_type)) =
      Dict.ofList (declared operation) := rfl

variable {value : JsonValue F}

section

variable {proposal : Proposal F} {action : JsonObject F} {action_type tool_name : String}
  {target_resource idempotency_key : String} {operation : RegisteredOperation F}

/-- The metadata before any field of the action is in it. -/
def registeredBase (proposal : Proposal F) (action_type tool_name target_resource
    idempotency_key : String) (operation : RegisteredOperation F) : JsonObject F :=
  (baseMetadata proposal action_type tool_name target_resource idempotency_key).update
    (Dict.ofList (declared operation)).items

section

omit [Interpreter F]

theorem get?_registeredBase (k : String) :
    (registeredBase proposal action_type tool_name target_resource idempotency_key operation).get? k =
      (Dict.find k (declared operation)).or
        ((baseMetadata proposal action_type tool_name target_resource idempotency_key).get? k) := by
  unfold registeredBase
  rw [Dict.get?_update _ (Dict.distinct _)]
  exact congrArg (Option.or · _) (Dict.get?_ofList (declared_distinct operation) k)

theorem find_commitmentKind : Dict.find commitmentKindKey (declared operation) =
    some (.str operation.commitment_kind.value) := by
  simp [declared, Dict.find, operationIdKey, commitmentKindKey]

theorem get?_base_tool_name : (registeredBase proposal action_type tool_name target_resource
    idempotency_key operation).get? "tool_name" = some (.str tool_name) := by
  rw [get?_registeredBase]
  unfold baseMetadata
  rw [Dict.get?_ofList (by simp)]
  simp [declared, Dict.find, operationIdKey, commitmentKindKey, approvalPolicyKey,
    targetResourceExprKey]

end

theorem request_metadata_resolved (h : resolve_operation .empty (some tool_name)
      (some action_type) = some (.from_registered operation (some action_type))) :
    request_metadata proposal action action_type tool_name target_resource idempotency_key =
      withIssueCategory proposal (withPayloadFields action (withActionFields action
        (registeredBase proposal action_type tool_name target_resource idempotency_key
          operation))) := by
  have hkind : commitmentKindKey ∈ (registeredBase proposal action_type tool_name target_resource
      idempotency_key operation).keys := by
    rw [Dict.mem_keys_iff, get?_registeredBase, find_commitmentKind]
    rfl
  unfold request_metadata
  simp only [h, operation_metadata_registered]
  have hfallback := @withFallbackKind_of_mem F action _ hkind
  unfold registeredBase at hfallback ⊢
  rw [hfallback]

theorem get?_operation_key (h : registeredByTool tool_name = some operation) {key : String}
    (hkey : key ∈ [operationIdKey, commitmentKindKey, approvalPolicyKey, targetResourceExprKey])
    (hvalue : Dict.find key (declared operation) = some value) :
    (request_metadata proposal action action_type tool_name target_resource
      idempotency_key).get? key = some ((metadataValue action key).getD value) := by
  have hplain : key ∉ actionStructuralKeys ∧ key ∉ payloadMetadataKeys ∧ key ≠ "issue_category" := by
    simp only [List.mem_cons, List.not_mem_nil, or_false] at hkey
    rcases hkey with rfl | rfl | rfl | rfl <;> decide
  rw [request_metadata_resolved (resolve_by_tool h _), get?_withIssueCategory _ _ hplain.2.2,
    get?_withPayloadFields, if_neg hplain.2.1, get?_withActionFields, if_neg hplain.1,
    get?_registeredBase, hvalue]
  cases metadataValue action key <;> rfl

theorem textAt_tool_name (h : registeredByTool tool_name = some operation) :
    textAt (request_metadata proposal action action_type tool_name target_resource
      idempotency_key) "tool_name" = some tool_name := by
  obtain ⟨hmem, hname⟩ := registeredByTool_some h
  have hplain := (readable_registered hmem).tool
  rw [hname] at hplain
  unfold textAt
  rw [request_metadata_resolved (resolve_by_tool h _), get?_withIssueCategory _ _ (by decide),
    get?_withPayloadFields, if_neg (by decide), get?_withActionFields, if_pos (by decide),
    get?_base_tool_name, Option.bind_some]
  exact text_of_plain hplain

theorem textAt_operation_key (h : registeredByTool tool_name = some operation) {key s : String}
    (hkey : key ∈ [operationIdKey, commitmentKindKey, approvalPolicyKey, targetResourceExprKey])
    (hvalue : Dict.find key (declared operation) = some (.str s)) (hs : Plain s) :
    textAt (request_metadata proposal action action_type tool_name target_resource
      idempotency_key) key =
      (metadataValue action key).elim (some s) (·.text) := by
  unfold textAt
  rw [get?_operation_key h hkey hvalue, Option.bind_some]
  cases metadataValue action key with
  | none => exact text_of_plain hs
  | some value => rfl

end

/-! ## The operation that is resolved -/

/-- The resolved operation has the id, the commitment and the approval policy of `operation`. -/
def SameOperation (resolved : Option (ResolvedOperation F)) (operation : RegisteredOperation F) :
    Prop :=
  ∃ op, resolved = some op ∧ op.operation_id = some operation.operation_id ∧
    op.commitment_kind = some operation.commitment_kind ∧
    op.approval_policy = some operation.approval_policy

omit [Interpreter F] in
theorem text_not_empty {s : String} (h : value.text = some s) : s.isEmpty = false := by
  unfold JsonValue.text at h
  split at h
  · split at h
    · cases h
    · rename_i hne
      cases h
      simpa using hne
  · cases h

variable {metadata : JsonObject F}

omit [Interpreter F] in
theorem textAt_not_empty {key s : String} (h : textAt metadata key = some s) :
    s.isEmpty = false := by
  unfold textAt at h
  obtain ⟨value, -, hvalue⟩ := Option.bind_eq_some_iff.mp h
  exact text_not_empty hvalue

/-- Metadata that says anything of an operation has to say all of it: what it leaves out is not
filled in from the registry. Only metadata that says nothing falls back to the tool. -/
theorem resolve_same_iff (h : registeredByTool tool_name = some operation)
    (action_type : Option String) :
    SameOperation (resolve_operation metadata (some tool_name) action_type) operation ↔
      (textAt metadata operationIdKey = some operation.operation_id ∧
        (textAt metadata commitmentKindKey).bind CommitmentKind.ofText =
          some operation.commitment_kind ∧
        (textAt metadata approvalPolicyKey).bind ApprovalPolicy.ofText =
          some operation.approval_policy) ∨
      (textAt metadata operationIdKey = none ∧
        (textAt metadata commitmentKindKey).bind CommitmentKind.ofText = none ∧
        (textAt metadata approvalPolicyKey).bind ApprovalPolicy.ofText = none ∧
        textAt metadata targetResourceExprKey = none) := by
  obtain ⟨hmem, hname⟩ := registeredByTool_some h
  have hreadable := readable_registered hmem
  unfold resolve_operation resolve_explicit_metadata
  by_cases hsilent : textAt metadata operationIdKey = none ∧
      (textAt metadata commitmentKindKey).bind CommitmentKind.ofText = none ∧
      (textAt metadata approvalPolicyKey).bind ApprovalPolicy.ofText = none ∧
      textAt metadata targetResourceExprKey = none
  · simp only [if_pos hsilent, Option.bind_some, h]
    exact iff_of_true ⟨_, rfl, rfl, rfl, rfl⟩ (Or.inr hsilent)
  · simp only [if_neg hsilent]
    cases hid : textAt metadata operationIdKey with
    | some operation_id =>
      have hne := textAt_not_empty hid
      simp [SameOperation, orStr, hne]
    | none =>
      -- The id falls back to the tool's name, which is no id of an operation.
      have hne : tool_name.isEmpty = false := by
        rw [← hname]
        exact hreadable.tool.2
      have hapart := hreadable.apart
      rw [hname] at hapart
      apply iff_of_false
      · rintro ⟨op, hop, hop_id, -⟩
        cases hop
        simp only [orStr, hne, Bool.false_eq_true, if_false, Option.some.injEq] at hop_id
        exact hapart hop_id
      · rintro (⟨hsome, -⟩ | ⟨-, hrest⟩)
        · cases hsome
        · exact hsilent ⟨hid, hrest⟩

/-! ## What the fields of the action do to it -/

/-- The action says nothing of an operation, or just what its own operation says. -/
structure KeepsIdentity (action : JsonObject F) (operation : RegisteredOperation F) : Prop where
  id : ∀ value, metadataValue action operationIdKey = some value →
    value.text = some operation.operation_id
  kind : ∀ value, metadataValue action commitmentKindKey = some value →
    value.text.bind CommitmentKind.ofText = some operation.commitment_kind
  policy : ∀ value, metadataValue action approvalPolicyKey = some value →
    value.text.bind ApprovalPolicy.ofText = some operation.approval_policy

/-- The action has a field for everything that an operation says, and none of them can be read. -/
structure ErasesIdentity (action : JsonObject F) : Prop where
  id : ∃ value, metadataValue action operationIdKey = some value ∧ value.text = none
  kind : ∃ value, metadataValue action commitmentKindKey = some value ∧
    value.text.bind CommitmentKind.ofText = none
  policy : ∃ value, metadataValue action approvalPolicyKey = some value ∧
    value.text.bind ApprovalPolicy.ofText = none
  expr : ∃ value, metadataValue action targetResourceExprKey = some value ∧ value.text = none

theorem read_eq_default {α β : Type} {o : Option α} {f : α → Option β} {b : β} :
    o.elim (some b) f = some b ↔ ∀ a, o = some a → f a = some b := by
  cases o <;> simp

theorem read_eq_none {α β : Type} {o : Option α} {f : α → Option β} {b : β} :
    o.elim (some b) f = none ↔ ∃ a, o = some a ∧ f a = none := by
  cases o <;> simp

section

variable {proposal : Proposal F} {action : JsonObject F} {action_type tool_name : String}
  {target_resource idempotency_key : String} {operation : RegisteredOperation F}

theorem textAt_bind_operation_key (h : registeredByTool tool_name = some operation) {α : Type}
    {ofText : String → Option α} {key s : String} {a : α}
    (hkey : key ∈ [operationIdKey, commitmentKindKey, approvalPolicyKey, targetResourceExprKey])
    (hvalue : Dict.find key (declared operation) = some (.str s)) (hs : Plain s)
    (hof : ofText s = some a) :
    (textAt (request_metadata proposal action action_type tool_name target_resource
      idempotency_key) key).bind ofText =
      (metadataValue action key).elim (some a) (·.text.bind ofText) := by
  rw [textAt_operation_key h hkey hvalue hs]
  cases metadataValue action key with
  | none => simp [hof]
  | some value => rfl

theorem same_operation_iff (h : registeredByTool tool_name = some operation)
    (resolved_type : Option String) :
    SameOperation (resolve_operation (request_metadata proposal action action_type tool_name
      target_resource idempotency_key) (some tool_name) resolved_type) operation ↔
      KeepsIdentity action operation ∨ ErasesIdentity action := by
  have hreadable := readable_registered (registeredByTool_some h).1
  have hid := @textAt_operation_key F _ proposal action action_type tool_name target_resource
    idempotency_key operation h operationIdKey _ (by simp) rfl hreadable.id
  have hkind := @textAt_bind_operation_key F _ proposal action action_type tool_name target_resource
    idempotency_key operation h _ CommitmentKind.ofText commitmentKindKey _ _ (by simp) rfl
    hreadable.kind (CommitmentKind.ofText_value _)
  have hpolicy := @textAt_bind_operation_key F _ proposal action action_type tool_name
    target_resource idempotency_key operation h _ ApprovalPolicy.ofText approvalPolicyKey _ _
    (by simp) rfl hreadable.policy (ApprovalPolicy.ofText_value _)
  have hexpr := @textAt_operation_key F _ proposal action action_type tool_name target_resource
    idempotency_key operation h targetResourceExprKey _ (by simp) rfl hreadable.expr
  rw [resolve_same_iff h, hid, hkind, hpolicy, hexpr]
  simp only [read_eq_default, read_eq_none]
  exact or_congr ⟨fun ⟨a, b, c⟩ => ⟨a, b, c⟩, fun ⟨a, b, c⟩ => ⟨a, b, c⟩⟩
    ⟨fun ⟨a, b, c, d⟩ => ⟨a, b, c, d⟩, fun ⟨a, b, c, d⟩ => ⟨a, b, c, d⟩⟩

end

/-! ## The decision of the policy -/

section

variable {repository : Option (TenantConfigurationRepository F)} {policy_type : String}
  {ceiling : Int} {context : GovernanceContext (AgentActionSubject F)}

variable {r : PolicyEvaluationResult}

theorem evaluate_allow {results : List PolicyEvaluationResult}
    (h : TenantActionPolicy.evaluate repository policy_type ceiling context = .ok results)
    (hr : r ∈ results) (hallow : r.decision = .allow) :
    ∃ record policy, parse_action_tools_policy ceiling record = .ok policy ∧
      evaluateParsed policy context.subject.metadata = .ok r := by
  have honly {reason binding} (heq : Except.ok [deny reason binding] =
      (Except.ok results : Except PyException (List PolicyEvaluationResult))) : False := by
    cases heq
    rw [List.mem_singleton.mp hr] at hallow
    cases hallow
  unfold TenantActionPolicy.evaluate at h
  split at h
  · exact (honly h).elim
  · split at h
    · exact (honly h).elim
    · split at h
      · cases h
      · exact (honly h).elim
      · rename_i record _
        split at h
        · exact (honly h).elim
        · cases h
        · rename_i policy hparse
          split at h
          · cases h
          · rename_i result heval
            cases h
            rw [List.mem_singleton.mp hr]
            exact ⟨record, policy, hparse, heval⟩

theorem evaluateParsed_allow {policy : ParsedActionPolicy F}
    (hsame : SameOperation (resolve_operation metadata (textAt metadata "tool_name")
      (textAt metadata "action_type")) operation) (h : evaluateParsed policy metadata = .ok r)
    (hallow : r.decision = .allow) :
    operation.approval_policy = .tenant_policy ∧
      ∃ rule, policy.rules.get? operation.operation_id = some rule ∧
        evaluate_operation_rule metadata rule policy.binding = .ok r := by
  obtain ⟨op, hop, hid, hkind, hpolicy⟩ := hsame
  unfold evaluateParsed at h
  simp only [hop, hkind, hpolicy] at h
  cases happroval : operation.approval_policy with
  | always_require_approval =>
    simp only [happroval] at h
    cases h
    cases hallow
  | tenant_policy =>
    simp only [happroval, rule_for, hid, Option.bind_some] at h
    cases hrule : policy.rules.get? operation.operation_id with
    | none =>
      simp only [hrule] at h
      cases h
      cases hallow
    | some rule =>
      simp only [hrule] at h
      exact ⟨rfl, rule, rfl, h⟩

end

/-- Governance judges an action as the operation of its tool: the policy resolves that operation,
never allows one that always needs an approval, and allows by the tenant's rule for it alone. -/
structure Governed (metadata : JsonObject F) (operation : RegisteredOperation F) : Prop where
  same : SameOperation (resolve_operation metadata (textAt metadata "tool_name")
    (textAt metadata "action_type")) operation
  approval : operation.approval_policy = .always_require_approval →
    ∀ (repository : Option (TenantConfigurationRepository F)) policy_type ceiling context results r,
      context.subject.metadata = metadata →
      TenantActionPolicy.evaluate repository policy_type ceiling context = .ok results →
      r ∈ results → r.decision ≠ .allow
  own_rule : ∀ (repository : Option (TenantConfigurationRepository F)) policy_type ceiling context
      results r, context.subject.metadata = metadata →
      TenantActionPolicy.evaluate repository policy_type ceiling context = .ok results →
      r ∈ results → r.decision = .allow →
      ∃ record policy rule, parse_action_tools_policy ceiling record = .ok policy ∧
        policy.rules.get? operation.operation_id = some rule ∧
        evaluate_operation_rule metadata rule policy.binding = .ok r

theorem Governed.of_same
    (h : SameOperation (resolve_operation metadata (textAt metadata "tool_name")
      (textAt metadata "action_type")) operation) : Governed metadata operation where
  same := h
  approval halways repository policy_type ceiling context results r hmeta heval hr hallow := by
    obtain ⟨record, policy, -, hparsed⟩ := evaluate_allow heval hr hallow
    rw [hmeta] at hparsed
    obtain ⟨htenant, -⟩ := evaluateParsed_allow h hparsed hallow
    rw [halways] at htenant
    cases htenant
  own_rule repository policy_type ceiling context results r hmeta heval hr hallow := by
    obtain ⟨record, policy, hparse, hparsed⟩ := evaluate_allow heval hr hallow
    rw [hmeta] at hparsed
    obtain ⟨-, rule, hrule, hresult⟩ := evaluateParsed_allow h hparsed hallow
    exact ⟨record, policy, rule, hparse, hrule, hresult⟩

/-- An action for a registered tool is governed as its operation exactly when its fields leave the
operation alone, or wipe out everything that names one. -/
theorem governed_iff (proposal : Proposal F) (action : JsonObject F) {tool_name : String}
    {operation : RegisteredOperation F} (target_resource idempotency_key : String)
    (_ : tool_name_for action = some tool_name)
    (h : registeredByTool tool_name = some operation) :
    Governed (request_metadata proposal action (actionTypeOf action) tool_name target_resource
      idempotency_key) operation ↔ KeepsIdentity action operation ∨ ErasesIdentity action := by
  constructor
  · intro hgoverned
    have hsame := hgoverned.same
    rw [textAt_tool_name h] at hsame
    exact (same_operation_iff h _).mp hsame
  · intro hcond
    apply Governed.of_same
    rw [textAt_tool_name h]
    exact (same_operation_iff h _).mpr hcond

/-! ## A booking without its approval -/

def sampleProposal : Proposal Int where
  proposal_id := "proposal-1"
  session_id := some "session-1"
  execution_id := some "execution-1"
  dispatch_id := "dispatch-1"
  proposed_customer_reply := "We book a repair."
  resolution_category := "screen"
  confidence := 1

def samplePolicyRecord : TenantGovernancePolicyRecord Int where
  policy_id := "policy-1"
  policy_type := actionToolsPolicyType
  version := 1
  content_sha256 := "sha"
  parameters := .dict [("tools", .dict
    [("warranty.claim", .dict
       [("allow", .dict [("confidence_gte", .int 1), ("issue_category_in", .list [.str "screen"])]),
        ("else", .str "deny")]),
     ("replacement.order", .dict [("always", .str "deny")]),
     ("refund.request", .dict
       [("allow", .dict [("refund_amount_cents_lte", .int 5000)]), ("else", .str "deny")]),
     ("warehouse.repair.report", .dict
       [("allow", .dict [("severity_in", .list [.str "low"])]),
        ("require_approval", .dict [("severity_in", .list [.str "high"])])]),
     ("repair.booking", .dict [("always", .str "allow")])])]

def bookingAction : JsonObject Int := Dict.ofList
  [("type", .str "repair_booking"), ("order_id", .str "A-1")]

/-- The same booking, with a field that is no structural key. -/
def relaxedBookingAction : JsonObject Int :=
  bookingAction.set approvalPolicyKey (.str "tenant_policy")

/-- What the policy sees of an action for a tool. -/
def sampleContext (action : JsonObject Int) (tool_name : String) :
    GovernanceContext (AgentActionSubject Int) where
  stage := .pre_execution
  action := "agent.tool_invocation"
  resource := "tool:" ++ tool_name
  tenant_id := some "acme"
  subject_kind := .agent_action
  subject :=
    { tool_name
      tenant_id := some "acme"
      metadata := request_metadata sampleProposal action (actionTypeOf action) tool_name "order:A-1"
        "key-1" }

def sampleVerdicts (action : JsonObject Int) (tool_name : String) : Option (List Decision) :=
  (TenantActionPolicy.evaluate (some fun _ _ => .ok (some samplePolicyRecord)) actionToolsPolicyType
    10000 (sampleContext action tool_name)).toOption.map (·.map (·.decision))

theorem not_governed_of_allow {action : JsonObject Int} {operation : RegisteredOperation Int}
    (halways : operation.approval_policy = .always_require_approval)
    (hallow : sampleVerdicts action tool_name = some [.allow]) :
    ¬ Governed (sampleContext action tool_name).subject.metadata operation := by
  intro h
  unfold sampleVerdicts at hallow
  cases heval : TenantActionPolicy.evaluate (some fun _ _ => .ok (some samplePolicyRecord))
    actionToolsPolicyType 10000 (sampleContext action tool_name) with
  | error exc =>
    rw [heval] at hallow
    cases hallow
  | ok results =>
    rw [heval] at hallow
    simp only [Except.toOption, Option.map_some, Option.some.injEq] at hallow
    obtain ⟨r, rfl, hr⟩ := List.map_eq_singleton_iff.mp hallow
    exact h.approval halways _ _ _ _ _ r rfl heval List.mem_cons_self hr

theorem a_booking_is_governed :
    Governed (request_metadata sampleProposal bookingAction "repair_booking" "repair.booking"
      "order:A-1" "key-1") repairBooking :=
  (governed_iff sampleProposal bookingAction "order:A-1" "key-1" (by decide +kernel) rfl).mpr
    (Or.inl ⟨(fun _ h => nomatch h), (fun _ h => nomatch h), fun _ h => nomatch h⟩)

/-- A booking always needs an approval, and the policy asks for one. With a field that names another
approval policy the same booking is allowed. -/
theorem a_booking_is_allowed_without_approval :
    tool_name_for relaxedBookingAction = some "repair.booking" ∧
    registeredByTool "repair.booking" = some (repairBooking : RegisteredOperation Int) ∧
    (repairBooking : RegisteredOperation Int).approval_policy = .always_require_approval ∧
    sampleVerdicts bookingAction "repair.booking" = some [.require_approval] ∧
    sampleVerdicts relaxedBookingAction "repair.booking" = some [.allow] ∧
    ¬ Governed (sampleContext relaxedBookingAction "repair.booking").subject.metadata
      (repairBooking : RegisteredOperation Int) := by
  have hallow : sampleVerdicts relaxedBookingAction "repair.booking" = some [.allow] := by
    decide +kernel
  exact ⟨by decide +kernel, rfl, rfl, by decide +kernel, hallow, not_governed_of_allow rfl hallow⟩

end operious.agents.tools
