-- What a channel service checks before it sends a reply: the draft, its proposal, the decision that
-- both name, and the credentials of the tenant. The email and the WhatsApp service make the same
-- checks of the records and differ in their credentials and in what a delivery is addressed to.
import Operious.Governance.Engine
import Operious.Resolution.Records

namespace operious.customer_reply

open operious.governance (PyException)
open operious.outbound (requiredText)
open operious.resolution

/-- The exceptions of a channel service, and what else a call may raise. -/
inductive SendError
  | not_found (text : String)
  | governance (text : String)
  | configuration (text : String)
  | provider (text : String)
  | raised (exc : PyException)

def valueError (text : String) : SendError := .raised ⟨"ValueError", text⟩

/-- A part that may raise, inside a call of the service. -/
def lift {α : Type} : Except PyException α → Except SendError α := Except.mapError .raised

def required_text (name value : String) : Except SendError String :=
  (requiredText name value).mapError valueError

/-- What the service reads before it reserves a delivery. -/
structure Repositories (Uuid Json : Type) where
  get_resolution_outbound_draft : Uuid → String →
    Except PyException (Option (ResolutionOutboundDraftRecord Uuid))
  get_resolution_proposal : Uuid → String →
    Except PyException (Option (ResolutionProposalRecord Uuid Json))
  get_decision : Uuid → String → Except PyException (Option (GovernanceDecisionRecord Uuid))
  load_channel_credentials : String → Except PyException Metadata
  resolve_active_channel_for_routing_address : String → String → Except PyException Bool

/-! ## The records -/

section

variable {Uuid Json : Type} [DecidableEq Uuid] [Sha256]

def textEntry (metadata : Metadata) (key : String) : Option String :=
  match metadata.get? key with
  | some (.str text) => some text
  | _ => none

def load_sendable_draft (repositories : Repositories Uuid Json) (draft_id : Uuid)
    (expected_tenant_id : String) : Except SendError (ResolutionOutboundDraftRecord Uuid) := do
  match ← lift (repositories.get_resolution_outbound_draft draft_id expected_tenant_id) with
  | none => throw (.not_found "outbound draft not found")
  | some draft =>
    if draft.status ≠ .ready then throw (.governance "outbound draft is not ready to send")
    else if draft.governance_decision_id = none then
      throw (.governance "outbound draft has no governance decision")
    else if draft.draft_body_sha256 ≠ sha256_text draft.draft_body then
      throw (.governance "outbound draft body hash mismatch")
    else if (textEntry draft.metadata "localized_reply").any (· ≠ draft.draft_body) then
      throw (.governance "outbound draft localized reply mismatch")
    else return draft

def load_sendable_proposal (repositories : Repositories Uuid Json) (proposal_id : Uuid)
    (expected_tenant_id : String) : Except SendError (ResolutionProposalRecord Uuid Json) := do
  match ← lift (repositories.get_resolution_proposal proposal_id expected_tenant_id) with
  | none => throw (.not_found "resolution proposal not found")
  | some proposal =>
    if proposal.status ≠ .send_eligible ∨ proposal.governance_decision_id = none then
      throw (.governance "resolution proposal is not send eligible")
    else return proposal

structure OutboxGuards (Uuid : Type) where
  expected_governance_decision_id : Option Uuid := none
  expected_draft_body_sha256 : Option String := none

def assert_expected_outbox_guards [Stdlib Uuid] (draft : ResolutionOutboundDraftRecord Uuid)
    (guards : OutboxGuards Uuid) : Except SendError Unit :=
  if guards.expected_governance_decision_id.any (draft.governance_decision_id ≠ some ·) then
    throw (.governance "outbox governance decision mismatch")
  else if guards.expected_draft_body_sha256.any
      (fun digest => draft.draft_body_sha256 ≠ Stdlib.lower Uuid (strip digest)) then
    throw (.governance "outbox draft body hash mismatch")
  else return ()

def assert_draft_and_proposal_lineage (draft : ResolutionOutboundDraftRecord Uuid)
    (proposal : ResolutionProposalRecord Uuid Json) : Except SendError Unit :=
  if draft.tenant_id ≠ proposal.tenant_id then throw (.governance "tenant lineage mismatch")
  else if draft.proposal_id ≠ proposal.proposal_id then
    throw (.governance "proposal lineage mismatch")
  else if draft.governance_decision_id ≠ proposal.governance_decision_id then
    throw (.governance "governance decision lineage mismatch")
  else return ()

def governed_reply (draft : ResolutionOutboundDraftRecord Uuid) : String :=
  (orStr (textEntry draft.metadata "canonical_reply") (some draft.draft_body)).getD ""

def assert_persisted_governance_allow [Stdlib Uuid] (repositories : Repositories Uuid Json)
    (draft : ResolutionOutboundDraftRecord Uuid) (proposal : ResolutionProposalRecord Uuid Json)
    (expected_tenant_id : String) : Except SendError Unit := do
  match draft.governance_decision_id with
  | none => throw (.governance "outbound draft has no governance decision")
  | some decision_id =>
    match ← lift (repositories.get_decision decision_id expected_tenant_id) with
    | none => throw (.governance "governance decision is not visible for tenant")
    | some decision =>
      if decision.decision ≠ "allow" then throw (.governance "governance decision is not allow")
      else if decision.tenant_id ≠ some expected_tenant_id then
        throw (.governance "governance decision tenant mismatch")
      else if strOf (decision.metadata.get? "proposal_id") ≠ Stdlib.str proposal.proposal_id then
        throw (.governance "governance decision proposal mismatch")
      else if decision.metadata.get? "proposed_reply_sha256" ≠
          some (.str (sha256_text (governed_reply draft))) then
        throw (.governance "governance decision reply hash mismatch")
      else return ()

/-- The checks of the records, in the order of `_send_draft_scoped`, and the decision's id. -/
def sendable [Stdlib Uuid] (repositories : Repositories Uuid Json) (draft_id : Uuid)
    (expected_tenant_id : String) (guards : OutboxGuards Uuid) :
    Except SendError (ResolutionOutboundDraftRecord Uuid × Uuid) := do
  let draft ← load_sendable_draft repositories draft_id expected_tenant_id
  let proposal ← load_sendable_proposal repositories draft.proposal_id expected_tenant_id
  assert_expected_outbox_guards draft guards
  assert_draft_and_proposal_lineage draft proposal
  assert_persisted_governance_allow repositories draft proposal expected_tenant_id
  match draft.governance_decision_id with
  | none => throw (.governance "outbound draft has no governance decision")
  | some decision_id => return (draft, decision_id)

end

/-! ## Credentials -/

section

variable {Uuid Json : Type}

/-- `_optional_credential_string`: the first of the keys with a text that is not blank. -/
def optional_credential_string (credentials : Metadata) (keys : List String) : Option String :=
  keys.findSome? fun key => optional_text (textEntry credentials key)

def credential_string (channel : String) (credentials : Metadata) (key : String)
    (others : List String) : Except SendError String :=
  match optional_credential_string credentials (key :: others) with
  | none => throw (.configuration
      ("tenant " ++ channel ++ " credential " ++ key ++ " is required"))
  | some text => return text

structure SesCredentials where
  access_key_id : String
  secret_access_key : String
  region : String
  source_email_address : String
  session_token : Option String
  endpoint_url : Option String
  configuration_set_name : Option String

variable [Stdlib Uuid]

def resolved_source_email_address (Uuid : Type) [Stdlib Uuid] (credentials : Metadata)
    (requested_source : Option String) : Except SendError String :=
  let configured := optional_credential_string credentials
    ["source_email_address", "from_email_address", "ses_source_email_address"]
  let requested := optional_text requested_source
  match requested, configured with
  | some r, some c =>
    if Stdlib.lower Uuid r ≠ Stdlib.lower Uuid c then
      throw (.configuration "requested source_email_address does not match tenant credentials")
    else return Stdlib.lower Uuid r
  | some r, none => return Stdlib.lower Uuid r
  | none, some c => return Stdlib.lower Uuid c
  | none, none => throw (.configuration "tenant email source_email_address is required")

/-- `source.rsplit("@", 1)[1]`, for a text with an at sign. -/
def domainOf (source : String) : Option String :=
  if '@' ∈ source.toList then
    some (String.ofList ((source.toList.reverse.takeWhile (· ≠ '@')).reverse))
  else none

def email_routed (repositories : Repositories Uuid Json) (tenant_id source : String) :
    Except PyException Bool := do
  let routed ← repositories.resolve_active_channel_for_routing_address source tenant_id
  match routed, domainOf source with
  | false, some domain =>
    repositories.resolve_active_channel_for_routing_address (Stdlib.lower Uuid domain) tenant_id
  | routed, _ => return routed

def load_ses_credentials (repositories : Repositories Uuid Json) (tenant_id : String)
    (source_email_address : Option String) : Except SendError SesCredentials := do
  let credentials ← lift (repositories.load_channel_credentials tenant_id)
  let source ← resolved_source_email_address Uuid credentials source_email_address
  let routed ← lift (email_routed repositories tenant_id source)
  if !routed then throw (.configuration "active email channel route is not configured")
  else return {
    access_key_id := ← credential_string "email" credentials "access_key_id" ["aws_access_key_id"]
    secret_access_key := ← credential_string "email" credentials "secret_access_key"
      ["aws_secret_access_key"]
    session_token := optional_credential_string credentials ["session_token", "aws_session_token"]
    region := ← credential_string "email" credentials "region" ["aws_region", "ses_region"]
    source_email_address := source
    endpoint_url := optional_credential_string credentials ["endpoint_url", "ses_endpoint_url"]
    configuration_set_name := optional_credential_string credentials
      ["configuration_set_name", "ses_configuration_set_name"] }

structure WhatsAppCredentials where
  access_token : String
  phone_number_id : String
  graph_api_version : String
  graph_api_base_url : String

def resolved_phone_number_id (credentials : Metadata) (requested_phone_number_id : Option String) :
    Except SendError String :=
  let configured := optional_credential_string credentials
    ["phone_number_id", "whatsapp_phone_number_id"]
  match optional_text requested_phone_number_id, configured with
  | some r, some c =>
    if r ≠ c then
      throw (.configuration "requested phone_number_id does not match tenant credentials")
    else return r
  | some r, none => return r
  | none, some c => return c
  | none, none => throw (.configuration "tenant whatsapp phone_number_id is required")

def load_whatsapp_credentials (repositories : Repositories Uuid Json) (tenant_id : String)
    (phone_number_id : Option String) : Except SendError WhatsAppCredentials := do
  let credentials ← lift (repositories.load_channel_credentials tenant_id)
  let resolved ← resolved_phone_number_id credentials phone_number_id
  let routed ← lift (repositories.resolve_active_channel_for_routing_address resolved tenant_id)
  if !routed then throw (.configuration "active whatsapp channel route is not configured")
  else return {
    access_token := ← credential_string "whatsapp" credentials "access_token"
      ["graph_api_access_token", "bearer_token"]
    phone_number_id := resolved
    graph_api_version := ← credential_string "whatsapp" credentials "graph_api_version" []
    graph_api_base_url := (optional_credential_string credentials ["graph_api_base_url"]).getD
      "https://graph.facebook.com" }

end

/-! ## What is reserved and sent -/

/-- A send that passed its checks. `target` is what the delivery is addressed to. -/
structure Prepared (Uuid Target : Type) where
  delivery_id : Uuid
  tenant_id : String
  draft_id : Uuid
  proposal_id : Uuid
  governance_decision_id : Uuid
  target : Target
  draft_body_sha256 : String
  allow_failed_delivery_retry : Bool

section

variable {Uuid Json : Type} [DecidableEq Uuid] [Stdlib Uuid] [Sha256]

/-- The id of the delivery of a draft under a decision, in the namespace of a channel. -/
def derive_delivery_id (ns : Uuid) (tenant_id : String) (draft_id governance_decision_id : Uuid) :
    Except SendError Uuid := do
  let tenant ← required_text "tenant_id" tenant_id
  return Stdlib.uuid5 ns
    (tenant ++ "|" ++ Stdlib.str draft_id ++ "|" ++ Stdlib.str governance_decision_id)

def derive_email_customer_reply_delivery_id (tenant_id : String)
    (draft_id governance_decision_id : Uuid) : Except SendError Uuid :=
  derive_delivery_id (Stdlib.uuid "2b7b4f5a-0001-4b01-9001-000000000004") tenant_id draft_id
    governance_decision_id

def derive_whatsapp_customer_reply_delivery_id (tenant_id : String)
    (draft_id governance_decision_id : Uuid) : Except SendError Uuid :=
  derive_delivery_id (Stdlib.uuid "2b7b4f5a-0001-4b01-9001-000000000003") tenant_id draft_id
    governance_decision_id

structure EmailTarget where
  source_email_address : String
  recipient_email_address : String
  subject : String
  in_reply_to_message_id : Option String
  references_header : Option String
  deriving DecidableEq

/-- The arguments of `EmailCustomerReplySendService.send_draft`, its ids parsed. -/
structure EmailSend (Uuid : Type) where
  draft_id : Uuid
  tenant_id : String
  expected_tenant_id : String
  recipient_email_address : String
  subject : String
  source_email_address : Option String := none
  in_reply_to_message_id : Option String := none
  references_header : Option String := none
  guards : OutboxGuards Uuid := {}
  allow_failed_delivery_retry : Bool := false

/-- `send_draft` of the email service, up to the reservation. -/
def EmailSend.prepare (args : EmailSend Uuid) (repositories : Repositories Uuid Json) :
    Except SendError (Prepared Uuid EmailTarget) := do
  if args.tenant_id ≠ args.expected_tenant_id then
    throw (valueError "tenant_id does not match expected_tenant_id")
  let recipient ← required_text "recipient_email_address" args.recipient_email_address
  let subject ← required_text "subject" args.subject
  let (draft, governance_decision_id) ← sendable repositories args.draft_id args.expected_tenant_id
    args.guards
  let credentials ← load_ses_credentials repositories args.tenant_id args.source_email_address
  let delivery_id ← derive_email_customer_reply_delivery_id args.tenant_id draft.draft_id
    governance_decision_id
  return {
    delivery_id
    tenant_id := args.tenant_id
    draft_id := draft.draft_id
    proposal_id := draft.proposal_id
    governance_decision_id
    target :=
      { source_email_address := credentials.source_email_address
        recipient_email_address := recipient
        subject
        in_reply_to_message_id := optional_text args.in_reply_to_message_id
        references_header := optional_text args.references_header }
    draft_body_sha256 := draft.draft_body_sha256
    allow_failed_delivery_retry := args.allow_failed_delivery_retry }

structure WhatsAppTarget where
  phone_number_id : String
  recipient_phone_number : String
  deriving DecidableEq

/-- The arguments of `WhatsAppCustomerReplySendService.send_draft`, its ids parsed. -/
structure WhatsAppSend (Uuid : Type) where
  draft_id : Uuid
  tenant_id : String
  expected_tenant_id : String
  recipient_phone_number : String
  phone_number_id : Option String := none
  guards : OutboxGuards Uuid := {}
  allow_failed_delivery_retry : Bool := false

/-- `send_draft` of the WhatsApp service, up to the reservation. -/
def WhatsAppSend.prepare (args : WhatsAppSend Uuid) (repositories : Repositories Uuid Json) :
    Except SendError (Prepared Uuid WhatsAppTarget) := do
  if args.tenant_id ≠ args.expected_tenant_id then
    throw (valueError "tenant_id does not match expected_tenant_id")
  let recipient ← required_text "recipient_phone_number" args.recipient_phone_number
  let (draft, governance_decision_id) ← sendable repositories args.draft_id args.expected_tenant_id
    args.guards
  let credentials ← load_whatsapp_credentials repositories args.tenant_id args.phone_number_id
  let delivery_id ← derive_whatsapp_customer_reply_delivery_id args.tenant_id draft.draft_id
    governance_decision_id
  return {
    delivery_id
    tenant_id := args.tenant_id
    draft_id := draft.draft_id
    proposal_id := draft.proposal_id
    governance_decision_id
    target := { phone_number_id := credentials.phone_number_id, recipient_phone_number := recipient }
    draft_body_sha256 := draft.draft_body_sha256
    allow_failed_delivery_retry := args.allow_failed_delivery_retry }

end

/-! ## A reply that may go out, to run the model on -/

def readyDraft : ResolutionOutboundDraftRecord String where
  draft_id := "t|p"
  tenant_id := "t"
  proposal_id := "p"
  session_id := "s"
  execution_id := "x"
  dispatch_id := "c"
  governance_decision_id := some "d"
  status := .ready
  draft_body := "Thank you, we are looking into it."
  draft_body_sha256 := "4f78201bb1acd1680fcaa7f20ed368a5b27517227e4d0e63fcdf8e66357d2107"
  updated_at := 0

def eligibleProposal : ResolutionProposalRecord String Unit where
  proposal_id := "p"
  tenant_id := "t"
  session_id := some "s"
  execution_id := some "x"
  dispatch_id := "c"
  proposed_customer_reply := "Thank you, we are looking into it."
  resolution_category := "delivery_delay"
  supervisor_verdict := .pass
  governance_verdict := .allow
  autonomy_decision := .auto_approved
  status := .send_eligible
  updated_at := 0
  governance_decision_id := some "d"

def allowDecision : GovernanceDecisionRecord String where
  decision_id := "d"
  decision := "allow"
  reason := "all rules allowed"
  tenant_id := some "t"
  subject_kind := "communication"
  metadata := Dict.ofList
    [("proposal_id", .str "p"), ("session_id", .str "s"), ("execution_id", .str "x"),
     ("dispatch_id", .str "c"), ("draft_id", .str "t~bp"),
     ("governed_action", .str "customer_reply.send"), ("source_channel", .str "email"),
     ("reply_recipient", .str "ana@example.com"), ("reply_thread_context", .str "thread"),
     ("proposed_reply_sha256",
      .str "4f78201bb1acd1680fcaa7f20ed368a5b27517227e4d0e63fcdf8e66357d2107")]

def storesOf (draft : ResolutionOutboundDraftRecord String)
    (proposal : ResolutionProposalRecord String Unit) (decision : GovernanceDecisionRecord String) :
    Repositories String Unit where
  get_resolution_outbound_draft draft_id tenant_id :=
    .ok (if draft.draft_id = draft_id ∧ draft.tenant_id = tenant_id then some draft else none)
  get_resolution_proposal proposal_id tenant_id :=
    .ok (if proposal.proposal_id = proposal_id ∧ proposal.tenant_id = tenant_id then some proposal
      else none)
  get_decision decision_id tenant_id :=
    .ok (if decision.decision_id = decision_id ∧ decision.tenant_id = some tenant_id then
      some decision else none)
  load_channel_credentials _ := .ok (Dict.ofList
    [("access_key_id", .str "key"), ("secret_access_key", .str "secret"), ("region", .str "eu"),
     ("source_email_address", .str "help@shop.example")])
  resolve_active_channel_for_routing_address _ _ := .ok true

def replySend : EmailSend String where
  draft_id := "t|p"
  tenant_id := "t"
  expected_tenant_id := "t"
  recipient_email_address := "ana@example.com"
  subject := "Re: Support request"
  allow_failed_delivery_retry := true

end operious.customer_reply
