-- Resolution proposals, the reply drafts made from them, and the governance decisions that both
-- name, as the stores keep them.
import Operious.Governance.Decisions
import Operious.Outbound.SendOutbox

namespace operious.resolution

open operious.outbound (requiredText)

/-! ## The vocabulary -/

inductive ResolutionProposalStatus
  | proposed | auto_approved | send_eligible | pending_human_approval | denied | failed
  deriving DecidableEq, Repr

inductive ResolutionOutboundDraftStatus
  | ready | pending_human_approval | denied | failed
  deriving DecidableEq, Repr

inductive ResolutionSupervisorVerdict
  | pass | needs_human_review | fail
  deriving DecidableEq, Repr

inductive ResolutionAutonomyDecision
  | auto_approved | needs_customer_info | needs_human_approval | denied
  deriving DecidableEq, Repr

inductive ResolutionGovernanceVerdict
  | allow | require_approval | escalate | deny | degrade | redact
  deriving DecidableEq, Repr

def ResolutionGovernanceVerdict.value : ResolutionGovernanceVerdict → String
  | allow => "allow"
  | require_approval => "require_approval"
  | escalate => "escalate"
  | deny => "deny"
  | degrade => "degrade"
  | redact => "redact"

/-! ## The records -/

structure ResolutionProposalRecord (Uuid Json : Type) where
  proposal_id : Uuid
  tenant_id : String
  session_id : Option String
  execution_id : Option String
  dispatch_id : String
  proposed_customer_reply : String
  resolution_category : String
  supervisor_verdict : ResolutionSupervisorVerdict
  governance_verdict : ResolutionGovernanceVerdict
  autonomy_decision : ResolutionAutonomyDecision
  status : ResolutionProposalStatus
  updated_at : Instant
  governance_decision_id : Option Uuid := none
  recommended_actions : List Json := []
  evidence : List Json := []
  gate_reasons : List String := []

structure ResolutionOutboundDraftRecord (Uuid : Type) where
  draft_id : Uuid
  tenant_id : String
  proposal_id : Uuid
  session_id : String
  execution_id : String
  dispatch_id : String
  governance_decision_id : Option Uuid
  status : ResolutionOutboundDraftStatus
  draft_body : String
  draft_body_sha256 : String
  updated_at : Instant
  metadata : Metadata := .empty

structure PolicyViolationRecord where
  policy_name : String
  rule_id : String
  decision : String
  detail : String

structure GovernanceDecisionRecord (Uuid : Type) where
  decision_id : Uuid
  decision : String
  reason : String
  request_id : Option String := none
  tenant_id : Option String := none
  subject_kind : String := "generic"
  violations : List PolicyViolationRecord := []
  metadata : Metadata := .empty

/-! ## Texts -/

/-- `hashlib.sha256(text.encode("utf-8")).hexdigest()`. -/
class Sha256 where
  sha256_text : String → String

export Sha256 (sha256_text)

/-- What the code relies on: a digest is 64 hexadecimal digits in lower case. -/
class LawfulSha256 [Sha256] : Prop where
  digest_length : ∀ text, (sha256_text text).toList.length = 64
  digest_hex : ∀ text, ∀ c ∈ (sha256_text text).toList, c ∈ "0123456789abcdef".toList

section

variable [Sha256] [LawfulSha256]

theorem digit_plain {text : String} {c : Char} (hc : c ∈ (sha256_text text).toList) :
    isSpace c = false ∧ c.toNat < 128 ∧ c.isUpper = false := by
  have hplain : "0123456789abcdef".toList.all
      (fun c => !isSpace c && c.toNat < 128 && !c.isUpper) = true := by decide
  have hdigit := List.all_eq_true.mp hplain c (LawfulSha256.digest_hex text c hc)
  simpa [and_assoc] using hdigit

theorem strip_digest (text : String) : strip (sha256_text text) = sha256_text text :=
  strip_eq_self fun _ hc => (digit_plain hc).1

theorem lower_digest (Uuid : Type) [Stdlib Uuid] [AsciiLower Uuid] (text : String) :
    Stdlib.lower Uuid (sha256_text text) = sha256_text text :=
  AsciiLower.lower_ascii _ fun _ hc => (digit_plain hc).2

theorem requiredSha256_digest (Uuid : Type) [Stdlib Uuid] [AsciiLower Uuid] (text : String) :
    outbound.requiredSha256 Uuid (sha256_text text) = .ok (sha256_text text) := by
  have hlen := LawfulSha256.digest_length text
  have hne : sha256_text text ≠ "" := by
    intro h
    simp [h] at hlen
  have hall : (sha256_text text).toList.any (!"0123456789abcdef".toList.contains ·) = false := by
    rw [List.any_eq_false]
    intro c hc
    rw [Bool.not_eq_true', Bool.not_eq_false]
    exact List.contains_iff_mem.mpr (LawfulSha256.digest_hex text c hc)
  have htext : outbound.requiredText "draft_body_sha256" (sha256_text text) =
      .ok (sha256_text text) := by
    simp [outbound.requiredText, strip_digest, hne]
  unfold outbound.requiredSha256
  rw [htext]
  simp only [bind, Except.bind, ascii.chars_eq_toList, lower_digest, hlen, hall]
  rfl

end

/-- The digests of a few texts, to run the model on. -/
def digests : List (String × String) :=
  [("Thank you, we are looking into it.",
    "4f78201bb1acd1680fcaa7f20ed368a5b27517227e4d0e63fcdf8e66357d2107"),
   ("Gracias, lo estamos revisando.",
    "4caf8fb7780664fb65a6720de3103558f027da1a57d623c68e3f50ab434aee87"),
   (" ", "36a9e7f1c95b82ffb99743e0c5c4ce95d83c9a430aac59f84ef3cbfab6145068")]

/-- The digest of the empty text, which also stands for those that are not in the table. -/
def emptyDigest : String := "e3b0c44298fc1c149afbf4c8996fb92427ae41e4649b934ca495991b7852b855"

instance : Sha256 where
  sha256_text text := ((digests.find? (·.1 = text)).map (·.2)).getD emptyDigest

theorem digest_mem (text : String) : sha256_text text ∈ emptyDigest :: digests.map (·.2) := by
  change ((digests.find? (·.1 = text)).map (·.2)).getD emptyDigest ∈ _
  cases h : digests.find? (·.1 = text) with
  | none => exact List.mem_cons_self
  | some p => exact List.mem_cons_of_mem _ (List.mem_map_of_mem (List.mem_of_find?_eq_some h))

theorem hex_ofList {l : List Char} (h : (l.length == 64 &&
      l.all (['0', '1', '2', '3', '4', '5', '6', '7', '8', '9', 'a', 'b', 'c', 'd', 'e',
        'f'].contains ·)) = true) :
    ((String.ofList l).toList.length == 64 &&
      (String.ofList l).toList.all ("0123456789abcdef".toList.contains ·)) = true := by
  rw [String.toList_ofList, show "0123456789abcdef".toList = ['0', '1', '2', '3', '4', '5', '6',
    '7', '8', '9', 'a', 'b', 'c', 'd', 'e', 'f'] from String.toList_ofList]
  exact h

theorem digests_hex : (emptyDigest :: digests.map (·.2)).all (fun d =>
    d.toList.length == 64 && d.toList.all ("0123456789abcdef".toList.contains ·)) = true := by
  rw [List.all_eq_true]
  intro d hd
  rcases List.mem_cons.mp hd with rfl | hd
  · exact hex_ofList (by decide +kernel)
  obtain ⟨entry, hentry, rfl⟩ := List.mem_map.mp hd
  rcases hentry with _ | ⟨_, _ | ⟨_, _ | ⟨_, hnone⟩⟩⟩
  · exact hex_ofList (by decide +kernel)
  · exact hex_ofList (by decide +kernel)
  · exact hex_ofList (by decide +kernel)
  · cases hnone

instance : LawfulSha256 where
  digest_length text := by
    have h := List.all_eq_true.mp digests_hex _ (digest_mem text)
    simp only [Bool.and_eq_true, beq_iff_eq] at h
    exact h.1
  digest_hex text c hc := by
    have h := List.all_eq_true.mp digests_hex _ (digest_mem text)
    simp only [Bool.and_eq_true] at h
    exact List.contains_iff_mem.mp (List.all_eq_true.mp h.2 c hc)

/-- `_optional_text`: a text that is not blank, stripped. -/
def optional_text (value : Option String) : Option String :=
  value.bind fun text => if (strip text).isEmpty then none else some (strip text)

/-- `str(value)` of what a lookup found. -/
def strOf : Option Value → String
  | none | some .none => "None"
  | some (.bool b) => if b then "True" else "False"
  | some (.int i) => toString i
  | some (.str s) => s

/-- `_metadata_text`: none of `None`, and else the text that is left of `str(value)`. -/
def metadata_text (metadata : Metadata) (key : String) : Option String :=
  match metadata.get? key with
  | none | some .none => none
  | value => optional_text (some (strOf value))

/-! ## Ids -/

section

variable {Uuid : Type} [Stdlib Uuid]

def resolutionProposalNamespace : Uuid := Stdlib.uuid "2b7b4f5a-0001-4b01-9001-000000000001"
def resolutionOutboundDraftNamespace : Uuid := Stdlib.uuid "2b7b4f5a-0001-4b01-9001-000000000002"

def derive_resolution_outbound_draft_id (tenant_id : String) (proposal_id : Uuid) :
    Except String Uuid := do
  let tenant ← requiredText "tenant_id" tenant_id
  .ok (Stdlib.uuid5 resolutionOutboundDraftNamespace (tenant ++ "|" ++ Stdlib.str proposal_id))

end

end operious.resolution
