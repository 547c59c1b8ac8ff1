-- The evidence of a reply: the citations of the retriever in one form.
import Mathlib.Data.List.Infix
import Operious.Resolution.Records
import Operious.Resolution.TaxonomyPolicy
import Operious.Runtime.MoneyGoodsCommitment

namespace operious.resolution

open operious.agents.tools

/-- What the code takes from the interpreter to read numbers and write texts. -/
class Numerals (F : Type) where
  /-- `int(x)`, which raises of a nan or an infinity. -/
  trunc : F → Except ArithmeticException Int
  /-- `int(x)` where `x.is_integer()`. -/
  integer : F → Option Int
  /-- `str(value)` of a value that is no string. -/
  str : JsonValue F → String

variable {F : Type}

/-- `bool(value)`. -/
def truthy [Interpreter F] : JsonValue F → Bool
  | .null => false
  | .bool b => b
  | .int i => i ≠ 0
  | .float x => Interpreter.truthy x
  | .str s => !s.isEmpty
  | .list items => !items.isEmpty
  | .dict items => !items.isEmpty

/-- `str(value)`. -/
def textOfValue [Numerals F] : JsonValue F → String
  | .str s => s
  | value => Numerals.str value

/-- `str(mapping.get(key) or "")`. -/
def strOrEmpty [Interpreter F] [Numerals F] (mapping : JsonObject F) (key : String) : String :=
  match mapping.get? key with
  | some value => if truthy value then textOfValue value else ""
  | none => ""

/-- A value that `isinstance(value, int)` is true of. -/
inductive PyInt
  | int (i : Int)
  | bool (b : Bool)
  deriving DecidableEq, Repr

/-- `_int_value(value, default=default)`. -/
def intValue [Numerals F] (value : Option (JsonValue F)) (default_ : Int) :
    Except ArithmeticException PyInt :=
  match value with
  | some (.int i) => .ok (.int i)
  | some (.bool b) => .ok (.bool b)
  | some (.float x) => (Numerals.trunc x).map .int
  | _ => .ok (.int default_)

def textValue : Option (JsonValue F) → String
  | some (.str s) => strip s
  | _ => ""

def floatValue [Interpreter F] (value : Option (JsonValue F)) : Except ArithmeticException F :=
  match value with
  | some (.int i) => Interpreter.ofInt i
  | some (.bool b) => Interpreter.ofInt (if b then 1 else 0)
  | some (.float x) => .ok x
  | _ => .ok Interpreter.zero

def optionalText (citation : JsonObject F) (field : String) : Option String :=
  match citation.get? field with
  | some (.str s) => some (strip s)
  | _ => none

/-- A number field that is left out where it is none. -/
def optionalInt [Numerals F] (citation : JsonObject F) (field : String) :
    Except ArithmeticException (Option Int) :=
  match citation.get? field with
  | some (.int i) => .ok (some i)
  | some (.bool b) => .ok (some (if b then 1 else 0))
  | some (.float x) => (Numerals.trunc x).map some
  | _ => .ok none

/-- A citation after `_normalise_evidence`. -/
structure EvidenceItem (F : Type) where
  rank : PyInt
  document_id : String
  title : String
  document_type : String
  document_status : String
  score : F
  chunk_ordinal : PyInt
  token_count : PyInt
  chunk_id : Option String := none
  vector_id : Option String := none
  vector_index_name : Option String := none
  safe_excerpt : Option String := none
  safe_excerpt_sha256 : Option String := none
  chunk_content_hash : Option String := none
  document_review_status : Option String := none
  citation_schema_version : Option Int := none
  document_version : Option Int := none
  char_start : Option Int := none
  char_end : Option Int := none
  deriving DecidableEq

variable [Interpreter F] [Numerals F]

def normaliseCitation (index : Nat) (citation : JsonObject F) :
    Except ArithmeticException (EvidenceItem F) := do
  let rank ← intValue (citation.get? "rank") (index + 1)
  let document_id := textValue (citation.get? "document_id")
  let named := textValue (citation.get? "title")
  let title := if named.isEmpty then "Cited knowledge document" else named
  let document_type := textValue (citation.get? "document_type")
  let document_status := textValue (citation.get? "document_status")
  let score ← floatValue (citation.get? "score")
  let chunk_ordinal ← intValue (citation.get? "chunk_ordinal") 0
  let token_count ← intValue (citation.get? "token_count") 0
  let citation_schema_version ← optionalInt citation "citation_schema_version"
  let document_version ← optionalInt citation "document_version"
  let char_start ← optionalInt citation "char_start"
  let char_end ← optionalInt citation "char_end"
  return {
    rank, document_id, title, document_type, document_status, score, chunk_ordinal, token_count
    chunk_id := optionalText citation "chunk_id"
    vector_id := optionalText citation "vector_id"
    vector_index_name := optionalText citation "vector_index_name"
    safe_excerpt := optionalText citation "safe_excerpt"
    safe_excerpt_sha256 := optionalText citation "safe_excerpt_sha256"
    chunk_content_hash := optionalText citation "chunk_content_hash"
    document_review_status := optionalText citation "document_review_status"
    citation_schema_version, document_version, char_start, char_end }

def normaliseFrom : Nat → List (JsonObject F) → Except ArithmeticException (List (EvidenceItem F))
  | _, [] => .ok []
  | index, citation :: rest => do
    let item ← normaliseCitation index citation
    let items ← normaliseFrom (index + 1) rest
    return item :: items

def normalise_evidence (citations : List (JsonObject F)) :
    Except ArithmeticException (List (EvidenceItem F)) := normaliseFrom 0 citations

/-! ## Numerals of an interpreter whose floats are whole numbers -/

instance : Numerals Int where
  trunc := .ok
  integer := some
  str _ := "value"

end operious.resolution

-- The gate of a proposed reply: the reasons against sending it unseen, and the promises that it may
-- never make. A pattern of the tenant is looked for as it was written, in a reply in lower case.
namespace operious.resolution

open operious.agents.tools operious.cognition operious.money_goods_commitment

variable {F : Type}

/-! ## Words -/

def SAFETY_KEYWORDS : List String :=
  ["fire", "smoke", "burn", "burning", "injury", "injured", "shock", "explosion", "exploded",
   "overheat", "overheating", "chemical", "fumes"]

def LEGAL_KEYWORDS : List String :=
  ["lawsuit", "lawyer", "attorney", "i will sue", "going to sue", "plan to sue",
   "sue your company", "legal action", "class action", "regulator", "chargeback"]

def FRAUD_KEYWORDS : List String :=
  ["fraud", "stolen", "identity theft", "unauthorized purchase", "scam", "counterfeit"]

def POLICY_EXCEPTION_KEYWORDS : List String :=
  ["exception", "override", "outside policy", "bend the rules", "special case"]

def BASELINE_UNSUPPORTED_PROMISE_PATTERNS : List String :=
  ["we will refund", "we'll refund", "you are eligible for a refund", "approved for refund",
   "we will replace", "we'll replace", "approved for replacement", "guaranteed replacement"]

/-- `needle in text`. -/
def isIn (needle text : String) : Bool := ascii.chars needle <:+: ascii.chars text

def contains_any (text : String) (needles : List String) : Bool :=
  needles.any fun needle => isIn needle text

def unsupported_commitment_patterns (taxonomy : ResolutionTaxonomyPolicy F) : List String :=
  BASELINE_UNSUPPORTED_PROMISE_PATTERNS ++ taxonomy.unsupported_commitment_patterns

/-- Which characters match one of a pattern under `re.IGNORECASE`. -/
class CaseFolding where
  same : Char → Char → Bool

instance : CaseFolding := ⟨fun c x => c.toLower = x.toLower⟩

section

open Regex

variable [CharacterData] [CaseFolding]

def phraseOf (ss : List String) : Regex Char :=
  bounded [oneOf (ss.map (textBy CaseFolding.same))]

def coverage : Regex Char := phraseOf ["covered under warranty", "warranty covers"]

/-- `you(?:'re| are)?|your`. -/
def addressee : List String := ["you", "you're", "you are", "your"]

def PERSONAL_WARRANTY_COVERAGE_PATTERN : Regex Char := alt
  (cat [phraseOf (addressee ++ ["this order", "this item", "this unit", "this device",
    "this product", "this claim", "this case"]), gap 60, coverage])
  (cat [coverage, gap 60, phraseOf addressee])

end

/-! ## Reasons -/

structure ResolutionAutonomyPolicy where
  reply_auto_send_categories : List String
  monetary_commitment_threshold_cents : Int

structure GateDecision where
  supervisor_verdict : ResolutionSupervisorVerdict
  governance_verdict : ResolutionGovernanceVerdict
  autonomy_decision : ResolutionAutonomyDecision
  status : ResolutionProposalStatus
  reasons : List String
  deriving DecidableEq

/-- The arguments of `_evaluate_gate`. -/
structure GateArguments (F : Type) where
  category : String
  original_content : String
  reply : String
  evidence : List (EvidenceItem F)
  autonomy_policy : ResolutionAutonomyPolicy
  taxonomy : ResolutionTaxonomyPolicy F
  recommended_actions : List (JsonObject F) := []
  extracted_fields : Option (ExtractedOrderFields F) := none
  skip_unsupported_commitment_check : Bool := false
  extra_reasons : List String := []
  allow_non_committing_collection_auto_send : Bool := false

def required_fields_for_action (action : JsonObject F)
    (extraction_schema : Option ExtractionSchema) : List String :=
  match extraction_schema with
  | some schema => schema.required_for_auto
  | none =>
    match (action.get? "payload_template").bind JsonValue.mapping? with
    | some payload_template => payload_template.keys
    | none => []

/-- `_field_requires_collection`: the field has no value, or one of low confidence. -/
def field_requires_collection (extracted_fields : Option (ExtractedOrderFields F))
    (field_name : String) : Bool :=
  match extracted_fields.bind (·.get_field field_name) with
  | none => true
  | some field => field.value.isNone || field.confidence = some .low

def extraction_completeness_reasons (recommended_actions : List (JsonObject F))
    (extracted_fields : Option (ExtractedOrderFields F))
    (extraction_schema : Option ExtractionSchema) : List String :=
  recommended_actions.flatMap fun action =>
    match textAt action "type" with
    | none => []
    | some action_type =>
      ((required_fields_for_action action extraction_schema).filter
        (field_requires_collection extracted_fields)).map fun field_name =>
          "missing_required_extraction_field:" ++ action_type ++ ":" ++ field_name

/-- `_has_conflicting_evidence`. A normalised item has no mark of a conflict of its own. -/
def has_conflicting_evidence [Interpreter F] (evidence : List (EvidenceItem F)) : Bool :=
  evidence.any fun item => Interpreter.lower F item.document_status ∉ ["", "active"]

def only_non_committing_collection_reasons (reasons : List String) : Bool :=
  !reasons.isEmpty && reasons.all fun reason =>
    ["missing_required_extraction_field:", "warranty_refund_eligibility_cannot_determine:"].any
      fun start => (ascii.chars start).isPrefixOf (ascii.chars reason)

variable [Interpreter F] [Numerals F]

def warranty_refund_cannot_determine_reasons (recommended_actions : List (JsonObject F)) :
    List String :=
  recommended_actions.filterMap fun action =>
    match (action.get? "warranty_refund_eligibility").bind JsonValue.mapping? with
    | none => none
    | some eligibility =>
      match eligibility.get? "verdict" with
      | some (.str "cannot_determine") =>
        let claim_type := ((eligibility.get? "claim_type").filter truthy).getD
          ((action.get? "type").getD .null)
        some ("warranty_refund_eligibility_cannot_determine:" ++ textOfValue claim_type)
      | _ => none

section

variable [CharacterData] [CaseFolding]

def gateReasons (args : GateArguments F) : List String :=
  let text := Interpreter.lower F (args.original_content ++ " " ++ args.reply)
  let when (b : Bool) (reason : String) : List String := if b then [reason] else []
  args.extra_reasons ++
    when (args.category = UNCLASSIFIED_CATEGORY_ID)
      "unclassified_category_requires_human_approval" ++
    when args.evidence.isEmpty "missing_citations" ++
    -- Only the customer reports a hazard: the reply may ask about one.
    when (contains_any (Interpreter.lower F args.original_content) SAFETY_KEYWORDS) "safety_risk" ++
    when (contains_any text LEGAL_KEYWORDS) "legal_or_chargeback_risk" ++
    when (contains_any text FRAUD_KEYWORDS) "fraud_risk" ++
    when (contains_any text POLICY_EXCEPTION_KEYWORDS) "policy_exception" ++
    when (has_money_or_goods_commitment args.recommended_actions (some args.reply))
      "money_or_goods_commitment_requires_human_approval" ++
    when (has_conflicting_evidence args.evidence) "conflicting_evidence" ++
    extraction_completeness_reasons args.recommended_actions args.extracted_fields
      args.taxonomy.extraction_schema ++
    warranty_refund_cannot_determine_reasons args.recommended_actions

def makesUnsupportedPromise (args : GateArguments F) : Bool :=
  let reply := Interpreter.lower F args.reply
  contains_any reply (unsupported_commitment_patterns args.taxonomy) ||
    PERSONAL_WARRANTY_COVERAGE_PATTERN.search isWord (ascii.chars reply)

def autoApproved : GateDecision where
  supervisor_verdict := .pass
  governance_verdict := .allow
  autonomy_decision := .auto_approved
  status := .auto_approved
  reasons := ["auto_approval_criteria_met"]

def needsHuman (verdict : ResolutionGovernanceVerdict) (reasons : List String) : GateDecision where
  supervisor_verdict := .needs_human_review
  governance_verdict := verdict
  autonomy_decision := .needs_human_approval
  status := .pending_human_approval
  reasons := reasons

def evaluate_gate (args : GateArguments F) : GateDecision :=
  let reasons := gateReasons args
  if !args.skip_unsupported_commitment_check && makesUnsupportedPromise args then
    { supervisor_verdict := .fail
      governance_verdict := .deny
      autonomy_decision := .denied
      status := .denied
      reasons := ["unsupported_refund_replacement_or_warranty_promise"] }
  else if ["safety_risk", "legal_or_chargeback_risk", "fraud_risk", "fraud_risk_high"].any
      (· ∈ reasons) then
    needsHuman .escalate reasons
  else if args.allow_non_committing_collection_auto_send &&
      args.category ∈ args.autonomy_policy.reply_auto_send_categories &&
      only_non_committing_collection_reasons reasons then
    autoApproved
  else if !reasons.isEmpty || args.category ∉ args.autonomy_policy.reply_auto_send_categories then
    needsHuman .require_approval
      (if reasons.isEmpty then ["unsupported_auto_category"] else reasons)
  else autoApproved

/-! ## Promises -/

def ContainsIgnoringCase (F : Type) [Interpreter F] (pattern reply : String) : Prop :=
  isIn (Interpreter.lower F pattern) (Interpreter.lower F reply) = true

/-- The reply is denied on account of something else than the pattern. -/
def DeniedAnyway (args : GateArguments F) (pattern : String) : Prop :=
  (∃ other ∈ unsupported_commitment_patterns args.taxonomy, other ≠ pattern ∧
      isIn other (Interpreter.lower F args.reply) = true) ∨
    PERSONAL_WARRANTY_COVERAGE_PATTERN.search isWord
      (ascii.chars (Interpreter.lower F args.reply)) = true

theorem evaluate_gate_denied_iff (args : GateArguments F) :
    (evaluate_gate args).autonomy_decision = .denied ↔
      args.skip_unsupported_commitment_check = false ∧ makesUnsupportedPromise args = true := by
  unfold evaluate_gate
  cases hskip : args.skip_unsupported_commitment_check with
  | true =>
    refine iff_of_false ?_ (by simp)
    dsimp only
    split_ifs <;> simp_all [needsHuman, autoApproved]
  | false =>
    cases hpromise : makesUnsupportedPromise args with
    | true => simp
    | false =>
      refine iff_of_false ?_ (by simp)
      dsimp only
      split_ifs <;> simp_all [needsHuman, autoApproved]

/-- A reply that contains a pattern of the tenant up to letter case is denied exactly when the pattern,
as it was written, is in the reply in lower case, or the reply is denied anyway. A pattern that is its
own lower case is always found. -/
theorem promise_denied_iff {parameters : JsonObject F} {taxonomy : ResolutionTaxonomyPolicy F}
    (_ : parse_resolution_taxonomy_parameters parameters = .ok taxonomy) {pattern : String}
    (hpattern : pattern ∈ taxonomy.unsupported_commitment_patterns) {args : GateArguments F}
    (htaxonomy : args.taxonomy = taxonomy)
    (hskip : args.skip_unsupported_commitment_check = false)
    (hcontains : ContainsIgnoringCase F pattern args.reply) :
    ((evaluate_gate args).autonomy_decision = .denied ↔
        isIn pattern (Interpreter.lower F args.reply) = true ∨ DeniedAnyway args pattern) ∧
      (Interpreter.lower F pattern = pattern →
        (evaluate_gate args).autonomy_decision = .denied) := by
  have hmem : pattern ∈ unsupported_commitment_patterns args.taxonomy := by
    rw [htaxonomy]
    exact List.mem_append_right _ hpattern
  have hdenied : (evaluate_gate args).autonomy_decision = .denied ↔
      isIn pattern (Interpreter.lower F args.reply) = true ∨ DeniedAnyway args pattern := by
    rw [evaluate_gate_denied_iff, and_iff_right hskip]
    simp only [makesUnsupportedPromise, contains_any, Bool.or_eq_true, List.any_eq_true]
    unfold DeniedAnyway
    rw [← or_assoc]
    refine or_congr_left ?_
    constructor
    · rintro ⟨found, hfound, hin⟩
      by_cases hsame : found = pattern
      · exact Or.inl (hsame ▸ hin)
      · exact Or.inr ⟨found, hfound, hsame, hin⟩
    · rintro (hin | ⟨other, hother, -, hin⟩)
      · exact ⟨pattern, hmem, hin⟩
      · exact ⟨other, hother, hin⟩
  refine ⟨hdenied, fun hlower => hdenied.mpr (Or.inl ?_)⟩
  unfold ContainsIgnoringCase at hcontains
  rwa [hlower] at hcontains

end

/-! ## A pattern with a capital -/

/-- The parameters of a tenant that forbids one promise. -/
def promiseRules (pattern : String) : JsonObject Int := Dict.ofList
  [("categories", .list [.dict [("id", .str "return"), ("label", .str "Return"),
     ("description", .str "A return"), ("recommended_actions", .list [.dict
       [("type", .str "note"), ("label", .str "Note"), ("requires_execution", .bool false)]])]]),
   ("unsupported_commitment_patterns", .list [.str pattern])]

def promiseTaxonomy (pattern : String) : ResolutionTaxonomyPolicy Int where
  categories := [⟨"return", "Return", "A return", [Dict.ofList
    [("type", .str "note"), ("label", .str "Note"), ("requires_execution", .bool false)]]⟩]
  monetary_remedy_keywords := []
  monetary_currency_symbols := []
  monetary_currency_codes := []
  unsupported_commitment_patterns := [pattern]

def promiseArguments (pattern : String) : GateArguments Int where
  category := "return"
  original_content := "My charger broke."
  reply := "You get a Lifetime Warranty."
  evidence := []
  autonomy_policy := ⟨["return"], 0⟩
  taxonomy := promiseTaxonomy pattern

theorem promiseRules_parse (pattern : String) (h : strip pattern = pattern)
    (hfilled : pattern.isEmpty = false) :
    parse_resolution_taxonomy_parameters (promiseRules pattern) =
      .ok (promiseTaxonomy pattern) := by
  have hcategories : parseCategories ((promiseRules pattern).get? "categories") =
      .ok (promiseTaxonomy pattern).categories := rfl
  have hmonetary : parseMonetaryCommitment ((promiseRules pattern).get? "monetary_commitment") =
      .ok ([], [], []) := rfl
  have hpatterns : parseUnsupportedCommitmentPatterns
      ((promiseRules pattern).get? "unsupported_commitment_patterns") = .ok [pattern] := by
    change requireStringSet (some (.list [.str pattern])) _ true = _
    simp [requireStringSet, stringItems, JsonValue.text, h, hfilled]
    rfl
  have hschema : parseTaxonomyExtractionSchema ((promiseRules pattern).get? "extraction_schema") =
      .ok none := rfl
  simp only [parse_resolution_taxonomy_parameters, hcategories, hmonetary, hpatterns, hschema]
  rfl

/-- A pattern in lower case is found however the reply is written. -/
theorem a_pattern_in_lower_case_is_denied :
    (evaluate_gate (promiseArguments "lifetime warranty")).autonomy_decision = .denied :=
  (promise_denied_iff (promiseRules_parse _ (by decide +kernel) (by decide +kernel))
    (List.mem_singleton_self _) rfl rfl (show isIn _ _ = true by decide +kernel)).2
      (by decide +kernel)

/-- One that was written with capitals is not. -/
theorem a_pattern_with_capitals_is_not_denied :
    ¬ ∀ (parameters : JsonObject Int) (taxonomy : ResolutionTaxonomyPolicy Int),
      parse_resolution_taxonomy_parameters parameters = .ok taxonomy →
      ∀ pattern ∈ taxonomy.unsupported_commitment_patterns, ∀ args : GateArguments Int,
        args.taxonomy = taxonomy → args.skip_unsupported_commitment_check = false →
        ContainsIgnoringCase Int pattern args.reply →
        (evaluate_gate args).autonomy_decision = .denied := by
  intro h
  have hdenied := h _ _ (promiseRules_parse "Lifetime Warranty" (by decide +kernel)
    (by decide +kernel)) "Lifetime Warranty" (List.mem_singleton_self _)
    (promiseArguments "Lifetime Warranty") rfl rfl (show isIn _ _ = true by decide +kernel)
  revert hdenied
  decide +kernel

end operious.resolution
