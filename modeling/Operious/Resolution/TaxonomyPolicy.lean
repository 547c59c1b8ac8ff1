-- The warranty and refund rules of a tenant: the readers that the policy parsers share, and the parser.
import Operious.Cognition.Extraction

namespace operious.resolution

open operious.agents.tools

variable {F : Type}

/-! ## Readers

A parser fails with the message of its parse error. -/

def requireMapping (value : Option (JsonValue F)) (field : String) :
    Except String (JsonObject F) :=
  match value.bind JsonValue.mapping? with
  | some mapping => .ok mapping
  | none => .error (field ++ " must be an object")

def stringItems (message : String) : List (JsonValue F) → Except String (List String)
  | [] => .ok []
  | item :: rest =>
    match item.text with
    | some s => do
      let values ← stringItems message rest
      return s :: values
    | none => .error message

def requireStringSet (value : Option (JsonValue F)) (field : String) (allow_empty : Bool) :
    Except String (List String) :=
  match value with
  | some (.list items) => do
    let values ← stringItems (field ++ " must contain only non-empty strings") items
    if values.isEmpty && !allow_empty then throw (field ++ " must be non-empty")
    else return values.eraseDups
  | _ => .error (field ++ " must be a string list")

def requireInt (value : Option (JsonValue F)) (field : String) : Except String Int :=
  match value with
  | some (.int i) => .ok i
  | _ => .error (field ++ " must be an integer")

def requirePositiveInt (value : Option (JsonValue F)) (field : String) : Except String Int := do
  let i ← requireInt value field
  if i ≤ 0 then throw (field ++ " must be positive") else return i

def requireNonNegativeInt (value : Option (JsonValue F)) (field : String) : Except String Int := do
  let i ← requireInt value field
  if i < 0 then throw (field ++ " must be non-negative") else return i

/-- The entries of a mapping of the parameters, one after the other, under their stripped keys. -/
def parseEntries {α : Type} (field : String) (parse : String → JsonValue F → Except String α) :
    List (String × JsonValue F) → Except String (List (String × α))
  | [] => .ok []
  | (key, value) :: rest => do
    if (strip key).isEmpty then throw (field ++ " keys must be non-empty strings")
    let a ← parse key value
    let entries ← parseEntries field parse rest
    return (strip key, a) :: entries

def optionalEntries {α : Type} (value : Option (JsonValue F)) (field : String)
    (parse : String → JsonValue F → Except String α) : Except String (Dict String α) :=
  match value with
  | none | some .null => .ok .empty
  | value => do
    let entry ← requireMapping value field
    return Dict.ofList (← parseEntries field parse entry.items)

/-! ## The policy -/

/-- `_default_eligibility_field_mappings`. -/
def defaultFieldMappings : Dict String String := Dict.ofList
  [("purchase_timestamp", "purchase_date"), ("authorized_seller", "seller")]

structure WarrantyRefundPolicy where
  warranty_window_days : Int
  authorized_resellers : List String
  required_evidence_by_claim_type : Dict String (List String)
  remedy_sequence_by_claim_type : Dict String (List String)
  window_days_by_claim_type : Dict String Int := .empty
  remedy_requires_availability_check : Dict String Bool := .empty
  eligibility_field_mappings : Dict String String := defaultFieldMappings
  deriving DecidableEq

namespace WarrantyRefundPolicy

def date_field_name (policy : WarrantyRefundPolicy) : String :=
  (policy.eligibility_field_mappings.get? "purchase_timestamp").getD "purchase_date"

def seller_field_name (policy : WarrantyRefundPolicy) : String :=
  (policy.eligibility_field_mappings.get? "authorized_seller").getD "seller"

def required_evidence_for (policy : WarrantyRefundPolicy) (claim_type : String) :
    Option (List String) := policy.required_evidence_by_claim_type.get? claim_type

def window_days_for (policy : WarrantyRefundPolicy) (claim_type : String) : Int :=
  (policy.window_days_by_claim_type.get? claim_type).getD policy.warranty_window_days

def remedy_requires_check (policy : WarrantyRefundPolicy) (remedy : String) : Bool :=
  (policy.remedy_requires_availability_check.get? remedy).getD false

end WarrantyRefundPolicy

/-! ## The parser -/

section

variable [Interpreter F]

def parseEligibilityFieldMappings (value : Option (JsonValue F)) :
    Except String (Dict String String) :=
  match value with
  | none | some .null => .ok defaultFieldMappings
  | value => do
    let entry ← requireMapping value "eligibility_field_mappings"
    let entries ← parseEntries "eligibility_field_mappings" (fun role field_name =>
      match field_name.text with
      | some name => .ok name
      | none => .error ("eligibility_field_mappings." ++ role ++ " must be a non-empty string"))
      entry.items
    return defaultFieldMappings.update entries

/-- `_parse_required_evidence_by_claim_type`. -/
def parseRequiredEvidence (value : Option (JsonValue F)) :
    Except String (Dict String (List String)) := do
  let entry ← requireMapping value "required_evidence_by_claim_type"
  if entry.items.isEmpty then throw "required_evidence_by_claim_type must be non-empty"
  let entries ← parseEntries "required_evidence_by_claim_type" (fun claim_type raw_fields => do
    let field_names ← requireStringSet (some raw_fields)
      ("required_evidence_by_claim_type[" ++ Interpreter.repr F claim_type ++ "]") false
    return sorted field_names) entry.items
  return Dict.ofList entries

def remedySteps (field : String) : Nat → List (JsonValue F) → Except String (List String)
  | _, [] => .ok []
  | index, step :: rest =>
    match step.text with
    | some s => do
      let steps ← remedySteps field (index + 1) rest
      return s :: steps
    | none => .error (field ++ "[" ++ toString index ++ "] must be a non-empty string")

/-- `_parse_remedy_sequence_by_claim_type`. -/
def parseRemedySequences (value : Option (JsonValue F)) (known_claim_types : List String) :
    Except String (Dict String (List String)) :=
  optionalEntries value "remedy_sequence_by_claim_type" fun key raw_sequence => do
    let field := "remedy_sequence_by_claim_type[" ++ Interpreter.repr F (strip key) ++ "]"
    if strip key ∉ known_claim_types then
      throw (field ++ " has no corresponding entry in required_evidence_by_claim_type")
    match raw_sequence with
    | .list [] => throw (field ++ " must be non-empty")
    | .list steps => remedySteps field 0 steps
    | _ => throw (field ++ " must be a non-empty list")

/-- `_parse_window_days_by_claim_type`. -/
def parseWindowDays (value : Option (JsonValue F)) (required_evidence : Dict String (List String))
    (date_field_name : String) : Except String (Dict String Int) :=
  optionalEntries value "window_days_by_claim_type" fun key raw_window_days => do
    let field := "window_days_by_claim_type[" ++ Interpreter.repr F (strip key) ++ "]"
    match required_evidence.get? (strip key) with
    | none => throw (field ++ " has no corresponding entry in required_evidence_by_claim_type")
    | some required =>
      if date_field_name ∉ required then
        throw (field ++ " requires " ++ Interpreter.repr F date_field_name ++
          " evidence (the configured date role field) to be meaningful")
      requireNonNegativeInt (some raw_window_days) field

/-- `_parse_remedy_requires_availability_check`. -/
def parseRemedyChecks (value : Option (JsonValue F)) (known_remedies : List String) :
    Except String (Dict String Bool) :=
  optionalEntries value "remedy_requires_availability_check" fun key raw_requires_check => do
    let field := "remedy_requires_availability_check[" ++ Interpreter.repr F (strip key) ++ "]"
    if strip key ∉ known_remedies then
      throw (field ++ " does not appear in any remedy_sequence_by_claim_type ladder")
    match raw_requires_check with
    | .bool b => return b
    | _ => throw (field ++ " must be a boolean")

def parse_warranty_refund_parameters (parameters : JsonObject F) :
    Except String WarrantyRefundPolicy := do
  let warranty_window_days ←
    requirePositiveInt (parameters.get? "warranty_window_days") "warranty_window_days"
  let resellers ←
    requireStringSet (parameters.get? "authorized_resellers") "authorized_resellers" false
  let authorized_resellers := (resellers.map fun item =>
    Interpreter.lower F (strip item)).eraseDups
  let eligibility_field_mappings ←
    parseEligibilityFieldMappings (parameters.get? "eligibility_field_mappings")
  let date_field_name :=
    (eligibility_field_mappings.get? "purchase_timestamp").getD "purchase_date"
  let required_evidence_by_claim_type ←
    parseRequiredEvidence (parameters.get? "required_evidence_by_claim_type")
  let remedy_sequence_by_claim_type ←
    parseRemedySequences (parameters.get? "remedy_sequence_by_claim_type")
      required_evidence_by_claim_type.keys
  let window_days_by_claim_type ← parseWindowDays (parameters.get? "window_days_by_claim_type")
    required_evidence_by_claim_type date_field_name
  let remedy_requires_availability_check ←
    parseRemedyChecks (parameters.get? "remedy_requires_availability_check")
      remedy_sequence_by_claim_type.values.flatten
  return { warranty_window_days, authorized_resellers, required_evidence_by_claim_type
           remedy_sequence_by_claim_type, window_days_by_claim_type
           remedy_requires_availability_check, eligibility_field_mappings }

end

end operious.resolution

-- The taxonomy of a tenant: its categories, the words of its money, and what its replies may not promise.
namespace operious.resolution

open operious.agents.tools operious.cognition

variable {F : Type}

def UNCLASSIFIED_CATEGORY_ID : String := "unclassified"

structure ResolutionTaxonomyCategory (F : Type) where
  id : String
  label : String
  description : String
  recommended_actions : List (JsonObject F)

structure ResolutionTaxonomyPolicy (F : Type) where
  categories : List (ResolutionTaxonomyCategory F)
  monetary_remedy_keywords : List String
  monetary_currency_symbols : List String
  monetary_currency_codes : List String
  unsupported_commitment_patterns : List String
  extraction_schema : Option ExtractionSchema := none

/-! ## The parser -/

def requireNonEmptyString (value : Option (JsonValue F)) (field : String) : Except String String :=
  match value.bind JsonValue.text with
  | some s => .ok s
  | none => .error (field ++ " must be a non-empty string")

def parseItems {α : Type} (parse : Nat → JsonValue F → Except String α) :
    Nat → List (JsonValue F) → Except String (List α)
  | _, [] => .ok []
  | index, item :: rest => do
    let a ← parse index item
    let items ← parseItems parse (index + 1) rest
    return a :: items

def parseRecommendedAction (field : String) (value : JsonValue F) :
    Except String (JsonObject F) := do
  let entry ← requireMapping (some value) field
  let action_type ← requireNonEmptyString (entry.get? "type") (field ++ ".type")
  let label ← requireNonEmptyString (entry.get? "label") (field ++ ".label")
  match entry.get? "requires_execution" with
  | some (.bool true) => do
    let tool_name ← requireNonEmptyString (entry.get? "tool_name") (field ++ ".tool_name")
    let payload_template ← requireMapping (entry.get? "payload_template")
      (field ++ ".payload_template")
    let target_resource_id ← requireNonEmptyString (entry.get? "target_resource_id")
      (field ++ ".target_resource_id")
    return Dict.ofList
      [("type", .str action_type), ("label", .str label), ("requires_execution", .bool true),
       ("tool_name", .str tool_name), ("payload_template", .dict payload_template.items),
       ("target_resource_id", .str target_resource_id)]
  | some (.bool false) =>
    match ["tool_name", "payload_template", "target_resource_id"].find? (· ∈ entry.keys) with
    | some forbidden_field =>
      throw (field ++ "." ++ forbidden_field ++ " must be absent when requires_execution is false")
    | none =>
      return Dict.ofList
        [("type", .str action_type), ("label", .str label), ("requires_execution", .bool false)]
  | _ => throw (field ++ ".requires_execution must be a boolean")

def parseRecommendedActions (value : Option (JsonValue F)) (field : String) :
    Except String (List (JsonObject F)) :=
  match value with
  | some (.list []) => .error (field ++ " must be non-empty")
  | some (.list raw_actions) =>
    parseItems (fun index => parseRecommendedAction (field ++ "[" ++ toString index ++ "]")) 0
      raw_actions
  | _ => .error (field ++ " must be a non-empty list")

section

variable [Interpreter F]

def parseCategory (index : Nat) (value : JsonValue F) :
    Except String (ResolutionTaxonomyCategory F) := do
  let field := "categories[" ++ toString index ++ "]"
  let entry ← requireMapping (some value) field
  let id ← requireNonEmptyString (entry.get? "id") (field ++ ".id")
  if id = UNCLASSIFIED_CATEGORY_ID then
    throw (field ++ ".id must not be the reserved value " ++
      Interpreter.repr F UNCLASSIFIED_CATEGORY_ID)
  let label ← requireNonEmptyString (entry.get? "label") (field ++ ".label")
  let description ← requireNonEmptyString (entry.get? "description") (field ++ ".description")
  let recommended_actions ← parseRecommendedActions (entry.get? "recommended_actions")
    (field ++ ".recommended_actions")
  return { id, label, description, recommended_actions }

def parseCategoriesFrom (seen_ids : List String) :
    Nat → List (JsonValue F) → Except String (List (ResolutionTaxonomyCategory F))
  | _, [] => .ok []
  | index, raw_category :: rest => do
    let category ← parseCategory index raw_category
    if category.id ∈ seen_ids then
      throw ("categories[" ++ toString index ++ "].id is a duplicate: " ++
        Interpreter.repr F category.id)
    let categories ← parseCategoriesFrom (category.id :: seen_ids) (index + 1) rest
    return category :: categories

def parseCategories (value : Option (JsonValue F)) :
    Except String (List (ResolutionTaxonomyCategory F)) :=
  match value with
  | some (.list []) => .error "categories must be non-empty"
  | some (.list raw_categories) => parseCategoriesFrom [] 0 raw_categories
  | _ => .error "categories must be a non-empty list"

end

/-- A string set of the monetary vocabulary, empty where it is left out. -/
def monetaryWords (entry : JsonObject F) (key : String) : Except String (List String) :=
  requireStringSet (some ((entry.get? key).getD (.list []))) ("monetary_commitment." ++ key) true

def parseMonetaryCommitment (value : Option (JsonValue F)) :
    Except String (List String × List String × List String) :=
  match value with
  | none | some .null => .ok ([], [], [])
  | value => do
    let entry ← requireMapping value "monetary_commitment"
    let remedy_keywords ← monetaryWords entry "remedy_keywords"
    let currency_symbols ← monetaryWords entry "currency_symbols"
    let currency_codes ← monetaryWords entry "currency_codes"
    return (remedy_keywords, currency_symbols, currency_codes)

def parseUnsupportedCommitmentPatterns (value : Option (JsonValue F)) :
    Except String (List String) :=
  match value with
  | none | some .null => .ok []
  | value => requireStringSet value "unsupported_commitment_patterns" true

def parseTaxonomyExtractionSchema (value : Option (JsonValue F)) :
    Except String (Option ExtractionSchema) :=
  match value with
  | none => .ok none
  | some value => (parse_extraction_schema value).mapError fun exc =>
      "extraction_schema is invalid: " ++ exc

def parse_resolution_taxonomy_parameters [Interpreter F] (parameters : JsonObject F) :
    Except String (ResolutionTaxonomyPolicy F) := do
  let categories ← parseCategories (parameters.get? "categories")
  let (monetary_remedy_keywords, monetary_currency_symbols, monetary_currency_codes) ←
    parseMonetaryCommitment (parameters.get? "monetary_commitment")
  let unsupported_commitment_patterns ←
    parseUnsupportedCommitmentPatterns (parameters.get? "unsupported_commitment_patterns")
  let extraction_schema ← parseTaxonomyExtractionSchema (parameters.get? "extraction_schema")
  return { categories, monetary_remedy_keywords, monetary_currency_symbols
           monetary_currency_codes, unsupported_commitment_patterns, extraction_schema }

end operious.resolution
