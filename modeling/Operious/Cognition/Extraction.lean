-- The fields that are extracted from a ticket, and the schema in which a tenant declares its own.
import Operious.Tools.Values

namespace operious.cognition

open operious.agents.tools

variable {F : Type}

/-! ## Schemas -/

def EXTRACTED_ORDER_FIELD_NAMES : List String :=
  ["order_id", "product_sku", "purchase_date", "seller", "amount", "currency"]

inductive ExtractionFieldType
  | string | date | integer | decimal | enum
  deriving DecidableEq, Repr

def ExtractionFieldType.ofValue : String → Option ExtractionFieldType
  | "string" => some .string
  | "date" => some .date
  | "integer" => some .integer
  | "decimal" => some .decimal
  | "enum" => some .enum
  | _ => none

structure ExtractionFieldSpec where
  name : String
  field_type : ExtractionFieldType := .string
  display_name : String := ""
  description : String := ""
  required_for_auto : Bool := false
  enum_values : List String := []
  identity_field : Bool := false
  deriving DecidableEq, Repr

def ExtractionFieldSpec.effective_display_name (spec : ExtractionFieldSpec) : String :=
  if spec.display_name.isEmpty then
    String.ofList ((ascii.chars spec.name).map fun c => if c = '_' then ' ' else c)
  else spec.display_name

structure ExtractionSchema where
  fields : List ExtractionFieldSpec
  deriving DecidableEq, Repr

namespace ExtractionSchema

def field_names (schema : ExtractionSchema) : List String := schema.fields.map (·.name)

def required_for_auto (schema : ExtractionSchema) : List String :=
  (schema.fields.filter (·.required_for_auto)).map (·.name)

/-- Of two specs of one name the index has the later one. -/
def get (schema : ExtractionSchema) (name : String) : Option ExtractionFieldSpec :=
  schema.fields.reverse.find? (·.name = name)

end ExtractionSchema

/-! ### The parser of a schema -/

/-- `cfg.get(key, default)` where the value has to be of one type. -/
def typedAt {α : Type} (cfg : JsonObject F) (key : String) (default_ : α)
    (read : JsonValue F → Option α) (message : String) : Except String α :=
  match cfg.get? key with
  | none => .ok default_
  | some value =>
    match read value with
    | some a => .ok a
    | none => .error message

def asStr : JsonValue F → Option String
  | .str s => some s
  | _ => none

def asBool : JsonValue F → Option Bool
  | .bool b => some b
  | _ => none

def enumValues (values : List (JsonValue F)) : List String :=
  (values.filterMap asStr).filter fun v => !(strip v).isEmpty

def parse_field_spec (name : String) (raw : JsonValue F) : Except String ExtractionFieldSpec := do
  let field := "extraction_schema." ++ name
  let some cfg := raw.mapping? | throw (field ++ " must be an object")
  let field_type ← typedAt cfg "type" .string
    (fun value => (asStr value).bind ExtractionFieldType.ofValue)
    (field ++ ".type must be one of 'string', 'date', 'integer', 'decimal', 'enum'")
  let display_name ← typedAt cfg "display_name" "" asStr
    (field ++ ".display_name must be a string")
  let description ← typedAt cfg "description" "" asStr (field ++ ".description must be a string")
  let required_for_auto ← typedAt cfg "required_for_auto" false asBool
    (field ++ ".required_for_auto must be a boolean")
  let identity_field ← typedAt cfg "identity_field" false asBool
    (field ++ ".identity_field must be a boolean")
  let enum_values ← match field_type, cfg.get? "values" with
    | .enum, some (.list values) =>
      if (enumValues values).isEmpty then
        .error (field ++ ".values must contain at least one non-empty string")
      else .ok (enumValues values)
    | .enum, _ => .error (field ++ ".values must be a non-empty list for enum type")
    | _, _ => .ok []
  return { name, field_type, display_name, description, required_for_auto, enum_values
           identity_field }

def parseFieldSpecs : List (String × JsonValue F) → Except String (List ExtractionFieldSpec)
  | [] => .ok []
  | (field_name, field_cfg) :: rest => do
    if (strip field_name).isEmpty then
      throw "extraction_schema keys must be non-empty strings"
    let spec ← parse_field_spec (strip field_name) field_cfg
    let specs ← parseFieldSpecs rest
    return spec :: specs

def parse_extraction_schema (raw : JsonValue F) : Except String (Option ExtractionSchema) :=
  match raw with
  | .null => .ok none
  | .dict items => do
    let fields ← parseFieldSpecs (Dict.ofList items).items
    return some ⟨fields⟩
  | _ => .error "extraction_schema must be an object"

/-! ## Extracted fields -/

inductive ExtractionConfidence
  | high | medium | low
  deriving DecidableEq, Repr

def ExtractionConfidence.value : ExtractionConfidence → String
  | .high => "high"
  | .medium => "medium"
  | .low => "low"

inductive ExtractionSource
  | text | document | none
  deriving DecidableEq, Repr

def ExtractionSource.value : ExtractionSource → String
  | .text => "text"
  | .document => "document"
  | .none => "none"

structure ExtractedField where
  value : Option String := none
  confidence : Option ExtractionConfidence := none
  source : ExtractionSource := .none
  absence_is_total : (value = none ↔ confidence = none) ∧ (value = none ↔ source = .none) := by
    decide
  deriving DecidableEq

/-- `ExtractedField(value=..., confidence=..., source=...)`, or none where the validator raises. -/
def ExtractedField.build (value : Option String) (confidence : Option ExtractionConfidence)
    (source : ExtractionSource) : Option ExtractedField :=
  if h : (value = none ↔ confidence = none) ∧ (value = none ↔ source = .none) then
    some ⟨value, confidence, source, h⟩
  else none

/-- A member of the model that may be left out. -/
def memberAt {α : Type} (raw : JsonObject F) (key : String) (default_ : α)
    (read : JsonValue F → Option α) : Option α :=
  match raw.get? key with
  | none => some default_
  | some value => read value

/-- `ExtractedField.model_validate`. -/
def ExtractedField.model_validate (raw : JsonValue F) : Option ExtractedField := do
  let mapping ← raw.mapping?
  if mapping.keys.any (· ∉ ["value", "confidence", "source"]) then none
  let value ← memberAt mapping "value" none fun
    | .null => some none
    | .str s => some (some s)
    | _ => none
  let confidence ← memberAt mapping "confidence" none fun
    | .null => some none
    | .str "high" => some (some .high)
    | .str "medium" => some (some .medium)
    | .str "low" => some (some .low)
    | _ => none
  let source ← memberAt mapping "source" .none fun
    | .str "text" => some .text
    | .str "document" => some .document
    | .str "none" => some .none
    | _ => none
  ExtractedField.build value confidence source

/-- A member that the model does not declare, as `model_extra` holds it. -/
inductive ExtraMember (F : Type)
  | field (f : ExtractedField)
  | raw (value : JsonValue F)

structure ExtractedOrderFields (F : Type) where
  order_id : ExtractedField := {}
  product_sku : ExtractedField := {}
  purchase_date : ExtractedField := {}
  seller : ExtractedField := {}
  amount : ExtractedField := {}
  currency : ExtractedField := {}
  model_extra : Dict String (ExtraMember F) := .empty

def ExtractedOrderFields.get_field (fields : ExtractedOrderFields F) (name : String) :
    Option ExtractedField :=
  match name with
  | "order_id" => some fields.order_id
  | "product_sku" => some fields.product_sku
  | "purchase_date" => some fields.purchase_date
  | "seller" => some fields.seller
  | "amount" => some fields.amount
  | "currency" => some fields.currency
  | name =>
    match fields.model_extra.get? name with
    | none => none
    | some (.field f) => some f
    | some (.raw .null) => none
    | some (.raw value) => ExtractedField.model_validate value

end operious.cognition
