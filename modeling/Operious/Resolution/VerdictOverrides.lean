-- The replies that a tenant has written itself: the one for a verdict and the one that asks for what
-- is missing. An accepted template leaves a marker where the case cannot supply a name.
import Operious.Resolution.Grounding
import Operious.Resolution.WarrantyRefundEligibility
import Operious.Tenant.TemplatePlaceholders

namespace operious.resolution

open operious.agents.tools operious.cognition operious.tenant
open operious.auto_send (contains_unresolved_placeholder_marker)

variable {F : Type}

/-! ## The values of a template -/

def humanize_field (name : String) : String :=
  String.ofList ((ascii.chars name).map fun c => if c = '_' then ' ' else c)

def friendly_missing_field_label (name : String) (extraction_schema : Option ExtractionSchema) :
    String :=
  match extraction_schema.bind (·.get name) with
  | some spec => spec.effective_display_name
  | none => humanize_field name

/-- `_render_missing_fields`: one field is a plain phrase, more of them are a numbered list. -/
def render_missing_fields (missing_fields : List String)
    (extraction_schema : Option ExtractionSchema) : String :=
  match missing_fields.map (friendly_missing_field_label · extraction_schema) with
  | [] => ""
  | [label] => label
  | labels => "\n" ++ "\n".intercalate
      (labels.zipIdx.map fun p => toString (p.2 + 1) ++ ". " ++ p.1)

def derivedValues (claim_type : Option String) (missing_fields : List String)
    (required_fields : Option (List String)) (extraction_schema : Option ExtractionSchema) :
    JsonObject F :=
  let values := Dict.ofList
    [("missing_fields", .str (render_missing_fields missing_fields extraction_schema)),
     ("required_fields",
       .str (render_missing_fields (required_fields.getD []) extraction_schema))]
  match claim_type with
  | some claim_type => values.set "claim_type" (.str (humanize_field claim_type))
  | none => values

def fieldNames (extraction_schema : Option ExtractionSchema) : List String :=
  match extraction_schema with
  | some schema => schema.field_names
  | none => EXTRACTED_ORDER_FIELD_NAMES

def valueOfField (extracted_fields : ExtractedOrderFields F) (name : String) : Option String :=
  (extracted_fields.get_field name).bind (·.value)

def probe_substitution_values (claim_type : Option String) (missing_fields : List String)
    (required_fields : Option (List String)) (extracted_fields : Option (ExtractedOrderFields F))
    (extraction_schema : Option ExtractionSchema) : JsonObject F :=
  let values := derivedValues claim_type missing_fields required_fields extraction_schema
  match extracted_fields with
  | some fields => (fieldNames extraction_schema).foldl
      (fun values name => values.set name (.ofOption (valueOfField fields name))) values
  | none => values

/-! ## Verdicts -/

inductive ResolutionVerdictOutcome
  | approved | denied | needs_more_info
  deriving DecidableEq, Repr

def ResolutionVerdictOutcome.value : ResolutionVerdictOutcome → String
  | .approved => "approved"
  | .denied => "denied"
  | .needs_more_info => "needs_more_info"

structure ResolutionVerdictSummary (F : Type) where
  outcome : ResolutionVerdictOutcome
  outcome_purpose_key : String
  missing_fields : List String := []
  substitution_values : JsonObject F := .empty

def ResolutionVerdictSummary.to_dict (summary : ResolutionVerdictSummary F) : JsonObject F :=
  Dict.ofList
    [("outcome", .str summary.outcome.value),
     ("outcome_purpose_key", .str summary.outcome_purpose_key),
     ("missing_fields", .list (summary.missing_fields.map .str)),
     ("substitution_values", .dict summary.substitution_values.items)]

def first_failed_grounding_check (grounding : Option (JsonValue F)) : Option String :=
  match grounding with
  | some (.list checks) => checks.findSome? fun check => do
      let check_mapping ← check.mapping?
      match check_mapping.get? "passed", check_mapping.get? "name" with
      | some (.bool false), some (.str name) => if name.isEmpty then none else some name
      | _, _ => none
  | _ => none

def claimTypeOf (eligibility : JsonObject F) : Option String :=
  (eligibility.get? "claim_type").bind asStr

/-- The names among what is missing. -/
def missingOf (eligibility : JsonObject F) : List String :=
  match eligibility.get? "missing_evidence" with
  | some (.list fields) => fields.filterMap asStr
  | _ => []

def warranty_refund_eligibility_to_resolution_verdict (eligibility : JsonObject F)
    (extracted_fields : Option (ExtractedOrderFields F))
    (extraction_schema : Option ExtractionSchema) : Option (ResolutionVerdictSummary F) :=
  let valuesFor (missing_fields : List String) := probe_substitution_values
    (claimTypeOf eligibility) missing_fields none extracted_fields extraction_schema
  match eligibility.get? "verdict" with
  | some (.str "eligible") =>
    match eligibility.get? "recommended_remedy" with
    | some (.str remedy) =>
      if remedy.isEmpty then none
      else some { outcome := .approved, outcome_purpose_key := remedy
                  substitution_values := valuesFor [] }
    | _ => none
  | some (.str "ineligible") =>
    (first_failed_grounding_check (eligibility.get? "grounding")).map fun failed_rule =>
      { outcome := .denied, outcome_purpose_key := failed_rule
        substitution_values := valuesFor [] }
  | some (.str "cannot_determine") =>
    match missingOf eligibility with
    | [] => none
    | field :: fields => some
        { outcome := .needs_more_info, outcome_purpose_key := "missing_" ++ field
          missing_fields := field :: fields
          substitution_values := valuesFor (field :: fields) }
  | _ => none

def eligibilityOf (action : JsonObject F) : Option (JsonObject F) :=
  (action.get? "warranty_refund_eligibility").bind JsonValue.mapping?

def verdictOf (extracted_fields : Option (ExtractedOrderFields F))
    (extraction_schema : Option ExtractionSchema) (action : JsonObject F) :
    Option (ResolutionVerdictSummary F) :=
  (eligibilityOf action).bind fun eligibility =>
    warranty_refund_eligibility_to_resolution_verdict eligibility extracted_fields
      extraction_schema

def WithoutVerdict (action : JsonObject F) : Prop :=
  (action.get? "resolution_verdict").bind JsonValue.mapping? = none

def attach_resolution_verdicts (actions : List (JsonObject F))
    (extracted_fields : Option (ExtractedOrderFields F))
    (extraction_schema : Option ExtractionSchema) : List (JsonObject F) :=
  actions.map fun action =>
    match verdictOf extracted_fields extraction_schema action with
    | some summary => action.set "resolution_verdict" (.dict summary.to_dict.items)
    | none => action

def first_resolution_verdict (recommended_actions : List (JsonObject F)) :
    Option (JsonObject F) :=
  recommended_actions.findSome? fun action =>
    (action.get? "resolution_verdict").bind JsonValue.mapping?

/-! ## The two overrides -/

structure TemplateStore where
  get_approved_template : (tenant_id purpose channel : String) → Option String

def renderApproved (repository : TemplateStore) (tenant_id purpose channel : String)
    (values : JsonObject F) : Except SubstitutionError (Option String) :=
  match repository.get_approved_template tenant_id purpose channel with
  | none => .ok none
  | some content => (substitute_placeholders content values).map some

def apply_resolution_verdict_override (recommended_actions : List (JsonObject F))
    (repository : Option TemplateStore) (tenant_id : String) (channel : Option String) :
    Except SubstitutionError (Option String) :=
  match repository, channel, first_resolution_verdict recommended_actions with
  | some repository, some channel, some summary =>
    match summary.get? "outcome", summary.get? "outcome_purpose_key" with
    | some (.str outcome), some (.str purpose_key) =>
      if purpose_key.isEmpty then .ok none
      else renderApproved repository tenant_id ("resolution." ++ outcome ++ "." ++ purpose_key)
        channel (((summary.get? "substitution_values").bind JsonValue.mapping?).getD .empty)
    | _, _ => .ok none
  | _, _, _ => .ok none

/-- What is recommended for a category that the taxonomy does not name. -/
def COLLECT_CONTEXT_FALLBACK_ACTION : JsonObject F := Dict.ofList
  [("type", .str "collect_context"),
   ("label", .str "Gather additional details from the customer before proceeding"),
   ("requires_execution", .bool false)]

def has_non_executable_action (recommended_actions : List (JsonObject F)) : Bool :=
  recommended_actions.any fun action =>
    match action.get? "requires_execution" with
    | some (.bool false) => true
    | _ => false

def fieldsToCollect (schema : ExtractionSchema)
    (extracted_fields : Option (ExtractedOrderFields F)) : List String :=
  schema.required_for_auto.filter (field_requires_collection extracted_fields)

def apply_collection_template_override [Interpreter F] [Numerals F]
    (recommended_actions : List (JsonObject F)) (repository : Option TemplateStore)
    (tenant_id category : String) (channel : Option String) (reply_segments : List (JsonObject F))
    (extracted_fields : Option (ExtractedOrderFields F))
    (extraction_schema : Option ExtractionSchema) : Except SubstitutionError (Option String) :=
  match repository, channel, extraction_schema with
  | some repository, some channel, some schema =>
    if !has_non_executable_action recommended_actions then .ok none
    else if !(reply_segments.any fun segment => segment_kind segment = "question") then .ok none
    else if schema.required_for_auto.isEmpty then .ok none
    else if (fieldsToCollect schema extracted_fields).isEmpty then .ok none
    else
      renderApproved repository tenant_id ("resolution.collect_context." ++ category) channel
        (probe_substitution_values none (fieldsToCollect schema extracted_fields)
          (some schema.required_for_auto) extracted_fields (some schema))
  | _, _, _ => .ok none

/-! ## What a case supplies -/

/-- What a case brings to a template besides the extracted fields. -/
structure TemplateCase where
  claim_type : Option String
  missing_fields : List String
  required_fields : Option (List String)

variable {content : String}

section

variable (case : TemplateCase) (extracted_fields : Option (ExtractedOrderFields F))
  (extraction_schema : Option ExtractionSchema)

def caseValue (name : String) : Option String :=
  match extracted_fields, decide (name ∈ fieldNames extraction_schema) with
  | some fields, true => valueOfField fields name
  | _, _ =>
    if name = "claim_type" then case.claim_type.map humanize_field
    else if name = "missing_fields" then
      some (render_missing_fields case.missing_fields extraction_schema)
    else if name = "required_fields" then
      some (render_missing_fields (case.required_fields.getD []) extraction_schema)
    else none

def ListsSomething : Prop :=
  case.missing_fields ≠ [] ∧ ∀ field, case.missing_fields = [field] →
    Filled (some (friendly_missing_field_label field extraction_schema))

/-- The case has something to put in for the name: a field that is not blank, the claim type it is
about, or the fields that are missing. -/
def Supplied (name : String) : Prop :=
  if name ∈ fieldNames extraction_schema then
    Filled (extracted_fields.bind (valueOfField · name))
  else (name = "claim_type" ∧ Filled (case.claim_type.map humanize_field)) ∨
    (name = "missing_fields" ∧ ListsSomething case extraction_schema)

theorem valueIn_set_str (values : JsonObject F) (key value name : String) :
    valueIn (values.set key (.str value)) name =
      if key = name then some value else valueIn values name := by
  unfold valueIn
  rw [Dict.get?_set]
  split_ifs <;> rfl

theorem valueIn_derivedValues (name : String) :
    valueIn (derivedValues (F := F) case.claim_type case.missing_fields case.required_fields
      extraction_schema) name =
      caseValue case (none : Option (ExtractedOrderFields F)) extraction_schema name := by
  have htexts : ∀ missing required : String,
      valueIn (Dict.ofList [("missing_fields", JsonValue.str (F := F) missing),
        ("required_fields", .str required)]) name =
      if name = "missing_fields" then some missing
      else if name = "required_fields" then some required else none := by
    intro missing required
    change valueIn ((Dict.empty.set "missing_fields" _).set "required_fields" _) name = _
    rw [valueIn_set_str, valueIn_set_str]
    by_cases hmissing : name = "missing_fields"
    · subst hmissing
      rfl
    · simp only [hmissing, Ne.symm hmissing, if_false, eq_comm (a := name)]
      rfl
  unfold derivedValues caseValue
  cases case.claim_type with
  | none =>
    rw [htexts]
    split_ifs <;> simp_all
  | some claim_type =>
    dsimp only
    rw [valueIn_set_str, htexts]
    simp only [eq_comm (a := "claim_type")]
    rfl

theorem valueIn_probe_substitution_values (name : String) :
    valueIn (probe_substitution_values case.claim_type case.missing_fields case.required_fields
      extracted_fields extraction_schema) name =
      caseValue case extracted_fields extraction_schema name := by
  have hderived := valueIn_derivedValues (F := F) case extraction_schema name
  unfold probe_substitution_values
  cases extracted_fields with
  | none => exact hderived
  | some fields =>
    unfold valueIn at hderived ⊢
    dsimp only
    rw [Dict.get?_foldl_set]
    by_cases hname : name ∈ fieldNames extraction_schema
    · simp only [caseValue, hname, decide_true]
      cases valueOfField fields name <;> rfl
    · rw [if_neg hname, hderived]
      simp [caseValue, hname]

theorem filled_of_mem {s : String} {c : Char} (hc : c ∈ s.toList) (hspace : isSpace c = false) :
    Filled (some s) := by
  refine ⟨s, rfl, ?_⟩
  rw [Bool.eq_false_iff]
  intro hempty
  rw [String.isEmpty_iff, ← String.toList_eq_nil_iff, strip_toList, List.rdropWhile_eq_nil_iff]
    at hempty
  have hkept : ∃ x ∈ s.toList.dropWhile isSpace, isSpace x = false := by
    rw [← List.takeWhile_append_dropWhile (p := isSpace) (l := s.toList), List.mem_append] at hc
    rcases hc with hc | hc
    · exact absurd (List.mem_takeWhile_imp hc) (by simp [hspace])
    · exact ⟨c, hc, hspace⟩
  obtain ⟨x, hx, hkept⟩ := hkept
  simp [hempty x hx] at hkept

theorem filled_render_missing_fields_iff :
    Filled (some (render_missing_fields case.missing_fields extraction_schema)) ↔
      ListsSomething case extraction_schema := by
  unfold ListsSomething render_missing_fields
  rcases hfields : case.missing_fields with _ | ⟨field, _ | ⟨field', rest⟩⟩
  · refine iff_of_false ?_ (by simp)
    rintro ⟨v, hv, hblank⟩
    cases hv
    change (strip "").isEmpty = false at hblank
    revert hblank
    decide +kernel
  · simp
  · refine iff_of_true (filled_of_mem (c := '.') ?_ (by decide)) (by simp)
    simp [String.toList_append]

variable {extra_field_names : Option (List String)}

theorem required_fields_not_accepted
    (hextra : extra_field_names = none ∨
      extra_field_names = extraction_schema.map ExtractionSchema.field_names)
    (haccepted : validate_template_placeholders content extra_field_names = .ok ())
    (hname : "required_fields" ∈ extract_placeholders content) :
    "required_fields" ∈ fieldNames extraction_schema := by
  rcases validate_template_placeholders_ok_iff.mp haccepted _ hname with h | h | h
  · rcases hextra with rfl | rfl
    · exact absurd h (by decide)
    · cases extraction_schema with
      | none => exact absurd h (by decide)
      | some schema => exact h
  · exact absurd h (by decide)
  · exact absurd h (by decide)

theorem filled_caseValue_iff {name : String}
    (hextra : extra_field_names = none ∨
      extra_field_names = extraction_schema.map ExtractionSchema.field_names)
    (haccepted : validate_template_placeholders content extra_field_names = .ok ())
    (hname : name ∈ extract_placeholders content)
    (hvalue : name ∈ fieldNames extraction_schema →
      ∃ fields value, extracted_fields = some fields ∧ valueOfField fields name = some value) :
    Filled (caseValue case extracted_fields extraction_schema name) ↔
      Supplied case extracted_fields extraction_schema name := by
  unfold Supplied
  by_cases hfield : name ∈ fieldNames extraction_schema
  · obtain ⟨fields, value, rfl, hvalue⟩ := hvalue hfield
    simp [caseValue, hfield]
  · have hvalue : caseValue case extracted_fields extraction_schema name =
        caseValue case (none : Option (ExtractedOrderFields F)) extraction_schema name := by
      cases extracted_fields <;> simp [caseValue, hfield]
    rw [hvalue, if_neg hfield]
    have hrequired : name ≠ "required_fields" := by
      rintro rfl
      exact hfield (required_fields_not_accepted extraction_schema hextra haccepted hname)
    by_cases hclaim : name = "claim_type"
    · simp [caseValue, hclaim]
    · by_cases hmissing : name = "missing_fields"
      · simp [caseValue, hmissing, filled_render_missing_fields_iff]
      · simp [caseValue, Filled, hclaim, hmissing, hrequired]

end

/-! ## The templates that are rendered -/

/-- The names that a verdict asks for. -/
def askedFor (eligibility : JsonObject F) : List String :=
  match eligibility.get? "verdict" with
  | some (.str "cannot_determine") => missingOf eligibility
  | _ => []

def FirstVerdict (extracted_fields : Option (ExtractedOrderFields F))
    (extraction_schema : Option ExtractionSchema) (actions : List (JsonObject F))
    (eligibility : JsonObject F) (summary : ResolutionVerdictSummary F) : Prop :=
  ∃ before action after, actions = before ++ action :: after ∧
    (∀ a ∈ before, verdictOf extracted_fields extraction_schema a = none) ∧
    eligibilityOf action = some eligibility ∧
    warranty_refund_eligibility_to_resolution_verdict eligibility extracted_fields
      extraction_schema = some summary

section

variable {extracted_fields : Option (ExtractedOrderFields F)}
  {extraction_schema : Option ExtractionSchema}

variable {summary : ResolutionVerdictSummary F}

variable {eligibility : JsonObject F}

theorem verdict_values
    (h : warranty_refund_eligibility_to_resolution_verdict eligibility extracted_fields
      extraction_schema = some summary) :
    summary.substitution_values = probe_substitution_values (claimTypeOf eligibility)
      (askedFor eligibility) none extracted_fields extraction_schema := by
  unfold warranty_refund_eligibility_to_resolution_verdict at h
  unfold askedFor
  split at h
  · rename_i hverdict
    rw [hverdict]
    split at h
    · split_ifs at h
      cases h
      rfl
    · cases h
  · rename_i hverdict
    rw [hverdict]
    obtain ⟨failed_rule, -, rfl⟩ := Option.map_eq_some_iff.mp h
    rfl
  · rename_i hverdict
    rw [hverdict]
    split at h
    · cases h
    · rename_i field fields hmissing
      cases h
      simp [hmissing]
  · cases h

variable {actions : List (JsonObject F)}

theorem first_resolution_verdict_attached (hown : ∀ action ∈ actions, WithoutVerdict action) :
    first_resolution_verdict
        (attach_resolution_verdicts actions extracted_fields extraction_schema) =
      (actions.findSome? (verdictOf extracted_fields extraction_schema)).map (·.to_dict) := by
  induction actions with
  | nil => rfl
  | cons action rest ih =>
    have hrest := ih fun a ha => hown a (List.mem_cons_of_mem _ ha)
    have hfirst : WithoutVerdict action := hown action List.mem_cons_self
    unfold first_resolution_verdict attach_resolution_verdicts at hrest ⊢
    rw [List.map_cons, List.findSome?_cons, List.findSome?_cons]
    cases hverdict : verdictOf extracted_fields extraction_schema action with
    | some summary => simp [JsonValue.mapping?]
    | none =>
      unfold WithoutVerdict at hfirst
      simpa [hfirst] using hrest

inductive Rendered [Interpreter F] [Numerals F] (repository : TemplateStore)
    (tenant_id channel : String) (extracted_fields : Option (ExtractedOrderFields F)) :
    Option ExtractionSchema → TemplateCase → (content text : String) → Prop
  | verdict {extraction_schema : Option ExtractionSchema} {actions : List (JsonObject F)}
      {eligibility : JsonObject F} {summary : ResolutionVerdictSummary F} {content text : String}
      (without : ∀ action ∈ actions, WithoutVerdict action)
      (first : FirstVerdict extracted_fields extraction_schema actions eligibility summary)
      (found : repository.get_approved_template tenant_id
        ("resolution." ++ summary.outcome.value ++ "." ++ summary.outcome_purpose_key) channel =
          some content)
      (reply : apply_resolution_verdict_override
        (attach_resolution_verdicts actions extracted_fields extraction_schema) (some repository)
        tenant_id (some channel) = .ok (some text)) :
      Rendered repository tenant_id channel extracted_fields extraction_schema
        ⟨claimTypeOf eligibility, askedFor eligibility, none⟩ content text
  | collection {schema : ExtractionSchema} {actions reply_segments : List (JsonObject F)}
      {category content text : String}
      (found : repository.get_approved_template tenant_id
        ("resolution.collect_context." ++ category) channel = some content)
      (reply : apply_collection_template_override actions (some repository) tenant_id category
        (some channel) reply_segments extracted_fields (some schema) = .ok (some text)) :
      Rendered repository tenant_id channel extracted_fields (some schema)
        ⟨none, fieldsToCollect schema extracted_fields, some schema.required_for_auto⟩ content text

theorem first_resolution_verdict_of_first (hown : ∀ action ∈ actions, WithoutVerdict action)
    (hfirst : FirstVerdict extracted_fields extraction_schema actions eligibility summary) :
    first_resolution_verdict
        (attach_resolution_verdicts actions extracted_fields extraction_schema) =
      some summary.to_dict := by
  obtain ⟨before, action, after, hactions, hbefore, heligibility, hsummary⟩ := hfirst
  have hverdict : verdictOf extracted_fields extraction_schema action = some summary := by
    simpa [verdictOf, heligibility] using hsummary
  rw [first_resolution_verdict_attached hown,
    List.findSome?_eq_some_iff.mpr ⟨before, action, after, hactions, hverdict, hbefore⟩]
  rfl

variable {repository : TemplateStore}

variable {tenant_id channel text : String}

theorem renderApproved_some {purpose : String} {values : JsonObject F}
    (h : renderApproved repository tenant_id purpose channel values = .ok (some text)) :
    ∃ content, repository.get_approved_template tenant_id purpose channel = some content ∧
      substitute_placeholders content values = .ok text := by
  unfold renderApproved at h
  cases htemplate : repository.get_approved_template tenant_id purpose channel with
  | none => simp [htemplate] at h
  | some content =>
    cases hsubstituted : substitute_placeholders content values with
    | error e => simp [htemplate, hsubstituted, Except.map] at h
    | ok rendered =>
      simp only [htemplate, hsubstituted, Except.map, Except.ok.injEq, Option.some.injEq] at h
      exact ⟨content, rfl, h ▸ hsubstituted⟩

theorem apply_resolution_verdict_override_some
    (hfirst : first_resolution_verdict actions = some summary.to_dict)
    (h : apply_resolution_verdict_override actions (some repository) tenant_id (some channel) =
      .ok (some text)) :
    ∃ content, repository.get_approved_template tenant_id
        ("resolution." ++ summary.outcome.value ++ "." ++ summary.outcome_purpose_key) channel =
          some content ∧
      substitute_placeholders content summary.substitution_values = .ok text := by
  unfold apply_resolution_verdict_override at h
  rw [hfirst] at h
  have houtcome : summary.to_dict.get? "outcome" = some (.str summary.outcome.value) := rfl
  have hpurpose : summary.to_dict.get? "outcome_purpose_key" =
      some (.str summary.outcome_purpose_key) := rfl
  have hvalues : ((summary.to_dict.get? "substitution_values").bind
      JsonValue.mapping?).getD .empty = summary.substitution_values := by
    change ((some (JsonValue.dict summary.substitution_values.items)).bind _).getD _ = _
    simp [JsonValue.mapping?]
  simp only [houtcome, hpurpose, hvalues] at h
  split_ifs at h
  · simp at h
  · exact renderApproved_some h

theorem apply_collection_template_override_some [Interpreter F] [Numerals F]
    {actions reply_segments : List (JsonObject F)} {category : String} {schema : ExtractionSchema}
    (h : apply_collection_template_override actions (some repository) tenant_id category
      (some channel) reply_segments extracted_fields (some schema) = .ok (some text)) :
    ∃ content, repository.get_approved_template tenant_id
        ("resolution.collect_context." ++ category) channel = some content ∧
      substitute_placeholders content (probe_substitution_values none
        (fieldsToCollect schema extracted_fields) (some schema.required_for_auto)
        extracted_fields (some schema)) = .ok text := by
  simp only [apply_collection_template_override] at h
  split_ifs at h
  iterate 4 simp at h
  exact renderApproved_some h

theorem Rendered.substituted [Interpreter F] [Numerals F] {case : TemplateCase}
    (h : Rendered repository tenant_id channel extracted_fields extraction_schema case content
      text) :
    substitute_placeholders content (probe_substitution_values case.claim_type
      case.missing_fields case.required_fields extracted_fields extraction_schema) =
        .ok text := by
  cases h with
  | verdict without first found reply =>
    obtain ⟨content', hfound, htext⟩ := apply_resolution_verdict_override_some
      (first_resolution_verdict_of_first without first) reply
    obtain ⟨-, -, -, -, -, -, hsummary⟩ := first
    rw [found] at hfound
    cases hfound
    rw [← verdict_values hsummary]
    exact htext
  | collection found reply =>
    obtain ⟨content', hfound, htext⟩ := apply_collection_template_override_some reply
    rw [found] at hfound
    cases hfound
    exact htext

/-! ## The law -/

/-- An accepted template leaves no marker exactly when the case supplies every name in it, and neither
its letters nor the values spell one. The two derived names are not always supplied. -/
theorem accepted_template_renders_iff [Interpreter F] [Numerals F] {repository : TemplateStore}
    {tenant_id channel : String} {case : TemplateCase} {content text : String}
    (hrendered : Rendered repository tenant_id channel extracted_fields extraction_schema case
      content text)
    {extra_field_names : Option (List String)}
    (hextra : extra_field_names = none ∨
      extra_field_names = extraction_schema.map ExtractionSchema.field_names)
    (haccepted : validate_template_placeholders content extra_field_names = .ok ())
    (hvalues : ∀ name ∈ extract_placeholders content, name ∈ fieldNames extraction_schema →
      ∃ fields value, extracted_fields = some fields ∧ valueOfField fields name = some value) :
    contains_unresolved_placeholder_marker text = false ↔
      (∀ name ∈ extract_placeholders content,
        Supplied case extracted_fields extraction_schema name) ∧
      ¬ SpellsMarker content (caseValue case extracted_fields extraction_schema) := by
  rw [substituted_has_no_marker_iff hrendered.substituted]
  have hvalueIn := funext
    (valueIn_probe_substitution_values case extracted_fields extraction_schema)
  rw [hvalueIn]
  refine and_congr_left fun _ => forall₂_congr fun name hname => ?_
  exact filled_caseValue_iff case extracted_fields extraction_schema hextra haccepted hname
    (hvalues name hname)

end

/-! ## A request for an invoice -/

def invoiceSchema : ExtractionSchema :=
  ⟨[{ name := "invoice_number", display_name := "your invoice number", required_for_auto := true }]⟩

/-- A store with one template, which asks for what is missing. -/
def collectionTemplates (content : String) : TemplateStore where
  get_approved_template _ purpose _ :=
    if purpose = "resolution.collect_context.return" then some content else none

/-- The reply to a case without an invoice number. -/
def collectionReply (content : String) : Except SubstitutionError (Option String) :=
  apply_collection_template_override [COLLECT_CONTEXT_FALLBACK_ACTION]
    (some (collectionTemplates content)) "acme" "return" (some "email")
    [Dict.ofList [("kind", .str "question")]] (none : Option (ExtractedOrderFields Int))
    (some invoiceSchema)

theorem invoice_rendered (content text : String) (h : collectionReply content = .ok (some text)) :
    Rendered (F := Int) (collectionTemplates content) "acme" "email" none (some invoiceSchema)
      ⟨none, ["invoice_number"], some ["invoice_number"]⟩ content text := by
  have hfound : (collectionTemplates content).get_approved_template "acme"
      ("resolution.collect_context." ++ "return") "email" = some content := rfl
  exact .collection hfound h

theorem no_field_named (h : "invoice_number" ∉ extract_placeholders content) {P : String → Prop} :
    ∀ name ∈ extract_placeholders content,
      name ∈ fieldNames (some invoiceSchema) → P name := by
  intro name hname hfield
  rw [List.mem_singleton.mp (show name ∈ ["invoice_number"] from hfield)] at hname
  exact absurd hname h

/-- A template that only asks for the missing fields leaves no marker. -/
theorem a_request_for_an_invoice_has_no_marker :
    contains_unresolved_placeholder_marker "Please send us your invoice number." = false := by
  have hnames : extract_placeholders "Please send us {missing_fields}." = ["missing_fields"] := by
    decide +kernel
  refine (accepted_template_renders_iff
    (invoice_rendered "Please send us {missing_fields}." _ (by decide +kernel)) (Or.inl rfl)
    (by decide +kernel) (no_field_named (by rw [hnames]; decide))).mpr ⟨?_, ?_⟩
  · rw [hnames]
    simp only [List.forall_mem_singleton]
    refine Or.inr ⟨rfl, by decide, fun field hfield => ?_⟩
    cases hfield
    exact ⟨_, rfl, by decide +kernel⟩
  · change ¬ (_ <:+: _)
    decide +kernel

/-- One that also names the claim type does, as nothing supplies it there. -/
theorem a_request_that_names_the_claim_type_has_a_marker :
    ¬ ∀ (repository : TemplateStore) (tenant_id channel : String)
        (extracted_fields : Option (ExtractedOrderFields Int))
        (extraction_schema : Option ExtractionSchema) (case : TemplateCase)
        (content text : String) (extra_field_names : Option (List String)),
      Rendered repository tenant_id channel extracted_fields extraction_schema case content text →
      extra_field_names = none ∨
        extra_field_names = extraction_schema.map ExtractionSchema.field_names →
      validate_template_placeholders content extra_field_names = .ok () →
      (∀ name ∈ extract_placeholders content, name ∈ fieldNames extraction_schema →
        ∃ fields value, extracted_fields = some fields ∧ valueOfField fields name = some value) →
      contains_unresolved_placeholder_marker text = false := by
  intro h
  have hnames : extract_placeholders "For your {claim_type} we need {missing_fields}." =
      ["claim_type", "missing_fields"] := by decide +kernel
  have hclean := h _ _ _ _ _ _ _ _ none
    (invoice_rendered "For your {claim_type} we need {missing_fields}."
      "For your [missing: claim_type] we need your invoice number." (by decide +kernel))
    (Or.inl rfl) (by decide +kernel) (no_field_named (by rw [hnames]; decide))
  revert hclean
  decide +kernel

end operious.resolution
