-- The result of an execution as its JSONB column keeps it: what `from_dict` reads off a payload, what
-- `to_dict` writes, and what a second reading makes of the first one.
import Operious.Tools.Values

namespace operious.execution_runtime

namespace result_envelope

open agents.tools

structure ExecutionResultEnvelope (F : Type) where
  schema_version : String := "1"
  diagnostic_category : Option String := none
  diagnostic_confidence : Option F := none
  diagnostic_summary : Option String := none
  governance_decision_id : Option String := none
  governance_decision : Option String := none
  resolution_proposal_id : Option String := none
  resolution_draft_id : Option String := none
  error_code : Option String := none
  error_message : Option String := none
  metadata : JsonObject F := Dict.empty

def PRE_VERSIONED_SCHEMA_VERSION : String := "0"

variable {F : Type}

def floatOrNull : Option F → JsonValue F
  | some x => .float x
  | none => .null

def ExecutionResultEnvelope.to_dict (e : ExecutionResultEnvelope F) : JsonObject F :=
  Dict.ofList
    [("_schema_version", .str e.schema_version),
      ("diagnostic_category", .ofOption e.diagnostic_category),
      ("diagnostic_confidence", floatOrNull e.diagnostic_confidence),
      ("diagnostic_summary", .ofOption e.diagnostic_summary),
      ("governance_decision_id", .ofOption e.governance_decision_id),
      ("governance_decision", .ofOption e.governance_decision),
      ("resolution_proposal_id", .ofOption e.resolution_proposal_id),
      ("resolution_draft_id", .ofOption e.resolution_draft_id),
      ("error_code", .ofOption e.error_code),
      ("error_message", .ofOption e.error_message),
      ("metadata", .dict e.metadata.items)]

def known_keys : List String :=
  ["_schema_version", "diagnostic_category", "diagnostic_confidence", "diagnostic_summary",
    "governance_decision_id", "governance_decision", "resolution_proposal_id", "resolution_draft_id",
    "error_code", "error_message", "metadata"]

/-! ## The readers -/

section

-- `str(value)` of a value that is neither text nor null. An int of too many digits raises.
variable (str : JsonValue F → Except ArithmeticException String)

def optional_str : Option (JsonValue F) → Except ArithmeticException (Option String)
  | some (.str s) => .ok (some s)
  | none | some .null => .ok none
  | some value => (str value).map some

/-- `_optional_str(current) or _optional_str(legacy)`. -/
def first_str (current legacy : Option (JsonValue F)) : Except ArithmeticException (Option String) := do
  match ← optional_str str current with
  | some s => if s.isEmpty then optional_str str legacy else .ok (some s)
  | none => optional_str str legacy

def optional_float [Interpreter F] (value : Option (JsonValue F)) : Except ArithmeticException (Option F) :=
  match value with
  | some value => value.float?
  | none => .ok none

def metadata (value : Option (JsonValue F)) : JsonObject F :=
  (value.bind JsonValue.mapping?).getD Dict.empty

def from_dict [Interpreter F] (data : JsonObject F) :
    Except ArithmeticException (ExecutionResultEnvelope F) := do
  let extra := data.items.filter fun item => !known_keys.contains item.1
  let schema_version ← optional_str str (data.get? "_schema_version")
  let diagnostic_category ← first_str str (data.get? "diagnostic_category") (data.get? "category")
  let current ← optional_float (data.get? "diagnostic_confidence")
  let legacy ← optional_float (data.get? "confidence")
  let diagnostic_summary ← first_str str (data.get? "diagnostic_summary") (data.get? "summary")
  let governance_decision_id ← optional_str str (data.get? "governance_decision_id")
  let governance_decision ← optional_str str (data.get? "governance_decision")
  let resolution_proposal_id ← optional_str str (data.get? "resolution_proposal_id")
  let resolution_draft_id ← optional_str str (data.get? "resolution_draft_id")
  let error_code ← optional_str str (data.get? "error_code")
  let error_message ← optional_str str (data.get? "error_message")
  .ok
    { schema_version := (orStr schema_version none).getD PRE_VERSIONED_SCHEMA_VERSION
      diagnostic_category, diagnostic_confidence := current.or legacy, diagnostic_summary
      governance_decision_id, governance_decision, resolution_proposal_id, resolution_draft_id
      error_code, error_message
      metadata := (metadata (data.get? "metadata")).update extra }

/-! ## The second reading -/

@[simp] theorem optional_str_ofOption (s : Option String) :
    optional_str str (some (.ofOption s)) = .ok s := by
  cases s <;> rfl

theorem first_str_ofOption (s : Option String) :
    first_str str (some (.ofOption s)) none = .ok (orStr s none) := by
  rw [first_str, optional_str_ofOption]
  cases s with
  | none => rfl
  | some s =>
    simp only [bind, Except.bind, orStr, optional_str]
    split <;> rfl

variable [Interpreter F]

@[simp] theorem optional_float_floatOrNull (x : Option F) :
    optional_float (some (floatOrNull x)) = .ok x := by
  cases x <;> rfl

omit [Interpreter F] in
theorem to_dict_get? (e : ExecutionResultEnvelope F) (key : String) :
    e.to_dict.get? key = Dict.find key
      [("_schema_version", .str e.schema_version),
        ("diagnostic_category", .ofOption e.diagnostic_category),
        ("diagnostic_confidence", floatOrNull e.diagnostic_confidence),
        ("diagnostic_summary", .ofOption e.diagnostic_summary),
        ("governance_decision_id", .ofOption e.governance_decision_id),
        ("governance_decision", .ofOption e.governance_decision),
        ("resolution_proposal_id", .ofOption e.resolution_proposal_id),
        ("resolution_draft_id", .ofOption e.resolution_draft_id),
        ("error_code", .ofOption e.error_code),
        ("error_message", .ofOption e.error_message),
        ("metadata", .dict e.metadata.items)] :=
  Dict.get?_ofList (by simp) key

omit [Interpreter F] in
theorem to_dict_known (e : ExecutionResultEnvelope F) :
    (e.to_dict.items.filter fun item => !known_keys.contains item.1) = [] := by
  rw [ExecutionResultEnvelope.to_dict, Dict.items_ofList (by simp)]
  simp [known_keys]

theorem from_dict_to_dict (e : ExecutionResultEnvelope F) :
    from_dict str e.to_dict = .ok
      { e with
        schema_version := (orStr (some e.schema_version) none).getD PRE_VERSIONED_SCHEMA_VERSION
        diagnostic_category := orStr e.diagnostic_category none
        diagnostic_summary := orStr e.diagnostic_summary none } := by
  have hmetadata : metadata (some (.dict e.metadata.items)) = e.metadata :=
    Dict.ext (Dict.items_ofList e.metadata.distinct)
  have hversion : optional_str str (some (.str e.schema_version)) = .ok (some e.schema_version) := rfl
  have hnone : optional_float (none : Option (JsonValue F)) = .ok none := rfl
  rw [from_dict, to_dict_known]
  simp [to_dict_get?, Dict.find, hversion, hnone, first_str_ofOption, hmetadata, bind, Except.bind]
  rfl

/-- The legacy text is not an empty one that stands in for a missing or empty text. -/
def KeepsText (current legacy : Option (JsonValue F)) : Prop :=
  ¬ ((optional_str str current = .ok none ∨ optional_str str current = .ok (some "")) ∧
      optional_str str legacy = .ok (some ""))

omit [Interpreter F] in
theorem keepsText_iff {current legacy : Option (JsonValue F)} {s : Option String}
    (h : first_str str current legacy = .ok s) : KeepsText str current legacy ↔ orStr s none = s := by
  have hs : orStr s none = s ↔ s ≠ some "" := by
    cases s with
    | none => simp [orStr]
    | some s => by_cases hempty : s = "" <;> simp [orStr, hempty]
  obtain ⟨c, hc, h⟩ := bind_eq_ok.mp h
  rw [hs, KeepsText, hc, not_iff_not]
  cases c with
  | none =>
    rw [show optional_str str legacy = .ok s from h]
    simp
  | some text =>
    by_cases hempty : text = ""
    · subst hempty
      rw [show optional_str str legacy = .ok s from h]
      simp
    · simp only [String.isEmpty_iff, hempty, if_false] at h
      cases h
      simp [hempty]

/-- What was read off a mapping is read back as it is exactly when no empty legacy text was taken for the
category or the summary. -/
theorem read_back_iff {d : JsonObject F} {e : ExecutionResultEnvelope F} (h : from_dict str d = .ok e) :
    from_dict str e.to_dict = .ok e ↔
      KeepsText str (d.get? "diagnostic_category") (d.get? "category") ∧
        KeepsText str (d.get? "diagnostic_summary") (d.get? "summary") := by
  simp only [from_dict, bind_eq_ok] at h
  obtain ⟨version, -, category, hcategory, _, -, _, -, summary, hsummary, _, -, _, -, _, -, _, -, _, -, _, -,
    he⟩ := h
  obtain rfl := Except.ok.inj he
  have hversion : (orStr (some ((orStr version none).getD PRE_VERSIONED_SCHEMA_VERSION)) none).getD
      PRE_VERSIONED_SCHEMA_VERSION = (orStr version none).getD PRE_VERSIONED_SCHEMA_VERSION := by
    cases version with
    | none => rfl
    | some v => by_cases hempty : v = "" <;> simp [orStr, hempty, PRE_VERSIONED_SCHEMA_VERSION]
  rw [from_dict_to_dict, keepsText_iff str hcategory, keepsText_iff str hsummary]
  simp [hversion]

end

/-! ## An empty legacy category -/

def strOfNothing (_ : JsonValue Int) : Except ArithmeticException String := .error .value_error

/-- The first reading takes the empty category, and the second one loses it. -/
theorem an_empty_legacy_category_is_lost :
    ¬ ∀ e, from_dict strOfNothing (Dict.ofList [("category", .str "")] : JsonObject Int) = .ok e →
      from_dict strOfNothing e.to_dict = .ok e := by
  intro h
  have hread : from_dict strOfNothing (Dict.ofList [("category", .str "")] : JsonObject Int) = .ok
      { schema_version := "0", diagnostic_category := some ""
        metadata := Dict.ofList [("category", .str "")] } := rfl
  have hback := (from_dict_to_dict strOfNothing _).symm.trans (h _ hread)
  exact absurd (congrArg (·.toOption.bind (·.diagnostic_category)) hback) (by decide)

/-- A legacy category with a text is kept. -/
theorem a_legacy_category_is_kept :
    from_dict strOfNothing (Dict.ofList [("category", .str "charging_issue")] : JsonObject Int) = .ok
        { schema_version := "0", diagnostic_category := some "charging_issue"
          metadata := Dict.ofList [("category", .str "charging_issue")] } ∧
      (from_dict strOfNothing (ExecutionResultEnvelope.to_dict
          { schema_version := "0", diagnostic_category := some "charging_issue"
            metadata := Dict.ofList [("category", .str "charging_issue")] }) = .ok
          { schema_version := "0", diagnostic_category := some "charging_issue"
            metadata := Dict.ofList [("category", .str "charging_issue")] } ↔
        KeepsText strOfNothing none (some (.str "charging_issue")) ∧
          KeepsText strOfNothing none none) :=
  ⟨rfl, read_back_iff strOfNothing (d := Dict.ofList [("category", .str "charging_issue")]) rfl⟩

end result_envelope

end operious.execution_runtime
