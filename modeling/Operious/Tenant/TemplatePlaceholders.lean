-- The placeholders of message templates: which ones a template names, which can be filled, and the
-- text that comes of filling them.
import Mathlib.Data.List.Dedup
import Operious.Cognition.Extraction
import Operious.Reply.SendGates

namespace operious.tenant

open operious.agents.tools operious.cognition
open operious.auto_send (contains_unresolved_placeholder_marker)

variable {F : Type}

/-! ## Placeholders -/

def isNameStart (c : Char) : Bool := 'a' ≤ c && c ≤ 'z'

def isNameChar (c : Char) : Bool := isNameStart c || ('0' ≤ c && c ≤ '9') || c = '_'

/-- The name that makes a placeholder with the brace before it and the one after it. -/
def placeholderAt (cs : List Char) : Option (List Char) :=
  let name := cs.takeWhile isNameChar
  match name.head?, cs.drop name.length with
  | some c, '}' :: rest => if isNameStart c && rest.head? ≠ some '}' then some name else none
  | _, _ => none

/-- A piece of a template. -/
inductive Token
  | char (c : Char)
  | placeholder (name : String)
  deriving DecidableEq, Repr

/-- The matches of `_PLACEHOLDER_PATTERN` and the characters between them. The first `skip`
characters are those of a match that began before. -/
def tokensFrom : (skip : Nat) → (before : Option Char) → List Char → List Token
  | _, _, [] => []
  | skip + 1, _, c :: rest => tokensFrom skip (some c) rest
  | 0, before, c :: rest =>
    match if c = '{' ∧ before ≠ some '{' then placeholderAt rest else none with
    | some name => .placeholder (String.ofList name) :: tokensFrom (name.length + 1) (some c) rest
    | none => .char c :: tokensFrom 0 (some c) rest

def tokens (content : String) : List Token := tokensFrom 0 none (ascii.chars content)

def Token.name? : Token → Option String
  | .char _ => none
  | .placeholder name => some name

def extract_placeholders (content : String) : List String :=
  ((tokens content).filterMap Token.name?).dedup

def ALWAYS_DERIVED_PLACEHOLDERS : List String := ["claim_type", "missing_fields"]

def fillable_template_placeholders (extra_field_names : Option (List String)) : List String :=
  ((extra_field_names.getD EXTRACTED_ORDER_FIELD_NAMES) ++ ALWAYS_DERIVED_PLACEHOLDERS).dedup

/-- Raises `TemplatePlaceholderError` of the message. -/
def validate_template_placeholders (content : String)
    (extra_field_names : Option (List String) := none) : Except String Unit :=
  let fillable := fillable_template_placeholders extra_field_names
  let unknown := (extract_placeholders content).filter (· ∉ fillable)
  if unknown = [] then .ok ()
  else .error ("template references placeholder(s) that can never be filled: " ++
    ", ".intercalate (sorted unknown) ++ " -- fillable placeholders are: " ++
    ", ".intercalate (sorted fillable))

example : validate_template_placeholders "{{a}} {b c} {order_id}" = .ok () := by decide +kernel

variable {content : String}

theorem mem_extract_placeholders {name : String} :
    name ∈ extract_placeholders content ↔ Token.placeholder name ∈ tokens content := by
  rw [extract_placeholders, List.mem_dedup, List.mem_filterMap]
  constructor
  · rintro ⟨token, htoken, hname⟩
    cases token with
    | char c => cases hname
    | placeholder name' => exact Option.some.inj hname ▸ htoken
  · exact fun h => ⟨_, h, rfl⟩

theorem validate_template_placeholders_ok_iff {extra_field_names : Option (List String)} :
    validate_template_placeholders content extra_field_names = .ok () ↔
      ∀ name ∈ extract_placeholders content,
        name ∈ extra_field_names.getD EXTRACTED_ORDER_FIELD_NAMES ∨ name = "claim_type" ∨
          name = "missing_fields" := by
  simp [validate_template_placeholders, fillable_template_placeholders,
    ALWAYS_DERIVED_PLACEHOLDERS, List.filter_eq_nil_iff, or_iff_not_imp_left]

/-! ## Substitution -/

/-- A value that is no string has no `strip`. -/
inductive SubstitutionError
  | attribute_error
  deriving DecidableEq, Repr

/-- The text that stands for a placeholder without a value. -/
def missingMarker (name : String) : List Char :=
  ascii.chars "[missing: " ++ ascii.chars name ++ [']']

def textFor (name : String) (value : Option String) : List Char :=
  match value with
  | none => missingMarker name
  | some value => if (strip value).isEmpty then missingMarker name else ascii.chars value

/-- `_replace`. -/
def replacement (values : JsonObject F) (name : String) : Except SubstitutionError (List Char) :=
  match values.get? name with
  | none | some .null => .ok (textFor name none)
  | some (.str value) => .ok (textFor name (some value))
  | some _ => .error .attribute_error

def substituteTokens (values : JsonObject F) : List Token → Except SubstitutionError (List Char)
  | [] => .ok []
  | .char c :: rest => do
    let cs ← substituteTokens values rest
    return c :: cs
  | .placeholder name :: rest => do
    let text ← replacement values name
    let cs ← substituteTokens values rest
    return text ++ cs

def substitute_placeholders (content : String) (values : JsonObject F) :
    Except SubstitutionError String :=
  (substituteTokens values (tokens content)).map String.ofList

/-- What `values` holds under the name, or none where it holds no string. -/
def valueIn (values : JsonObject F) (name : String) : Option String :=
  match values.get? name with
  | some (.str value) => some value
  | _ => none

/-! ## Markers -/

def Filled (value : Option String) : Prop := ∃ v, value = some v ∧ (strip v).isEmpty = false

def Token.rendered (valueOf : String → Option String) : Token → List Char
  | .char c => [c]
  | .placeholder name => textFor name (valueOf name)

/-- A token with the value of its name put in, and nothing where there is none. -/
def Token.spelled (valueOf : String → Option String) : Token → List Char
  | .char c => [c]
  | .placeholder name => ascii.chars ((valueOf name).getD "")

/-- The letters of the template and those of the values happen to spell the start of a marker. -/
def SpellsMarker (content : String) (valueOf : String → Option String) : Prop :=
  ascii.chars "[missing: " <:+: (tokens content).flatMap (Token.spelled valueOf)

variable {values : JsonObject F} {name : String}

theorem replacement_eq {text : List Char} (h : replacement values name = .ok text) :
    text = textFor name (valueIn values name) := by
  unfold replacement at h
  unfold valueIn
  cases hvalue : values.get? name with
  | none => simpa [hvalue] using h.symm
  | some value => cases value <;> simp_all

theorem substituteTokens_eq {ts : List Token} {cs : List Char}
    (h : substituteTokens values ts = .ok cs) :
    cs = ts.flatMap (Token.rendered (valueIn values)) := by
  induction ts generalizing cs with
  | nil => simpa [substituteTokens] using h.symm
  | cons t rest ih =>
    cases t with
    | char c =>
      obtain ⟨tail, htail, hcs⟩ := bind_eq_ok.mp h
      cases hcs
      rw [ih htail]
      rfl
    | placeholder name =>
      obtain ⟨text, htext, h⟩ := bind_eq_ok.mp h
      obtain ⟨tail, htail, hcs⟩ := bind_eq_ok.mp h
      cases hcs
      rw [ih htail, replacement_eq htext]
      rfl

variable {value : Option String}

theorem textFor_of_filled (h : Filled value) :
    textFor name value = ascii.chars (value.getD "") := by
  obtain ⟨v, rfl, hv⟩ := h
  simp [textFor, hv]

theorem textFor_of_not_filled (h : ¬ Filled value) : textFor name value = missingMarker name := by
  cases value with
  | none => rfl
  | some v =>
    have hv : (strip v).isEmpty = true := by
      by_contra hv
      exact h ⟨v, rfl, by simpa using hv⟩
    simp [textFor, hv]

/-- A text made from a template is free of markers exactly when every name has a value that is not
blank and no marker is spelled by chance. -/
theorem substituted_has_no_marker_iff {text : String}
    (h : substitute_placeholders content values = .ok text) :
    contains_unresolved_placeholder_marker text = false ↔
      (∀ name ∈ extract_placeholders content, Filled (valueIn values name)) ∧
        ¬ SpellsMarker content (valueIn values) := by
  have htext : ascii.chars text = (tokens content).flatMap (Token.rendered (valueIn values)) := by
    unfold substitute_placeholders at h
    cases hcs : substituteTokens values (tokens content) with
    | error e => simp [hcs, Except.map] at h
    | ok cs =>
      simp only [hcs, Except.map, Except.ok.injEq] at h
      rw [← h, ascii.chars_eq_toList, String.toList_ofList]
      exact substituteTokens_eq hcs
  have hmarker : contains_unresolved_placeholder_marker text = false ↔
      ¬ ascii.chars "[missing: " <:+: (tokens content).flatMap
        (Token.rendered (valueIn values)) := by
    simp [contains_unresolved_placeholder_marker, htext]
  rw [hmarker]
  by_cases hfilled : ∀ name ∈ extract_placeholders content, Filled (valueIn values name)
  · have hspelled : (tokens content).flatMap (Token.rendered (valueIn values)) =
        (tokens content).flatMap (Token.spelled (valueIn values)) := by
      refine List.flatMap_congr fun t ht => ?_
      cases t with
      | char c => rfl
      | placeholder name => exact textFor_of_filled (hfilled name (mem_extract_placeholders.mpr ht))
    rw [hspelled, and_iff_right hfilled]
    rfl
  · refine iff_of_false (not_not.mpr ?_) fun hall => hfilled hall.1
    push Not at hfilled
    obtain ⟨name, hname, hnot⟩ := hfilled
    have hinfix : missingMarker name <:+:
        (tokens content).flatMap (Token.rendered (valueIn values)) := by
      obtain ⟨before, after, hsplit⟩ :=
        List.append_of_mem (mem_extract_placeholders.mp hname)
      refine ⟨before.flatMap (Token.rendered (valueIn values)),
        after.flatMap (Token.rendered (valueIn values)), ?_⟩
      rw [hsplit, List.flatMap_append, List.flatMap_cons, ← textFor_of_not_filled hnot,
        List.append_assoc]
      rfl
    exact (List.IsPrefix.isInfix (by simp [missingMarker])).trans hinfix

end operious.tenant
