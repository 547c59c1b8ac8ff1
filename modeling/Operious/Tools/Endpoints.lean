-- The URL that a connector calls: a template of the tenant, with texts of the payload put into it by
-- `str.format`.
import Operious.Lib.Percent
import Operious.Lib.Templates
import Operious.Resolution.Gate

namespace operious.agents.tools.connectors

open operious.resolution (truthy textOfValue Numerals)
open percent (quote unreserved)
open templates (fill holes subst written)

abbrev Symbol := templates.Symbol Char String

/-! ## Templates -/

/-- The symbols of a template whose fields have a name alone: no index, conversion or format. The
name that is being read, if any, stands in reverse. -/
def scan : (open_ : Option (List Char)) → List Char → Option (List Symbol)
  | none, [] => some []
  | some _, [] => none
  | some name, c :: rest =>
    if c = '}' then (scan none rest).map (.hole (String.ofList name.reverse) :: ·)
    else if c = '{' ∨ c = '[' ∨ c = '!' ∨ c = ':' then none
    else scan (some (c :: name)) rest
  | none, '{' :: '{' :: rest => (scan none rest).map (.lit '{' :: ·)
  | none, '}' :: '}' :: rest => (scan none rest).map (.lit '}' :: ·)
  | none, c :: rest =>
    if c = '{' then scan (some []) rest
    else if c = '}' then none
    else (scan none rest).map (.lit c :: ·)

def parse (template : String) : Option (List Symbol) := scan none template.toList

example : parse "a\x7b\x7b\x7bb.c\x7d" = some [.lit 'a', .lit '\x7b', .hole "b.c"] := by
  decide +kernel

/-- `path.split(".")`. -/
def parts (path : String) : List String := (path.toList.splitOn '.').map String.ofList

theorem eq_of_parts {name first : String} (h : parts name = [first]) : first = name := by
  unfold parts at h
  have hjoin : ['.'].intercalate (name.toList.splitOn '.') = name.toList :=
    List.intercalate_splitOn '.'
  cases hsplit : name.toList.splitOn '.' with
  | nil => simp [hsplit] at h
  | cons part rest =>
    rw [hsplit] at h hjoin
    obtain ⟨hfirst, hrest⟩ := List.cons.inj h
    obtain rfl := List.map_eq_nil_iff.mp hrest
    have hpart : part = name.toList := by simpa using hjoin
    rw [← hfirst, hpart, String.ofList_toList]

/-! ## `render_endpoint` -/

inductive Fault
  | key_error (key : String)
  | index_error
  | value_error
  | attribute_error
  deriving DecidableEq, Repr

/-- What `str.format` finds behind the dots of a field. -/
class Attributes where
  /-- `str(getattr(text, name))`, through all the names. -/
  of_text (text : String) (names : List String) : Except Fault String

section code

variable {F : Type}

def mapping_get (value : JsonValue F) (key : String) : Option (JsonValue F) :=
  value.mapping?.bind (·.get? key)

/-- The walk of `_value_at` from what it has found so far. It ends at the first `None`. -/
def walk : Option (JsonValue F) → List String → Option (JsonValue F)
  | none, _ => none
  | some .null, _ => none
  | some value, [] => some value
  | some value, part :: rest => walk (mapping_get value part) rest

def value_at (values : JsonObject F) (path : String) : Option (JsonValue F) :=
  match parts path with
  | [] => none
  | first :: rest => walk (values.get? first) rest

variable [Interpreter F] [Numerals F]

/-- `str(value or "")`. -/
def text_or_empty : Option (JsonValue F) → String
  | some value => if truthy value then textOfValue value else ""
  | none => ""

/-- The dictionary that `render_endpoint` formats with. -/
def values_of (symbols : List Symbol) (payload : JsonObject F) : Dict String String :=
  (holes symbols).foldl
    (fun values name => values.set name (text_or_empty (value_at payload name))) .empty

/-- A field whose first part has digits alone, or is empty, is a position among the arguments. -/
def numeral (name : String) : Bool := name.toList.all fun c => (digitValue c).isSome

/-- The text of a field of `str.format`, where all arguments have names. -/
def field [Attributes] (values : Dict String String) (name : String) : Except Fault String :=
  match parts name with
  | [] => .error .index_error
  | first :: names =>
    if numeral first then
      let position := (first.toList.filterMap digitValue).foldl (fun n d => 10 * n + d) 0
      .error (if position < 2 ^ 63 then .index_error else .value_error)
    else
      match values.get? first with
      | none => .error (.key_error first)
      | some text => if names = [] then .ok text else Attributes.of_text text names

/-- `template.format(**values)`. -/
def format [Attributes] (values : Dict String String) : List Symbol → Except Fault (List Char)
  | [] => .ok []
  | .lit c :: rest => do
    let text ← format values rest
    return c :: text
  | .hole name :: rest => do
    let found ← field values name
    let text ← format values rest
    return found.toList ++ text

def render_endpoint [Attributes] (symbols : List Symbol) (payload : JsonObject F) :
    Except Fault String :=
  (format (values_of symbols payload) symbols).map String.ofList

end code

/-! ## URLs -/

/-- A URL, or a template of one, cut at its delimiters. -/
structure Url where
  scheme : List Symbol
  host : List Symbol
  segments : List (List Symbol)
  query_keys : List (List Symbol)
  fragment : List Symbol
  deriving DecidableEq, Repr

variable {symbols : List Symbol}

namespace Url

def delimiter (d : List Char) : Symbol → Bool
  | .lit c => d.contains c
  | .hole _ => false

def outside (d : List Char) (symbol : Symbol) : Bool := !delimiter d symbol

/-- The URL of a scheme and of what follows the two slashes. -/
def make (scheme rest : List Symbol) : Url :=
  let tail := rest.dropWhile (outside ['/', '?', '#'])
  let visible := tail.takeWhile (outside ['#'])
  { scheme := scheme
    host := rest.takeWhile (outside ['/', '?', '#'])
    segments := (visible.takeWhile (outside ['?'])).splitOnP (delimiter ['/'])
    query_keys := ((visible.dropWhile (outside ['?'])).tail.splitOnP (delimiter ['&'])).map
      (·.takeWhile (outside ['=']))
    fragment := tail.dropWhile (outside ['#']) }

def cut (symbols : List Symbol) : Option Url :=
  match symbols.dropWhile (outside [':']) with
  | .lit ':' :: .lit '/' :: .lit '/' :: rest =>
    some (make (symbols.takeWhile (outside [':'])) rest)
  | _ => none

def subst (f : String → List Char) (url : Url) : Url where
  scheme := templates.subst f url.scheme
  host := templates.subst f url.host
  segments := url.segments.map (templates.subst f)
  query_keys := url.query_keys.map (templates.subst f)
  fragment := templates.subst f url.fragment

variable {url : Url}

section subst

variable {f : String → List Char} (hf : ∀ n, ∀ c ∈ f n, unreserved c = true)

include hf

variable {d : List Char}

theorem delimiter_eq_false (hd : d.any unreserved = false) :
    ∀ n, ∀ c ∈ f n, delimiter d (.lit c) = false := by
  intro n c hc
  have hnot : c ∉ d := by
    intro hmem
    exact List.any_eq_false.mp hd c hmem (hf n c hc)
  simpa [delimiter] using hnot

theorem outside_eq_true (hd : d.any unreserved = false) :
    ∀ n, ∀ c ∈ f n, outside d (.lit c) = true := by
  intro n c hc
  simp [outside, delimiter_eq_false hf hd n c hc]

theorem make_subst (scheme rest : List Symbol) :
    make (templates.subst f scheme) (templates.subst f rest) = (make scheme rest).subst f := by
  have hhole : ∀ d n, outside d (.hole n) = true := fun _ _ => rfl
  have hhost := outside_eq_true hf (d := ['/', '?', '#']) (by decide +kernel)
  have hfragment := outside_eq_true hf (d := ['#']) (by decide +kernel)
  have hquery := outside_eq_true hf (d := ['?']) (by decide +kernel)
  have hkey := outside_eq_true hf (d := ['=']) (by decide +kernel)
  have hslash := delimiter_eq_false hf (d := ['/']) (by decide +kernel)
  have hand := delimiter_eq_false hf (d := ['&']) (by decide +kernel)
  simp only [make, subst, templates.dropWhile_subst (hhole _) hhost,
    templates.takeWhile_subst (hhole _) hhost, templates.takeWhile_subst (hhole _) hfragment,
    templates.dropWhile_subst (hhole _) hfragment, templates.takeWhile_subst (hhole _) hquery,
    templates.tail_dropWhile_subst (hhole _) hquery,
    templates.splitOnP_subst (fun _ => rfl) hslash, templates.splitOnP_subst (fun _ => rfl) hand,
    List.map_map, Function.comp_def, templates.takeWhile_subst (hhole _) hkey]

theorem cut_subst (h : cut symbols = some url) :
    cut (templates.subst f symbols) = some (url.subst f) := by
  have hcolon := outside_eq_true hf (d := [':']) (by decide +kernel)
  have hhole : ∀ n, outside [':'] (.hole n) = true := fun _ => rfl
  unfold cut at h ⊢
  split at h
  · rename_i rest heq
    rw [templates.dropWhile_subst hhole hcolon, heq, templates.takeWhile_subst hhole hcolon]
    obtain rfl := Option.some.inj h
    exact congrArg some (make_subst hf _ rest)
  · exact absurd h (by simp)

end subst

/-- Two lists agree wherever the template of their parts has no hole. -/
def AgreeOutside (template a b : List (List Symbol)) : Prop :=
  a.length = template.length ∧ b.length = template.length ∧
    ∀ (i : Nat) (part : List Symbol), template[i]? = some part → holes part = [] → a[i]? = b[i]?

/-- Two URLs have the scheme, the host, the segments and the keys in common that the template of
both has written out. -/
structure SameShape (template a b : Url) : Prop where
  scheme : a.scheme = b.scheme
  host : a.host = b.host
  segments : AgreeOutside template.segments a.segments b.segments
  query_keys : AgreeOutside template.query_keys a.query_keys b.query_keys

theorem agreeOutside_subst (f g : String → List Char) (template : List (List Symbol)) :
    AgreeOutside template (template.map (templates.subst f)) (template.map (templates.subst g)) := by
  refine ⟨List.length_map _, List.length_map _, fun i part hpart hholes => ?_⟩
  rw [List.getElem?_map, List.getElem?_map, hpart, Option.map_some, Option.map_some,
    templates.subst_of_no_hole f hholes, templates.subst_of_no_hole g hholes]

theorem sameShape_subst (f g : String → List Char) (hscheme : holes url.scheme = [])
    (hhost : holes url.host = []) : SameShape url (url.subst f) (url.subst g) where
  scheme := (templates.subst_of_no_hole f hscheme).trans
    (templates.subst_of_no_hole g hscheme).symm
  host := (templates.subst_of_no_hole f hhost).trans (templates.subst_of_no_hole g hhost).symm
  segments := agreeOutside_subst f g url.segments
  query_keys := agreeOutside_subst f g url.query_keys

end Url

/-! ## What a render promises -/

/-- A template of a URL whose placeholders are paths of names, and stand behind the host and before
the fragment. -/
structure EndpointTemplate where
  text : String
  symbols : List Symbol
  parsed : parse text = some symbols
  names : ∀ name ∈ holes symbols, ∀ part ∈ parts name, part ≠ ""
  url : Url
  is_url : Url.cut symbols = some url
  scheme_written : holes url.scheme = []
  host_written : holes url.host = []
  fragment_written : holes url.fragment = []

section promises

variable {F : Type} [Interpreter F] [Numerals F] [Attributes]

def text_at (payload : JsonObject F) (name : String) : String :=
  match value_at payload name with
  | some value => textOfValue value
  | none => ""

def encoded (payload : JsonObject F) (name : String) : List Char :=
  quote (text_at payload name).toList

/-- The endpoints of two payloads are what the template asks for, have one shape, and are two where
the payloads differ in one placeholder. -/
structure Exact (template : EndpointTemplate) (a b : JsonObject F) : Prop where
  left : render_endpoint template.symbols a = .ok (String.ofList (fill (encoded a) template.symbols))
  right :
    render_endpoint template.symbols b = .ok (String.ofList (fill (encoded b) template.symbols))
  same_shape : ∀ x y, render_endpoint template.symbols a = .ok x →
    render_endpoint template.symbols b = .ok y →
      ∃ u v, Url.cut (written x.toList) = some u ∧ Url.cut (written y.toList) = some v ∧
        Url.SameShape template.url u v
  distinct : ∀ name ∈ holes template.symbols, text_at a name ≠ text_at b name →
    (∀ other ∈ holes template.symbols, other ≠ name → text_at a other = text_at b other) →
      render_endpoint template.symbols a ≠ render_endpoint template.symbols b

/-- A value that comes through as it is: it is left out though it has a text, or has a character
that must be encoded, otherwise. -/
def Passes : Option (JsonValue F) → Prop
  | some value =>
    if truthy value then ∀ c ∈ (textOfValue value).toList, unreserved c = true
    else textOfValue value = ""
  | none => True

/-- Each placeholder is one name that is no number, and its value comes through as it is. -/
def Clean (template : EndpointTemplate) (payload : JsonObject F) : Prop :=
  ∀ name ∈ holes template.symbols,
    parts name = [name] ∧ numeral name = false ∧ Passes (value_at payload name)

/-- No placeholder with a dot begins with the name of another placeholder. -/
def Unambiguous (template : EndpointTemplate) : Prop :=
  ∀ name ∈ holes template.symbols, ∀ first names, parts name = first :: names → names ≠ [] →
    first ∉ holes template.symbols

/-- What the dictionary of a payload has for a placeholder. -/
def raw (payload : JsonObject F) (name : String) : List Char :=
  (text_or_empty (value_at payload name)).toList

/-! ## The fields of a template -/

omit [Attributes] in
theorem get?_values_of (symbols : List Symbol) (payload : JsonObject F) (name : String) :
    (values_of symbols payload).get? name =
      if name ∈ holes symbols then some (text_or_empty (value_at payload name)) else none := by
  rw [values_of, Dict.get?_foldl_set]
  simp

variable {payload : JsonObject F} {name : String}

theorem field_of_clean (hmem : name ∈ holes symbols) (hparts : parts name = [name])
    (hnumeral : numeral name = false) :
    field (values_of symbols payload) name = .ok (text_or_empty (value_at payload name)) := by
  unfold field
  rw [hparts]
  simp [hnumeral, get?_values_of, hmem]

variable {template : EndpointTemplate}

theorem clean_of_field (hclear : Unambiguous template) (hmem : name ∈ holes template.symbols)
    {text : String} (h : field (values_of template.symbols payload) name = .ok text) :
    parts name = [name] ∧ numeral name = false := by
  unfold field at h
  cases hparts : parts name with
  | nil => simp [hparts] at h
  | cons first names =>
    rw [hparts] at h
    by_cases hnumeral : numeral first = true
    · simp [hnumeral] at h
    · by_cases hnames : names = []
      · subst hnames
        obtain rfl := eq_of_parts hparts
        exact ⟨rfl, by simpa using hnumeral⟩
      · have hnot := hclear name hmem first names hparts hnames
        simp [hnumeral, get?_values_of, hnot] at h

/-! ## Whole templates -/

variable {values : Dict String String}

theorem format_of_fields {g : String → String}
    (h : ∀ name ∈ holes symbols, field values name = .ok (g name)) :
    format values symbols = .ok (fill (fun name => (g name).toList) symbols) := by
  induction symbols with
  | nil => rfl
  | cons symbol rest ih =>
    cases symbol with
    | lit c =>
      rw [format, ih h]
      rfl
    | hole name =>
      have hname := h name (by simp)
      rw [format, hname, ih fun other hother => h other (by simp [hother])]
      rfl

theorem field_of_format {text : List Char} (h : format values symbols = .ok text) :
    ∀ name ∈ holes symbols, ∃ found, field values name = .ok found := by
  induction symbols generalizing text with
  | nil => simp
  | cons symbol rest ih =>
    cases symbol with
    | lit c =>
      rw [format] at h
      obtain ⟨tail, htail, -⟩ := bind_eq_ok.mp h
      exact ih htail
    | hole name =>
      rw [format] at h
      obtain ⟨found, hfound, h⟩ := bind_eq_ok.mp h
      obtain ⟨tail, htail, -⟩ := bind_eq_ok.mp h
      intro other hother
      obtain rfl | hother := List.mem_cons.mp hother
      · exact ⟨found, hfound⟩
      · exact ih htail other hother

theorem render_endpoint_of_names
    (h : ∀ name ∈ holes symbols, parts name = [name] ∧ numeral name = false) :
    render_endpoint symbols payload = .ok (String.ofList (fill (raw payload) symbols)) := by
  have hformat : format (values_of symbols payload) symbols = .ok (fill (raw payload) symbols) :=
    format_of_fields fun name hname => field_of_clean hname (h name hname).1 (h name hname).2
  rw [render_endpoint, hformat]
  rfl

/-! ## The values that come through -/

section

omit [Attributes]

theorem raw_eq_encoded_iff (payload : JsonObject F) (name : String) :
    raw payload name = encoded payload name ↔ Passes (value_at payload name) := by
  unfold raw encoded text_at Passes
  cases h : value_at payload name with
  | none => simp [text_or_empty, quote]
  | some value =>
    by_cases htruthy : truthy value = true
    · simp only [text_or_empty, htruthy, if_true]
      exact eq_comm.trans percent.quote_eq_self_iff
    · simp only [text_or_empty, htruthy]
      constructor
      · intro hempty
        have hlength := percent.length_le_length_quote (textOfValue value).toList
        rw [← hempty] at hlength
        simpa using hlength
      · intro hempty
        simp only [Bool.false_eq_true, if_false] at hempty
        simp [hempty, quote]

theorem length_raw_le (payload : JsonObject F) (name : String) :
    (raw payload name).length ≤ (encoded payload name).length := by
  unfold raw encoded text_at
  cases h : value_at payload name with
  | none => simp [text_or_empty]
  | some value =>
    by_cases htruthy : truthy value = true
    · simp only [text_or_empty, htruthy, if_true]
      exact percent.length_le_length_quote _
    · simp [text_or_empty, htruthy]

theorem encoded_of_passes (h : Passes (value_at payload name)) :
    encoded payload name = (text_at payload name).toList ∧
      ∀ c ∈ encoded payload name, unreserved c = true := by
  have hunreserved : ∀ c ∈ (text_at payload name).toList, unreserved c = true := by
    unfold text_at
    unfold Passes at h
    split at h
    · split at h
      · simpa using h
      · simp [h]
    · simp
  have hquote := percent.quote_of_unreserved hunreserved
  exact ⟨hquote, fun c hc => hunreserved c (hquote ▸ hc)⟩

end

/-! ## Clean payloads -/

theorem render_endpoint_of_clean (h : Clean template payload) :
    render_endpoint template.symbols payload =
      .ok (String.ofList (fill (encoded payload) template.symbols)) := by
  have hnames : ∀ name ∈ holes template.symbols, parts name = [name] ∧ numeral name = false :=
    fun name hname => ⟨(h name hname).1, (h name hname).2.1⟩
  rw [render_endpoint_of_names hnames, templates.fill_congr fun name hname =>
    (raw_eq_encoded_iff payload name).mpr (h name hname).2.2]

omit [Attributes] in
theorem cut_of_clean (h : Clean template payload) : ∃ f : String → List Char,
      Url.cut (written (fill (encoded payload) template.symbols)) =
        some (template.url.subst f) := by
  let f : String → List Char := fun name =>
    if name ∈ holes template.symbols then encoded payload name else []
  have hf : ∀ name, ∀ c ∈ f name, unreserved c = true := by
    intro name c hc
    by_cases hname : name ∈ holes template.symbols
    · simp only [f, if_pos hname] at hc
      exact (encoded_of_passes (h name hname).2.2).2 c hc
    · simp [f, if_neg hname] at hc
  have hfill : fill (encoded payload) template.symbols = fill f template.symbols :=
    templates.fill_congr fun name hname => (if_pos hname).symm
  refine ⟨f, ?_⟩
  rw [hfill]
  exact Url.cut_subst hf template.is_url

theorem exact_of_clean {a b : JsonObject F} (ha : Clean template a) (hb : Clean template b) :
    Exact template a b := by
  have hleft := render_endpoint_of_clean ha
  have hright := render_endpoint_of_clean hb
  refine ⟨hleft, hright, fun x y hx hy => ?_, fun name hname hne hrest heq => ?_⟩
  · obtain rfl := Except.ok.inj (hleft.symm.trans hx)
    obtain rfl := Except.ok.inj (hright.symm.trans hy)
    obtain ⟨f, hf⟩ := cut_of_clean ha
    obtain ⟨g, hg⟩ := cut_of_clean hb
    rw [String.toList_ofList, String.toList_ofList]
    exact ⟨_, _, hf, hg,
      Url.sameShape_subst f g template.scheme_written template.host_written⟩
  · rw [hleft, hright] at heq
    have hfill := String.ofList_injective (Except.ok.inj heq)
    refine templates.fill_ne hname ?_ ?_ hfill
    · rw [(encoded_of_passes (ha name hname).2.2).1, (encoded_of_passes (hb name hname).2.2).1]
      exact fun h => hne (String.toList_inj.mp h)
    · intro other hother hother_ne
      rw [encoded, encoded, hrest other hother hother_ne]

/-! ## Payloads that render as they should -/

theorem clean_of_render (hclear : Unambiguous template)
    (h : render_endpoint template.symbols payload =
      .ok (String.ofList (fill (encoded payload) template.symbols))) : Clean template payload := by
  have hnames : ∀ name ∈ holes template.symbols, parts name = [name] ∧ numeral name = false := by
    intro name hname
    rw [render_endpoint] at h
    cases hformat : format (values_of template.symbols payload) template.symbols with
    | error fault => simp [hformat, Except.map] at h
    | ok text =>
      obtain ⟨found, hfound⟩ := field_of_format hformat name hname
      exact clean_of_field hclear hname hfound
  have hfill : fill (encoded payload) template.symbols = fill (raw payload) template.symbols := by
    rw [render_endpoint_of_names hnames] at h
    exact (String.ofList_injective (Except.ok.inj h)).symm
  intro name hname
  have htext := templates.eq_of_fill_eq (fun other _ => length_raw_le payload other) hfill name hname
  exact ⟨(hnames name hname).1, (hnames name hname).2,
    (raw_eq_encoded_iff payload name).mp htext.symm⟩

/-- Two payloads that are clean for a template have the endpoints they should have. For a template
whose placeholders are told apart by their first names, no others have. -/
theorem endpoints_exact_iff (template : EndpointTemplate) (a b : JsonObject F) :
    (Clean template a ∧ Clean template b → Exact template a b) ∧
      (Unambiguous template → Exact template a b → Clean template a ∧ Clean template b) :=
  ⟨fun h => exact_of_clean h.1 h.2, fun hclear h =>
    ⟨clean_of_render hclear h.left, clean_of_render hclear h.right⟩⟩

end promises

/-! ## A slash in an order number -/

section sample

@[reducible] def noAttributes : Attributes where
  of_text _ _ := .error .attribute_error

attribute [local instance] noAttributes

/-- The template `https://api.shop.test/orders/{order}?reason={reason}`. -/
def refundTemplate : EndpointTemplate where
  text := "https://api.shop.test/orders/{order}?reason={reason}"
  symbols := written "https://api.shop.test/orders/".toList ++
    .hole "order" :: (written "?reason=".toList ++ [.hole "reason"])
  parsed := by decide +kernel
  names := by decide +kernel
  url :=
    { scheme := written "https".toList
      host := written "api.shop.test".toList
      segments := [[], written "orders".toList, [.hole "order"]]
      query_keys := [written "reason".toList]
      fragment := [] }
  is_url := by decide +kernel
  scheme_written := by decide +kernel
  host_written := by decide +kernel
  fragment_written := by decide +kernel

def refundOf (order : String) : JsonObject Int :=
  Dict.ofList [("order", .str order), ("reason", .str "broken")]

example : render_endpoint refundTemplate.symbols (refundOf "7") =
    .ok "https://api.shop.test/orders/7?reason=broken" := by decide +kernel

example : render_endpoint [.hole "order.id"] (Dict.ofList [("order", JsonValue.dict (F := Int)
    [("id", .str "7")])]) = .error (.key_error "order") := by decide +kernel

/-- The order number `7/cancel` is put into the path with its slash. -/
theorem a_slash_is_not_encoded :
    ¬ Exact refundTemplate (refundOf "7/cancel") (refundOf "7/cancel") := by
  intro h
  have hrender : render_endpoint refundTemplate.symbols (refundOf "7/cancel") =
      .ok "https://api.shop.test/orders/7/cancel?reason=broken" := by decide +kernel
  have hasked : String.ofList (fill (encoded (refundOf "7/cancel")) refundTemplate.symbols) =
      "https://api.shop.test/orders/7%2Fcancel?reason=broken" := by decide +kernel
  have hleft := hrender.symm.trans h.left
  rw [hasked] at hleft
  exact absurd hleft (by decide)

end sample

end operious.agents.tools.connectors
