-- The draft of a reply as the model writes it: how it is parsed, and which of its segments need no
-- citation.
import Operious.Resolution.Grounding

namespace operious.conversation_generation

open operious.agents.tools operious.resolution operious.money_goods_commitment

variable {F : Type}

/-! ## The patterns -/

section

open Regex

variable [CharacterData] [CaseFolding]

def textOf (s : String) : Regex Char := textBy CaseFolding.same s

/-- `word\w*`. -/
def wordFrom (s : String) : Regex Char := cat [textOf s, run isWord none]

def UNSAFE_ACKNOWLEDGMENT_PATTERN : Regex Char := bounded [oneOf
  (["refund", "replac", "warrant", "eligib", "credit", "compensat", "discount", "exchang",
      "reimburs", "guarant", "entitle", "polic", "approv"].map wordFrom ++
    ["denial", "denied"].map textOf ++ [wordFrom "ship", textOf "rma", wordFrom "return"])]

def DIGIT_PATTERN : Regex Char := digit

def TOPICAL_INQUIRY_REFERENCE_PATTERN : Regex Char := cat
  [run isSpace none, oneOf (["question", "inquiry", "inquiries", "request", "case", "issue", "claim",
     "page", "site", "website", "document", "documentation", "listing", "faq"].map textOf), border]

def COMMITMENT_DIGIT_PATTERN : Regex Char := alt
  (cat [one (· ∈ ['$', '€', '£', '¥']), run isSpace none, digit])
  (cat [digit, run isSpace none, one (· = '%')])

def PERSONAL_COVERAGE_PATTERN : Regex Char := alt
  (cat [phraseOf (addressee ++ ["this order", "this item", "this unit", "this device",
     "this product", "this claim", "this case", "this purchase"]), gap 60,
     bounded [wordFrom "cover"]])
  (cat [bounded [wordFrom "cover"], gap 60, phraseOf addressee])

def NO_GROUNDED_REPLY_DISCLAIMER_PATTERN : Regex Char := cat
  [textOf "no grounded ", opt (textOf "automatic "), textOf "reply can be produced"]

def found (r : Regex Char) (text : String) : Bool := r.search isWord (ascii.chars text)

/-! ## What an acknowledgment may say -/

def has_non_topical_unsafe_keyword (text : String) : Bool :=
  (UNSAFE_ACKNOWLEDGMENT_PATTERN.following isWord (ascii.chars text)).any fun following =>
    !TOPICAL_INQUIRY_REFERENCE_PATTERN.matchesStart isWord following

end

/-- `text.split()`. -/
def split (cs : List Char) : List (List Char) :=
  (cs.splitOnP isSpace).filter fun word => !word.isEmpty

/-- `_SENTENCE_SPLIT_PATTERN.split`: the white space after a full stop, an exclamation mark or a
question mark goes. Within such white space `skipping` is true. -/
def sentencesFrom : (skipping : Bool) → (before : Option Char) → List Char → List (List Char)
  | _, _, [] => [[]]
  | skipping, before, c :: rest =>
    if isSpace c && skipping then sentencesFrom true (some c) rest
    else if isSpace c && before.any (· ∈ ['.', '!', '?']) then
      [] :: sentencesFrom true (some c) rest
    else
      match sentencesFrom false (some c) rest with
      | [] => [[c]]
      | sentence :: sentences => (c :: sentence) :: sentences

/-- The characters of `string.punctuation`. -/
def isPunctuation (c : Char) : Bool :=
  let n := c.toNat
  (33 ≤ n && n ≤ 47) || (58 ≤ n && n ≤ 64) || (91 ≤ n && n ≤ 96) || (123 ≤ n && n ≤ 126)

/-- A word without the punctuation around it. -/
def token (word : List Char) : List Char :=
  ((word.dropWhile isPunctuation).reverse.dropWhile isPunctuation).reverse

def hasDigit (token : List Char) : Bool := token.any fun c => (digitValue c).isSome

def window (tokens : List (List Char)) (index : Nat) : List (List Char) :=
  ((tokens.take (index + 2)).drop (index - 1)).filter fun part => !part.isEmpty

section

variable (F) [Interpreter F]

def lowerChars (cs : List Char) : List Char :=
  ascii.chars (Interpreter.lower F (String.ofList cs))

def sentenceEchoed (normalized_source sentence : List Char) : Bool :=
  let tokens := (split sentence).map token
  tokens.zipIdx.all fun p =>
    p.1.isEmpty || !hasDigit p.1 ||
      lowerChars F ([' '].intercalate (window tokens p.2)) <:+: normalized_source

def all_digit_phrases_echoed (text original_content : String) : Bool :=
  let normalized_source :=
    [' '].intercalate (split (ascii.chars (Interpreter.lower F original_content)))
  (sentencesFrom false none (ascii.chars text)).all (sentenceEchoed F normalized_source)

variable [CharacterData] [CaseFolding]

def is_safe_acknowledgment (text original_content : String) : Bool :=
  if found NO_GROUNDED_REPLY_DISCLAIMER_PATTERN text then true
  else if has_non_topical_unsafe_keyword text then false
  else if found PERSONAL_COVERAGE_PATTERN text then false
  else if found COMMITMENT_DIGIT_PATTERN text then false
  else if found DIGIT_PATTERN text then all_digit_phrases_echoed F text original_content
  else true

end

/-! ## Drafts -/

inductive SegmentKind
  | claim | question | acknowledgment
  deriving DecidableEq, Repr

def SegmentKind.value : SegmentKind → String
  | .claim => "claim"
  | .question => "question"
  | .acknowledgment => "acknowledgment"

def SegmentKind.ofValue : String → Option SegmentKind
  | "claim" => some .claim
  | "question" => some .question
  | "acknowledgment" => some .acknowledgment
  | _ => none

structure GroundedReplySegment where
  kind : SegmentKind
  text : String
  citation_ranks : List Int := []
  deriving DecidableEq, Repr

structure GroundedReplyDraft where
  language : String
  segments : List GroundedReplySegment
  deriving DecidableEq, Repr

/-- What `json.loads` raises. -/
inductive LoadsError
  | json_decode_error
  | value_error
  | recursion_error
  deriving DecidableEq, Repr

inductive DraftError
  | loads (error : LoadsError)
  | value_error (message : String)
  deriving DecidableEq, Repr

/-- `json.loads`. -/
abbrev Loads (F : Type) := String → Except LoadsError (JsonValue F)

/-- The text from its first opening brace to its last closing one. -/
def betweenBraces (raw_text : String) : Option String :=
  let cs := ascii.chars raw_text
  match cs.idxOf? '\x7b', cs.reverse.idxOf? '\x7d' with
  | some start, some fromEnd =>
    let stop := cs.length - fromEnd
    if stop ≤ start + 1 then none else some (String.ofList ((cs.take stop).drop start))
  | _, _ => none

def json_object (loads : Loads F) (raw_text : String) : Except DraftError (JsonObject F) := do
  let value ← match loads raw_text, betweenBraces raw_text with
    | .error .json_decode_error, some text => (loads text).mapError .loads
    | result, _ => result.mapError .loads
  match value.mapping? with
  | some data => return data
  | none => throw (.value_error "grounded reply must be a JSON object")

def positiveRanks : List (JsonValue F) → Except DraftError (List Int)
  | [] => .ok []
  | item :: rest => do
    match item.int? with
    | some rank =>
      if rank ≤ 0 then throw (.value_error "citation rank must be a positive integer")
      let ranks ← positiveRanks rest
      return rank :: ranks
    | none => throw (.value_error "citation rank must be a positive integer")

def citation_ranks : Option (JsonValue F) → Except DraftError (List Int)
  | none | some .null => .ok []
  | some (.list items) => (positiveRanks items).map (·.eraseDups)
  | some _ => .error (.value_error "citation_ranks must be a list")

section

variable [Interpreter F] [Numerals F]

def labelledSegment (value : JsonValue F) : Except DraftError GroundedReplySegment := do
  let some segment := value.mapping?
    | throw (.value_error "grounded reply segment must be an object")
  let some kind := SegmentKind.ofValue (segment_kind segment)
    | throw (.value_error "grounded reply segment kind is invalid")
  let text := segment_text segment
  if text.isEmpty then throw (.value_error "grounded reply segment text is required")
  let citation_ranks ← citation_ranks (segment.get? "citation_ranks")
  if kind ≠ .claim ∧ citation_ranks ≠ [] then
    throw (.value_error "question/acknowledgment segments cannot carry citations")
  return { kind, text, citation_ranks }

def labelledSegmentsOf : List (JsonValue F) → Except DraftError (List GroundedReplySegment)
  | [] => .ok []
  | value :: rest => do
    let segment ← labelledSegment value
    let segments ← labelledSegmentsOf rest
    return segment :: segments

def labelledSegments (loads : Loads F) (raw_text expected_language : String) :
    Except DraftError (List GroundedReplySegment) := do
  let data ← json_object loads raw_text
  let language := Interpreter.lower F (strip (strOrEmpty data "language"))
  if language ≠ expected_language then
    throw (.value_error "grounded reply language mismatch")
  match data.get? "segments" with
  | some (.list (value :: values)) => labelledSegmentsOf (value :: values)
  | _ => throw (.value_error "grounded reply segments are required")

variable (F) [CharacterData] [CaseFolding]

def classify (original_content : String) (segment : GroundedReplySegment) :
    GroundedReplySegment :=
  let kind :=
    if segment.kind = .claim ∧ segment.citation_ranks = [] ∧
      found NO_GROUNDED_REPLY_DISCLAIMER_PATTERN segment.text then .acknowledgment
    else segment.kind
  if kind = .acknowledgment ∧ is_safe_acknowledgment F segment.text original_content = false then
    { segment with kind := .claim }
  else { segment with kind := kind }

variable {F}

def parse_grounded_reply_draft (loads : Loads F) (raw_text expected_language : String)
    (original_content : String) : Except DraftError GroundedReplyDraft := do
  let segments ← labelledSegments loads raw_text expected_language
  return { language := expected_language
           segments := segments.map (classify F original_content) }

/-! ## Exemptions -/

/-- The words of a text, each without the punctuation around it. -/
def tokensOf (text : String) : List (List Char) := (split (ascii.chars text)).map token

variable (F)

/-- Every token of the text with a digit is a token of the customer's, up to letter case. -/
def EchoesWhole (original_content text : String) : Prop :=
  ∀ t ∈ tokensOf text, hasDigit t → ∃ t' ∈ tokensOf original_content,
    lowerChars F t = lowerChars F t'

/-- The text asserts nothing but what the customer said: no keyword but as a topic, no coverage of
theirs, no amount, and no number that is not theirs. -/
structure AssertsNothing (original_content text : String) : Prop where
  keyword : has_non_topical_unsafe_keyword text = false
  coverage : found PERSONAL_COVERAGE_PATTERN text = false
  amount : found COMMITMENT_DIGIT_PATTERN text = false
  echoed : EchoesWhole F original_content text

variable {F}

/-- The segment needs no citation. -/
def Exempt (segment : GroundedReplySegment) : Prop :=
  segment.kind.value ∈ EXEMPT_GROUNDING_KINDS

/-- The segment is exempted without a look at what it asserts: as a question, or for a disclaimer
somewhere in it. -/
def Unchecked (segment : GroundedReplySegment) : Prop :=
  segment.kind = .question ∨
    (found NO_GROUNDED_REPLY_DISCLAIMER_PATTERN segment.text = true ∧
      (segment.kind = .acknowledgment ∨
        (segment.kind = .claim ∧ segment.citation_ranks = [])))

variable {original_content : String}

omit [Numerals F] in
theorem asserts_nothing_of_safe {text : String}
    (hdisclaimer : found NO_GROUNDED_REPLY_DISCLAIMER_PATTERN text = false)
    (hsafe : is_safe_acknowledgment F text original_content = true)
    (hechoed : EchoesWhole F original_content text) : AssertsNothing F original_content text := by
  simp only [is_safe_acknowledgment, hdisclaimer, Bool.false_eq_true, if_false] at hsafe
  split_ifs at hsafe with hkeyword hcoverage hamount
  all_goals
    exact ⟨Bool.eq_false_iff.mpr hkeyword, Bool.eq_false_iff.mpr hcoverage,
      Bool.eq_false_iff.mpr hamount, hechoed⟩

variable {segment : GroundedReplySegment}

omit [Interpreter F] [Numerals F] [CharacterData] [CaseFolding] in
theorem exempt_iff :
    Exempt segment ↔ segment.kind = .question ∨ segment.kind = .acknowledgment := by
  unfold Exempt
  cases segment.kind <;> decide

omit [Numerals F] in
theorem exempt_classify_iff :
    Exempt (classify F original_content segment) ↔ Unchecked segment ∨
      (segment.kind = .acknowledgment ∧
        found NO_GROUNDED_REPLY_DISCLAIMER_PATTERN segment.text = false ∧
        is_safe_acknowledgment F segment.text original_content = true) := by
  have hdisclaimer (h : found NO_GROUNDED_REPLY_DISCLAIMER_PATTERN segment.text = true) :
      is_safe_acknowledgment F segment.text original_content = true := by
    simp [is_safe_acknowledgment, h]
  rw [exempt_iff]
  unfold classify Unchecked
  cases hkind : segment.kind with
  | question => simp
  | acknowledgment =>
    cases hfound : found NO_GROUNDED_REPLY_DISCLAIMER_PATTERN segment.text with
    | true => simp [hdisclaimer hfound]
    | false => cases is_safe_acknowledgment F segment.text original_content <;> simp
  | claim =>
    cases hfound : found NO_GROUNDED_REPLY_DISCLAIMER_PATTERN segment.text with
    | true =>
      by_cases hranks : segment.citation_ranks = []
      · simp [hranks, hdisclaimer hfound]
      · simp [hranks]
    | false => simp

end

/-! ## Two acknowledgments -/

def replyJson (text : String) : String :=
  "\x7b\"language\": \"en\", \"segments\": [\x7b\"kind\": \"acknowledgment\", \"text\": \"" ++ text ++
    "\", \"citation_ranks\": []\x7d]\x7d"

/-- A reader that knows this text only. -/
def loadsReply (text : String) : Loads Int := fun raw_text =>
  if raw_text = replyJson text then
    .ok (.dict [("language", .str "en"), ("segments", .list [.dict
      [("kind", .str "acknowledgment"), ("text", .str text), ("citation_ranks", .list [])]])])
  else .error .json_decode_error

def acknowledgment (text : String) : GroundedReplySegment := ⟨.acknowledgment, text, []⟩

end operious.conversation_generation
