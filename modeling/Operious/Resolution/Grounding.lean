-- Whether the claims of a reply are covered by approved spans of knowledge, and what the checker does not
-- look at: ranks that are not positive, and all but the last item of a rank.
import Operious.Resolution.Gate
import Operious.Tenant.Knowledge

namespace operious.resolution

open operious.agents.tools operious.tenant

variable {F Uuid : Type}

/-! ## The checker -/

/-- `uuid.UUID(text)`, or none where it raises `ValueError`. -/
class UuidText (Uuid : Type) where
  parse : String → Option Uuid

def EXEMPT_GROUNDING_KINDS : List String := ["question", "acknowledgment"]

/-- The `_int_value` of the checker: an int, and no bool. -/
def PyInt.int? : PyInt → Option Int
  | .int i => some i
  | .bool _ => none

/-- `_rank_map`: of the items of one rank it keeps the last. -/
def rank_map (evidence : List (EvidenceItem F)) : Dict Int (EvidenceItem F) :=
  Dict.ofList (evidence.filterMap fun item => item.rank.int?.map fun rank => (rank, item))

section

variable [Interpreter F] [Numerals F]

/-- `_int_value`. -/
def intOf : JsonValue F → Option Int
  | .int i => some i
  | .float x => Numerals.integer x
  | .str s => parseInt s
  | _ => none

def segment_kind (segment : JsonObject F) : String :=
  Interpreter.lower F (strip (strOrEmpty segment "kind"))

def segment_text (segment : JsonObject F) : String := strip (strOrEmpty segment "text")

def segment_ranks (segment : JsonObject F) : List Int :=
  match segment.get? "citation_ranks" with
  | some (.list items) => ((items.filterMap intOf).filter (0 < ·)).eraseDups
  | _ => []

structure Resolution (Uuid : Type) where
  rank : Option Int
  document_id : String
  document_version : Int
  document_status : String
  document_review_status : String
  title : String
  char_start : Int
  char_end : Int
  span_sha256 : String
  safe_excerpt : Option String

/-- The characters of a text between two places of it. -/
def spanOf (content : String) (char_start char_end : Int) : String :=
  String.ofList (((ascii.chars content).take char_end.toNat).drop char_start.toNat)

variable [DecidableEq Uuid] [UuidText Uuid] [Sha256]

def resolve_citation (documents : Knowledge Uuid) (tenant_id : String)
    (citation : EvidenceItem F) : Option (Resolution Uuid) := do
  let status (text : String) : String := Interpreter.lower F (strip text)
  guard (status citation.document_status = "active")
  guard (status (citation.document_review_status.getD "") = "approved")
  guard (¬ citation.citation_schema_version.getD 0 < 2)
  let document_id := strip citation.document_id
  guard (document_id ≠ "")
  let document_version ← citation.document_version
  let char_start ← citation.char_start
  let char_end ← citation.char_end
  guard (¬ char_start < 0 ∧ ¬ char_end ≤ char_start)
  let id ← UuidText.parse document_id
  let document ← get_knowledge_document documents id tenant_id
  guard (document.tenant_id = tenant_id)
  guard (document.status = .active)
  guard (document.review_status = .approved)
  guard ((document.version : Int) = document_version)
  let content := strip document.content
  guard (char_end ≤ (ascii.chars content).length)
  let span := spanOf content char_start char_end
  guard (strip span ≠ "")
  return {
    rank := citation.rank.int?
    document_id, document_version
    document_status := document.status.value
    document_review_status := document.review_status.value
    title := document.title
    char_start, char_end
    span_sha256 := sha256_text span
    safe_excerpt := (citation.safe_excerpt.map strip).filter (· ≠ "") }

structure UngroundedClaim where
  segment_index : Nat
  claim : String
  reason : String
  details : List String := []
  citation_ranks : List Int

structure GroundingTrace (Uuid : Type) where
  schema_version : String
  status : String
  claim_count : Nat
  approved_knowledge_found : List (Resolution Uuid × String)
  ungrounded_claims : List UngroundedClaim

structure GroundingCheckResult (Uuid : Type) where
  allowed : Bool
  trace : GroundingTrace Uuid

/-- What becomes of one cited rank: the resolution, or why there is none. -/
def resolveRank (documents : Knowledge Uuid) (tenant_id : String)
    (ranks : Dict Int (EvidenceItem F)) (rank : Int) : Except String (Resolution Uuid) :=
  match ranks.get? rank with
  | none => .error ("rank_" ++ toString rank ++ "_missing")
  | some citation =>
    match resolve_citation documents tenant_id citation with
    | none => .error ("rank_" ++ toString rank ++ "_unresolvable")
    | some resolution => .ok resolution

def missingReasons (documents : Knowledge Uuid) (tenant_id : String)
    (ranks : Dict Int (EvidenceItem F)) (cited : List Int) : List String :=
  cited.filterMap fun rank =>
    match resolveRank documents tenant_id ranks rank with
    | .error reason => some reason
    | .ok _ => none

/-- Why a segment is not grounded, if it is not. -/
def ungroundedClaim (documents : Knowledge Uuid) (tenant_id : String)
    (ranks : Dict Int (EvidenceItem F)) (index : Nat) (segment : JsonObject F) :
    Option UngroundedClaim :=
  let cited := segment_ranks segment
  if cited = [] then
    some { segment_index := index, claim := segment_text segment, reason := "uncited_claim"
           citation_ranks := [] }
  else
    let missing_reasons := missingReasons documents tenant_id ranks cited
    if missing_reasons = [] then none
    else
      some { segment_index := index, claim := segment_text segment
             reason := "unresolvable_citation", details := missing_reasons
             citation_ranks := cited }

/-- The segments that have to be cited, with their places. -/
def claims (reply_segments : List (JsonObject F)) : List (JsonObject F × Nat) :=
  reply_segments.zipIdx.filter fun p => segment_kind p.1 ∉ EXEMPT_GROUNDING_KINDS

/-- `CitationCoverageGroundingChecker.check`. -/
def check (documents : Knowledge Uuid) (tenant_id : String) (reply_segments : List (JsonObject F))
    (evidence : List (EvidenceItem F)) : GroundingCheckResult Uuid :=
  let ranks := rank_map evidence
  let approved := (claims reply_segments).flatMap fun p =>
    (segment_ranks p.1).filterMap fun rank =>
      match resolveRank documents tenant_id ranks rank with
      | .ok resolution => some (resolution, segment_text p.1)
      | .error _ => none
  let ungrounded := (claims reply_segments).filterMap fun p =>
    ungroundedClaim documents tenant_id ranks p.2 p.1
  { allowed := ungrounded.isEmpty
    trace :=
      { schema_version := "2.1"
        status := if ungrounded.isEmpty then "grounded" else "ungrounded"
        claim_count := (claims reply_segments).length
        approved_knowledge_found := approved
        ungrounded_claims := ungrounded } }

/-! ## What a citation has to be -/

structure GoodCitation (documents : Knowledge Uuid) (tenant_id : String)
    (item : EvidenceItem F) : Prop where
  active : Interpreter.lower F (strip item.document_status) = "active"
  approved : Interpreter.lower F (strip (item.document_review_status.getD "")) = "approved"
  schema : 2 ≤ item.citation_schema_version.getD 0
  document : ∃ id d, strip item.document_id ≠ "" ∧
    UuidText.parse (strip item.document_id) = some id ∧
    get_knowledge_document documents id tenant_id = some d ∧
    d.status = .active ∧ d.review_status = .approved ∧ item.document_version = some (d.version : Int) ∧
    ∃ char_start char_end, item.char_start = some char_start ∧ item.char_end = some char_end ∧
      0 ≤ char_start ∧ char_start < char_end ∧
      char_end ≤ (ascii.chars (strip d.content)).length ∧
      strip (spanOf (strip d.content) char_start char_end) ≠ ""

omit [Interpreter F] [Numerals F] [DecidableEq Uuid] [UuidText Uuid] [Sha256] in
theorem guard_eq_some {p : Prop} [Decidable p] {u : Unit} :
    (guard p : Option Unit) = some u ↔ p := by
  by_cases h : p <;> simp [guard, h, failure]

variable {item : EvidenceItem F}

omit [Numerals F] in
theorem resolves_iff {documents : Knowledge Uuid} {tenant_id : String} :
    (∃ resolution, resolve_citation documents tenant_id item = some resolution) ↔
      GoodCitation documents tenant_id item := by
  constructor
  · rintro ⟨resolution, h⟩
    simp only [resolve_citation, Option.bind_eq_bind, Option.bind_eq_some_iff, guard_eq_some,
      exists_const] at h
    obtain ⟨hactive, happroved, hschema, hnamed, version, hversion, start, hstart, stop, hstop,
      hplaces, id, hid, d, hd, -, hdactive, hdapproved, hdversion, hend, hspan, -⟩ := h
    exact ⟨hactive, happroved, by omega, id, d, hnamed, hid, hd, hdactive, hdapproved,
      by rw [hversion, hdversion], start, stop, hstart, hstop, by omega, by omega, hend, hspan⟩
  · rintro ⟨hactive, happroved, hschema, id, d, hnamed, hid, hd, hdactive, hdapproved, hversion,
      start, stop, hstart, hstop, hfirst, horder, hend, hspan⟩
    have htenant : d.tenant_id = tenant_id := by
      have h := hd
      rw [get_knowledge_document, Option.filter_eq_some_iff] at h
      simpa using h.2
    simp only [resolve_citation, Option.bind_eq_bind, Option.bind_eq_some_iff, guard_eq_some,
      exists_const]
    exact ⟨_, hactive, happroved, by omega, hnamed, _, hversion, _, hstart, _, hstop,
      ⟨by omega, by omega⟩, _, hid, _, hd, htenant, hdactive, hdapproved, rfl, hend, hspan, rfl⟩

/-! ## What the checker looks at -/

def lastOf (evidence : List (EvidenceItem F)) (rank : Int) : Option (EvidenceItem F) :=
  evidence.reverse.find? fun item => item.rank.int? = some rank

/-- The ranks that a segment cites, where they are integers. -/
def citedRanks (segment : JsonObject F) : List Int :=
  match segment.get? "citation_ranks" with
  | some (.list items) => items.filterMap fun
    | .int i => some i
    | _ => none
  | _ => []

def IntegerRanks (reply_segments : List (JsonObject F)) : Prop :=
  ∀ segment ∈ reply_segments, ∀ items, segment.get? "citation_ranks" = some (.list items) →
    ∀ item ∈ items, ∃ i, item = .int i

omit [Interpreter F] [Numerals F] [DecidableEq Uuid] [UuidText Uuid] [Sha256] in
theorem rank_map_get? (evidence : List (EvidenceItem F)) (rank : Int) :
    (rank_map evidence).get? rank = lastOf evidence rank := by
  unfold rank_map lastOf
  rw [Dict.get?_ofList_eq_find?, ← List.filterMap_reverse]
  generalize evidence.reverse = items
  induction items with
  | nil => rfl
  | cons item rest ih =>
    rw [List.filterMap_cons, List.find?_cons]
    cases hrank : item.rank.int? with
    | none => exact ih
    | some r =>
      simp only [Option.map_some, List.find?_cons, Option.some.injEq]
      by_cases hr : r = rank
      · simp [hr]
      · simpa [hr] using ih

variable {rank : Int}

omit [Interpreter F] [Sha256] in
theorem mem_segment_ranks_iff {reply_segments : List (JsonObject F)}
    (h : IntegerRanks reply_segments) {segment : JsonObject F} (hmem : segment ∈ reply_segments) :
    rank ∈ segment_ranks segment ↔ rank ∈ citedRanks segment ∧ 0 < rank := by
  unfold segment_ranks citedRanks
  cases hget : segment.get? "citation_ranks" with
  | none => simp
  | some value =>
    cases value with
    | list items =>
      have hints := h segment hmem items hget
      have hread : items.filterMap intOf = items.filterMap fun
          | .int i => some i
          | _ => none := by
        refine List.filterMap_congr fun item hitem => ?_
        obtain ⟨i, rfl⟩ := hints item hitem
        rfl
      simp only [List.mem_eraseDups, List.mem_filter, decide_eq_true_eq, hread]
    | _ => simp

/-! ## What is allowed -/

def IsClaim (reply_segments : List (JsonObject F)) (segment : JsonObject F) : Prop :=
  segment ∈ reply_segments ∧ segment_kind segment ∉ EXEMPT_GROUNDING_KINDS

def Carries (evidence : List (EvidenceItem F)) (rank : Int) (item : EvidenceItem F) : Prop :=
  item ∈ evidence ∧ item.rank.int? = some rank

section

variable (documents : Knowledge Uuid) (tenant_id : String) (reply_segments : List (JsonObject F))
  (evidence : List (EvidenceItem F))

def FullyCovered : Prop :=
  ∀ segment, IsClaim reply_segments segment → citedRanks segment ≠ [] ∧
    ∀ rank ∈ citedRanks segment, ∀ item, Carries evidence rank item →
      GoodCitation documents tenant_id item

/-- Every claim cites a positive rank, and the last item of every such rank that it cites is good. -/
def CoveredByLast : Prop :=
  ∀ segment, IsClaim reply_segments segment → (∃ rank ∈ citedRanks segment, 0 < rank) ∧
    ∀ rank ∈ citedRanks segment, 0 < rank →
      ∃ item, lastOf evidence rank = some item ∧ GoodCitation documents tenant_id item

/-- The items of cited ranks that the checker does not look at are good all the same. -/
def UnseenAreGood : Prop :=
  ∀ segment, IsClaim reply_segments segment → ∀ rank ∈ citedRanks segment, ∀ item,
    Carries evidence rank item → ¬ (0 < rank ∧ lastOf evidence rank = some item) →
      GoodCitation documents tenant_id item

/-- Every claim cites a positive rank, and every such rank that it cites is that of some item. -/
def CitesWhatIsThere : Prop :=
  ∀ segment, IsClaim reply_segments segment → (∃ rank ∈ citedRanks segment, 0 < rank) ∧
    ∀ rank ∈ citedRanks segment, 0 < rank → ∃ item, Carries evidence rank item

end

section

variable {documents : Knowledge Uuid} {tenant_id : String} {reply_segments : List (JsonObject F)}
  {evidence : List (EvidenceItem F)}

omit [Interpreter F] [Numerals F] [DecidableEq Uuid] [UuidText Uuid] [Sha256] in
theorem carries_of_lastOf (h : lastOf evidence rank = some item) : Carries evidence rank item := by
  have hrank := List.find?_some h
  exact ⟨List.mem_reverse.mp (List.mem_of_find?_eq_some h), by simpa using hrank⟩

omit [Interpreter F] [Numerals F] [DecidableEq Uuid] [UuidText Uuid] [Sha256] in
theorem lastOf_of_carries (h : Carries evidence rank item) :
    ∃ last, lastOf evidence rank = some last := by
  have hsome : (lastOf evidence rank).isSome := by
    unfold lastOf
    rw [List.find?_isSome]
    exact ⟨item, List.mem_reverse.mpr h.1, by simpa using h.2⟩
  exact Option.isSome_iff_exists.mp hsome

omit [Numerals F] in
theorem resolveRank_ok_iff :
    (∃ resolution, resolveRank documents tenant_id (rank_map evidence) rank = .ok resolution) ↔
      ∃ item, lastOf evidence rank = some item ∧ GoodCitation documents tenant_id item := by
  unfold resolveRank
  rw [rank_map_get?]
  cases hlast : lastOf evidence rank with
  | none => simp
  | some item =>
    simp only [Option.some.injEq, exists_eq_left', ← resolves_iff]
    cases resolve_citation documents tenant_id item <;> simp

theorem ungroundedClaim_eq_none_iff {index : Nat} {segment : JsonObject F} :
    ungroundedClaim documents tenant_id (rank_map evidence) index segment = none ↔
      segment_ranks segment ≠ [] ∧ ∀ rank ∈ segment_ranks segment,
        ∃ item, lastOf evidence rank = some item ∧ GoodCitation documents tenant_id item := by
  have hreasons : missingReasons documents tenant_id (rank_map evidence) (segment_ranks segment) =
      [] ↔ ∀ rank ∈ segment_ranks segment,
        ∃ item, lastOf evidence rank = some item ∧ GoodCitation documents tenant_id item := by
    unfold missingReasons
    rw [List.filterMap_eq_nil_iff]
    refine forall_congr' fun rank => forall_congr' fun _ => ?_
    rw [← resolveRank_ok_iff]
    cases resolveRank documents tenant_id (rank_map evidence) rank <;> simp
  unfold ungroundedClaim
  by_cases hcited : segment_ranks segment = []
  · simp [hcited]
  · simp only [if_neg hcited, ← hreasons]
    by_cases hmissing : missingReasons documents tenant_id (rank_map evidence)
        (segment_ranks segment) = []
    · simp [hmissing, hcited]
    · simp [hmissing]

theorem allowed_iff (h : IntegerRanks reply_segments) :
    (check documents tenant_id reply_segments evidence).allowed = true ↔
      CoveredByLast documents tenant_id reply_segments evidence := by
  have hclaims : ∀ segment, (∃ index, (segment, index) ∈ claims reply_segments) ↔
      IsClaim reply_segments segment := by
    intro segment
    unfold claims IsClaim
    simp only [List.mem_filter, decide_eq_true_eq, exists_and_right]
    refine and_congr_left fun _ => ?_
    constructor
    · rintro ⟨index, hmem⟩
      exact (List.mem_zipIdx' hmem).2 ▸ List.getElem_mem _
    · intro hmem
      obtain ⟨index, hlt, hget⟩ := List.getElem_of_mem hmem
      exact ⟨index, by rw [List.mk_mem_zipIdx_iff_getElem?, List.getElem?_eq_getElem hlt, hget]⟩
  unfold check CoveredByLast
  simp only [List.isEmpty_iff, List.filterMap_eq_nil_iff, ungroundedClaim_eq_none_iff]
  constructor
  · intro hall segment hclaim
    obtain ⟨index, hmem⟩ := (hclaims segment).mpr hclaim
    obtain ⟨hcited, hgood⟩ := hall _ hmem
    refine ⟨?_, fun rank hrank hpos =>
      hgood rank ((mem_segment_ranks_iff h hclaim.1).mpr ⟨hrank, hpos⟩)⟩
    obtain ⟨rank, hrank⟩ := List.exists_mem_of_ne_nil _ hcited
    exact ⟨rank, (mem_segment_ranks_iff h hclaim.1).mp hrank⟩
  · rintro hall ⟨segment, index⟩ hmem
    have hclaim : IsClaim reply_segments segment := (hclaims segment).mp ⟨index, hmem⟩
    obtain ⟨⟨rank, hrank, hpos⟩, hgood⟩ := hall segment hclaim
    refine ⟨List.ne_nil_of_mem ((mem_segment_ranks_iff h hclaim.1).mpr ⟨hrank, hpos⟩), ?_⟩
    intro r hr
    obtain ⟨hr, hrpos⟩ := (mem_segment_ranks_iff h hclaim.1).mp hr
    exact hgood r hr hrpos

end

end

/-! ## Two items of one rank -/

instance : UuidText String := ⟨some⟩

def returnsGuide : Knowledge String where
  documents := Dict.ofList [("doc-1",
    { document_id := "doc-1", tenant_id := "acme", title := "Returns"
      content := "Returns take 30 days.", document_type := .policy, status := .active, version := 1
      uploaded_by := "ops", vector_indexed_at := none, created_at := 0, review_status := .approved
      template_purpose := none, template_channel := none })]
  versions := .empty

/-- A citation of its first characters. -/
def returnsCitation (document_status : String) (rank : List (String × JsonValue Int)) :
    JsonObject Int := Dict.ofList (rank ++
  [("document_id", .str "doc-1"), ("document_status", .str document_status),
   ("document_review_status", .str "approved"), ("citation_schema_version", .int 2),
   ("document_version", .int 1), ("char_start", .int 0), ("char_end", .int 7)])

def returnsClaim (rank : Int) : JsonObject Int := Dict.ofList
  [("kind", .str "claim"), ("text", .str "Returns take 30 days."),
   ("citation_ranks", .list [.int rank])]

theorem integerRanks_returnsClaim (rank : Int) : IntegerRanks [returnsClaim rank] := by
  intro segment hmem items hitems item hitem
  rw [List.mem_singleton] at hmem
  subst hmem
  cases hitems
  exact ⟨rank, List.mem_singleton.mp hitem⟩

def returnsItem (document_status : String) (rank : Int) : EvidenceItem Int where
  rank := .int rank
  document_id := "doc-1"
  title := "Cited knowledge document"
  document_type := ""
  document_status := document_status
  score := 0
  chunk_ordinal := .int 0
  token_count := .int 0
  document_review_status := some "approved"
  citation_schema_version := some 2
  document_version := some 1
  char_start := some 0
  char_end := some 7

end operious.resolution
