-- Warranty and refund eligibility: what makes a claim eligible, that less evidence or stricter rules
-- never do, and which step of the remedy ladder is selected.
import Operious.Resolution.TaxonomyPolicy

namespace operious.resolution

open operious.agents.tools operious.cognition

variable {F : Type}

/-! ## The determination -/

/-- The day of a date, counted from the first one. -/
abbrev Date := Int

/-- `datetime.strptime(text, format).date()`, or none where it raises `ValueError`. -/
class DateReader where
  strptime : String → String → Option Date

/-- `now.date()` of a UTC datetime. -/
def dateOf (now : Instant) : Date := now / 86400000000

def DATE_FORMATS : List String := ["%Y-%m-%d", "%Y%m%d", "%Y/%m/%d"]

def parse_date [DateReader] (value : String) : Option Date :=
  DATE_FORMATS.findSome? fun fmt => DateReader.strptime (strip value) fmt

inductive EligibilityVerdict
  | eligible | ineligible | cannot_determine
  deriving DecidableEq, Repr

def EligibilityVerdict.value : EligibilityVerdict → String
  | .eligible => "eligible"
  | .ineligible => "ineligible"
  | .cannot_determine => "cannot_determine"

structure EligibilityCheck where
  name : String
  passed : Bool
  rule : String
  evidence_field : String
  evidence_value : String
  evidence_confidence : String
  evidence_source : String
  deriving DecidableEq, Repr

structure EligibilityDetermination where
  verdict : EligibilityVerdict
  claim_type : String
  grounding : List EligibilityCheck := []
  missing_evidence : List String := []
  recommended_remedy : Option String := none
  deriving DecidableEq, Repr

def checkOf (name rule field_name : String) (passed : Bool) (ef : Option ExtractedField) :
    EligibilityCheck where
  name := name
  passed := passed
  rule := rule
  evidence_field := field_name
  evidence_value := (ef.bind (·.value)).getD ""
  evidence_confidence := ((ef.bind (·.confidence)).map (·.value)).getD ""
  evidence_source := (ef.map (·.source.value)).getD "none"

def warranty_window_check (extracted_fields : ExtractedOrderFields F) (date_field_name : String)
    (parsed_date : Date) (warranty_window_days : Int) (now : Instant) : EligibilityCheck :=
  let age_days := dateOf now - parsed_date
  checkOf "within_warranty_window"
    ("warranty_window_days=" ++ toString warranty_window_days) date_field_name
    (0 ≤ age_days && age_days ≤ warranty_window_days) (extracted_fields.get_field date_field_name)

def authorized_reseller_check [Interpreter F] (extracted_fields : ExtractedOrderFields F)
    (seller_field_name : String) (authorized_resellers : List String) : EligibilityCheck :=
  let ef := extracted_fields.get_field seller_field_name
  let seller_value := (ef.bind (·.value)).getD ""
  checkOf "authorized_reseller"
    ("authorized_resellers=[" ++
      ", ".intercalate ((sorted authorized_resellers).map (Interpreter.repr F)) ++ "]")
    seller_field_name (Interpreter.lower F (strip seller_value) ∈ authorized_resellers) ef

/-- The evidence cannot be used: no value, or one of low confidence. -/
def absent (ef : Option ExtractedField) : Bool :=
  match ef with
  | none => true
  | some ef => ef.value.isNone || ef.confidence = some .low

def missingFields (extracted_fields : ExtractedOrderFields F) (required : List String) :
    List String :=
  required.filter fun field_name => absent (extracted_fields.get_field field_name)

section

variable [DateReader] (extracted_fields : ExtractedOrderFields F) (required : List String)
  (date_field : String)

def parsedDate : Option Date :=
  if date_field ∈ required ∧ date_field ∉ missingFields extracted_fields required then
    ((extracted_fields.get_field date_field).bind (·.value)).bind parse_date
  else none

/-- What is missing, a date that cannot be read included. -/
def missingEvidence : List String :=
  let missing := missingFields extracted_fields required
  if date_field ∈ required ∧ date_field ∉ missing ∧
      parsedDate extracted_fields required date_field = none then
    missing ++ [date_field]
  else missing

end

variable {now : Instant} {claim_type : String}

variable {required : List String} {field_name : String}

section

variable [Interpreter F] [DateReader]

/-- The checks of a claim whose evidence is complete. -/
def groundingOf (policy : WarrantyRefundPolicy) (claim_type : String)
    (extracted_fields : ExtractedOrderFields F) (now : Instant) (required : List String) :
    List EligibilityCheck :=
  ((parsedDate extracted_fields required policy.date_field_name).map fun parsed_date =>
    warranty_window_check extracted_fields policy.date_field_name parsed_date
      (policy.window_days_for claim_type) now).toList ++
  if policy.seller_field_name ∈ required then
    [authorized_reseller_check extracted_fields policy.seller_field_name
      policy.authorized_resellers]
  else []

def determine_eligibility (claim_type : String) (extracted_fields : ExtractedOrderFields F)
    (policy : Option WarrantyRefundPolicy) (now : Instant) : EligibilityDetermination :=
  match policy with
  | none => { verdict := .cannot_determine, claim_type }
  | some policy =>
    match policy.required_evidence_for claim_type with
    | none => { verdict := .cannot_determine, claim_type }
    | some required =>
      let missing := missingEvidence extracted_fields required policy.date_field_name
      let grounding := groundingOf policy claim_type extracted_fields now required
      if missing ≠ [] then
        { verdict := .cannot_determine, claim_type, missing_evidence := missing }
      else if grounding.all (·.passed) then
        { verdict := .eligible, claim_type, grounding
          recommended_remedy :=
            (policy.remedy_sequence_by_claim_type.get? claim_type).bind (·.head?) }
      else { verdict := .ineligible, claim_type, grounding }

/-! ## What makes a claim eligible -/

def Present (extracted_fields : ExtractedOrderFields F) (field_name value : String) : Prop :=
  ∃ ef, extracted_fields.get_field field_name = some ef ∧ ef.value = some value ∧
    ef.confidence ≠ some .low

/-- What the rule of a claim type asks for. -/
structure Entitled (policy : WarrantyRefundPolicy) (claim_type : String)
    (extracted_fields : ExtractedOrderFields F) (now : Instant) (required : List String) :
    Prop where
  evidence : ∀ field_name ∈ required, ∃ value, Present extracted_fields field_name value
  within_window : policy.date_field_name ∈ required → ∃ value parsed_date,
    Present extracted_fields policy.date_field_name value ∧ parse_date value = some parsed_date ∧
      0 ≤ dateOf now - parsed_date ∧ dateOf now - parsed_date ≤ policy.window_days_for claim_type
  reseller : policy.seller_field_name ∈ required → ∃ value,
    Present extracted_fields policy.seller_field_name value ∧
      Interpreter.lower F (strip value) ∈ policy.authorized_resellers

variable {extracted_fields : ExtractedOrderFields F}

section

omit [Interpreter F] [DateReader]

theorem absent_eq_false_iff :
    absent (extracted_fields.get_field field_name) = false ↔
      ∃ value, Present extracted_fields field_name value := by
  unfold Present
  cases hfield : extracted_fields.get_field field_name with
  | none => simp [absent]
  | some ef =>
    cases hvalue : ef.value with
    | none => simp [absent, hvalue]
    | some value => simp [absent, hvalue]

theorem value_of_present {value : String} (h : Present extracted_fields field_name value) :
    (extracted_fields.get_field field_name).bind (·.value) = some value := by
  obtain ⟨ef, hfield, hvalue, -⟩ := h
  rw [hfield]
  exact hvalue

theorem missingFields_eq_nil_iff : missingFields extracted_fields required = [] ↔
      ∀ field_name ∈ required, ∃ value, Present extracted_fields field_name value := by
  unfold missingFields
  rw [List.filter_eq_nil_iff]
  refine forall_congr' fun field_name => forall_congr' fun _ => ?_
  rw [← absent_eq_false_iff, Bool.not_eq_true]

end

variable {date_field : String} {parsed_date : Date}

omit [Interpreter F] [DateReader] in
theorem window_check_passed_iff {window : Int} :
    (warranty_window_check extracted_fields date_field parsed_date window now).passed = true ↔
      0 ≤ dateOf now - parsed_date ∧ dateOf now - parsed_date ≤ window := by
  simp [warranty_window_check, checkOf]

omit [DateReader] in
theorem reseller_check_passed_iff {seller_field value : String} {resellers : List String}
    (h : Present extracted_fields seller_field value) :
    (authorized_reseller_check extracted_fields seller_field resellers).passed = true ↔
      Interpreter.lower F (strip value) ∈ resellers := by
  simp [authorized_reseller_check, checkOf, value_of_present h]

omit [Interpreter F] [DateReader] in
theorem Present.value_eq {v w : String} (h : Present extracted_fields field_name v)
    (h' : Present extracted_fields field_name w) : v = w :=
  Option.some.inj ((value_of_present h).symm.trans (value_of_present h'))

omit [Interpreter F] in
theorem parsedDate_eq_some_iff :
    parsedDate extracted_fields required date_field = some parsed_date ↔
      date_field ∈ required ∧ ∃ value, Present extracted_fields date_field value ∧
        parse_date value = some parsed_date := by
  have hmem : date_field ∈ required → (date_field ∉ missingFields extracted_fields required ↔
      ∃ value, Present extracted_fields date_field value) := by
    intro hdate
    rw [← absent_eq_false_iff]
    simp [missingFields, hdate]
  unfold parsedDate
  constructor
  · intro h
    split at h
    · rename_i hin
      obtain ⟨value, hvalue⟩ := (hmem hin.1).mp hin.2
      rw [value_of_present hvalue] at h
      exact ⟨hin.1, value, hvalue, h⟩
    · cases h
  · rintro ⟨hdate, value, hvalue, hparsed⟩
    rw [if_pos ⟨hdate, (hmem hdate).mpr ⟨value, hvalue⟩⟩, value_of_present hvalue]
    exact hparsed

omit [Interpreter F] in
theorem missingEvidence_eq_nil_iff :
    missingEvidence extracted_fields required date_field = [] ↔
      (∀ field_name ∈ required, ∃ value, Present extracted_fields field_name value) ∧
        (date_field ∈ required →
          ∃ parsed_date, parsedDate extracted_fields required date_field = some parsed_date) := by
  rw [← missingFields_eq_nil_iff]
  unfold missingEvidence
  dsimp only
  constructor
  · intro h
    split at h
    · simp at h
    · rename_i hread
      refine ⟨h, fun hdate => Option.ne_none_iff_exists'.mp fun hnone => hread ⟨hdate, ?_, hnone⟩⟩
      rw [h]
      simp
  · rintro ⟨hfields, hread⟩
    rw [if_neg, hfields]
    rintro ⟨hdate, -, hnone⟩
    obtain ⟨parsed_date, hparsed⟩ := hread hdate
    rw [hnone] at hparsed
    cases hparsed

variable {policy : WarrantyRefundPolicy}

theorem grounding_passed_iff
    (h : ∀ field_name ∈ required, ∃ value, Present extracted_fields field_name value) :
    (groundingOf policy claim_type extracted_fields now required).all (·.passed) = true ↔
      (∀ parsed_date, parsedDate extracted_fields required policy.date_field_name =
          some parsed_date → 0 ≤ dateOf now - parsed_date ∧
            dateOf now - parsed_date ≤ policy.window_days_for claim_type) ∧
        (policy.seller_field_name ∈ required → ∃ value,
          Present extracted_fields policy.seller_field_name value ∧
            Interpreter.lower F (strip value) ∈ policy.authorized_resellers) := by
  unfold groundingOf
  rw [List.all_append, Bool.and_eq_true]
  refine and_congr ?_ ?_
  · cases hparsed : parsedDate extracted_fields required policy.date_field_name with
    | none => simp
    | some parsed_date =>
      simp only [Option.map_some, Option.toList_some, List.all_cons, List.all_nil, Bool.and_true,
        window_check_passed_iff]
      constructor
      · rintro hwindow _ ⟨⟩
        exact hwindow
      · exact fun hall => hall parsed_date rfl
  · by_cases hseller : policy.seller_field_name ∈ required
    · obtain ⟨value, hvalue⟩ := h _ hseller
      simp only [if_pos hseller, List.all_cons, List.all_nil, Bool.and_true,
        reseller_check_passed_iff hvalue]
      constructor
      · exact fun hlisted _ => ⟨value, hvalue, hlisted⟩
      · intro hlisted
        obtain ⟨value', hvalue', hlisted⟩ := hlisted hseller
        rwa [hvalue.value_eq hvalue']
    · simp [hseller]

theorem eligible_iff :
    (determine_eligibility claim_type extracted_fields (some policy) now).verdict = .eligible ↔
      ∃ required, policy.required_evidence_for claim_type = some required ∧
        Entitled policy claim_type extracted_fields now required := by
  cases hrule : policy.required_evidence_for claim_type with
  | none => simp [determine_eligibility, hrule]
  | some required =>
    simp only [determine_eligibility, hrule, Option.some.injEq, exists_eq_left']
    by_cases hmissing : missingEvidence extracted_fields required policy.date_field_name = []
    · obtain ⟨hevidence, hread⟩ := missingEvidence_eq_nil_iff.mp hmissing
      have hverdict : ∀ {passed : Bool} {d e : EligibilityDetermination},
          d.verdict = .eligible → e.verdict = .ineligible →
            ((if passed then d else e).verdict = .eligible ↔ passed = true) := by
        intro passed d e hd he
        cases passed with
        | true => exact iff_of_true hd rfl
        | false => exact iff_of_false (by simp [he]) (by simp)
      rw [if_neg (by simp [hmissing]), hverdict rfl rfl, grounding_passed_iff hevidence]
      constructor
      · rintro ⟨hwindow, hseller⟩
        refine ⟨hevidence, fun hdate => ?_, hseller⟩
        obtain ⟨parsed_date, hparsed⟩ := hread hdate
        obtain ⟨-, value, hvalue, hdateValue⟩ := parsedDate_eq_some_iff.mp hparsed
        exact ⟨value, parsed_date, hvalue, hdateValue, hwindow parsed_date hparsed⟩
      · rintro ⟨-, hwindow, hseller⟩
        refine ⟨fun parsed_date hparsed => ?_, hseller⟩
        obtain ⟨hdate, value, hvalue, hdateValue⟩ := parsedDate_eq_some_iff.mp hparsed
        obtain ⟨value', parsed', hvalue', hparsed', hin⟩ := hwindow hdate
        rw [← hvalue.value_eq hvalue', hdateValue] at hparsed'
        cases hparsed'
        exact hin
    · rw [if_pos hmissing]
      refine iff_of_false (by simp) fun hentitled => ?_
      refine hmissing (missingEvidence_eq_nil_iff.mpr ⟨hentitled.evidence, fun hdate => ?_⟩)
      obtain ⟨value, parsed_date, hvalue, hparsed, -⟩ := hentitled.within_window hdate
      exact ⟨parsed_date, parsedDate_eq_some_iff.mpr ⟨hdate, value, hvalue, hparsed⟩⟩

end

/-! ## Less evidence and stricter rules -/

def confidenceRank : Option ExtractionConfidence → Nat
  | none => 0
  | some .low => 1
  | some .medium => 2
  | some .high => 3

/-- The field `f` after it was removed, or lost its value, or came with less confidence. -/
def Weakened (f' f : Option ExtractedField) : Prop :=
  ∀ ef', f' = some ef' → ef'.value = none ∨ ∃ ef, f = some ef ∧ ef'.value = ef.value ∧
    confidenceRank ef'.confidence ≤ confidenceRank ef.confidence

def LessEvidence (fields' fields : ExtractedOrderFields F) : Prop :=
  ∀ name, Weakened (fields'.get_field name) (fields.get_field name)

/-- The policy `p'` has shorter windows and fewer resellers. -/
structure Stricter (p' p : WarrantyRefundPolicy) : Prop where
  required : p'.required_evidence_by_claim_type = p.required_evidence_by_claim_type
  mappings : p'.eligibility_field_mappings = p.eligibility_field_mappings
  windows : ∀ claim_type, p'.window_days_for claim_type ≤ p.window_days_for claim_type
  resellers : p'.authorized_resellers ⊆ p.authorized_resellers

variable {fields' fields : ExtractedOrderFields F}

theorem Present.of_less (h : LessEvidence fields' fields) {value : String}
    (hpresent : Present fields' field_name value) : Present fields field_name value := by
  obtain ⟨ef', hfield', hvalue', hconfidence'⟩ := hpresent
  rcases h field_name ef' hfield' with hnone | ⟨ef, hfield, hvalue, hrank⟩
  · rw [hvalue'] at hnone
    cases hnone
  · refine ⟨ef, hfield, hvalue ▸ hvalue', fun hlow => ?_⟩
    have hsome : ef'.confidence ≠ none := fun hnone => by
      rw [ef'.absence_is_total.1.mpr hnone] at hvalue'
      cases hvalue'
    rw [hlow] at hrank
    cases hc : ef'.confidence with
    | none => exact hsome hc
    | some c =>
      cases c with
      | low => exact hconfidence' hc
      | medium => simp [hc, confidenceRank] at hrank
      | high => simp [hc, confidenceRank] at hrank

theorem Entitled.of_less [Interpreter F] [DateReader] {p' p : WarrantyRefundPolicy}
    (hp : Stricter p' p) (hfields : LessEvidence fields' fields)
    (h : Entitled p' claim_type fields' now required) :
    Entitled p claim_type fields now required := by
  have hdate : p.date_field_name = p'.date_field_name := by
    unfold WarrantyRefundPolicy.date_field_name
    rw [hp.mappings]
  have hseller : p.seller_field_name = p'.seller_field_name := by
    unfold WarrantyRefundPolicy.seller_field_name
    rw [hp.mappings]
  refine ⟨fun field_name hmem => ?_, fun hmem => ?_, fun hmem => ?_⟩
  · obtain ⟨value, hvalue⟩ := h.evidence field_name hmem
    exact ⟨value, hvalue.of_less hfields⟩
  · rw [hdate] at hmem ⊢
    obtain ⟨value, parsed_date, hvalue, hparsed, hpast, hin⟩ := h.within_window hmem
    exact ⟨value, parsed_date, hvalue.of_less hfields, hparsed, hpast,
      hin.trans (hp.windows claim_type)⟩
  · rw [hseller] at hmem ⊢
    obtain ⟨value, hvalue, hlisted⟩ := h.reseller hmem
    exact ⟨value, hvalue.of_less hfields, hp.resellers hlisted⟩

/-! ## The remedy ladder -/

inductive RemedyAvailability
  | available | unconfirmed | not_applicable
  deriving DecidableEq, Repr

structure RemedySelection where
  remedy : Option String
  availability : Option RemedyAvailability
  deriving DecidableEq, Repr

def NO_REMEDY : RemedySelection := ⟨none, none⟩

/-- `check_availability`: confirmed available or not, or unknown. The inventory is in a state `σ`. -/
abbrev InventoryAvailabilityChecker (F σ : Type) :=
  String → String → ExtractedOrderFields F → StateM σ (Option Bool)

section

variable {σ : Type} (policy : WarrantyRefundPolicy) (tenant_id : String)
  (extracted_fields : ExtractedOrderFields F)
  (availability_checker : Option (InventoryAvailabilityChecker F σ))

def walkLadder : List String → StateM σ RemedySelection
  | [] => pure NO_REMEDY
  | remedy :: rest =>
    if !policy.remedy_requires_check remedy then pure ⟨some remedy, some .not_applicable⟩
    else
      match availability_checker with
      | none => pure ⟨some remedy, some .unconfirmed⟩
      | some check_availability => do
        match ← check_availability tenant_id remedy extracted_fields with
        | some true => pure ⟨some remedy, some .available⟩
        | none => pure ⟨some remedy, some .unconfirmed⟩
        | some false => walkLadder rest

def select_available_remedy (claim_type : String) : StateM σ RemedySelection :=
  match policy.remedy_sequence_by_claim_type.get? claim_type with
  | none => pure NO_REMEDY
  | some ladder => walkLadder policy tenant_id extracted_fields availability_checker ladder

/-- What is known of a step when its turn comes, or none where it is confirmed unavailable. -/
def availabilityOf (remedy : String) (s : σ) : Option RemedyAvailability :=
  if policy.remedy_requires_check remedy then
    match availability_checker with
    | none => some .unconfirmed
    | some check_availability =>
      match (check_availability tenant_id remedy extracted_fields s).1 with
      | some true => some .available
      | none => some .unconfirmed
      | some false => none
  else some .not_applicable

/-- The steps are confirmed unavailable one after the other, and the inventory is left in the second
state. -/
inductive Unavailable : List String → σ → σ → Prop
  | nil (s : σ) : Unavailable [] s s
  | cons {remedy : String} {rest : List String} {s t u : σ}
      {check_availability : InventoryAvailabilityChecker F σ} :
      policy.remedy_requires_check remedy = true →
      availability_checker = some check_availability →
      check_availability tenant_id remedy extracted_fields s = (some false, t) →
      Unavailable rest t u → Unavailable (remedy :: rest) s u

def FirstStanding (ladder : List String) (s : σ) (selection : RemedySelection) : Prop :=
  ∃ refused rest t, ladder = refused ++ rest ∧
    Unavailable policy tenant_id extracted_fields availability_checker refused s t ∧
    match rest with
    | [] => selection = NO_REMEDY
    | step :: _ => ∃ availability,
        availabilityOf policy tenant_id extracted_fields availability_checker step t =
          some availability ∧ selection = ⟨some step, some availability⟩

variable {policy tenant_id extracted_fields availability_checker}

theorem firstStanding_of_availability {remedy : String} {rest : List String} {s : σ}
    {a : RemedyAvailability}
    (h : availabilityOf policy tenant_id extracted_fields availability_checker remedy s = some a) :
    FirstStanding policy tenant_id extracted_fields availability_checker (remedy :: rest) s
      ⟨some remedy, some a⟩ :=
  ⟨[], remedy :: rest, s, rfl, .nil s, a, h, rfl⟩

theorem walkLadder_first (ladder : List String) (s : σ) :
    FirstStanding policy tenant_id extracted_fields availability_checker ladder s
      (walkLadder policy tenant_id extracted_fields availability_checker ladder s).1 := by
  induction ladder generalizing s with
  | nil => exact ⟨[], [], s, rfl, .nil s, rfl⟩
  | cons remedy rest ih =>
    unfold walkLadder
    cases hcheck : policy.remedy_requires_check remedy with
    | false => exact firstStanding_of_availability (by simp [availabilityOf, hcheck])
    | true =>
      cases availability_checker with
      | none => exact firstStanding_of_availability (by simp [availabilityOf, hcheck])
      | some check_availability =>
        rcases hanswer : check_availability tenant_id remedy extracted_fields s with ⟨answer, t⟩
        simp only [Bool.not_true, Bool.false_eq_true, if_false, bind, StateT.bind, hanswer]
        rcases answer with - | (- | -)
        · exact firstStanding_of_availability (by simp [availabilityOf, hcheck, hanswer])
        · obtain ⟨refused, standing, u, hladder, hrefused, hselected⟩ := ih t
          exact ⟨remedy :: refused, standing, u, by rw [hladder]; rfl,
            .cons hcheck rfl hanswer hrefused, hselected⟩
        · exact firstStanding_of_availability (by simp [availabilityOf, hcheck, hanswer])

theorem select_available_remedy_first (claim_type : String) (s : σ) :
    FirstStanding policy tenant_id extracted_fields availability_checker
      ((policy.remedy_sequence_by_claim_type.get? claim_type).getD []) s
      (select_available_remedy policy tenant_id extracted_fields availability_checker claim_type
        s).1 := by
  unfold select_available_remedy
  cases policy.remedy_sequence_by_claim_type.get? claim_type with
  | none => exact ⟨[], [], s, rfl, .nil s, rfl⟩
  | some ladder => exact walkLadder_first ladder s

end

/-! ## The law -/

/-- A claim is eligible exactly when a rule asks for what its evidence gives; less evidence and stricter
rules make no claim eligible; and the remedy is the first step that is not confirmed unavailable. -/
theorem eligibility_is_closed_and_monotone [Interpreter F] [DateReader] :
    (∀ (policy : Option WarrantyRefundPolicy) (claim_type : String)
        (fields : ExtractedOrderFields F) (now : Instant),
      (determine_eligibility claim_type fields policy now).verdict = .eligible ↔
        ∃ p required, policy = some p ∧ p.required_evidence_for claim_type = some required ∧
          Entitled p claim_type fields now required) ∧
    (∀ (p' p : WarrantyRefundPolicy) (claim_type : String)
        (fields' fields : ExtractedOrderFields F) (now : Instant),
      Stricter p' p → LessEvidence fields' fields →
      (determine_eligibility claim_type fields (some p) now).verdict ≠ .eligible →
        (determine_eligibility claim_type fields' (some p') now).verdict ≠ .eligible) ∧
    ∀ (σ : Type) (p : WarrantyRefundPolicy) (claim_type tenant_id : String)
        (fields : ExtractedOrderFields F) (checker : Option (InventoryAvailabilityChecker F σ))
        (s : σ),
      FirstStanding p tenant_id fields checker
        ((p.remedy_sequence_by_claim_type.get? claim_type).getD []) s
        (select_available_remedy p tenant_id fields checker claim_type s).1 := by
  refine ⟨fun policy claim_type fields now => ?_,
    fun p' p claim_type fields' fields now hp hfields hnot heligible => ?_,
    fun σ p claim_type tenant_id fields checker s => select_available_remedy_first claim_type s⟩
  · cases policy with
    | none => simp [determine_eligibility]
    | some p =>
      rw [eligible_iff]
      simp
  · obtain ⟨required, hrule, hentitled⟩ := eligible_iff.mp heligible
    refine hnot (eligible_iff.mpr ⟨required, ?_, hentitled.of_less hp hfields⟩)
    unfold WarrantyRefundPolicy.required_evidence_for at hrule ⊢
    rw [← hp.required]
    exact hrule

/-! ## A claim with a blank value -/

/-- A reader of one date, to run the model on. -/
instance : DateReader where
  strptime text format := if text = "2026-01-01" ∧ format = "%Y-%m-%d" then some 20454 else none

/-- What a tenant writes that asks for an order number and a date. -/
def orderRules (days : Int) : JsonObject Int := Dict.ofList
  [("warranty_window_days", .int days),
   ("authorized_resellers", .list [.str "Acme"]),
   ("required_evidence_by_claim_type",
     .dict [("defective", .list [.str "order_id", .str "purchase_date"])])]

def orderPolicy (days : Int) : WarrantyRefundPolicy where
  warranty_window_days := days
  authorized_resellers := ["acme"]
  required_evidence_by_claim_type := Dict.ofList [("defective", ["order_id", "purchase_date"])]
  remedy_sequence_by_claim_type := .empty

def orderFields (order_id : String) : ExtractedOrderFields Int where
  order_id := ⟨some order_id, some .high, .text, by simp⟩
  purchase_date := ⟨some "2026-01-01", some .high, .text, by simp⟩

theorem nothing_is_less (fields : ExtractedOrderFields F) : LessEvidence {} fields := by
  intro name ef' hfield
  refine Or.inl ?_
  unfold ExtractedOrderFields.get_field at hfield
  split at hfield <;> cases hfield <;> rfl

/-- A claim past its window stays ineligible when the window shrinks and the evidence goes. -/
theorem a_late_claim_stays_ineligible :
    (determine_eligibility "defective" ({} : ExtractedOrderFields Int) (some (orderPolicy 20))
      1775001600000000).verdict ≠ .eligible :=
  eligibility_is_closed_and_monotone.2.1 (orderPolicy 20) (orderPolicy 30) "defective" {}
    (orderFields "A-1") 1775001600000000 ⟨rfl, rfl, fun _ => show (20 : Int) ≤ 30 by decide, fun _ h => h⟩
    (nothing_is_less _) (by decide +kernel)

/-- An order number of white space counts as one. -/
theorem a_blank_order_number_is_eligible :
    ¬ ∀ (parameters : JsonObject Int) (p : WarrantyRefundPolicy),
      parse_warranty_refund_parameters parameters = .ok p →
      ∀ (claim_type : String) (fields : ExtractedOrderFields Int) (now : Instant),
        (determine_eligibility claim_type fields (some p) now).verdict = .eligible →
        ∃ required, p.required_evidence_for claim_type = some required ∧
          ∀ field_name ∈ required, ∃ value, Present fields field_name value ∧
            (strip value).isEmpty = false := by
  have hparsed : parse_warranty_refund_parameters (orderRules 30) = .ok (orderPolicy 30) := by
    decide +kernel
  intro h
  obtain ⟨required, hrule, hfilled⟩ := h _ _ hparsed "defective" (orderFields " ")
    1767225600000000 (by decide +kernel)
  cases hrule
  obtain ⟨value, ⟨ef, hfield, hef, -⟩, hblank⟩ := hfilled "order_id" List.mem_cons_self
  cases hfield
  cases hef
  revert hblank
  decide +kernel

end operious.resolution
