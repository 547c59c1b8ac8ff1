-- What the gates look for in a recommendation: actions and words that commit to money or goods.
import Operious.Lib.Regex
import Operious.Tools.TenantActionPolicy

namespace operious.money_goods_commitment

open operious.agents.tools

/-- `str.isalnum` of one character. -/
class CharacterData where
  isalnum : Char → Bool

instance : CharacterData := ⟨Char.isAlphanum⟩

def commitmentActionTypes : List String :=
  ["refund_request", "replacement_order", "warranty_claim", "repair_dispatch", "service_dispatch",
   "repair_booking"]

def commitmentToolNames : List String :=
  ["refund.request", "replacement.order", "warranty.claim", "replacement.dispatch",
   "warranty.dispatch", "repair.dispatch", "service.dispatch", "repair.booking"]

/-! ## The words of a reply -/

section Patterns

open Regex

variable [CharacterData]

/-- `\w`. -/
def isWord (c : Char) : Bool := CharacterData.isalnum c || c = '_'

def digit : Regex Char := one fun c => (digitValue c).isSome

def space : Regex Char := one isSpace

/-- `.{0,n}`. -/
def gap (n : Nat) : Regex Char := run (· ≠ '\n') (some n)

/-- The expressions between two borders of words. -/
def bounded (rs : List (Regex Char)) : Regex Char := cat ([border] ++ rs ++ [border])

def phrase (s : String) : Regex Char := bounded [text s]

def phrases (ss : List String) : Regex Char := oneOf (ss.map phrase)

/-- `refund\w*`. -/
def refundWord : Regex Char := cat [text "refund", run isWord none]

/-- `we(?:'ll| will)?|i'll|i will`. -/
def promiser : List String := ["we", "we'll", "we will", "i'll", "i will"]

def commitmentReplyPatterns : List (String × Regex Char) :=
  [("refund", cat
     [bounded [texts (["we", "we'll", "we will", "can", "can process", "can offer"] ++
        ["i'll", "i will"])], gap 80, bounded [refundWord]]),
   ("refund", oneOf
     [bounded [refundWord, text " is approved"],
      bounded [text "approved for ", opt (text "a "), refundWord]]),
   ("replacement", cat
     [bounded [texts promiser], gap 80,
      bounded [text "replac", texts ["e", "ed", "ing", "ement"]]]),
   ("replacement", phrases
     ["replacement will arrive", "send you a replacement", "approved for replacement"]),
   ("replacement", phrases ["ship a replacement", "replacement is on the way"]),
   ("warranty", phrases ["covered under warranty", "warranty covers"]),
   ("warranty", phrases ["approved warranty claim", "we will honor your warranty"]),
   ("credit", phrases ["issue a credit", "apply a credit", "store credit"]),
   ("shipment", phrases ["we will ship", "shipment is on the way"]),
   ("prepaid_label", phrases ["prepaid label", "prepaid return label", "return label"]),
   ("service_dispatch", cat
     [bounded [texts (promiser ++ ["let me"])], gap 80,
      bounded [texts ["dispatch", "schedule", "book", "arrange"]], gap 40,
      bounded [texts ["repair", "technician", "service", "engineer", "visit", "appointment",
        "pickup"]]]),
   ("service_dispatch", cat
     [bounded [texts ["repair", "service", "technician", "engineer"]], gap 40,
      bounded [texts ["scheduled", "booked", "dispatched", "arranged", "on the way", "coming"]]]),
   ("service_dispatch", oneOf
     [bounded [text "appointment ", opt (texts ["is ", "has been "]),
        texts ["scheduled", "booked", "confirmed"]],
      bounded [text "scheduled ", opt (texts ["a ", "an "]),
        texts ["repair", "service", "visit", "pickup", "appointment"]]]),
   -- Broad on purpose: a promise in other words goes to a human as well.
   ("remedy_promise", cat
     [bounded [texts (promiser ++ ["let me", "i'm going to", "we're going to"])], gap 80,
      bounded [oneOf
        [texts ["send", "ship", "mail", "give", "issue", "cover", "waive", "reimburse",
           "compensate", "exchange", "redo", "comp", "discount", "upgrade", "honor",
           "take care of"],
         cat [text "sort ", texts ["this", "that", "it"], text " out"],
         cat [text "make ", texts ["this", "it"], text " right"],
         text "make you whole"]]]),
   ("no_cost_commitment", oneOf
     [bounded [text "no ", opt (text "extra "), texts ["cost", "charge"]],
      phrase "free of charge", phrase "at no charge",
      bounded [text "on ", texts ["us", "the house"]],
      phrase "complimentary"]),
   ("new_item_commitment", oneOf
     [cat [bounded [newItem], gap 40,
        bounded [oneOf [text "sent", text "shipped",
          cat [text "on ", texts ["its", "the"], text " way"], text "being sent",
          text "out to you"]]],
      bounded [text "send", opt (text "ing"), text " ", opt (text "you "), text "a ", newItem]]),
   ("money_amount_commitment", cat
     [bounded [texts (promiser ++ ["can", "can offer", "can process"])], gap 60,
      oneOf
       [cat [one (· ∈ ['$', '£', '€']), opt space, digit],
        cat [digit, run (fun c => (digitValue c).isSome) none,
          opt (cat [text ".", digit, digit]), opt space, texts ["usd", "dollars", "gbp", "eur"]]]])]
where
  /-- `new (?:unit|item|device|product|one)`. -/
  newItem : Regex Char := cat [text "new ", texts ["unit", "item", "device", "product", "one"]]

end Patterns

variable {F : Type} [Interpreter F]

/-- The stripped string under the key, where it is one of `listed`. -/
def listedAt (action : JsonObject F) (key : String) (listed : List String) : Option String :=
  match action.get? key with
  | some (.str s) => if strip s ∈ listed then some (strip s) else none
  | _ => none

def actionKinds (action : JsonObject F) : List String :=
  ((listedAt action "type" commitmentActionTypes).map ("action_type:" ++ ·)).toList ++
    ((listedAt action "tool_name" commitmentToolNames).map ("tool_name:" ++ ·)).toList

def replyKinds (F : Type) [Interpreter F] [CharacterData] (reply : Option String) : List String :=
  match reply with
  | none => []
  | some reply =>
    let lowered_reply := ascii.chars (Interpreter.lower F reply)
    if reply.isEmpty then []
    else (commitmentReplyPatterns.filter fun (_, pattern) => pattern.search isWord lowered_reply).map
      fun (kind, _) => "reply_text:" ++ kind

def money_or_goods_commitment_kinds [CharacterData] (recommended_actions : List (JsonObject F))
    (reply : Option String) : List String :=
  (recommended_actions.flatMap actionKinds ++ replyKinds F reply).eraseDups

def has_money_or_goods_commitment [CharacterData] (recommended_actions : List (JsonObject F))
    (reply : Option String) : Bool :=
  !(money_or_goods_commitment_kinds recommended_actions reply).isEmpty

example : money_or_goods_commitment_kinds ([] : List (JsonObject Int))
    (some "Your refund is approved.") = ["reply_text:refund"] := by
  decide +kernel

/-! ## Against what would be executed -/

def DeclaresCommitting (policy : ParsedActionPolicy F) (tool_name : String) : Prop :=
  ∃ declaration, policy.custom_tools.get? tool_name = some declaration ∧
    isCommitting declaration.commitment_kind = true

def RegisteredCommitting (F : Type) [Interpreter F] (tool_name : String) : Prop :=
  ∃ operation : RegisteredOperation F, registeredByTool tool_name = some operation ∧
    isCommitting operation.commitment_kind = true

def Commits (policy : ParsedActionPolicy F) (action : JsonObject F) : Prop :=
  ∃ tool_name, tool_name_for action = some tool_name ∧
    (RegisteredCommitting F tool_name ∨ DeclaresCommitting policy tool_name)

/-- What the tables of the scan have to do with the action: its type is a listed one, or the tool
that it names is listed or not the tenant's own. Without a named tool, its type is not
`repair.dispatch`, and the tenant has no tool of its own under the name of the repair report. -/
def WithinTables (policy : ParsedActionPolicy F) (action : JsonObject F) : Prop :=
  (∃ action_type, textAt action "type" = some action_type ∧ action_type ∈ commitmentActionTypes) ∨
    match textAt action "tool_name" with
    | some tool_name => tool_name ∈ commitmentToolNames ∨ ¬ DeclaresCommitting policy tool_name
    | none => textAt action "type" ≠ some "repair.dispatch" ∧
        (textAt action "type" = some "warehouse_repair" →
          ¬ DeclaresCommitting policy "warehouse.repair.report")

variable {action : JsonObject F}

omit [Interpreter F] in
theorem listedAt_eq_some_iff {key : String} {listed : List String}
    (hblank : ∀ s ∈ listed, s.isEmpty = false) {s : String} :
    listedAt action key listed = some s ↔ textAt action key = some s ∧ s ∈ listed := by
  unfold listedAt textAt
  cases action.get? key with
  | none => simp
  | some value =>
    cases value with
    | str raw =>
      simp only [Option.bind_some, JsonValue.text]
      constructor
      · intro h
        split at h
        · rename_i hmem
          have hs : strip raw = s := Option.some.inj h
          rw [hblank _ hmem, hs]
          exact ⟨by simp, hs ▸ hmem⟩
        · cases h
      · rintro ⟨htext, hmem⟩
        split at htext
        · cases htext
        · have hs : strip raw = s := Option.some.inj htext
          rw [hs, if_pos hmem]
    | _ => simp [JsonValue.text]

omit [Interpreter F] in
theorem actionKinds_ne_nil_iff (action : JsonObject F) :
    actionKinds action ≠ [] ↔
      (∃ action_type, textAt action "type" = some action_type ∧
        action_type ∈ commitmentActionTypes) ∨
      (∃ tool_name, textAt action "tool_name" = some tool_name ∧
        tool_name ∈ commitmentToolNames) := by
  have htype : ∀ s, listedAt action "type" commitmentActionTypes = some s ↔
      textAt action "type" = some s ∧ s ∈ commitmentActionTypes :=
    fun s => listedAt_eq_some_iff (by decide)
  have htool : ∀ s, listedAt action "tool_name" commitmentToolNames = some s ↔
      textAt action "tool_name" = some s ∧ s ∈ commitmentToolNames :=
    fun s => listedAt_eq_some_iff (by decide)
  simp only [← htype, ← htool, ← Option.isSome_iff_exists]
  unfold actionKinds
  cases listedAt action "type" commitmentActionTypes <;>
    cases listedAt action "tool_name" commitmentToolNames <;> simp

theorem mem_commitmentToolNames_of_registered {tool_name : String}
    (h : RegisteredCommitting F tool_name) : tool_name ∈ commitmentToolNames := by
  obtain ⟨operation, hfind, hcommits⟩ := h
  have hmem := List.mem_of_find?_eq_some hfind
  have hname : operation.tool_name = tool_name := by simpa using List.find?_some hfind
  subst hname
  simp only [registeredOperations, List.mem_cons, List.not_mem_nil, or_false] at hmem
  rcases hmem with rfl | rfl | rfl | rfl | rfl | rfl | rfl | rfl
  · exact (by decide : "warranty.claim" ∈ commitmentToolNames)
  · exact (by decide : "replacement.order" ∈ commitmentToolNames)
  · exact (by decide : "refund.request" ∈ commitmentToolNames)
  · exact Bool.noConfusion hcommits
  · exact (by decide : "repair.dispatch" ∈ commitmentToolNames)
  · exact (by decide : "replacement.dispatch" ∈ commitmentToolNames)
  · exact (by decide : "warranty.dispatch" ∈ commitmentToolNames)
  · exact (by decide : "repair.booking" ∈ commitmentToolNames)

theorem tool_name_for_action_type_cases {action_type tool_name : String}
    (h : tool_name_for_action_type (F := F) (some action_type) = some tool_name) :
    action_type ∈ commitmentActionTypes ∨
      (action_type = "warehouse_repair" ∧ tool_name = "warehouse.repair.report") ∨
      (action_type = "repair.dispatch" ∧ tool_name = "repair.dispatch") := by
  obtain ⟨operation, hfind, rfl⟩ := Option.map_eq_some_iff.mp h
  have hfind : registeredOperations.find? (action_type ∈ ·.action_types) = some operation := hfind
  have hmem := List.mem_of_find?_eq_some hfind
  have htype : action_type ∈ operation.action_types := by
    simpa only [decide_eq_true_eq] using List.find?_some hfind
  simp only [registeredOperations, List.mem_cons, List.not_mem_nil, or_false] at hmem
  rcases hmem with rfl | rfl | rfl | rfl | rfl | rfl | rfl | rfl
  · rw [List.mem_singleton.mp htype]
    exact Or.inl (by decide)
  · rw [List.mem_singleton.mp htype]
    exact Or.inl (by decide)
  · rw [List.mem_singleton.mp htype]
    exact Or.inl (by decide)
  · exact Or.inr (Or.inl ⟨List.mem_singleton.mp htype, rfl⟩)
  · exact Or.inr (Or.inr ⟨List.mem_singleton.mp htype, rfl⟩)
  · exact (List.not_mem_nil htype).elim
  · exact (List.not_mem_nil htype).elim
  · rw [List.mem_singleton.mp htype]
    exact Or.inl (by decide)

theorem tool_name_for_repair_dispatch :
    tool_name_for_action_type (F := F) (some "repair.dispatch") = some "repair.dispatch" := rfl

theorem tool_name_for_warehouse_repair :
    tool_name_for_action_type (F := F) (some "warehouse_repair") =
      some "warehouse.repair.report" := rfl

theorem registered_repair_dispatch : RegisteredCommitting F "repair.dispatch" :=
  ⟨repairDispatch, rfl, rfl⟩

theorem kinds_ne_nil_of_mem [CharacterData] {actions : List (JsonObject F)}
    (hmem : action ∈ actions) (h : actionKinds action ≠ []) (reply : Option String) :
    money_or_goods_commitment_kinds actions reply ≠ [] := by
  obtain ⟨kind, hkind⟩ := List.exists_mem_of_ne_nil _ h
  have hall : kind ∈ actions.flatMap actionKinds ++ replyKinds F reply :=
    List.mem_append_left _ (List.mem_flatMap.mpr ⟨action, hmem, hkind⟩)
  exact List.ne_nil_of_mem (List.mem_eraseDups.mpr hall)

theorem kinds_singleton_ne_nil [CharacterData]
    (h : money_or_goods_commitment_kinds [action] none ≠ []) : actionKinds action ≠ [] := by
  obtain ⟨kind, hkind⟩ := List.exists_mem_of_ne_nil _ h
  have hall : kind ∈ [action].flatMap actionKinds ++ replyKinds F none :=
    List.mem_eraseDups.mp hkind
  simp only [List.flatMap_singleton, replyKinds, List.append_nil] at hall
  exact List.ne_nil_of_mem hall

/-- What the orchestration runs commits and the scan sees it in whatever list holds the action,
iff the action is within the tables of the scan. -/
theorem kinds_agree_iff [CharacterData] (policy : ParsedActionPolicy F) (action : JsonObject F) :
    (Commits policy action → ∀ actions : List (JsonObject F), action ∈ actions → ∀ reply,
        money_or_goods_commitment_kinds actions reply ≠ []) ↔
      WithinTables policy action := by
  constructor
  · intro h
    unfold WithinTables
    by_contra hout
    rw [not_or] at hout
    obtain ⟨htype, hrest⟩ := hout
    have hcommits : Commits policy action := by
      unfold Commits tool_name_for
      cases htool : textAt action "tool_name" with
      | some tool_name =>
        simp only [htool, not_or, not_not] at hrest
        exact ⟨tool_name, rfl, Or.inr hrest.2⟩
      | none =>
        simp only [htool] at hrest
        by_cases hdispatch : textAt action "type" = some "repair.dispatch"
        · rw [hdispatch]
          exact ⟨"repair.dispatch", tool_name_for_repair_dispatch,
            Or.inl registered_repair_dispatch⟩
        · simp only [ne_eq, hdispatch, not_false_eq_true, true_and, Classical.not_imp,
            not_not] at hrest
          rw [hrest.1]
          exact ⟨"warehouse.repair.report", tool_name_for_warehouse_repair, Or.inr hrest.2⟩
    have hseen := (actionKinds_ne_nil_iff action).mp
      (kinds_singleton_ne_nil (h hcommits [action] (List.mem_singleton.mpr rfl) none))
    rcases hseen with hseen | ⟨tool_name, htool, hlisted⟩
    · exact htype hseen
    · simp only [htool] at hrest
      exact hrest (Or.inl hlisted)
  · intro hin hcommits actions hmem reply
    refine kinds_ne_nil_of_mem hmem ((actionKinds_ne_nil_iff action).mpr ?_) reply
    rcases hin with htype | hrest
    · exact Or.inl htype
    · obtain ⟨tool_name, htool, hkind⟩ := hcommits
      unfold tool_name_for at htool
      cases hnamed : textAt action "tool_name" with
      | some named =>
        simp only [hnamed, Option.some.injEq] at htool hrest
        subst htool
        have hlisted : named ∈ commitmentToolNames := by
          rcases hkind with hregistered | hdeclared
          · exact mem_commitmentToolNames_of_registered hregistered
          · exact hrest.resolve_right (not_not.mpr hdeclared)
        exact Or.inr ⟨named, rfl, hlisted⟩
      | none =>
        simp only [hnamed] at htool hrest
        obtain ⟨action_type, htype, hrun⟩ := Option.bind_eq_some_iff.mp htool
        rcases tool_name_for_action_type_cases hrun with hlisted | ⟨rfl, rfl⟩ | ⟨rfl, rfl⟩
        · exact Or.inl ⟨action_type, htype, hlisted⟩
        · rcases hkind with hregistered | hdeclared
          · have := mem_commitmentToolNames_of_registered hregistered
            exact absurd this (by decide)
          · exact absurd hdeclared (hrest.2 htype)
        · exact absurd htype hrest.1


/-- A policy with one tool of the tenant's own, which gives credit. -/
def creditPolicy : Except PolicyFailure (ParsedActionPolicy Int) :=
  parse_action_tools_policy 10000
    { policy_id := "policy-1", policy_type := "action_tools"
      parameters := .dict
        [("tools", .dict [("loyalty.credit", .dict [("commitment_kind", .str "money")])])]
      version := 1, content_sha256 := "sha" }

/-- The policy parses. The tenant's tool of kind money runs under its own name and `repair.dispatch`
runs under its own type, and the scan sees neither. -/
theorem scan_misses_what_would_run : ∃ policy, creditPolicy = .ok policy ∧
    Commits policy (.ofList [("tool_name", .str "loyalty.credit")]) ∧
    money_or_goods_commitment_kinds
      [(.ofList [("tool_name", .str "loyalty.credit")] : JsonObject Int)] none = [] ∧
    Commits policy (.ofList [("type", .str "repair.dispatch")]) ∧
    money_or_goods_commitment_kinds
      [(.ofList [("type", .str "repair.dispatch")] : JsonObject Int)] none = [] := by
  refine ⟨⟨⟨"policy-1", "action_tools", 1, "sha"⟩, .empty, .ofList
    [("loyalty.credit", { tool_name := "loyalty.credit", commitment_kind := .money })]⟩, ?_,
    ⟨"loyalty.credit", by decide +kernel, Or.inr ⟨_, rfl, rfl⟩⟩, by decide +kernel,
    ⟨"repair.dispatch", by decide +kernel, Or.inl registered_repair_dispatch⟩, by decide +kernel⟩
  rfl

end operious.money_goods_commitment
