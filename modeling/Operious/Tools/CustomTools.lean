-- The tools that a tenant declares itself: when each keeps the declaration of its own entry, and
-- when no commitment to money or goods passes without a human.
import Mathlib.Data.List.Perm.Basic
import Operious.Tools.TenantActionPolicy

namespace operious.agents.tools

open operious.governance

/-! ## The order of the keys -/

/-- The interpreter of a process that walks its frozensets in another order. -/
abbrev Interpreter.walking {F : Type} [interpreter : Interpreter F]
    (order : List String → List String) : Interpreter F :=
  { interpreter with setOrder := order }

variable {F : Type} [Interpreter F]

/-- The parser in such a process. -/
def parseInOrder (order : List String → List String) (ceiling : Int) (parameters : JsonObject F)
    (binding : ActionPolicyBinding) : Except PolicyFailure (ParsedActionPolicy F) :=
  @parse_action_tools_parameters F (Interpreter.walking order) ceiling parameters binding

def customKeys (tools : JsonObject F) : List String :=
  tools.keys.filter (· ∉ registeredPolicyKeys (F := F))

def HoldsTools (parameters tools : JsonObject F) : Prop :=
  parameters.get? "tools" = some (.dict tools.items)

variable {tools : JsonObject F}

variable {parameters : JsonObject F}

omit [Interpreter F] in
theorem requireMapping_tools (h : HoldsTools parameters tools) :
    requireMapping (parameters.get? "tools") "tools" = .ok tools := by
  have hitems : Dict.ofList tools.items = tools := Dict.ext (Dict.items_ofList tools.distinct)
  have hget : parameters.get? "tools" = some (.dict tools.items) := h
  simp only [requireMapping, hget, Option.bind_some, JsonValue.mapping?, hitems]

/-- Whether the rule of a required operation is missing. -/
def incomplete (tools : JsonObject F) : Bool :=
  !(!(customKeys tools).isEmpty &&
    (tools.keys.filter (· ∈ registeredPolicyKeys (F := F))).isEmpty) &&
  !(sorted ((requiredPolicyKeys (F := F)).filter (· ∉ tools.keys))).isEmpty

/-- What the entry of a key declares, and the name it is kept under. -/
def Declares (tools : JsonObject F) (key : String) (p : String × CustomToolDeclaration) : Prop :=
  (strip key).isEmpty = false ∧ p.1 = strip key ∧
    ∃ entry, requireMapping (tools.get? key) ("tools." ++ key) = .ok entry ∧
      parse_custom_tool_declaration (strip key) entry = .ok p.2

theorem parseCustomTools_ok_iff {keys : List String}
    {custom : List (String × CustomToolDeclaration)} :
    parseCustomTools tools keys = .ok custom ↔ List.Forall₂ (Declares tools) keys custom := by
  induction keys generalizing custom with
  | nil =>
    rw [List.forall₂_nil_left_iff, parseCustomTools]
    exact ⟨fun h => (Except.ok.inj h).symm, fun h => h ▸ rfl⟩
  | cons key rest ih =>
    rw [parseCustomTools, List.forall₂_cons_left_iff]
    cases hblank : (strip key).isEmpty with
    | true =>
      simp only [if_true]
      constructor
      · rintro ⟨⟩
      · rintro ⟨p, _, ⟨hfilled, -⟩, -⟩
        rw [hblank] at hfilled
        cases hfilled
    | false =>
      simp only [Bool.false_eq_true, if_false, bind_eq_ok]
      constructor
      · rintro ⟨entry, hentry, declaration, hdeclaration, tail, htail, h⟩
        exact ⟨(strip key, declaration), tail, ⟨hblank, rfl, entry, hentry, hdeclaration⟩,
          ih.mp htail, (Except.ok.inj h).symm⟩
      · rintro ⟨⟨name, declaration⟩, tail, ⟨-, hname, entry, hentry, hdeclaration⟩, htail, rfl⟩
        cases hname
        exact ⟨entry, hentry, declaration, hdeclaration, tail, ih.mpr htail, rfl⟩

theorem parseCustomTools_walking (order : List String → List String) (tools : JsonObject F)
    (keys : List String) :
    @parseCustomTools F (Interpreter.walking order) tools keys = parseCustomTools tools keys := by
  have hdeclaration : @parse_custom_tool_declaration F (Interpreter.walking order) =
      parse_custom_tool_declaration := rfl
  induction keys with
  | nil => rfl
  | cons key rest ih => simp only [parseCustomTools, ih, hdeclaration]

variable {policy : ParsedActionPolicy F}

theorem parseInOrder_ok_iff {order : List String → List String} {ceiling : Int}
    {binding : ActionPolicyBinding} (h : HoldsTools parameters tools) :
    parseInOrder order ceiling parameters binding = .ok policy ↔
      incomplete tools = false ∧
        ∃ rules, parseRules ceiling tools registeredOperations = .ok rules ∧
        ∃ custom, List.Forall₂ (Declares tools) (order (customKeys tools)) custom ∧
          policy = ⟨binding, .ofList rules, .ofList custom⟩ := by
  have hparse : parseInOrder order ceiling parameters binding =
      if incomplete tools then
        throw (.parse ("missing required tool rule(s): " ++ String.intercalate ", "
          (sorted ((requiredPolicyKeys (F := F)).filter (· ∉ tools.keys)))))
      else do
        let rules ← parseRules ceiling tools registeredOperations
        let custom ← parseCustomTools tools (order (customKeys tools))
        return ⟨binding, .ofList rules, .ofList custom⟩ := by
    unfold parseInOrder parse_action_tools_parameters
    rw [requireMapping_tools h]
    simp only [parseCustomTools_walking]
    rfl
  rw [hparse]
  cases incomplete tools with
  | true =>
    simp only [if_true]
    constructor
    · rintro ⟨⟩
    · rintro ⟨⟨⟩, -⟩
  | false =>
    simp only [Bool.false_eq_true, if_false, bind_eq_ok, true_and, parseCustomTools_ok_iff]
    constructor
    · rintro ⟨rules, hrules, custom, hcustom, hpolicy⟩
      exact ⟨rules, hrules, custom, hcustom, (Except.ok.inj hpolicy).symm⟩
    · rintro ⟨rules, hrules, custom, hcustom, rfl⟩
      exact ⟨rules, hrules, custom, hcustom, rfl⟩

/-! ## Another order of the same tools -/

variable {p : String × CustomToolDeclaration}

variable {key : String}

section

variable {tools tools' : JsonObject F}

omit [Interpreter F] in
theorem get?_perm (h : tools'.items.Perm tools.items) (key : String) :
    tools'.get? key = tools.get? key :=
  Dict.find_perm h tools'.distinct key

theorem customKeys_perm (h : tools'.items.Perm tools.items) :
    (customKeys tools').Perm (customKeys tools) :=
  (h.map Prod.fst).filter _

theorem incomplete_perm (h : tools'.items.Perm tools.items) :
    incomplete tools' = incomplete tools := by
  have hkeys : tools'.keys.Perm tools.keys := h.map Prod.fst
  simp only [incomplete, (customKeys_perm h).isEmpty_eq, (hkeys.filter _).isEmpty_eq,
    hkeys.mem_iff]

theorem parseRules_perm (h : tools'.items.Perm tools.items) (ceiling : Int)
    (operations : List (RegisteredOperation F)) :
    parseRules ceiling tools' operations = parseRules ceiling tools operations := by
  induction operations with
  | nil => rfl
  | cons operation rest ih => simp only [parseRules, get?_perm h, ih]

theorem Declares.perm (h : tools'.items.Perm tools.items) (hp : Declares tools key p) :
    Declares tools' key p := by
  rw [Declares, get?_perm h]
  exact hp

end

/-! ## The names that declarations are kept under -/

section

variable {tools : JsonObject F} {keys : List String}
  {custom : List (String × CustomToolDeclaration)}

theorem Declares.tool_name (h : Declares tools key p) : p.2.tool_name = strip key := by
  obtain ⟨-, -, entry, -, hdeclaration⟩ := h
  rw [parse_custom_tool_declaration, bind_eq_ok] at hdeclaration
  obtain ⟨_, -, hdeclaration⟩ := hdeclaration
  obtain ⟨_, -, hdeclaration⟩ := bind_eq_ok.mp hdeclaration
  obtain ⟨_, -, hdeclaration⟩ := bind_eq_ok.mp hdeclaration
  rw [← Except.ok.inj hdeclaration]

theorem names_eq (h : List.Forall₂ (Declares tools) keys custom) :
    custom.map Prod.fst = keys.map strip := by
  induction h with
  | nil => rfl
  | cons hp _ ih => rw [List.map_cons, List.map_cons, ih, hp.2.1]

theorem declares_of_mem (h : List.Forall₂ (Declares tools) keys custom) (hp : p ∈ custom) :
    ∃ key ∈ keys, Declares tools key p := by
  induction h with
  | nil => cases hp
  | @cons key q _ _ hq _ ih =>
    rcases List.mem_cons.mp hp with rfl | hp
    · exact ⟨key, List.mem_cons_self, hq⟩
    · obtain ⟨key', hmem, hp⟩ := ih hp
      exact ⟨key', List.mem_cons_of_mem _ hmem, hp⟩

theorem mem_of_key (h : List.Forall₂ (Declares tools) keys custom) (hkey : key ∈ keys) :
    ∃ p ∈ custom, Declares tools key p := by
  induction h with
  | nil => cases hkey
  | @cons _ q _ _ hq _ ih =>
    rcases List.mem_cons.mp hkey with rfl | hkey
    · exact ⟨q, List.mem_cons_self, hq⟩
    · obtain ⟨p, hmem, hp⟩ := ih hkey
      exact ⟨p, List.mem_cons_of_mem _ hmem, hp⟩

end

/-! ## When the parsed policy is the one that was written -/

/-- Equal as Python compares them: dictionaries by what they hold under each key. -/
def Same (policy policy' : ParsedActionPolicy F) : Prop :=
  policy.binding = policy'.binding ∧ (∀ id, policy.rules.get? id = policy'.rules.get? id) ∧
    ∀ name, policy.custom_tools.get? name = policy'.custom_tools.get? name

structure Faithful (ceiling : Int) (binding : ActionPolicyBinding) (tools : JsonObject F)
    (policy : ParsedActionPolicy F) : Prop where
  /-- Every order of the object and of the sets gives the same policy. -/
  any_order : ∀ (order : List String → List String) (tools' parameters' : JsonObject F),
    (∀ keys, (order keys).Perm keys) → tools'.items.Perm tools.items →
      HoldsTools parameters' tools' →
      ∃ policy', parseInOrder order ceiling parameters' binding = .ok policy' ∧ Same policy policy'
  /-- Every custom key has a declaration of its own, parsed from its own entry. -/
  represented : ∃ kept : String → String,
    (∀ key ∈ customKeys tools, ∀ key' ∈ customKeys tools, kept key = kept key' → key = key') ∧
    ∀ key ∈ customKeys tools, ∃ entry declaration,
      requireMapping (tools.get? key) ("tools." ++ key) = .ok entry ∧
      parse_custom_tool_declaration (strip key) entry = .ok declaration ∧
      policy.custom_tools.get? (kept key) = some declaration
  /-- No declaration stands under the name of a registered operation. -/
  unshadowed : ∀ name, policy.custom_tools.get? name ≠ none →
    (registeredByTool name : Option (RegisteredOperation F)) = none

/-- The custom keys stay apart without the white space around them, from each other and from the
registered operations. -/
def KeysApart (tools : JsonObject F) : Prop :=
  ((customKeys tools).map strip).Nodup ∧ ∀ key ∈ customKeys tools,
    (registeredByTool (strip key) : Option (RegisteredOperation F)) = none

/-- An accepted policy is the one that was written if and only if its custom keys stay apart
without the white space around them. -/
theorem parsed_policy_faithful_iff {order : List String → List String}
    (horder : ∀ keys, (order keys).Perm keys) {ceiling : Int} {parameters tools : JsonObject F}
    {binding : ActionPolicyBinding} {policy : ParsedActionPolicy F}
    (htools : HoldsTools parameters tools)
    (h : parseInOrder order ceiling parameters binding = .ok policy) :
    Faithful ceiling binding tools policy ↔ KeysApart tools := by
  obtain ⟨hcomplete, rules, hrules, custom, hcustom, rfl⟩ := (parseInOrder_ok_iff htools).mp h
  have hmem : ∀ key, key ∈ customKeys tools ↔ key ∈ order (customKeys tools) :=
    fun key => (horder _).mem_iff.symm
  constructor
  · rintro ⟨-, ⟨kept, hinj, hkept⟩, hunshadowed⟩
    -- A declaration carries the name that it is kept under.
    have hstrip : ∀ key ∈ customKeys tools, kept key = strip key := by
      intro key hkey
      obtain ⟨entry, declaration, hentry, hparsed, hget⟩ := hkept key hkey
      obtain ⟨key', -, hdeclares⟩ := declares_of_mem hcustom (Dict.mem_of_get?_ofList hget)
      obtain ⟨q, -, hq⟩ := mem_of_key hcustom ((hmem key).mp hkey)
      obtain ⟨-, -, entry', hentry', hparsed'⟩ := id hq
      rw [hentry'] at hentry
      cases hentry
      rw [hparsed'] at hparsed
      have hname : kept key = strip key' := hdeclares.2.1
      rw [hname, ← hdeclares.tool_name, ← Except.ok.inj hparsed, hq.tool_name]
    constructor
    · refine List.Nodup.map_on ?_ (tools.distinct.filter _)
      intro key hkey key' hkey' heq
      refine hinj key hkey key' hkey' ?_
      rw [hstrip key hkey, hstrip key' hkey', heq]
    · intro key hkey
      obtain ⟨_, _, -, -, hget⟩ := hkept key hkey
      rw [← hstrip key hkey]
      exact hunshadowed _ (by rw [hget]; exact Option.some_ne_none _)
  · rintro ⟨hapart, hregistered⟩
    have hnames : (custom.map Prod.fst).Nodup := by
      rw [names_eq hcustom]
      exact ((horder _).map strip).nodup_iff.mpr hapart
    refine ⟨?_, ⟨strip, ?_, ?_⟩, ?_⟩
    · intro order' tools' parameters' horder' hperm htools'
      have hkeys : (order' (customKeys tools')).Perm (order (customKeys tools)) :=
        (horder' _).trans ((customKeys_perm hperm).trans (horder _).symm)
      obtain ⟨custom', hcustom', hsame⟩ := List.perm_comp_forall₂ hkeys hcustom
      refine ⟨⟨binding, .ofList rules, .ofList custom'⟩, ?_, rfl, fun _ => rfl, fun name => ?_⟩
      · refine (parseInOrder_ok_iff htools').mpr ⟨?_, rules, ?_, custom', ?_, rfl⟩
        · rw [incomplete_perm hperm, hcomplete]
        · rw [parseRules_perm hperm, hrules]
        · exact hcustom'.imp fun _ _ => Declares.perm hperm
      · have hnames' : (custom'.map Prod.fst).Nodup := (hsame.map _).nodup_iff.mpr hnames
        rw [Dict.get?_ofList hnames, Dict.get?_ofList hnames',
          Dict.find_perm hsame hnames']
    · intro key hkey key' hkey' heq
      exact List.inj_on_of_nodup_map hapart hkey hkey' heq
    · intro key hkey
      obtain ⟨⟨name, declaration⟩, hp, -, hname, entry, hentry, hparsed⟩ :=
        mem_of_key hcustom ((hmem key).mp hkey)
      cases hname
      refine ⟨entry, declaration, hentry, hparsed, ?_⟩
      rw [Dict.get?_ofList hnames]
      exact Dict.find_of_mem hnames hp
    · intro name hget
      obtain ⟨declaration, hdeclaration⟩ := Option.ne_none_iff_exists'.mp hget
      obtain ⟨key, hkey, hdeclares⟩ :=
        declares_of_mem hcustom (Dict.mem_of_get?_ofList hdeclaration)
      rw [show name = strip key from hdeclares.2.1]
      exact hregistered key ((hmem key).mpr hkey)

def sampleBinding : ActionPolicyBinding := ⟨"p1", "action_tools", 1, "0"⟩

def kindEntry (kind : String) : JsonValue Int := .dict [("commitment_kind", .str kind)]

def sampleParameters (tools : JsonObject Int) : JsonObject Int :=
  Dict.ofList [("tools", .dict tools.items)]

def twoTools : JsonObject Int :=
  Dict.ofList [("note", kindEntry "none"), (" credit", kindEntry "money")]

/-- One name twice, with white space before the second. -/
def oneToolTwice : JsonObject Int :=
  Dict.ofList [("note", kindEntry "none"), (" note", kindEntry "money")]

theorem two_tools_are_parsed_faithfully :
    ∃ policy, parseInOrder id 10000 (sampleParameters twoTools) sampleBinding = .ok policy ∧
      Faithful 10000 sampleBinding twoTools policy := by
  have hok : (parseInOrder id 10000 (sampleParameters twoTools) sampleBinding).isOk = true := by
    decide +kernel
  have hapart : KeysApart twoTools := by
    refine ⟨by decide +kernel, fun key hkey => ?_⟩
    have hnone : ∀ key ∈ customKeys twoTools,
        (registeredByTool (strip key) : Option (RegisteredOperation Int)).isNone = true := by
      decide +kernel
    exact Option.isNone_iff_eq_none.mp (hnone key hkey)
  cases hpolicy : parseInOrder id 10000 (sampleParameters twoTools) sampleBinding with
  | error failure =>
    rw [hpolicy] at hok
    cases hok
  | ok policy =>
    have htools : HoldsTools (sampleParameters twoTools) twoTools := rfl
    exact ⟨policy, rfl,
      (parsed_policy_faithful_iff (fun _ => List.Perm.refl _) htools hpolicy).mpr hapart⟩

/-- The kind that a parsed tool ends up with. -/
def kindOf (parsed : Except PolicyFailure (ParsedActionPolicy Int)) (name : String) :
    Option CommitmentKind :=
  (parsed.toOption.bind (·.custom_tools.get? name)).map (·.commitment_kind)

/-- The tool commits to money or to nothing, as the set of keys happens to be walked. -/
theorem one_tool_twice_depends_on_the_order :
    ∃ policy, parseInOrder id 10000 (sampleParameters oneToolTwice) sampleBinding = .ok policy ∧
      ¬ Faithful 10000 sampleBinding oneToolTwice policy := by
  have hforward : kindOf
      (parseInOrder id 10000 (sampleParameters oneToolTwice) sampleBinding) "note" =
        some .money := by
    decide +kernel
  have hbackward : kindOf
      (parseInOrder List.reverse 10000 (sampleParameters oneToolTwice) sampleBinding) "note" =
        some .none := by
    decide +kernel
  cases hpolicy : parseInOrder id 10000 (sampleParameters oneToolTwice) sampleBinding with
  | error failure =>
    rw [hpolicy] at hforward
    cases hforward
  | ok policy =>
    refine ⟨policy, rfl, fun hfaithful => ?_⟩
    have htools : HoldsTools (sampleParameters oneToolTwice) oneToolTwice := rfl
    obtain ⟨policy', hpolicy', -, -, hsame⟩ := hfaithful.any_order List.reverse oneToolTwice
      (sampleParameters oneToolTwice) List.reverse_perm (List.Perm.refl _) htools
    rw [hpolicy] at hforward
    rw [hpolicy'] at hbackward
    simp only [kindOf, Except.toOption, Option.bind_some, hsame] at hforward hbackward
    rw [hforward] at hbackward
    cases hbackward

/-! ## When a commitment to money or goods passes without a human -/

/-- `str.lower` keeps a text of ASCII without capitals. -/
class LowerAscii (F : Type) [Interpreter F] : Prop where
  lower_ascii : ∀ s : String, (∀ c ∈ s.toList, c.toNat < 128 ∧ c.isUpper = false) →
    Interpreter.lower F s = s

instance : LowerAscii Int where
  lower_ascii s h := by
    have hmap : s.toList.map Char.toLower = s.toList.map id := by
      refine List.map_congr_left fun c hc => ?_
      exact dif_neg (of_decide_eq_false (h c hc).2)
    simp only [Interpreter.lower]
    rw [ascii.chars_eq_toList, hmap, List.map_id, String.ofList_toList]

theorem lower_kind [LowerAscii F] (kind : CommitmentKind) :
    Interpreter.lower F kind.value = kind.value := by
  have hall : (ascii.chars kind.value).all (fun c => c.toNat < 128 && !c.isUpper) = true := by
    cases kind <;> rfl
  refine LowerAscii.lower_ascii kind.value fun c hc => ?_
  rw [← ascii.chars_eq_toList] at hc
  simpa using List.all_eq_true.mp hall c hc

/-- The metadata declares such a commitment, as an operation is resolved from it. -/
def DeclaresCommitment (metadata : JsonObject F) : Prop :=
  ∃ kind, (textAt metadata commitmentKindKey).bind CommitmentKind.ofText = some kind ∧
    isCommitting kind = true

/-- The metadata carries a positive amount, as `_metadata_int` reads it. -/
def CarriesAmount (metadata : JsonObject F) : Prop :=
  ∃ cents, intAt metadata "refund_amount_cents" = some cents ∧ 0 < cents

def SpeaksOfMoneyOrGoods (declaration : CustomToolDeclaration) (metadata : JsonObject F) : Prop :=
  isCommitting declaration.commitment_kind = true ∨ DeclaresCommitment metadata ∨
    CarriesAmount metadata

/-- Where money or goods are spoken of, a custom tool is not allowed unless the tenant let it run by
itself. -/
def FailsClosed (policy : ParsedActionPolicy F) (tool_name : String) (metadata : JsonObject F) :
    Prop :=
  ∀ declaration, policy.custom_tools.get? tool_name = some declaration →
    declaration.execution_policy ≠ some .auto_execute →
    SpeaksOfMoneyOrGoods declaration metadata →
    (evaluate_custom_tool (some tool_name) policy metadata).decision ≠ .allow

/-- The kind of the metadata in any case of letters. -/
def KindSign (metadata : JsonObject F) : Prop :=
  ∃ raw, metadata.get? commitmentKindKey = some (.str raw) ∧
    Interpreter.lower F (strip raw) ∈ ["money", "goods", "service_commitment"]

def AmountSign (metadata : JsonObject F) : Prop :=
  (∃ amount, metadata.get? "refund_amount_cents" = some (.int amount) ∧ 0 < amount) ∨
    metadata.get? "refund_amount_cents" = some (.bool true)

/-- The amount is a text that is read as a positive number. -/
def AmountAsText (metadata : JsonObject F) : Prop :=
  ∃ text cents, metadata.get? "refund_amount_cents" = some (.str text) ∧
    parseInt text = some cents ∧ 0 < cents

def AllowedAlone (declaration : CustomToolDeclaration) : Prop :=
  declaration.execution_policy = none ∧ isCommitting declaration.commitment_kind = false ∧
    declaration.decision = .allow

variable {metadata : JsonObject F}

theorem conflict_eq_none_iff {kind : CommitmentKind} (hkind : isCommitting kind = false) :
    metadata_money_goods_conflict metadata kind = none ↔
      ¬ KindSign metadata ∧ ¬ AmountSign metadata := by
  simp only [metadata_money_goods_conflict, hkind, Bool.false_eq_true, if_false]
  by_cases hsign : KindSign metadata
  · obtain ⟨raw, hget, hmem⟩ := id hsign
    rw [commitmentKindKey] at hget
    simp only [hget, hmem, decide_true, if_true, hsign, not_true, false_and, reduceCtorEq]
  · simp only [hsign, not_false_eq_true, true_and]
    rw [KindSign, commitmentKindKey] at hsign
    split
    · rename_i conflict hkindSignal
      split at hkindSignal
      · rename_i raw hget
        rw [if_neg (by simpa using fun hmem => hsign ⟨raw, hget, hmem⟩)] at hkindSignal
        cases hkindSignal
      · cases hkindSignal
    · split
      · rename_i hamount
        simp [AmountSign, hamount]
      · rename_i hamount
        simp [AmountSign, hamount]
      · rename_i hint hbool
        refine ⟨fun _ => ?_, fun _ => rfl⟩
        rintro (⟨amount, hget, -⟩ | hget)
        · exact hint amount hget
        · exact hbool hget

theorem evaluate_custom_tool_allow_iff {tool_name : String} {declaration : CustomToolDeclaration}
    (hget : policy.custom_tools.get? tool_name = some declaration)
    (hexecution : declaration.execution_policy ≠ some .auto_execute) :
    (evaluate_custom_tool (some tool_name) policy metadata).decision = .allow ↔
      AllowedAlone declaration ∧ ¬ KindSign metadata ∧ ¬ AmountSign metadata := by
  cases hpolicy : declaration.execution_policy with
  | some execution =>
    cases execution with
    | auto_execute => exact absurd hpolicy hexecution
    | operious_approval =>
      simp [evaluate_custom_tool, hget, hpolicy, require_approval, AllowedAlone]
  | none =>
    cases hkind : isCommitting declaration.commitment_kind with
    | true => simp [evaluate_custom_tool, hget, hpolicy, hkind, require_approval, AllowedAlone]
    | false =>
      rw [← conflict_eq_none_iff hkind]
      cases hconflict : metadata_money_goods_conflict metadata declaration.commitment_kind with
      | some conflict =>
        simp [evaluate_custom_tool, hget, hpolicy, hkind, hconflict, require_approval]
      | none =>
        cases hdecision : declaration.decision <;>
          simp [evaluate_custom_tool, hget, hpolicy, hkind, hconflict, hdecision, allow, deny,
            require_approval, AllowedAlone]

theorem kindSign_of_declares [LowerAscii F] (h : DeclaresCommitment metadata) :
    KindSign metadata := by
  obtain ⟨kind, hread, hcommitting⟩ := h
  obtain ⟨text, htext, hkind⟩ := Option.bind_eq_some_iff.mp hread
  obtain ⟨value, hget, hvalue⟩ := Option.bind_eq_some_iff.mp htext
  have hname : kind.value = text := by
    have hfound := List.find?_some hkind
    exact of_decide_eq_true hfound
  cases value with
  | str raw =>
    rw [JsonValue.text] at hvalue
    split at hvalue
    · cases hvalue
    · refine ⟨raw, hget, ?_⟩
      rw [Option.some.inj hvalue, ← hname, lower_kind]
      cases kind with
      | none => cases hcommitting
      | record_update => cases hcommitting
      | money => decide
      | goods => decide
      | service_commitment => decide
  | _ => cases hvalue

omit [Interpreter F] in
theorem carriesAmount_cases (h : CarriesAmount metadata) :
    AmountSign metadata ∨ AmountAsText metadata := by
  obtain ⟨cents, hread, hpos⟩ := h
  obtain ⟨value, hget, hcents⟩ := Option.bind_eq_some_iff.mp hread
  cases value with
  | int amount =>
    cases hcents
    exact .inl (.inl ⟨cents, hget, hpos⟩)
  | str text => exact .inr ⟨text, cents, hget, hcents, hpos⟩
  | _ => cases hcents

/-- A custom tool fails closed unless its declaration alone would allow it and all that speaks of
money is an amount written as a text. -/
theorem custom_tool_fails_closed_iff [LowerAscii F] (policy : ParsedActionPolicy F)
    (tool_name : String) (metadata : JsonObject F) :
    FailsClosed policy tool_name metadata ↔
      ∀ declaration, policy.custom_tools.get? tool_name = some declaration →
        AllowedAlone declaration → AmountAsText metadata → KindSign metadata := by
  constructor
  · intro h declaration hget halone htext
    by_contra hkind
    obtain ⟨text, cents, hamount, hcents, hpos⟩ := id htext
    have hauto : declaration.execution_policy ≠ some .auto_execute := by
      rw [halone.1]
      exact Option.some_ne_none _ |>.symm
    refine h declaration hget hauto (.inr (.inr ⟨cents, ?_, hpos⟩)) ?_
    · rw [intAt, hamount]
      exact hcents
    · refine (evaluate_custom_tool_allow_iff hget hauto).mpr ⟨halone, hkind, ?_⟩
      rintro (⟨amount, hint, -⟩ | hbool)
      · rw [hamount] at hint
        cases hint
      · rw [hamount] at hbool
        cases hbool
  · intro h declaration hget hauto hspeaks hallow
    obtain ⟨halone, hkind, hamount⟩ := (evaluate_custom_tool_allow_iff hget hauto).mp hallow
    rcases hspeaks with hcommitting | hdeclares | hcarries
    · rw [halone.2.1] at hcommitting
      cases hcommitting
    · exact hkind (kindSign_of_declares hdeclares)
    · rcases carriesAmount_cases hcarries with hsign | htext
      · exact hamount hsign
      · exact hkind (h declaration hget halone htext)

def allowedTool : ParsedActionPolicy Int where
  binding := sampleBinding
  rules := .empty
  custom_tools := Dict.ofList [("note",
    { tool_name := "note", commitment_kind := .none, decision := .allow })]

theorem a_whole_amount_fails_closed :
    FailsClosed allowedTool "note" (Dict.ofList [("refund_amount_cents", .int 5000)]) := by
  refine (custom_tool_fails_closed_iff allowedTool "note" _).mpr ?_
  rintro declaration - - ⟨text, cents, hamount, -⟩
  cases hamount

/-- The same amount as a text is not seen, and the tool runs. -/
theorem an_amount_as_text_is_allowed :
    ¬ FailsClosed allowedTool "note" (Dict.ofList [("refund_amount_cents", .str "5000")]) := by
  intro hclosed
  refine hclosed _ rfl (by decide) (.inr (.inr ⟨5000, by decide +kernel, by decide⟩)) ?_
  decide +kernel

end operious.agents.tools
