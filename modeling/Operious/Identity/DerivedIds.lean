-- The ids that sessions get from what names them: which of them no other session can get too.
-- A seed joins its fields with bars, so a bar within a field lets another key read the same seed.
import Operious.Execution.Records
import Operious.Identity.RuntimeIds
import Operious.Session.Records

namespace operious.identity

open operious.session

variable {Uuid : Type} [Stdlib Uuid]

/-! ## The ids of a dispatch -/

def dispatch_session_id (tenant_id external_handle : String) : Except SessionException Uuid :=
  derive_session_id SessionScope.tenant.value (some tenant_id) none external_handle

def reopenedHandle (external_handle : String) (ingress_id : Uuid) : String :=
  external_handle ++ "|reopened|" ++ Stdlib.str ingress_id

def reopened_dispatch_session_id (tenant_id external_handle : String) (ingress_id : Uuid) :
    Except SessionException Uuid :=
  derive_session_id SessionScope.tenant.value (some tenant_id) none
    (reopenedHandle external_handle ingress_id)

/-! ## Keys -/

/-- No NUL character: those of the sentinel stand in no identifier. -/
def Plain (id : Option String) : Prop := ∀ s ∈ id, '\x00' ∉ s.toList

@[ext] structure SessionKey (Uuid : Type) where
  scope : SessionScope
  tenant_id : Option String
  principal_id : Option String
  external_handle : String
  reopened : Option Uuid := none
  handle_nonempty : external_handle ≠ ""
  tenant_plain : Plain tenant_id
  principal_plain : Plain principal_id
  dispatched : reopened ≠ none → scope = .tenant ∧ tenant_id ≠ none ∧ principal_id = none

namespace SessionKey

def id (key : SessionKey Uuid) : Except SessionException Uuid :=
  match key.reopened with
  | none => derive_session_id key.scope.value key.tenant_id key.principal_id key.external_handle
  | some ingress_id =>
    reopened_dispatch_session_id (key.tenant_id.getD "") key.external_handle ingress_id

/-- The last field of the seed. -/
def handle (key : SessionKey Uuid) : String :=
  match key.reopened with
  | none => key.external_handle
  | some ingress_id => reopenedHandle key.external_handle ingress_id

/-- The seed after the scope. -/
def fields (key : SessionKey Uuid) : List Char :=
  (project_optional_str key.tenant_id).toList ++ '|' ::
    ((project_optional_str key.principal_id).toList ++ '|' :: key.handle.toList)

/-- A handle that reads like that of a reopened session. -/
def LooksReopened (Uuid : Type) [Stdlib Uuid] (external_handle : String) : Prop :=
  ∃ (h : String) (ingress_id : Uuid), h ≠ "" ∧ external_handle = reopenedHandle h ingress_id

/-- The handle has a bar before which a principal, or a missing one, could end. -/
def Cuttable (key : SessionKey Uuid) : Prop :=
  ∃ before rest, key.external_handle.toList = before ++ '|' :: rest ∧ rest ≠ [] ∧
    ('\x00' ∉ before ∨ key.tenant_id ≠ none ∧ before = (project_optional_str none).toList)

/-- The session is a fresh one, no bar stands in its tenant or its principal, and none in the handle
lets another key begin or end there. -/
structure ReadsOneWay (key : SessionKey Uuid) : Prop where
  fresh : key.reopened = none
  tenant : ∀ t ∈ key.tenant_id, '|' ∉ t.toList
  principal : ∀ p ∈ key.principal_id, '|' ∉ p.toList
  cut : key.principal_id ≠ none → ¬ Cuttable key
  handle : key.scope = .tenant → key.tenant_id ≠ none → key.principal_id = none →
    ¬ LooksReopened Uuid key.external_handle

end SessionKey

/-! ## Seeds -/

theorem cut_either {a b x y : List Char} (h : a ++ '|' :: x = b ++ '|' :: y) :
    (a = b ∧ x = y) ∨ (∃ m, b = a ++ '|' :: m ∧ x = m ++ '|' :: y) ∨
      (∃ m, a = b ++ '|' :: m ∧ y = m ++ '|' :: x) := by
  rcases List.append_eq_append_iff.mp h with ⟨m, hb, hx⟩ | ⟨m, ha, hy⟩
  · cases m with
    | nil => exact Or.inl ⟨by simpa using hb.symm, by simpa using hx⟩
    | cons c m =>
      simp only [List.cons_append, List.cons.injEq] at hx
      obtain ⟨rfl, hx⟩ := hx
      exact Or.inr (Or.inl ⟨m, hb, hx⟩)
  · cases m with
    | nil => exact Or.inl ⟨by simpa using ha, by simpa using hy.symm⟩
    | cons c m =>
      simp only [List.cons_append, List.cons.injEq] at hy
      obtain ⟨rfl, hy⟩ := hy
      exact Or.inr (Or.inr ⟨m, ha, hy⟩)

theorem sentinel_no_bar : '|' ∉ (project_optional_str none).toList := by decide

theorem nul_mem_sentinel : '\x00' ∈ (project_optional_str none).toList := by decide

theorem exists_of_no_nul {id : Option String} (h : '\x00' ∉ (project_optional_str id).toList) :
    id ≠ none := by
  rintro rfl
  exact h nul_mem_sentinel

theorem no_nul_of_bar {id : Option String} (hplain : Plain id)
    (h : '|' ∈ (project_optional_str id).toList) : '\x00' ∉ (project_optional_str id).toList := by
  cases id with
  | none => exact absurd h sentinel_no_bar
  | some s => exact hplain s rfl

theorem project_no_bar {id : Option String} (h : ∀ s ∈ id, '|' ∉ s.toList) :
    '|' ∉ (project_optional_str id).toList := by
  cases id with
  | none => exact sentinel_no_bar
  | some s => exact h s rfl

theorem project_inj {id id' : Option String} (h : Plain id) (h' : Plain id')
    (heq : (project_optional_str id).toList = (project_optional_str id').toList) : id = id' := by
  cases id with
  | none =>
    cases id' with
    | none => rfl
    | some s => exact absurd (heq ▸ nul_mem_sentinel) (h' s rfl)
  | some s =>
    cases id' with
    | none => exact absurd (heq.symm ▸ nul_mem_sentinel) (h s rfl)
    | some t => exact congrArg some (String.toList_injective heq)

theorem scope_no_bar (scope : SessionScope) : '|' ∉ scope.value.toList := by
  cases scope <;> decide

theorem scope_value_inj {scope scope' : SessionScope} (h : scope.value = scope'.value) :
    scope = scope' := by
  cases scope <;> cases scope' <;> first | rfl | (simp [SessionScope.value] at h)

theorem scope_value_ne_empty (scope : SessionScope) : scope.value ≠ "" := by
  cases scope <;> decide

theorem toList_ne_nil {s : String} (h : s ≠ "") : s.toList ≠ [] := by
  simpa using h

theorem reopenedHandle_ne_empty (h : String) (ingress_id : Uuid) :
    reopenedHandle h ingress_id ≠ "" := by
  intro hnil
  have hl := congrArg String.toList hnil
  simp [reopenedHandle] at hl

namespace SessionKey

theorem handle_ne_empty (key : SessionKey Uuid) : key.handle ≠ "" := by
  unfold handle
  split
  · exact key.handle_nonempty
  · exact reopenedHandle_ne_empty _ _

theorem id_eq (key : SessionKey Uuid) : key.id =
    .ok (Stdlib.uuid5 SESSION_NAMESPACE (String.ofList (key.scope.value.toList ++ '|' :: key.fields))) := by
  have hseed : ∀ h : String, (key.scope.value ++ "|" ++ project_optional_str key.tenant_id ++ "|" ++
      project_optional_str key.principal_id ++ "|" ++ h) =
      String.ofList (key.scope.value.toList ++ '|' :: ((project_optional_str key.tenant_id).toList ++
        '|' :: ((project_optional_str key.principal_id).toList ++ '|' :: h.toList))) := by
    intro h
    apply String.toList_injective
    simp
  unfold id fields handle
  cases hr : key.reopened with
  | none =>
    simp only
    rw [derive_session_id, if_neg (scope_value_ne_empty _), if_neg key.handle_nonempty, hseed]
  | some ingress_id =>
    obtain ⟨hscope, htenant, hprincipal⟩ := key.dispatched (by simp [hr])
    obtain ⟨t, ht⟩ := Option.ne_none_iff_exists'.mp htenant
    have hs := hseed (reopenedHandle key.external_handle ingress_id)
    rw [hscope, ht, hprincipal] at hs
    simp only [reopened_dispatch_session_id, hscope, ht, hprincipal, Option.getD_some]
    rw [derive_session_id, if_neg (by decide), if_neg (reopenedHandle_ne_empty _ _), hs]

theorem id_eq_id_iff [LawfulStdlib Uuid] (x y : SessionKey Uuid) :
    x.id = y.id ↔ x.scope = y.scope ∧ x.fields = y.fields := by
  rw [id_eq, id_eq]
  constructor
  · intro h
    have hseed := String.ofList_injective (LawfulStdlib.uuid5_inj _ (Except.ok.inj h))
    obtain ⟨hscope, hfields⟩ := cut_at_bar (scope_no_bar _) (scope_no_bar _) hseed
    exact ⟨scope_value_inj (String.toList_injective hscope), hfields⟩
  · rintro ⟨hscope, hfields⟩
    rw [hscope, hfields]

theorem handle_of_fresh {key : SessionKey Uuid} (h : key.reopened = none) :
    key.handle = key.external_handle := by
  simp [handle, h]

theorem eq_of_readsOneWay {x y : SessionKey Uuid} (hx : x.ReadsOneWay)
    (hscope : x.scope = y.scope) (hfields : x.fields = y.fields) : y = x := by
  have hrest : y.handle.toList ≠ [] := toList_ne_nil y.handle_ne_empty
  have hhandle := handle_of_fresh hx.fresh
  have htbar := project_no_bar hx.tenant
  have hpbar := project_no_bar hx.principal
  unfold fields at hfields
  rw [hhandle] at hfields
  rcases cut_either hfields with ⟨htenant, hfields⟩ | ⟨m, htenant, hfields⟩ | ⟨m, htenant, -⟩
  · have htenant := project_inj x.tenant_plain y.tenant_plain htenant
    rcases cut_either hfields with ⟨hprincipal, hh⟩ | ⟨k, hprincipal, hh⟩ | ⟨k, hprincipal, -⟩
    · have hprincipal := project_inj x.principal_plain y.principal_plain hprincipal
      have hh := String.toList_injective hh
      cases hr : y.reopened with
      | none =>
        rw [handle_of_fresh hr] at hh
        exact SessionKey.ext hscope.symm htenant.symm hprincipal.symm hh.symm
          (hr.trans hx.fresh.symm)
      | some ingress_id =>
        -- the fresh key would look like the reopened one
        obtain ⟨hs, ht, hp⟩ := y.dispatched (by simp [hr])
        refine absurd ⟨y.external_handle, ingress_id, y.handle_nonempty, ?_⟩
          (hx.handle (hscope.trans hs) (htenant ▸ ht) (hprincipal.trans hp))
        rw [hh]
        simp [handle, hr]
    · -- the principal of `y` goes on into the handle
      have hnul := no_nul_of_bar y.principal_plain (by rw [hprincipal]; simp)
      rw [hprincipal] at hnul
      simp only [List.mem_append, List.mem_cons, not_or] at hnul
      exact absurd ⟨k, y.handle.toList, hh, hrest, Or.inl hnul.2.2⟩
        (hx.cut (exists_of_no_nul hnul.1))
    · exact absurd (by rw [hprincipal]; simp) hpbar
  · -- the tenant of `y` goes on into the principal
    have hnul := no_nul_of_bar y.tenant_plain (by rw [htenant]; simp)
    rw [htenant] at hnul
    simp only [List.mem_append, List.mem_cons, not_or] at hnul
    have ht : x.tenant_id ≠ none := exists_of_no_nul hnul.1
    rcases cut_either hfields with ⟨hprincipal, hh⟩ | ⟨k, hprincipal, hh⟩ | ⟨k, hprincipal, -⟩
    · refine absurd ⟨_, _, hh, hrest, ?_⟩ (hx.cut (exists_of_no_nul (hprincipal ▸ hnul.2.2)))
      cases hp : y.principal_id with
      | none => exact Or.inr ⟨ht, rfl⟩
      | some p => exact Or.inl (y.principal_plain p hp)
    · rw [hprincipal] at hnul
      simp only [List.mem_append, List.mem_cons, not_or] at hnul
      exact absurd ⟨k, _, hh, by simp, Or.inl hnul.2.2.2.2⟩
        (hx.cut (exists_of_no_nul hnul.2.2.1))
    · exact absurd (by rw [hprincipal]; simp) hpbar
  · exact absurd (by rw [htenant]; simp) htbar

def ofFields (scope : SessionScope) (tenant_id principal_id : Option String)
    (external_handle : List Char) (hne : external_handle ≠ []) (ht : Plain tenant_id)
    (hp : Plain principal_id) : SessionKey Uuid where
  scope
  tenant_id
  principal_id
  external_handle := String.ofList external_handle
  handle_nonempty h := hne (by simpa using congrArg String.toList h)
  tenant_plain := ht
  principal_plain := hp
  dispatched h := absurd rfl h

theorem fields_ofFields {scope : SessionScope} {tenant_id principal_id : Option String}
    {external_handle : List Char} (hne : external_handle ≠ []) (ht : Plain tenant_id)
    (hp : Plain principal_id) :
    (ofFields scope tenant_id principal_id external_handle hne ht hp : SessionKey Uuid).fields =
      (project_optional_str tenant_id).toList ++ '|' ::
        ((project_optional_str principal_id).toList ++ '|' :: external_handle) := by
  simp [fields, handle, ofFields]

theorem plain_ofList {cs : List Char} (h : '\x00' ∉ cs) : Plain (some (String.ofList cs)) := by
  intro s hs
  rw [← Option.some.inj hs]
  simpa using h

theorem plain_none : Plain none := by
  intro s hs
  cases hs

theorem readsOneWay_of_alone {x : SessionKey Uuid}
    (h : ∀ y : SessionKey Uuid, x.scope = y.scope → x.fields = y.fields → y = x) :
    x.ReadsOneWay := by
  have hfresh : x.reopened = none := by
    by_contra hr
    -- a customer may choose the handle of the reopened session
    have hy := h (ofFields x.scope x.tenant_id x.principal_id x.handle.toList
      (toList_ne_nil x.handle_ne_empty) x.tenant_plain x.principal_plain) rfl
      (fields_ofFields _ _ _).symm
    exact hr (congrArg reopened hy).symm
  have hhandle := handle_of_fresh hfresh
  have hne := toList_ne_nil x.handle_nonempty
  constructor
  case fresh => exact hfresh
  case tenant =>
    intro t ht hbar
    obtain ⟨t₁, t₂, hcut⟩ := List.append_of_mem hbar
    have hnul := x.tenant_plain t ht
    rw [hcut] at hnul
    simp only [List.mem_append, List.mem_cons, not_or] at hnul
    have hy := h (ofFields x.scope (some (String.ofList t₁)) (some (String.ofList t₂))
      ((project_optional_str x.principal_id).toList ++ '|' :: x.external_handle.toList)
      (by simp) (plain_ofList hnul.1) (plain_ofList hnul.2.2)) rfl (by
        rw [fields_ofFields, fields, hhandle, Option.mem_def.mp ht]
        simp [project_optional_str, hcut])
    have htenant : some (String.ofList t₁) = some t :=
      (congrArg tenant_id hy).trans (Option.mem_def.mp ht)
    have hl := congrArg String.toList (Option.some.inj htenant)
    rw [hcut] at hl
    simp at hl
  case principal =>
    intro p hp hbar
    obtain ⟨p₁, p₂, hcut⟩ := List.append_of_mem hbar
    have hnul := x.principal_plain p hp
    rw [hcut] at hnul
    simp only [List.mem_append, List.mem_cons, not_or] at hnul
    have hy := h (ofFields x.scope x.tenant_id (some (String.ofList p₁))
      (p₂ ++ '|' :: x.external_handle.toList) (by simp) x.tenant_plain (plain_ofList hnul.1)) rfl
      (by
        rw [fields_ofFields, fields, hhandle, Option.mem_def.mp hp]
        simp [project_optional_str, hcut])
    have hprincipal : some (String.ofList p₁) = some p :=
      (congrArg principal_id hy).trans (Option.mem_def.mp hp)
    have hl := congrArg String.toList (Option.some.inj hprincipal)
    rw [hcut] at hl
    simp at hl
  case cut =>
    rintro hprincipal ⟨before, rest, hcut, hrest, hbefore⟩
    obtain ⟨p, hp⟩ := Option.ne_none_iff_exists'.mp hprincipal
    have hpnul := x.principal_plain p hp
    have hshort : ∀ y : SessionKey Uuid, y = x → y.external_handle.toList ≠ rest := by
      rintro y rfl hrest
      rw [hrest] at hcut
      have hl := congrArg List.length hcut
      simp only [List.length_append, List.length_cons] at hl
      omega
    rcases hbefore with hbefore | ⟨htenant, hbefore⟩
    · -- the principal goes on into the handle
      refine hshort _ (h (ofFields x.scope x.tenant_id
        (some (String.ofList (p.toList ++ '|' :: before))) rest hrest x.tenant_plain
        (plain_ofList ?_)) rfl ?_) (by simp [ofFields])
      · simp [hpnul, hbefore]
      · rw [fields_ofFields, fields, hhandle, hp]
        simp [project_optional_str, hcut]
    · -- the tenant goes on over the principal, and the handle begins with a missing one
      obtain ⟨t, ht⟩ := Option.ne_none_iff_exists'.mp htenant
      have htnul := x.tenant_plain t ht
      refine hshort _ (h (ofFields x.scope (some (String.ofList (t.toList ++ '|' :: p.toList)))
        none rest hrest (plain_ofList ?_) plain_none) rfl ?_) (by simp [ofFields])
      · simp [hpnul, htnul]
      · rw [fields_ofFields, fields, hhandle, hp, ht, hcut, hbefore]
        simp [project_optional_str]
  case handle =>
    rintro hscope htenant hprincipal ⟨h', ingress_id, hne', hlooks⟩
    have hy := h
      { scope := x.scope, tenant_id := x.tenant_id, principal_id := x.principal_id
        external_handle := h', reopened := some ingress_id, handle_nonempty := hne'
        tenant_plain := x.tenant_plain, principal_plain := x.principal_plain
        dispatched := fun _ => ⟨hscope, htenant, hprincipal⟩ } rfl (by
          rw [fields, hhandle, hlooks]
          rfl)
    have hreopened : some ingress_id = x.reopened := congrArg reopened hy
    rw [hfresh] at hreopened
    cases hreopened

theorem alone_iff [LawfulStdlib Uuid] (x : SessionKey Uuid) :
    (∀ y : SessionKey Uuid, y.id = x.id → y = x) ↔ x.ReadsOneWay := by
  constructor
  · intro h
    exact readsOneWay_of_alone fun y hscope hfields =>
      h y ((id_eq_id_iff y x).mpr ⟨hscope.symm, hfields.symm⟩)
  · intro h y hid
    obtain ⟨hscope, hfields⟩ := (id_eq_id_iff y x).mp hid
    exact eq_of_readsOneWay h hscope.symm hfields.symm

end SessionKey

end operious.identity

-- The ids of executions, and what the derived ids of sessions, executions and runtimes tell apart.
namespace operious.identity

open operious.session operious.execution_runtime

variable {Uuid : Type} [Stdlib Uuid]

/-! ## Executions -/

/-- What names an execution. The callers pass the text of a dispatch id, and a session id that
`uuid.UUID` reads and that has no bar for that. -/
@[ext] structure ExecutionKey (Uuid : Type) where
  kind : ExecutionKind
  tenant_id : Option String
  dispatch_id : Uuid
  session_id : String
  tenant_plain : Plain tenant_id
  session_no_bar : '|' ∉ session_id.toList

def ExecutionKey.id (key : ExecutionKey Uuid) : Except ExecutionError Uuid :=
  deriveExecutionId key.kind.value (Stdlib.str key.dispatch_id) key.session_id key.tenant_id

theorem kind_no_bar (kind : ExecutionKind) : '|' ∉ kind.value.toList := by
  cases kind
  decide

theorem kind_value_inj {kind kind' : ExecutionKind} (_ : kind.value = kind'.value) :
    kind = kind' := by
  cases kind
  cases kind'
  rfl

theorem projectOptionalStr_eq (id : Option String) :
    projectOptionalStr id = project_optional_str id := by
  cases id <;> rfl

theorem ExecutionKey.of_id_ok {key : ExecutionKey Uuid} {id : Uuid} (h : key.id = .ok id) :
    id = Stdlib.uuid5 executionNamespace (String.ofList (key.kind.value.toList ++ '|' ::
      (((project_optional_str key.tenant_id).toList ++ '|' ::
        (Stdlib.str key.dispatch_id).toList) ++ '|' :: key.session_id.toList))) := by
  unfold ExecutionKey.id deriveExecutionId at h
  split_ifs at h
  rw [← Except.ok.inj h, projectOptionalStr_eq]
  refine congrArg _ (String.toList_injective ?_)
  simp

theorem ExecutionKey.eq_of_id [LawfulStdlib Uuid] {x y : ExecutionKey Uuid} {id : Uuid}
    (hx : x.id = .ok id) (hy : y.id = .ok id) : x = y := by
  have hseed := String.ofList_injective
    (LawfulStdlib.uuid5_inj _ ((of_id_ok hx).symm.trans (of_id_ok hy)))
  obtain ⟨hkind, hrest⟩ := cut_at_bar (kind_no_bar _) (kind_no_bar _) hseed
  obtain ⟨hrest, hsession⟩ := cut_at_last_bar x.session_no_bar y.session_no_bar hrest
  obtain ⟨htenant, hdispatch⟩ :=
    cut_at_last_bar (LawfulStdlib.str_no_bar _) (LawfulStdlib.str_no_bar _) hrest
  exact ExecutionKey.ext (kind_value_inj (String.toList_injective hkind))
    (project_inj x.tenant_plain y.tenant_plain htenant)
    (LawfulStdlib.str_inj (String.toList_injective hdispatch)) (String.toList_injective hsession)

/-! ## Ids that are their namespaces and their names -/

/-- An id as the names it was made of, the last one first. -/
structure NameChain where
  names : List String
  deriving DecidableEq

def endedName (name : String) : List Char := name.toList.flatMap escapeBar ++ ['~', 'e']

theorem endedName_append_inj {a b : String} {x y : List Char}
    (h : endedName a ++ x = endedName b ++ y) : a = b ∧ x = y := by
  have hgo : ∀ s t : List Char, s.flatMap escapeBar ++ '~' :: 'e' :: x =
      t.flatMap escapeBar ++ '~' :: 'e' :: y → s = t ∧ x = y := by
    intro s
    induction s with
    | nil =>
      intro t h
      cases t with
      | nil => simpa using h
      | cons d ds =>
        simp only [List.flatMap_nil, List.nil_append, List.flatMap_cons, List.append_assoc,
          escapeBar] at h
        split_ifs at h <;> grind
    | cons c cs ih =>
      intro t h
      cases t with
      | nil =>
        simp only [List.flatMap_nil, List.nil_append, List.flatMap_cons, List.append_assoc,
          escapeBar] at h
        split_ifs at h <;> grind
      | cons d ds =>
        simp only [List.flatMap_cons, List.append_assoc] at h
        obtain ⟨rfl, hrest⟩ := escapeBar_append_inj h
        obtain ⟨rfl, hxy⟩ := ih ds hrest
        exact ⟨rfl, hxy⟩
  obtain ⟨hs, hxy⟩ := hgo a.toList b.toList (by simpa [endedName] using h)
  exact ⟨String.toList_injective hs, hxy⟩

theorem flatMap_endedName_inj {a b : List String}
    (h : a.flatMap endedName = b.flatMap endedName) : a = b := by
  induction a generalizing b with
  | nil =>
    cases b with
    | nil => rfl
    | cons d ds => simp [endedName] at h
  | cons c cs ih =>
    cases b with
    | nil => simp [endedName] at h
    | cons d ds =>
      simp only [List.flatMap_cons] at h
      obtain ⟨rfl, hrest⟩ := endedName_append_inj h
      rw [ih hrest]

instance : Stdlib NameChain where
  uuid hex := ⟨[hex]⟩
  uuid5 ns name := ⟨name :: ns.names⟩
  str u := String.ofList (u.names.flatMap endedName)
  isoformat := Int.repr
  fromisoformat := readInt
  parseInt := readInt
  lower s := String.ofList (s.toList.map Char.toLower)

instance : SeedsApart NameChain where
  uuid5_inj _ a b h := by
    have hnames := congrArg NameChain.names h
    exact (List.cons.inj hnames).1
  str_inj {u v} h := by
    cases u
    cases v
    exact congrArg NameChain.mk (flatMap_endedName_inj (String.ofList_injective h))
  str_no_bar u h := by
    simp only [Stdlib.str, String.toList_ofList, List.mem_flatMap, endedName, List.mem_append] at h
    obtain ⟨name, -, hname⟩ := h
    rcases hname with ⟨c, -, hc⟩ | hend
    · exact bar_not_mem_escapeBar c hc
    · simp at hend
  uuid5_apart {ns ns' a b} h := by
    have hnames := congrArg NameChain.names h
    obtain ⟨hname, hns⟩ := List.cons.inj hnames
    cases ns
    cases ns'
    exact ⟨congrArg NameChain.mk hns, hname⟩

/-! ## All derived ids -/


def dispatchKey (tenant_id external_handle : String) (ht : '\x00' ∉ tenant_id.toList)
    (hh : external_handle ≠ "") (reopened : Option Uuid) : SessionKey Uuid where
  scope := .tenant
  tenant_id := some tenant_id
  principal_id := none
  external_handle
  reopened
  handle_nonempty := hh
  tenant_plain s hs := by rwa [← Option.some.inj hs]
  principal_plain := SessionKey.plain_none
  dispatched _ := ⟨rfl, Option.some_ne_none tenant_id, rfl⟩

/-- Which derived ids are nobody else's. The ids of a dispatch are those of session keys. Of a
session: those of keys that read one way. Of an execution: all of them. Of a runtime, among keys of
JSON: those with a tenant that is not empty and with components of JSON. -/
theorem derived_ids_apart_iff [SeedsApart Uuid] :
    (∀ (tenant_id external_handle : String) (ht : '\x00' ∉ tenant_id.toList)
      (hh : external_handle ≠ ""),
      dispatch_session_id tenant_id external_handle =
        (dispatchKey tenant_id external_handle ht hh none : SessionKey Uuid).id ∧
      ∀ ingress_id : Uuid, reopened_dispatch_session_id tenant_id external_handle ingress_id =
        (dispatchKey tenant_id external_handle ht hh (some ingress_id)).id) ∧
    (∀ x : SessionKey Uuid, (∀ y : SessionKey Uuid, y.id = x.id → y = x) ↔ x.ReadsOneWay) ∧
    (∀ (x y : ExecutionKey Uuid) (id : Uuid), x.id = .ok id → y.id = .ok id → x = y) ∧
    ∀ x : RuntimeKey Uuid, (∀ y : RuntimeKey Uuid, y.IsJson → y.id = x.id → y = x) ↔
      (x.tenant_id ≠ none ∧ x.tenant_id ≠ some "") ∧ x.IsJson :=
  ⟨fun _ _ _ _ => ⟨rfl, fun _ => rfl⟩, SessionKey.alone_iff,
    fun _ _ _ hx hy => ExecutionKey.eq_of_id hx hy, RuntimeKey.alone_iff⟩

/-- Nothing else has the id of the first session of acme's thread. -/
theorem a_thread_has_its_own_id :
    (dispatchKey "acme" "thread-1" (by decide) (by decide) none : SessionKey NameChain).ReadsOneWay ∧
    ∀ y : SessionKey NameChain, y.id = dispatch_session_id "acme" "thread-1" →
      y = dispatchKey "acme" "thread-1" (by decide) (by decide) none := by
  have hreads : (dispatchKey "acme" "thread-1" (by decide) (by decide) none :
      SessionKey NameChain).ReadsOneWay := by
    constructor
    case fresh => rfl
    case tenant =>
      intro t ht
      rw [← Option.some.inj ht]
      decide
    case principal =>
      intro p hp
      cases hp
    case cut => exact fun h => absurd rfl h
    case handle =>
      rintro - - - ⟨h, ingress_id, -, hh⟩
      have hbar : '|' ∈ (reopenedHandle h ingress_id).toList := by simp [reopenedHandle]
      rw [← hh] at hbar
      exact absurd hbar (by decide)
  obtain ⟨hdispatch, hsession, -, -⟩ := @derived_ids_apart_iff NameChain _ _
  refine ⟨hreads, fun y hy => (hsession _).mpr hreads y ?_⟩
  rw [hy]
  exact (hdispatch "acme" "thread-1" (by decide) (by decide)).1

/-- The customer of a thread may choose a handle that reads like the thread's reopened session, and
gets its id. A missing tenant and an empty one get one id. -/
theorem two_keys_share_an_id :
    "thread-1" ≠ reopenedHandle "thread-1" (⟨["i"]⟩ : NameChain) ∧
    (dispatch_session_id "acme" (reopenedHandle "thread-1" (⟨["i"]⟩ : NameChain)) :
      Except SessionException NameChain) = reopened_dispatch_session_id "acme" "thread-1" ⟨["i"]⟩ ∧
    derive_runtime_id (⟨["ns"]⟩ : NameChain) none [] =
      derive_runtime_id (⟨["ns"]⟩ : NameChain) (some "") [] :=
  ⟨by decide +kernel, rfl, rfl⟩

end operious.identity
