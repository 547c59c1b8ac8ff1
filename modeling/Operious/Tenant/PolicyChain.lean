-- The versions of a policy as a chain: what every call leaves as it was, and when the newest version
-- decides.
import Operious.Lib.Chain
import Operious.Lib.Runs
import Operious.Tenant.Policies

namespace operious.tenant

open chain effects
open operious.governance (PyException)
open operious.identity (strLe textLe_total textLe_trans)
open operious.resolution (Sha256)

section

variable {Uuid : Type}

def policyLinks : Links (TenantGovernancePolicyRecord Uuid) String where
  version := (·.version)
  digest := (·.content_sha256)
  previous := (·.previous_version_sha256)

/-! ## The lists of the repository -/

def ofType (policies : Policies Uuid) (tenant_id policy_type : String) :
    List (TenantGovernancePolicyRecord Uuid) :=
  policies.values.filter fun r => r.tenant_id = tenant_id && r.policy_type = policy_type

variable {policies : Policies Uuid} {tenant_id policy_type : String}
  {r m : TenantGovernancePolicyRecord Uuid} {l : List (TenantGovernancePolicyRecord Uuid)}

theorem newest_spec (h : newest l = some m) : m ∈ l ∧ ∀ r ∈ l, r.version ≤ m.version := by
  cases l with
  | nil => cases h
  | cons r rest =>
    cases h
    induction rest generalizing r with
    | nil => simp
    | cons s rest ih =>
      rw [List.foldl_cons]
      obtain ⟨hmem, hmax⟩ := ih (if r.version < s.version then s else r)
      generalize rest.foldl _ _ = m at hmem hmax ⊢
      have hle := hmax _ List.mem_cons_self
      refine ⟨?_, ?_⟩
      · rcases List.mem_cons.mp hmem with heq | hmem
        · rw [heq]
          split <;> simp
        · exact List.mem_cons_of_mem _ (List.mem_cons_of_mem _ hmem)
      · intro x hx
        rcases List.mem_cons.mp hx with rfl | hx
        · split at hle <;> omega
        · rcases List.mem_cons.mp hx with rfl | hx
          · split at hle <;> omega
          · exact hmax x (List.mem_cons_of_mem _ hx)

theorem newest_eq_none (h : newest l = none) : l = [] := by
  cases l with
  | nil => rfl
  | cons r rest => cases h

variable {p : Option String}

theorem newest_of_linked {v : Nat} {rows : List (TenantGovernancePolicyRecord Uuid)}
    (hlinked : Linked policyLinks p v l) (hrows : ∀ r, r ∈ rows ↔ r ∈ l) :
    newest rows = l.getLast? := by
  cases hnewest : newest rows with
  | none =>
    have hnil := newest_eq_none hnewest
    subst hnil
    have hl : l = [] := List.eq_nil_iff_forall_not_mem.mpr fun r hr =>
      absurd ((hrows r).mpr hr) List.not_mem_nil
    rw [hl]
    rfl
  | some m =>
    obtain ⟨hm, hmax⟩ := newest_spec hnewest
    have hml := (hrows m).mp hm
    cases hlast : l.getLast? with
    | none =>
      rw [List.getLast?_eq_none_iff] at hlast
      rw [hlast] at hml
      cases hml
    | some last =>
      have hmem := List.mem_of_getLast? hlast
      have hversion := hlinked.last_version hlast
      have hle := hmax last ((hrows last).mpr hmem)
      have hlt := (hlinked.version_mem hml).2
      have heq : policyLinks.version m = policyLinks.version last := by
        change last.version ≤ m.version at hle
        simp only [policyLinks] at hversion hlt ⊢
        omega
      rw [hlinked.eq_of_version hml hmem heq]

variable [DecidableEq Uuid] [Stdlib Uuid]

omit [Stdlib Uuid] in
theorem mem_ofType : r ∈ ofType policies tenant_id policy_type ↔
    (∃ id, policies.get? id = some r) ∧ r.tenant_id = tenant_id ∧ r.policy_type = policy_type := by
  simp [ofType, Dict.mem_values_iff]

theorem mem_list_governance_policies :
    r ∈ list_governance_policies policies { policy_type := some policy_type } tenant_id ↔
      r ∈ ofType policies tenant_id policy_type := by
  simp [list_governance_policies, ofType]

instance : Std.Total fun a b : TenantGovernancePolicyRecord Uuid => resolvedBefore a b = true where
  total a b := by
    simp only [resolvedBefore]
    by_cases h : a.version = b.version
    · rw [if_pos h, if_pos h.symm]
      exact textLe_total _ _
    · rw [if_neg h, if_neg (Ne.symm h)]
      simp only [decide_eq_true_eq]
      omega

instance : IsTrans (TenantGovernancePolicyRecord Uuid) fun a b => resolvedBefore a b = true where
  trans a b c := by
    simp only [resolvedBefore]
    intro hab hbc
    split at hab <;> split at hbc <;> split
    · exact textLe_trans hbc hab
    all_goals simp only [decide_eq_true_eq] at *; omega

omit [DecidableEq Uuid] in
theorem resolve_eq_some
    (h : resolve_active_governance_policy policies policy_type tenant_id = some m) :
    m ∈ ofType policies tenant_id policy_type ∧ m.status = .active ∧
      ∀ r ∈ ofType policies tenant_id policy_type, r.status = .active → r.version ≤ m.version := by
  unfold resolve_active_governance_policy at h
  simp only at h
  set rows := policies.values.filter fun r =>
    r.tenant_id = tenant_id && r.policy_type = policy_type && r.status = .active with hrows
  have hmem : ∀ r, r ∈ rows ↔ r ∈ ofType policies tenant_id policy_type ∧ r.status = .active := by
    intro r
    simp [hrows, ofType, and_assoc]
  have hsorted := List.pairwise_insertionSort
    (fun a b : TenantGovernancePolicyRecord Uuid => resolvedBefore a b = true) rows
  have hperm : ∀ r, r ∈ rows.insertionSort (fun a b => resolvedBefore a b = true) ↔ r ∈ rows :=
    fun r => List.mem_insertionSort _
  obtain ⟨rest, hrest⟩ := List.head?_eq_some_iff.mp h
  rw [hrest] at hsorted hperm
  obtain ⟨hm, hactive⟩ := (hmem m).mp ((hperm m).mp List.mem_cons_self)
  refine ⟨hm, hactive, fun r hr hractive => ?_⟩
  rcases List.mem_cons.mp ((hperm r).mpr ((hmem r).mpr ⟨hr, hractive⟩)) with rfl | hr
  · exact le_refl _
  · have hbefore := (List.pairwise_cons.mp hsorted).1 r hr
    simp only [resolvedBefore] at hbefore
    split at hbefore
    · omega
    · simp only [decide_eq_true_eq] at hbefore
      omega

omit [DecidableEq Uuid] in
theorem resolve_eq_none_iff :
    resolve_active_governance_policy policies policy_type tenant_id = none ↔
      ∀ r ∈ ofType policies tenant_id policy_type, r.status ≠ .active := by
  unfold resolve_active_governance_policy
  rw [List.head?_eq_none_iff, List.eq_nil_iff_forall_not_mem]
  simp only [List.mem_insertionSort, List.mem_filter, ofType]
  constructor
  · intro h r hr hactive
    refine h r ⟨hr.1, ?_⟩
    simp_all
  · intro h r hr
    refine h r ⟨hr.1, ?_⟩ ?_ <;> simp_all

/-! ## Chains -/

/-- The versions of a policy, from the first on, and what the last one decides. -/
structure ChainOf (policies : Policies Uuid) (tenant_id policy_type : String)
    (l : List (TenantGovernancePolicyRecord Uuid)) : Prop where
  linked : Linked policyLinks none 1 l
  stored : ∀ r, r ∈ ofType policies tenant_id policy_type ↔ r ∈ l
  active : ∀ r, l.getLast? = some r → r.status = .active →
    resolve_active_governance_policy policies policy_type tenant_id = some r
  archived : ∀ r, l.getLast? = some r → r.status = .archived →
    resolve_active_governance_policy policies policy_type tenant_id = none

/-- Every policy of every tenant is a chain whose last version decides. -/
def Chained (policies : Policies Uuid) : Prop :=
  ∀ tenant_id policy_type, ∃ l, ChainOf policies tenant_id policy_type l

/-- Every record is under the id of its version. -/
def Keyed (policies : Policies Uuid) : Prop := ∀ id r, policies.get? id = some r →
  derive_governance_policy_version_id r.tenant_id r.policy_type r.version = .ok id

omit [DecidableEq Uuid] in
theorem resolve_last {v : Nat} (hlinked : Linked policyLinks p v l)
    (hstored : ∀ r, r ∈ ofType policies tenant_id policy_type ↔ r ∈ l) (hlast : l.getLast? = some r)
    (hactive : r.status = .active) :
    resolve_active_governance_policy policies policy_type tenant_id = some r := by
  have hmem := List.mem_of_getLast? hlast
  cases hresolve : resolve_active_governance_policy policies policy_type tenant_id with
  | none => exact absurd hactive (resolve_eq_none_iff.mp hresolve r ((hstored r).mpr hmem))
  | some m =>
    obtain ⟨hm, -, hmax⟩ := resolve_eq_some hresolve
    have hml := (hstored m).mp hm
    have hle : r.version ≤ m.version := hmax r ((hstored r).mpr hmem) hactive
    have hversion := hlinked.last_version hlast
    have hlt := (hlinked.version_mem hml).2
    have heq : policyLinks.version m = policyLinks.version r := by
      simp only [policyLinks] at hversion hlt ⊢
      omega
    rw [hlinked.eq_of_version hml hmem heq]

/-! ## The calls -/

inductive PolicyCall (Uuid : Type)
  | create (args : CreateGovernancePolicy Uuid) (now : Instant)
  | update (args : UpdateGovernancePolicy Uuid)

variable [Sha256]

namespace PolicyCall

/-- The record that a call asks the repository to save. -/
def asked (policies : Policies Uuid) : PolicyCall Uuid →
    Except PyException (TenantGovernancePolicyRecord Uuid)
  | .create args now => createdPolicy policies args now
  | .update args => updatedPolicy policies args

/-- A call as a step: the policies after it, whether it returns or raises. -/
def next (policies : Policies Uuid) : PolicyCall Uuid → Option (Policies Uuid)
  | .create args now => some (run (create_governance_policy args now) policies).2
  | .update args => some (run (update_governance_policy args) policies).2

/-- No record of before is changed or gone, and every policy is a chain whose last version
decides. -/
def AppendOnly (policies : Policies Uuid) (_ : PolicyCall Uuid) (policies' : Policies Uuid) : Prop :=
  (∀ id r, policies.get? id = some r → policies'.get? id = some r) ∧ Chained policies'

/-- The call is refused, or asks for what is there, or for a version whose id is free; and it archives
no policy of which an earlier version is active. -/
def Appends (policies : Policies Uuid) (call : PolicyCall Uuid) : Prop :=
  ∀ r, call.asked policies = .ok r →
    policies.get? r.policy_id = some r ∨
    (policies.get? r.policy_id = none ∧
      (r.status = .archived → ∀ x ∈ ofType policies r.tenant_id r.policy_type, x.status ≠ .active))

/-- What a call builds on: nothing, or the record it takes for the one before. -/
structure Follows (policies : Policies Uuid) (call : PolicyCall Uuid)
    (r : TenantGovernancePolicyRecord Uuid) : Prop where
  keyed : derive_governance_policy_version_id r.tenant_id r.policy_type r.version = .ok r.policy_id
  before : match call with
    | .create .. =>
      let rows := list_governance_policies policies { policy_type := some r.policy_type } r.tenant_id
      r.version = ((newest rows).map (·.version + 1)).getD 1 ∧
        r.previous_version_sha256 = (newest rows).map (·.content_sha256)
    | .update args => ∃ x, policies.get? args.policy_id = some x ∧ x.tenant_id = r.tenant_id ∧
        x.policy_type = r.policy_type ∧ r.version = x.version + 1 ∧
        r.previous_version_sha256 = some x.content_sha256

variable {call : PolicyCall Uuid}

theorem follows_of_asked (h : call.asked policies = .ok r) : Follows policies call r := by
  cases call with
  | create args now =>
    simp only [asked, createdPolicy, bind_eq_ok] at h
    obtain ⟨approval, -, id, hid, digest, -, h⟩ := h
    cases h
    refine ⟨hid, ?_, rfl⟩
    cases newest (list_governance_policies policies { policy_type := some args.policy_type }
      args.tenant_id) <;> rfl
  | update args =>
    simp only [asked, updatedPolicy, bind_eq_ok] at h
    obtain ⟨approval, -, h⟩ := h
    split at h
    · cases h
    · rename_i x hx
      obtain ⟨hget, htenant⟩ := Option.filter_eq_some_iff.mp hx
      have htenant : x.tenant_id = args.tenant_id := by simpa using htenant
      simp only [bind_eq_ok] at h
      obtain ⟨id, hid, digest, -, h⟩ := h
      cases h
      exact ⟨htenant ▸ hid, x, hget, rfl, rfl, rfl, rfl⟩

def forTenant : PolicyCall Uuid → String
  | .create args _ => args.tenant_id
  | .update args => args.tenant_id

theorem tenant_of_asked (h : call.asked policies = .ok r) : r.tenant_id = call.forTenant := by
  cases call with
  | create args now =>
    simp only [asked, createdPolicy, bind_eq_ok] at h
    obtain ⟨approval, -, id, -, digest, -, h⟩ := h
    cases h
    rfl
  | update args =>
    simp only [asked, updatedPolicy, bind_eq_ok] at h
    obtain ⟨approval, -, h⟩ := h
    split at h
    · cases h
    · rename_i x hx
      obtain ⟨-, htenant⟩ := Option.filter_eq_some_iff.mp hx
      simp only [bind_eq_ok] at h
      obtain ⟨id, -, digest, -, h⟩ := h
      cases h
      exact of_decide_eq_true htenant

theorem next_of_asked (h : call.asked policies = .ok r) :
    next policies call = some (policies.set r.policy_id r) := by
  have htenant := tenant_of_asked h
  cases call with
  | create args now =>
    have hasked : createdPolicy policies args now = .ok r := h
    have hwrite : assert_write_tenant r.tenant_id args.tenant_id = .ok () := if_neg (not_not.mpr htenant)
    simp only [next, create_governance_policy, save_governance_policy, run_bind, run_get, run_lift,
      hasked, hwrite]
    rfl
  | update args =>
    have hasked : updatedPolicy policies args = .ok r := h
    have hwrite : assert_write_tenant r.tenant_id args.tenant_id = .ok () := if_neg (not_not.mpr htenant)
    simp only [next, update_governance_policy, save_governance_policy, run_bind, run_get, run_lift,
      hasked, hwrite]
    rfl

theorem next_of_refused {e : PyException} (h : call.asked policies = .error e) :
    next policies call = some policies := by
  cases call <;>
    simp_all [asked, next, create_governance_policy, update_governance_policy, run_bind]

/-! ## One step -/

variable {id : Uuid}

omit [Stdlib Uuid] [Sha256] in
theorem ofType_set (hfree : policies.get? id = none) :
    ofType (policies.set id r) tenant_id policy_type =
      ofType policies tenant_id policy_type ++
        if r.tenant_id = tenant_id ∧ r.policy_type = policy_type then [r] else [] := by
  unfold ofType
  rw [Dict.values_set_fresh hfree, List.filter_append]
  congr 1
  by_cases h : r.tenant_id = tenant_id ∧ r.policy_type = policy_type
  · simp [h]
  · simp [h]

/-- A record under a free id comes after the last one of its type. -/
theorem linked_asked (hkeyed : Keyed policies) (hasked : call.asked policies = .ok r)
    (hfree : policies.get? r.policy_id = none)
    (hchain : ChainOf policies r.tenant_id r.policy_type l) :
    Linked policyLinks none 1 (l ++ [r]) := by
  obtain ⟨hid, hbefore⟩ := follows_of_asked hasked
  refine linked_concat.mpr ⟨hchain.linked, ?_⟩
  suffices hlast : r.version = (l.getLast?.map (·.version + 1)).getD 1 ∧
      r.previous_version_sha256 = l.getLast?.map (·.content_sha256) by
    obtain ⟨hversion, hprevious⟩ := hlast
    cases hl : l.getLast? with
    | none =>
      rw [List.getLast?_eq_none_iff] at hl
      subst hl
      exact ⟨hversion, hprevious⟩
    | some x =>
      have hx := hchain.linked.last_version hl
      rw [hl] at hversion hprevious
      simp only [policyLinks] at hx ⊢
      simp only [Option.map_some, Option.getD_some] at hversion hprevious
      exact ⟨by omega, by rw [hprevious]; rfl⟩
  cases call with
  | create args now =>
    have hnewest := newest_of_linked hchain.linked fun x =>
      mem_list_governance_policies.trans (hchain.stored x)
    simp only [hnewest] at hbefore
    exact hbefore
  | update args =>
    obtain ⟨x, hx, htenant, htype, hversion, hprevious⟩ := hbefore
    have hmem : x ∈ l := (hchain.stored x).mp (mem_ofType.mpr ⟨⟨_, hx⟩, htenant, htype⟩)
    have hlast : l.getLast? = some x := by
      by_contra hnot
      have hlt := hchain.linked.version_mem hmem
      obtain ⟨last, hlast⟩ := Option.isSome_iff_exists.mp
        (List.getLast?_isSome.mpr (List.ne_nil_of_mem hmem))
      have hlastVersion := hchain.linked.last_version hlast
      have hne : policyLinks.version x ≠ policyLinks.version last := fun heq =>
        hnot (hlast.trans (congrArg some (hchain.linked.eq_of_version hmem
          (List.mem_of_getLast? hlast) heq).symm))
      simp only [policyLinks] at hlt hlastVersion hne
      obtain ⟨y, hy, hyversion⟩ := hchain.linked.exists_version (n := x.version + 1) (by omega)
      obtain ⟨⟨id, hget⟩, hytenant, hytype⟩ := mem_ofType.mp ((hchain.stored y).mpr hy)
      have hkey := hkeyed id y hget
      simp only [policyLinks] at hyversion
      rw [hytenant, hytype, hyversion, ← hversion, hid] at hkey
      cases hkey
      rw [hfree] at hget
      cases hget
    rw [hlast]
    exact ⟨hversion, hprevious⟩

section

omit [Sha256]

theorem resolve_set_other (hfree : policies.get? id = none)
    (hother : ¬ (r.tenant_id = tenant_id ∧ r.policy_type = policy_type)) :
    resolve_active_governance_policy (policies.set id r) policy_type tenant_id =
      resolve_active_governance_policy policies policy_type tenant_id := by
  have hrow : (r.tenant_id = tenant_id && r.policy_type = policy_type && r.status = .active) =
      false := by
    simpa [not_and_or] using fun h1 h2 => absurd ⟨h1, h2⟩ hother
  unfold resolve_active_governance_policy
  rw [Dict.values_set_fresh hfree, List.filter_append, List.filter_singleton, hrow]
  simp

theorem chainOf_set_other (hfree : policies.get? id = none)
    (hother : ¬ (r.tenant_id = tenant_id ∧ r.policy_type = policy_type))
    (hchain : ChainOf policies tenant_id policy_type l) :
    ChainOf (policies.set id r) tenant_id policy_type l where
  linked := hchain.linked
  stored x := by rw [ofType_set hfree, if_neg hother, List.append_nil, hchain.stored]
  active x hlast hactive := by rw [resolve_set_other hfree hother, hchain.active x hlast hactive]
  archived x hlast harchived := by
    rw [resolve_set_other hfree hother, hchain.archived x hlast harchived]

theorem chainOf_set (hfree : policies.get? id = none)
    (hlinked : Linked policyLinks none 1 (l ++ [r]))
    (hchain : ChainOf policies r.tenant_id r.policy_type l)
    (harchives : r.status = .archived →
      ∀ x ∈ ofType policies r.tenant_id r.policy_type, x.status ≠ .active) :
    ChainOf (policies.set id r) r.tenant_id r.policy_type (l ++ [r]) := by
  have hstored : ∀ x, x ∈ ofType (policies.set id r) r.tenant_id r.policy_type ↔ x ∈ l ++ [r] := by
    intro x
    rw [ofType_set hfree, if_pos ⟨rfl, rfl⟩, List.mem_append, List.mem_append, hchain.stored]
  refine ⟨hlinked, hstored, fun x hlast hactive => resolve_last hlinked hstored hlast hactive, ?_⟩
  intro x hlast harchived
  rw [List.getLast?_concat] at hlast
  cases hlast
  refine resolve_eq_none_iff.mpr fun x hx => ?_
  rw [ofType_set hfree, if_pos ⟨rfl, rfl⟩, List.mem_append] at hx
  rcases hx with hx | hx
  · exact harchives harchived x hx
  · rw [List.mem_singleton.mp hx, harchived]
    decide

theorem chained_set (hchained : Chained policies) (hfree : policies.get? id = none)
    (hlinked : ∀ l, ChainOf policies r.tenant_id r.policy_type l →
      Linked policyLinks none 1 (l ++ [r]))
    (harchives : r.status = .archived →
      ∀ x ∈ ofType policies r.tenant_id r.policy_type, x.status ≠ .active) :
    Chained (policies.set id r) := by
  intro tenant_id policy_type
  by_cases h : r.tenant_id = tenant_id ∧ r.policy_type = policy_type
  · obtain ⟨rfl, rfl⟩ := h
    obtain ⟨l, hchain⟩ := hchained r.tenant_id r.policy_type
    exact ⟨l ++ [r], chainOf_set hfree (hlinked l hchain) hchain harchives⟩
  · obtain ⟨l, hchain⟩ := hchained tenant_id policy_type
    exact ⟨l, chainOf_set_other hfree h hchain⟩

end

/-- The state between calls. -/
structure Sound (policies : Policies Uuid) : Prop where
  keyed : Keyed policies
  chained : Chained policies

variable {policies' : Policies Uuid}

theorem Sound.keep (hs : Sound policies) (happends : Appends policies call)
    (hu : next policies call = some policies') : Sound policies' := by
  cases hasked : call.asked policies with
  | error e =>
    rw [next_of_refused hasked] at hu
    cases hu
    exact hs
  | ok r =>
    rw [next_of_asked hasked] at hu
    cases hu
    rcases happends r hasked with hthere | ⟨hfree, harchives⟩
    · rw [Dict.set_of_get? hthere]
      exact hs
    · refine ⟨?_, chained_set hs.chained hfree
        (fun l hchain => linked_asked hs.keyed hasked hfree hchain) harchives⟩
      intro id x hx
      rcases Dict.get?_set_cases hx with ⟨rfl, rfl⟩ | ⟨-, hx⟩
      · exact (follows_of_asked hasked).keyed
      · exact hs.keyed id x hx

theorem Sound.appendOnly_iff (hs : Sound policies) (hu : next policies call = some policies') :
    AppendOnly policies call policies' ↔ Appends policies call := by
  constructor
  · rintro ⟨hkept, hchained⟩ r hasked
    rw [next_of_asked hasked] at hu
    cases hu
    cases hget : policies.get? r.policy_id with
    | some x =>
      have hx := hkept r.policy_id x hget
      rw [Dict.get?_set_self] at hx
      exact .inl hx.symm
    | none =>
      refine .inr ⟨rfl, fun harchived x hx => ?_⟩
      obtain ⟨l, hchain⟩ := hs.chained r.tenant_id r.policy_type
      obtain ⟨l', hchain'⟩ := hchained r.tenant_id r.policy_type
      have hlinked := linked_asked hs.keyed hasked hget hchain
      have hmem : ∀ x, x ∈ l' ↔ x ∈ l ++ [r] := by
        intro x
        rw [← hchain'.stored, ofType_set hget, if_pos ⟨rfl, rfl⟩, List.mem_append, List.mem_append,
          hchain.stored]
      have hlast : l'.getLast? = some r := by
        rw [← newest_of_linked hchain'.linked fun x => (hmem x).symm,
          newest_of_linked hlinked fun _ => Iff.rfl, List.getLast?_concat]
      have hnone := resolve_eq_none_iff.mp (hchain'.archived r hlast harchived) x
      rw [ofType_set hget, List.mem_append] at hnone
      exact hnone (.inl hx)
  · intro happends
    refine ⟨?_, (hs.keep happends hu).chained⟩
    intro id x hx
    cases hasked : call.asked policies with
    | error e =>
      rw [next_of_refused hasked] at hu
      cases hu
      exact hx
    | ok r =>
      rw [next_of_asked hasked] at hu
      cases hu
      rcases happends r hasked with hthere | ⟨hfree, -⟩
      · rw [Dict.set_of_get? hthere]
        exact hx
      · rw [Dict.get?_set_ne _ _ fun heq => by rw [heq, hx] at hfree; cases hfree]
        exact hx

omit [Sha256] in
theorem Sound.start : Sound (.empty : Policies Uuid) where
  keyed _ _ h := by cases h
  chained _ _ :=
    ⟨[], trivial, fun _ => Iff.rfl, fun _ h => absurd h (by simp), fun _ h => absurd h (by simp)⟩

/-- A run of calls only appends, and the newest version of every policy decides after each call, iff
every call of it appends. -/
theorem appends_along_iff (calls : List (PolicyCall Uuid)) :
    runs.Along next AppendOnly (.empty : Policies Uuid) calls ↔
      runs.Meets next Appends .empty calls :=
  runs.along_iff_meets (fun _ _ _ hs ha hu => hs.keep ha hu)
    (fun _ _ _ hs hu => hs.appendOnly_iff hu) Sound.start

end PolicyCall

end

/-! ## Two updates of one version -/

def policyApproval : ApprovalRecord := ⟨"a", "t", "approved"⟩

def createAutonomy : PolicyCall String :=
  .create { tenant_id := "t", policy_type := "autonomy", parameters := [], approved_by := "ana"
            effective_from := 0, status := .active, approval := some policyApproval } 0

def updateFirst (approved_by : String) : PolicyCall String :=
  .update { tenant_id := "t", policy_id := "t|autonomy|v1", approved_by
            approval := some policyApproval }

/-- The second of two updates of one version writes over what the first one stored. -/
theorem second_update_replaces_the_first :
    ¬ runs.Along PolicyCall.next PolicyCall.AppendOnly (.empty : Policies String)
      [createAutonomy, updateFirst "ana", updateFirst "ben"] := by
  intro h
  change runs.Along _ _ _ ([createAutonomy, updateFirst "ana"] ++ [updateFirst "ben"]) at h
  obtain ⟨hkept, -⟩ := h.last rfl rfl
  have hsecond := hkept "t|autonomy|v2" _ rfl
  have happroved := congrArg (Option.map (·.approved_by)) hsecond
  revert happroved
  decide

end operious.tenant
