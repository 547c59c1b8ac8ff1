-- The versions of a knowledge document as a chain that is checked by its digests: what every call
-- leaves a chain, and what the check says of a version that was changed behind its back.
import Operious.Lib.Chain
import Operious.Lib.Runs
import Operious.Tenant.Knowledge

namespace operious.tenant

open chain effects
open json utf8
open operious.governance (PyException)
open operious.identity
open operious.resolution (Sha256 sha256_text)

section

variable {Uuid : Type}

abbrev Version (Uuid : Type) := TenantKnowledgeDocumentVersionRecord Uuid

def versionLinks : Links (Version Uuid) String where
  version := (·.version)
  digest := (·.content_sha256)
  previous := (·.previous_version_sha256)

variable [DecidableEq Uuid] [Stdlib Uuid] [Sha256]
variable {w w' : Knowledge Uuid} {r r' : Version Uuid} {l : List (Version Uuid)}
  {document_id : Uuid} {tenant_id : String}

/-! ## The digest of a version -/

/-- The digest that the version carries is its own. -/
def Digested (r : Version Uuid) : Prop := knowledge_version_content_sha256 r = .ok r.content_sha256

omit [DecidableEq Uuid] [Sha256] in
theorem nodup_versionPayload (tenant_id : String) (document_id : Uuid) (version : Nat)
    (title content : String) (document_type : TenantKnowledgeDocumentType)
    (status : TenantKnowledgeDocumentStatus) (uploaded_by source_approval_id : String)
    (metadata : Payload Uuid) :
    ((safe_items (versionPayload tenant_id document_id version title content document_type status
      uploaded_by source_approval_id metadata)).map Prod.fst).Nodup := by
  simp only [versionPayload, safe_items, key, List.map_cons, List.map_nil]
  decide

omit [DecidableEq Uuid] in
theorem serializable_metadata
    (h : knowledge_version_content_sha256 r = .ok r.content_sha256) :
    serializableItems r.metadata := by
  have hall := serializable_of_canonical_sha256 h
  simp only [versionPayload, serializableItems, serializable, Bool.and_eq_true] at hall
  exact hall.2.2.2.2.2.2.2.2.2.1

omit [DecidableEq Uuid] in
theorem eq_of_digest (hfree : Function.Injective sha256_text) {digest : String}
    (h : knowledge_version_content_sha256 r = .ok digest)
    (h' : knowledge_version_content_sha256 r' = .ok digest) :
    r.version = r'.version ∧ r.title = r'.title ∧ r.content = r'.content ∧ r.status = r'.status := by
  have hfind : ∀ k v v', (k, v) ∈ safe_items (versionPayload r.tenant_id r.document_id r.version
        r.title r.content r.document_type r.status r.uploaded_by r.source_approval_id r.metadata) →
      (k, v') ∈ safe_items (versionPayload r'.tenant_id r'.document_id r'.version r'.title r'.content
        r'.document_type r'.status r'.uploaded_by r'.source_approval_id r'.metadata) → v = v' := by
    intro k v v' hv hv'
    have heq := find_of_json_safe_eq (nodup_versionPayload ..) (nodup_versionPayload ..)
      (canonical_sha256_inj hfree h h') k
    rw [Dict.find_of_mem (nodup_versionPayload ..) hv,
      Dict.find_of_mem (nodup_versionPayload ..) hv'] at heq
    exact Option.some.inj heq
  simp only [versionPayload, safe_items, key, json_safe, List.mem_cons, Prod.mk.injEq] at hfind
  have hversion := hfind "version" _ _ (.inr (.inr (.inl ⟨rfl, rfl⟩)))
    (.inr (.inr (.inl ⟨rfl, rfl⟩)))
  have htitle := hfind "title" _ _ (.inr (.inr (.inr (.inl ⟨rfl, rfl⟩))))
    (.inr (.inr (.inr (.inl ⟨rfl, rfl⟩))))
  have hcontent := hfind "content" _ _ (.inr (.inr (.inr (.inr (.inl ⟨rfl, rfl⟩)))))
    (.inr (.inr (.inr (.inr (.inl ⟨rfl, rfl⟩)))))
  have hstatus := hfind "status" _ _ (.inr (.inr (.inr (.inr (.inr (.inr (.inl ⟨rfl, rfl⟩)))))))
    (.inr (.inr (.inr (.inr (.inr (.inr (.inl ⟨rfl, rfl⟩)))))))
  exact ⟨by exact_mod_cast intLiteral_inj (Json.num.inj hversion),
    ofString_injective (Json.str.inj htitle), ofString_injective (Json.str.inj hcontent),
    TenantKnowledgeDocumentStatus.value_inj (ofString_injective (Json.str.inj hstatus))⟩

/-! ## The check -/

/-- What the check walks through without an objection. -/
def Verified : Option String → List (Version Uuid) → Prop
  | _, [] => True
  | p, r :: rest => Digested r ∧ r.previous_version_sha256 = p ∧ Verified (some r.content_sha256) rest

variable {p : Option String}

section

omit [DecidableEq Uuid]

theorem verifyVersions_of_verified (h : Verified p l) :
    verifyVersions p l = .ok { valid := true } := by
  induction l generalizing p with
  | nil => rfl
  | cons r rest ih =>
    obtain ⟨hdigest, hprevious, hrest⟩ := h
    unfold Digested at hdigest
    simp only [verifyVersions, hdigest, bind, Except.bind]
    rw [if_neg (by simp [hprevious]), ih hrest]

theorem verifyVersions_spec
    (hserial : ∀ r ∈ l, ∃ digest, knowledge_version_content_sha256 r = .ok digest) :
    Verified p l ∨
      ∃ n, verifyVersions p l = .ok { valid := false, broken_at_version := some n } := by
  induction l generalizing p with
  | nil => exact .inl trivial
  | cons r rest ih =>
    obtain ⟨expected, hexpected⟩ := hserial r List.mem_cons_self
    simp only [verifyVersions, hexpected, bind, Except.bind]
    by_cases hbroken : r.content_sha256 ≠ expected ∨ r.previous_version_sha256 ≠ p
    · rw [if_pos hbroken]
      exact .inr ⟨_, rfl⟩
    · rw [if_neg hbroken]
      simp only [not_or, not_not] at hbroken
      rcases ih (p := some r.content_sha256) fun x hx => hserial x (List.mem_cons_of_mem _ hx) with
        hrest | hrest
      · exact .inl ⟨by rw [Digested, hexpected, hbroken.1], hbroken.2, hrest⟩
      · exact .inr hrest

theorem verified_of_linked {v : Nat} (hlinked : Linked versionLinks p v l)
    (hdigested : ∀ r ∈ l, Digested r) : Verified p l := by
  induction l generalizing p v with
  | nil => trivial
  | cons r rest ih =>
    obtain ⟨-, hprevious, hrest⟩ := hlinked
    exact ⟨hdigested r List.mem_cons_self, hprevious,
      ih hrest fun x hx => hdigested x (List.mem_cons_of_mem _ hx)⟩

end

/-! ## Between two calls -/

/-- The versions of a document, in the order in which they were saved. -/
def rowsOf (w : Knowledge Uuid) (document_id : Uuid) : List (Version Uuid) :=
  w.versions.values.filter (·.document_id = document_id)

structure Recorded (w : Knowledge Uuid) (document_id : Uuid)
    (document : TenantKnowledgeDocumentRecord Uuid) : Prop where
  keyed : document.document_id = document_id
  named : (strip document.tenant_id).isEmpty = false
  positive : 1 ≤ document.version
  current : document.version = (rowsOf w document_id).length
  owned : ∀ r ∈ rowsOf w document_id, r.tenant_id = document.tenant_id

structure Chronicle (w : Knowledge Uuid) : Prop where
  keyed : ∀ k r, w.versions.get? k = some r → k = (r.document_id, r.version)
  digested : ∀ k r, w.versions.get? k = some r → Digested r
  linked : ∀ document_id, Linked versionLinks none 1 (rowsOf w document_id)
  recorded : ∀ document_id d, w.documents.get? document_id = some d → Recorded w document_id d
  unrecorded : ∀ document_id, w.documents.get? document_id = none → rowsOf w document_id = []

omit [Stdlib Uuid] [Sha256] in
theorem mem_rowsOf : r ∈ rowsOf w document_id ↔
    (∃ k, w.versions.get? k = some r) ∧ r.document_id = document_id := by
  simp [rowsOf, Dict.mem_values_iff]

instance : Std.Total fun a b : Version Uuid => versionListedBefore a b = true where
  total a b := by
    simp only [versionListedBefore]
    by_cases h : Stdlib.str a.document_id = Stdlib.str b.document_id
    · rw [if_pos h, if_pos h.symm]
      simp only [decide_eq_true_eq]
      omega
    · rw [if_neg h, if_neg (Ne.symm h)]
      exact textLe_total _ _

/-- The versions that the check walks through, before they are sorted. -/
def listed (w : Knowledge Uuid) (tenant_id : String) (document_id : Uuid) : List (Version Uuid) :=
  list_knowledge_document_versions w { document_id := some document_id } tenant_id

omit [Sha256] in
theorem listed_eq (hlinked : Linked versionLinks none 1 (rowsOf w document_id)) :
    listed w tenant_id document_id =
      (rowsOf w document_id).filter (·.tenant_id = tenant_id) := by
  have hrows : (w.versions.values.filter fun r =>
      r.tenant_id = tenant_id && (some document_id).all (r.document_id = ·) && true && true && true) =
      (rowsOf w document_id).filter (·.tenant_id = tenant_id) := by
    rw [rowsOf, List.filter_filter]
    refine List.filter_congr fun r _ => ?_
    simp
  have hsorted : ((rowsOf w document_id).filter (·.tenant_id = tenant_id)).Pairwise
      fun a b => versionListedBefore a b = true := by
    refine List.Pairwise.imp_of_mem ?_ (hlinked.pairwise.filter _)
    intro a b ha hb hlt
    have hdocument : a.document_id = b.document_id :=
      (mem_rowsOf.mp (List.mem_filter.mp ha).1).2.trans
        (mem_rowsOf.mp (List.mem_filter.mp hb).1).2.symm
    simp only [versionListedBefore, hdocument, if_true, decide_eq_true_eq]
    exact Nat.le_of_lt hlt
  simp only [listed, list_knowledge_document_versions, Option.all_none, List.drop_zero]
  rw [hrows, hsorted.insertionSort_eq]

namespace Chronicle

variable (hw : Chronicle w)

include hw

theorem digested_of_mem (hr : r ∈ rowsOf w document_id) : Digested r := by
  obtain ⟨⟨k, hk⟩, -⟩ := mem_rowsOf.mp hr
  exact hw.digested k r hk

theorem listed_cases : listed w tenant_id document_id = rowsOf w document_id ∨
    listed w tenant_id document_id = [] := by
  rw [listed_eq (hw.linked document_id)]
  cases hget : w.documents.get? document_id with
  | none => simp [hw.unrecorded document_id hget]
  | some d =>
    have howned := (hw.recorded document_id d hget).owned
    by_cases htenant : d.tenant_id = tenant_id
    · exact .inl (List.filter_eq_self.mpr fun r hr => by simp [howned r hr, htenant])
    · exact .inr (List.filter_eq_nil_iff.mpr fun r hr => by simp [howned r hr, htenant])

variable (tenant_id document_id) in
theorem linked_listed : Linked versionLinks none 1 (listed w tenant_id document_id) := by
  rcases hw.listed_cases with h | h
  · rw [h]
    exact hw.linked document_id
  · rw [h]
    trivial

theorem digested_listed (hr : r ∈ listed w tenant_id document_id) : Digested r := by
  rw [listed_eq (hw.linked document_id)] at hr
  exact hw.digested_of_mem (List.mem_filter.mp hr).1

theorem verify : verify_chronology_chain w tenant_id document_id = .ok { valid := true } := by
  have hlinked := hw.linked_listed document_id tenant_id
  have hsorted : (listed w tenant_id document_id).Pairwise fun a b => a.version ≤ b.version :=
    hlinked.pairwise.imp Nat.le_of_lt
  unfold verify_chronology_chain
  change verifyVersions none ((listed w tenant_id document_id).insertionSort _) = _
  rw [hsorted.insertionSort_eq]
  exact verifyVersions_of_verified (verified_of_linked hlinked fun r hr => hw.digested_listed hr)

end Chronicle

/-! ## A change behind the back of the calls -/

/-- What is written over a version: its digest stays, and so does what else the digest is of. -/
structure Alteration where
  version : Nat
  title : String
  content : String
  status : TenantKnowledgeDocumentStatus
  previous_version_sha256 : Option String

def Alteration.apply (a : Alteration) (r : Version Uuid) : Version Uuid :=
  { r with
    version := a.version
    title := a.title
    content := a.content
    status := a.status
    previous_version_sha256 := a.previous_version_sha256 }

/-- `w'` has the versions of the document that `w` has, some of them altered. -/
def Altered (w w' : Knowledge Uuid) (tenant_id : String) (document_id : Uuid) : Prop :=
  ∃ alter : Version Uuid → Alteration,
    (listed w' tenant_id document_id).Perm
      ((listed w tenant_id document_id).map fun r => (alter r).apply r) ∧
    ∃ r ∈ listed w tenant_id document_id, (alter r).apply r ≠ r

instance : Std.Total fun a b : Version Uuid => a.version ≤ b.version :=
  ⟨fun _ _ => Nat.le_total _ _⟩

instance : IsTrans (Version Uuid) fun a b => a.version ≤ b.version :=
  ⟨fun _ _ _ => Nat.le_trans⟩

omit [DecidableEq Uuid] in
theorem previous_of_verified {v : Nat} {alter : Version Uuid → Alteration}
    (hlinked : Linked versionLinks p v l)
    (hverified : Verified p (l.map fun r => (alter r).apply r)) :
    ∀ r ∈ l, (alter r).previous_version_sha256 = r.previous_version_sha256 := by
  induction l generalizing p v with
  | nil => simp
  | cons r rest ih =>
    obtain ⟨-, hprevious, hrest⟩ := hlinked
    obtain ⟨-, hprevious', hrest'⟩ := hverified
    intro x hx
    rcases List.mem_cons.mp hx with rfl | hx
    · exact hprevious'.trans hprevious.symm
    · exact ih hrest hrest' x hx

omit [DecidableEq Uuid] in
theorem digested_of_verified (h : Verified p l) : ∀ r ∈ l, Digested r := by
  induction l generalizing p with
  | nil => simp
  | cons r rest ih =>
    intro x hx
    rcases List.mem_cons.mp hx with rfl | hx
    · exact h.1
    · exact ih h.2.2 x hx

theorem Chronicle.verify_altered (hw : Chronicle w) (hfree : Function.Injective sha256_text)
    (haltered : Altered w w' tenant_id document_id) :
    ∃ n, verify_chronology_chain w' tenant_id document_id =
      .ok { valid := false, broken_at_version := some n } := by
  obtain ⟨alter, hperm, r, hr, hne⟩ := haltered
  set l := listed w tenant_id document_id with hl
  set l' := (listed w' tenant_id document_id).insertionSort fun a b => a.version ≤ b.version with hl'
  have hperm' : l'.Perm (l.map fun r => (alter r).apply r) :=
    (List.perm_insertionSort _ _).trans hperm
  have hserial : ∀ x ∈ l', ∃ digest, knowledge_version_content_sha256 x = .ok digest := by
    intro x hx
    obtain ⟨y, hy, rfl⟩ := List.mem_map.mp (hperm'.mem_iff.mp hx)
    refine canonical_sha256_isOk ?_
    have hmetadata := serializable_metadata (hw.digested_listed hy)
    simp [versionPayload, serializableItems, serializable, Alteration.apply, hmetadata]
  rcases verifyVersions_spec (p := none) hserial with hverified | hbroken
  · refine absurd ?_ hne
    have hsame : ∀ x ∈ l, (alter x).version = x.version ∧ (alter x).title = x.title ∧
        (alter x).content = x.content ∧ (alter x).status = x.status := fun x hx =>
      eq_of_digest hfree (digested_of_verified hverified _
        (hperm'.mem_iff.mpr (List.mem_map_of_mem hx))) (hw.digested_listed hx)
    have hlinked : Linked versionLinks none 1 l := hw.linked_listed _ _
    -- No number changed, so the versions are still in the order of the chain.
    have heq : l' = l.map fun r => (alter r).apply r := by
      refine List.Perm.eq_of_pairwise ?_ (List.pairwise_insertionSort _ _) ?_ hperm'
      · intro a b ha hb hab hba
        obtain ⟨x, hx, rfl⟩ := List.mem_map.mp (hperm'.mem_iff.mp ha)
        obtain ⟨y, hy, rfl⟩ := List.mem_map.mp hb
        have hversion : x.version = y.version :=
          (hsame x hx).1.symm.trans ((Nat.le_antisymm hab hba).trans (hsame y hy).1)
        rw [hlinked.eq_of_version hx hy hversion]
      · rw [List.pairwise_map]
        refine hlinked.pairwise.imp_of_mem fun {a b} ha hb hlt => ?_
        change (alter a).version ≤ (alter b).version
        rw [(hsame a ha).1, (hsame b hb).1]
        exact Nat.le_of_lt hlt
    rw [heq] at hverified
    have hprevious := previous_of_verified hlinked hverified r hr
    obtain ⟨hversion, htitle, hcontent, hstatus⟩ := hsame r hr
    rw [Alteration.apply, hversion, htitle, hcontent, hstatus, hprevious]
  · exact hbroken

/-! ## What one step may do -/

structure VersionOf (r : Version Uuid) (d : TenantKnowledgeDocumentRecord Uuid)
    (previous_version_sha256 : Option String) : Prop where
  document : r.document_id = d.document_id
  owner : r.tenant_id = d.tenant_id
  version : r.version = d.version
  previous : r.previous_version_sha256 = previous_version_sha256
  digested : Digested r

section

variable {d d' : TenantKnowledgeDocumentRecord Uuid} {source_approval_id : String}
  {previous : Option String} {now : Instant} {metadata : Payload Uuid}

omit [DecidableEq Uuid] in
theorem versionOf_of_ok (h : version_record_from_document d source_approval_id previous now metadata =
    .ok r) : VersionOf r d previous := by
  simp only [version_record_from_document, bind_eq_ok] at h
  obtain ⟨digest, hdigest, id, -, h⟩ := h
  cases h
  exact ⟨rfl, rfl, rfl, rfl, hdigest⟩

omit [DecidableEq Uuid] in
variable (source_approval_id previous now) in
theorem version_record_isOk (hnamed : (strip d.tenant_id).isEmpty = false) (hversion : 1 ≤ d.version)
    (hserial : serializableItems metadata) :
    ∃ r, version_record_from_document d source_approval_id previous now metadata = .ok r := by
  have hserial' : serializableItems (versionPayload d.tenant_id d.document_id d.version d.title
      d.content d.document_type d.status d.uploaded_by source_approval_id
      (metadata ++ [(key "review_status", .str d.review_status.value)])) := by
    simp [versionPayload, serializableItems, serializable, serializableItems_append, hserial]
  obtain ⟨digest, hdigest⟩ := canonical_sha256_isOk hserial'
  have hid : ∃ id, derive_knowledge_document_version_id d.tenant_id d.document_id d.version =
      .ok id := by
    unfold derive_knowledge_document_version_id coerce_tenant_id
    rw [if_neg (by simp [hnamed])]
    exact ⟨_, if_neg (Nat.not_lt.mpr hversion)⟩
  obtain ⟨id, hid⟩ := hid
  simp only [version_record_from_document, knowledge_document_content_sha256, hdigest, hid, bind,
    Except.bind]
  exact ⟨_, rfl⟩

theorem Chronicle.resave (hw : Chronicle w) (hget : w.documents.get? document_id = some d)
    (hid : d'.document_id = d.document_id) (htenant : d'.tenant_id = d.tenant_id)
    (hversion : d'.version = d.version) :
    Chronicle { w with documents := w.documents.set document_id d' } where
  keyed := hw.keyed
  digested := hw.digested
  linked := hw.linked
  recorded id x hx := by
    rcases Dict.get?_set_cases hx with ⟨rfl, rfl⟩ | ⟨-, hx⟩
    · have hd := hw.recorded id d hget
      exact ⟨hid.trans hd.keyed, htenant ▸ hd.named, hversion ▸ hd.positive,
        hversion.trans hd.current, htenant ▸ hd.owned⟩
    · obtain ⟨hkeyed, hnamed, hpositive, hcurrent, howned⟩ := hw.recorded id x hx
      exact ⟨hkeyed, hnamed, hpositive, hcurrent, howned⟩
  unrecorded id hnone := by
    rw [Dict.get?_set] at hnone
    split at hnone
    · cases hnone
    · exact hw.unrecorded id hnone

theorem Chronicle.fresh (hw : Chronicle w) :
    w.versions.get? (document_id, (rowsOf w document_id).length + 1) = none := by
  cases hget : w.versions.get? (document_id, (rowsOf w document_id).length + 1) with
  | none => rfl
  | some x =>
    have hkey := hw.keyed _ x hget
    simp only [Prod.mk.injEq] at hkey
    have hmem : x ∈ rowsOf w document_id := mem_rowsOf.mpr ⟨⟨_, hget⟩, hkey.1.symm⟩
    have hlt := ((hw.linked document_id).version_mem hmem).2
    have hversion : versionLinks.version x = (rowsOf w document_id).length + 1 := hkey.2.symm
    omega

/-- The next version of a document joins those before it. -/
theorem Chronicle.append (hw : Chronicle w) (hnamed : (strip d.tenant_id).isEmpty = false)
    (howned : ∀ x ∈ rowsOf w d.document_id, x.tenant_id = d.tenant_id)
    (hversion : d.version = (rowsOf w d.document_id).length + 1)
    (hr : VersionOf r d ((rowsOf w d.document_id).getLast?.map (·.content_sha256))) :
    Chronicle ⟨w.documents.set d.document_id d, w.versions.set (d.document_id, d.version) r⟩ := by
  have hfresh : w.versions.get? (d.document_id, d.version) = none := hversion ▸ hw.fresh
  have hrows : ∀ id, rowsOf ⟨w.documents.set d.document_id d,
      w.versions.set (d.document_id, d.version) r⟩ id =
      rowsOf w id ++ if d.document_id = id then [r] else [] := by
    intro id
    simp only [rowsOf]
    rw [Dict.values_set_fresh hfresh, List.filter_append, List.filter_singleton, hr.document]
    by_cases hid : d.document_id = id <;> simp [hid]
  refine ⟨?_, ?_, ?_, ?_, ?_⟩
  · intro k x hx
    rcases Dict.get?_set_cases hx with ⟨rfl, rfl⟩ | ⟨-, hx⟩
    · rw [hr.document, hr.version]
    · exact hw.keyed k x hx
  · intro k x hx
    rcases Dict.get?_set_cases hx with ⟨rfl, rfl⟩ | ⟨-, hx⟩
    · exact hr.digested
    · exact hw.digested k x hx
  · intro id
    rw [hrows]
    split
    · rename_i hid
      subst hid
      refine linked_concat.mpr ⟨hw.linked _, ?_, ?_⟩
      · change r.version = _
        rw [hr.version, hversion, Nat.add_comm]
      · change r.previous_version_sha256 = _
        rw [hr.previous, Option.or_none]
        rfl
    · rw [List.append_nil]
      exact hw.linked id
  · intro id x hx
    rcases Dict.get?_set_cases hx with ⟨rfl, rfl⟩ | ⟨hne, hx⟩
    · refine ⟨rfl, hnamed, by omega, ?_, ?_⟩
      · rw [hrows, if_pos rfl, List.length_append, List.length_singleton, hversion]
      · intro y hy
        rw [hrows, if_pos rfl, List.mem_append, List.mem_singleton] at hy
        rcases hy with hy | rfl
        · exact howned y hy
        · exact hr.owner
    · have hx := hw.recorded id x hx
      have hsame : rowsOf ⟨w.documents.set d.document_id d,
          w.versions.set (d.document_id, d.version) r⟩ id = rowsOf w id := by
        rw [hrows, if_neg hne, List.append_nil]
      exact ⟨hx.keyed, hx.named, hx.positive, hsame ▸ hx.current, hsame ▸ hx.owned⟩
  · intro id hnone
    rw [Dict.get?_set] at hnone
    split at hnone
    · cases hnone
    · rename_i hne
      rw [hrows, if_neg hne, List.append_nil]
      exact hw.unrecorded id hnone

theorem Chronicle.existing (hw : Chronicle w)
    (hown : ∀ e, w.documents.get? document_id = some e → e.tenant_id = tenant_id) :
    ((get_knowledge_document w document_id tenant_id).map (·.version + 1)).getD 1 =
        (rowsOf w document_id).length + 1 ∧
      (∀ x ∈ rowsOf w document_id, x.tenant_id = tenant_id) ∧
      (get_knowledge_document w document_id tenant_id).bind (fun e =>
        get_knowledge_document_version w e.document_id e.version tenant_id) =
        (rowsOf w document_id).getLast? := by
  cases hget : w.documents.get? document_id with
  | none =>
    simp [get_knowledge_document, hget, hw.unrecorded document_id hget]
  | some e =>
    have htenant := hown e hget
    have he := hw.recorded document_id e hget
    have hfound : get_knowledge_document w document_id tenant_id = some e := by
      simp [get_knowledge_document, hget, htenant]
    have hpositive := he.positive
    rw [he.current] at hpositive
    obtain ⟨last, hlast⟩ := Option.isSome_iff_exists.mp
      (List.getLast?_isSome.mpr (List.ne_nil_of_length_pos hpositive))
    have hmem := List.mem_of_getLast? hlast
    obtain ⟨⟨k, hk⟩, hdocument⟩ := mem_rowsOf.mp hmem
    have hversion : last.version + 1 = 1 + (rowsOf w document_id).length :=
      (hw.linked document_id).last_version hlast
    have hkey : k = (e.document_id, e.version) := by
      rw [hw.keyed k last hk, hdocument, he.keyed, he.current]
      congr 1
      omega
    refine ⟨by rw [hfound, Option.map_some, Option.getD_some, he.current],
      fun x hx => (he.owned x hx).trans htenant, ?_⟩
    rw [hfound, Option.bind_some, hlast]
    simp [get_knowledge_document_version, ← hkey, hk, he.owned last hmem, htenant]

omit [DecidableEq Uuid] [Stdlib Uuid] [Sha256] in
theorem run_save_knowledge_document [DecidableEq Uuid] (w : Knowledge Uuid)
    (htenant : d.tenant_id = tenant_id) : run (save_knowledge_document d tenant_id) w =
      (.ok (), { w with documents := w.documents.set d.document_id d }) := by
  have hwrite : assert_write_tenant d.tenant_id tenant_id = .ok () := if_neg (not_not.mpr htenant)
  simp [save_knowledge_document, run_bind, hwrite]

omit [DecidableEq Uuid] [Stdlib Uuid] [Sha256] in
theorem run_save_knowledge_document_version [DecidableEq Uuid]
    {documents : Dict Uuid (TenantKnowledgeDocumentRecord Uuid)} {versions : Dict (Uuid × Nat) (Version Uuid)}
    (htenant : r.tenant_id = tenant_id)
    (hfresh : versions.get? (r.document_id, r.version) = none) :
    run (save_knowledge_document_version r tenant_id) ⟨documents, versions⟩ =
      (.ok (), ⟨documents, versions.set (r.document_id, r.version) r⟩) := by
  have hwrite : assert_write_tenant r.tenant_id tenant_id = .ok () := if_neg (not_not.mpr htenant)
  simp [save_knowledge_document_version, run_bind, hwrite, hfresh]

theorem Chronicle.record (hw : Chronicle w) (hnamed : (strip d.tenant_id).isEmpty = false)
    (howned : ∀ x ∈ rowsOf w d.document_id, x.tenant_id = d.tenant_id)
    (hversion : d.version = (rowsOf w d.document_id).length + 1)
    (hprevious : previous = (rowsOf w d.document_id).getLast?.map (·.content_sha256))
    (hserial : serializableItems metadata) :
    Chronicle (run (record_knowledge_document_version d source_approval_id previous metadata now)
      { w with documents := w.documents.set d.document_id d }).2 := by
  obtain ⟨r, hr⟩ := version_record_isOk source_approval_id previous now hnamed (Nat.le_of_lt_succ (by omega)) hserial
  have hof := versionOf_of_ok hr
  have hfresh : w.versions.get? (r.document_id, r.version) = none := by
    rw [hof.document, hof.version, hversion]
    exact hw.fresh
  unfold record_knowledge_document_version
  rw [run_bind, run_lift, hr]
  simp only
  rw [run_save_knowledge_document_version hof.owner hfresh]
  rw [hprevious] at hof
  rw [hof.document, hof.version]
  exact hw.append hnamed howned hversion hof

theorem Chronicle.publish (hw : Chronicle w) (htenant : d.tenant_id = tenant_id)
    (hnamed : (strip d.tenant_id).isEmpty = false)
    (howned : ∀ x ∈ rowsOf w d.document_id, x.tenant_id = d.tenant_id)
    (hversion : d.version = (rowsOf w d.document_id).length + 1)
    (hprevious : previous = (rowsOf w d.document_id).getLast?.map (·.content_sha256)) :
    Chronicle (run (publish tenant_id d source_approval_id previous now metadata) w).2 := by
  unfold tenant.publish
  rw [run_bind, run_lift]
  cases hr : version_record_from_document d source_approval_id previous now metadata with
  | error e => exact hw
  | ok r =>
    have hof := versionOf_of_ok hr
    have hfresh : w.versions.get? (r.document_id, r.version) = none := by
      rw [hof.document, hof.version, hversion]
      exact hw.fresh
    simp only
    rw [run_bind, run_save_knowledge_document w htenant]
    simp only
    rw [run_save_knowledge_document_version (hof.owner.trans htenant) hfresh]
    rw [hprevious] at hof
    rw [hof.document, hof.version]
    exact hw.append hnamed howned hversion hof

end

end

end operious.tenant
