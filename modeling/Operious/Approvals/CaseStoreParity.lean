-- When the two stores of case approvals agree: the dicts have no guard on a claim that is resolved, no checks
-- and no foreign keys, keep the key that a case was moved off, and list by time alone.
import Operious.Approvals.CaseStores
import Operious.Lib.Indexes
import Operious.Lib.Pages
import Mathlib.Data.String.Basic

namespace operious.approvals.persistence

open runs

variable {Uuid Details : Type}

/-! ## Calls of both stores -/

inductive CaseStoreCall (Uuid Details : Type)
  | create_case (record : CaseApprovalRecord Uuid Details) (expected_tenant_id : String)
  | update_case (record : CaseApprovalRecord Uuid Details) (expected_tenant_id : String)
  | list_cases (query : CaseApprovalQuery Uuid) (expected_tenant_id : String)
  | save_outbox (record : CaseApprovalOutboxRecord Uuid) (expected_tenant_id : String)
  | republish_outbox (record : CaseApprovalOutboxRecord Uuid) (expected_tenant_id : String)
  | claim_outbox (approval_case_id : Uuid) (publisher_id : String) (claim_id : Uuid)
      (claimed_at : Instant) (expected_tenant_id : String)
  | mark_outbox_published (outbox_id claim_id : Uuid) (published_at : Instant)
      (expected_tenant_id : String)
  | mark_outbox_failed (outbox_id claim_id : Uuid) (error : String) (failed_at : Instant)
      (dead_letter : Bool) (expected_tenant_id : String)
  | list_outbox (query : CaseApprovalOutboxQuery) (expected_tenant_id : Option String)

inductive CaseStoreAnswer (Uuid Details : Type)
  | case_record (record : CaseApprovalRecord Uuid Details)
  | cases (page : Page (CaseApprovalRecord Uuid Details))
  | outbox_record (record : CaseApprovalOutboxRecord Uuid)
  | claim (record : Option (CaseApprovalOutboxRecord Uuid))
  | outbox (page : Page (CaseApprovalOutboxRecord Uuid))
  deriving DecidableEq

def answered {α β σ : Type} (wrap : α → β) (r : Except CaseStoreError α × σ) :
    Except CaseStoreError β × σ := (r.1.map wrap, r.2)

section

variable [LinearOrder Uuid] [Stdlib Uuid]

def InMemoryCaseApprovalPersistence.call (s : InMemoryCaseApprovalPersistence Uuid Details) :
    CaseStoreCall Uuid Details →
      Except CaseStoreError (CaseStoreAnswer Uuid Details) × InMemoryCaseApprovalPersistence Uuid Details
  | .create_case record tenant => answered .case_record (s.create_case record tenant)
  | .update_case record tenant => answered .case_record (s.update_case record tenant)
  | .list_cases query tenant => (.ok (.cases (s.list_cases query tenant)), s)
  | .save_outbox record tenant => answered .outbox_record (s.save_outbox record tenant)
  | .republish_outbox record tenant => answered .outbox_record (s.republish_outbox record tenant)
  | .claim_outbox case publisher claim claimed_at tenant =>
    answered .claim (s.claim_outbox case publisher claim claimed_at tenant)
  | .mark_outbox_published outbox claim published_at tenant =>
    answered .outbox_record (s.mark_outbox_published outbox claim published_at tenant)
  | .mark_outbox_failed outbox claim error failed_at dead_letter tenant =>
    answered .outbox_record (s.mark_outbox_failed outbox claim error failed_at dead_letter tenant)
  | .list_outbox query tenant => (.ok (.outbox (s.list_outbox query tenant)), s)

variable (references : References Uuid Details)

def PostgresCaseApprovalPersistence.call (s : PostgresCaseApprovalPersistence Uuid Details) :
    CaseStoreCall Uuid Details →
      Except CaseStoreError (CaseStoreAnswer Uuid Details) × PostgresCaseApprovalPersistence Uuid Details
  | .create_case record tenant => answered .case_record (s.create_case references record tenant)
  | .update_case record tenant => answered .case_record (s.update_case references record tenant)
  | .list_cases query tenant => ((s.list_cases query tenant).map .cases, s)
  | .save_outbox record tenant => answered .outbox_record (s.save_outbox references record tenant)
  | .republish_outbox record tenant =>
    answered .outbox_record (s.republish_outbox references record tenant)
  | .claim_outbox case publisher claim claimed_at tenant =>
    answered .claim (s.claim_outbox case publisher claim claimed_at tenant)
  | .mark_outbox_published outbox claim published_at tenant =>
    answered .outbox_record (s.mark_outbox_published outbox claim published_at tenant)
  | .mark_outbox_failed outbox claim error failed_at dead_letter tenant =>
    answered .outbox_record (s.mark_outbox_failed outbox claim error failed_at dead_letter tenant)
  | .list_outbox query tenant => ((s.list_outbox query tenant).map .outbox, s)

/-- The two stores, side by side. -/
structure CaseStores (Uuid Details : Type) where
  memory : InMemoryCaseApprovalPersistence Uuid Details := {}
  postgres : PostgresCaseApprovalPersistence Uuid Details := {}

def CaseStores.next (w : CaseStores Uuid Details) (c : CaseStoreCall Uuid Details) :
    Option (CaseStores Uuid Details) :=
  some { memory := (w.memory.call c).2, postgres := (w.postgres.call references c).2 }

/-- Both stores reject a call, or both return the same. -/
def Agree (w : CaseStores Uuid Details) (c : CaseStoreCall Uuid Details) (_ : CaseStores Uuid Details) :
    Prop :=
  (w.memory.call c).1.toOption = (w.postgres.call references c).1.toOption

/-! ## The condition -/

/-- The bounds of a page that the tables allow. -/
def Bounded (limit offset : Int) : Prop := 0 ≤ offset ∧ 1 ≤ limit ∧ limit ≤ 500

instance (limit offset : Int) : Decidable (Bounded limit offset) :=
  inferInstanceAs (Decidable (_ ∧ _ ∧ _))

/-- The order of the cases in memory, and the one of the table. -/
def newness (record : CaseApprovalRecord Uuid Details) : (Instant ×ₗ Uuid)ᵒᵈ :=
  OrderDual.toDual (toLex (record.requested_at, record.approval_case_id))

def urgency (record : CaseApprovalRecord Uuid Details) : ℕ ×ₗ (Instant ×ₗ Uuid)ᵒᵈ :=
  toLex (statusRank record.status, newness record)

/-- Each case of a page has as many of the matching ones in front of it by status as by time. -/
def SameFront (cases : List (CaseApprovalRecord Uuid Details)) (limit offset : Int) : Prop :=
  ∀ record ∈ cases, offset ≤ cases.countP (newness · < newness record) →
    cases.countP (newness · < newness record) < offset + limit →
      cases.countP (urgency · < urgency record) = cases.countP (newness · < newness record)

def CallClean (w : CaseStores Uuid Details) : CaseStoreCall Uuid Details → Prop
  | .create_case record tenant => record.tenant_id = tenant →
      (w.postgres.get_case_by_dedup_key record.dedup_key tenant).isSome ∨
        (w.memory.dedup.get? (tenant, record.dedup_key) = none ∧
          PostgresCaseApprovalPersistence.storable references record = true ∧
          w.postgres.cases.all (·.approval_case_id ≠ record.approval_case_id) = true)
  | .update_case record tenant => record.tenant_id = tenant →
      (w.postgres.cases.any fun row => row.approval_case_id = record.approval_case_id &&
          row.tenant_id = tenant) = true →
        PostgresCaseApprovalPersistence.storable references record = true ∧
          (w.postgres.cases.any fun row => row.approval_case_id ≠ record.approval_case_id &&
            row.tenant_id = tenant && row.dedup_key = record.dedup_key) = false
  | .list_cases query tenant => Bounded query.limit query.offset ∧
      SameFront (w.postgres.cases.filter (matches_case query tenant)) query.limit query.offset
  | .save_outbox record tenant | .republish_outbox record tenant => record.tenant_id = tenant →
      (w.postgres.get_outbox_by_case record.approval_case_id tenant).isSome ∨
        w.postgres.insertsOutbox references record = true
  | .claim_outbox .. => True
  | .mark_outbox_published outbox claim _ tenant | .mark_outbox_failed outbox claim _ _ _ tenant =>
      ∀ row ∈ w.postgres.outbox, row.outbox_id = outbox → row.tenant_id = tenant →
        row.claim_id = some claim → row.status = .publishing
  | .list_outbox query _ => Bounded query.limit query.offset

end

/-! ## The dicts and the tables -/

/-- The dicts have their values under their ids, and each case and each outbox row under its further key.
A key that a case was moved off may still lead to it. -/
structure Indexed [DecidableEq Uuid] (s : InMemoryCaseApprovalPersistence Uuid Details) : Prop where
  case_id : ∀ k r, s.cases.get? k = some r → r.approval_case_id = k
  dedup : ∀ k r, s.cases.get? k = some r → s.dedup.get? (r.tenant_id, r.dedup_key) = some k
  dedup_case : ∀ key k, s.dedup.get? key = some k → (s.cases.get? k).isSome
  outbox_id : ∀ k o, s.outbox_by_id.get? k = some o → o.outbox_id = k
  outbox_case : Dict.IndexOn (fun o => some o.approval_case_id) s.outbox_by_id s.outbox_by_case

section

variable [LinearOrder Uuid] {w : CaseStores Uuid Details} {tenant : String}

/-- The stores hold the same rows. -/
structure Sound (w : CaseStores Uuid Details) : Prop where
  indexed : Indexed w.memory
  cases : w.memory.cases.values = w.postgres.cases
  outbox : w.memory.outbox_by_id.values = w.postgres.outbox

theorem Sound.outbox_by_case (h : Sound w) (id : Uuid) (tenant : String) :
    w.memory.get_outbox_by_case id tenant = w.postgres.get_outbox_by_case id tenant := by
  unfold InMemoryCaseApprovalPersistence.get_outbox_by_case
    PostgresCaseApprovalPersistence.get_outbox_by_case
  rw [← h.indexed.outbox_case.find_and, h.outbox]
  simp

theorem Sound.outbox_by_id (h : Sound w) (id : Uuid) (tenant : String) :
    (w.memory.outbox_by_id.get? id).filter (·.tenant_id = tenant) =
      w.postgres.outbox.find? fun row => row.outbox_id = id && row.tenant_id = tenant := by
  rw [← Dict.find?_name_and h.indexed.outbox_id, h.outbox]

theorem Sound.case_row (h : Sound w) {row : CaseApprovalRecord Uuid Details}
    (hrow : row ∈ w.postgres.cases) : w.memory.cases.get? row.approval_case_id = some row := by
  rw [← h.cases] at hrow
  obtain ⟨k, hk⟩ := (Dict.mem_values_iff _ row).mp hrow
  rwa [h.indexed.case_id k row hk]

variable {row : CaseApprovalOutboxRecord Uuid}

theorem Sound.outbox_row (h : Sound w) (hrow : row ∈ w.postgres.outbox) :
    w.memory.outbox_by_id.get? row.outbox_id = some row := by
  rw [← h.outbox] at hrow
  obtain ⟨k, hk⟩ := (Dict.mem_values_iff _ row).mp hrow
  rwa [h.indexed.outbox_id k row hk]

variable {s : PostgresCaseApprovalPersistence Uuid Details}

omit [LinearOrder Uuid] in
theorem of_case_by_dedup_key {dedup_key : String} {row : CaseApprovalRecord Uuid Details}
    (h : s.get_case_by_dedup_key dedup_key tenant = some row) :
    row ∈ s.cases ∧ row.dedup_key = dedup_key ∧ row.tenant_id = tenant := by
  unfold PostgresCaseApprovalPersistence.get_case_by_dedup_key at h
  have hfound := List.find?_some h
  simp only [Bool.and_eq_true, decide_eq_true_eq] at hfound
  exact ⟨List.mem_of_find?_eq_some h, hfound⟩

theorem Sound.case_by_dedup_key (h : Sound w) {dedup_key : String}
    {row : CaseApprovalRecord Uuid Details}
    (hrow : w.postgres.get_case_by_dedup_key dedup_key tenant = some row) :
    w.memory.dedup.get? (tenant, dedup_key) = some row.approval_case_id ∧
      w.memory.cases.get? row.approval_case_id = some row := by
  obtain ⟨hmem, rfl, rfl⟩ := of_case_by_dedup_key hrow
  have hcase := h.case_row hmem
  exact ⟨h.indexed.dedup _ _ hcase, hcase⟩

/-! ## Changes of both -/

section

variable {record : CaseApprovalRecord Uuid Details}

theorem Indexed.set_case {s : InMemoryCaseApprovalPersistence Uuid Details} (h : Indexed s)
    (hkey : ∀ k r, s.cases.get? k = some r → k ≠ record.approval_case_id →
      (record.tenant_id, record.dedup_key) ≠ (r.tenant_id, r.dedup_key)) :
    Indexed { s with
      cases := s.cases.set record.approval_case_id record
      dedup := s.dedup.set (record.tenant_id, record.dedup_key) record.approval_case_id } where
  case_id k r hr := by
    rcases Dict.get?_set_cases hr with ⟨hk, rfl⟩ | ⟨-, hold⟩
    · exact hk.symm
    · exact h.case_id k r hold
  dedup k r hr := by
    rcases Dict.get?_set_cases hr with ⟨rfl, rfl⟩ | ⟨hne, hold⟩
    · exact Dict.get?_set_self _ _ _
    · rw [Dict.get?_set_ne _ _ (hkey k r hold (Ne.symm hne))]
      exact h.dedup k r hold
  dedup_case key k hk := by
    change ((s.cases.set record.approval_case_id record).get? k).isSome
    rw [Dict.get?_set]
    split_ifs with hsame
    · rfl
    · rcases Dict.get?_set_cases hk with ⟨-, rfl⟩ | ⟨-, hold⟩
      · exact absurd rfl hsame
      · exact h.dedup_case key k hold
  outbox_id := h.outbox_id
  outbox_case := h.outbox_case

theorem Sound.insert_case (h : Sound w)
    (hkey : w.memory.dedup.get? (record.tenant_id, record.dedup_key) = none)
    (hid : ∀ row ∈ w.postgres.cases, row.approval_case_id ≠ record.approval_case_id) :
    @Sound Uuid Details _
      { memory := { w.memory with
          cases := w.memory.cases.set record.approval_case_id record
          dedup := w.memory.dedup.set (record.tenant_id, record.dedup_key) record.approval_case_id }
        postgres := { w.postgres with cases := w.postgres.cases ++ [record] } } := by
  refine ⟨h.indexed.set_case fun k r hold _ hsame => ?_, ?_, h.outbox⟩
  · rw [hsame, h.indexed.dedup k r hold] at hkey
    cases hkey
  · change (w.memory.cases.set record.approval_case_id record).values = _
    rw [Dict.values_set_fresh ?_, h.cases]
    refine Option.eq_none_iff_forall_ne_some.mpr fun row hget => ?_
    have hmem := (Dict.mem_values_iff _ row).mpr ⟨_, hget⟩
    rw [h.cases] at hmem
    exact hid row hmem (h.indexed.case_id _ _ hget)

theorem Sound.put_case (h : Sound w) {row : CaseApprovalRecord Uuid Details}
    (hrow : w.memory.cases.get? record.approval_case_id = some row)
    (hkey : ∀ other ∈ w.postgres.cases, other.approval_case_id ≠ record.approval_case_id →
      other.tenant_id = record.tenant_id → other.dedup_key ≠ record.dedup_key) :
    @Sound Uuid Details _
      { memory := { w.memory with
          cases := w.memory.cases.set record.approval_case_id record
          dedup := w.memory.dedup.set (record.tenant_id, record.dedup_key) record.approval_case_id }
        postgres := { w.postgres with cases := w.postgres.cases.map fun row =>
          if row.approval_case_id = record.approval_case_id then record else row } } := by
  refine ⟨h.indexed.set_case fun k r hold hne hsame => ?_, ?_, h.outbox⟩
  · have hmem := (Dict.mem_values_iff _ r).mpr ⟨k, hold⟩
    rw [h.cases] at hmem
    rw [← h.indexed.case_id k r hold] at hne
    obtain ⟨htenant, hdedup⟩ := Prod.mk.inj hsame
    exact hkey r hmem hne htenant.symm hdedup.symm
  · change (w.memory.cases.set record.approval_case_id record).values = _
    rw [Dict.values_set_keyed h.indexed.case_id (by rw [hrow]; rfl), h.cases]

end

variable {record : CaseApprovalOutboxRecord Uuid}

theorem Sound.insert_outbox (h : Sound w)
    (hfree : ∀ row ∈ w.postgres.outbox, row.outbox_id ≠ record.outbox_id ∧
      row.approval_case_id ≠ record.approval_case_id) :
    @Sound Uuid Details _
      { memory := { w.memory with
          outbox_by_id := w.memory.outbox_by_id.set record.outbox_id record
          outbox_by_case := w.memory.outbox_by_case.set record.approval_case_id record.outbox_id }
        postgres := { w.postgres with outbox := w.postgres.outbox ++ [record] } } := by
  have hnone : w.memory.outbox_by_id.get? record.outbox_id = none := by
    cases hget : w.memory.outbox_by_id.get? record.outbox_id with
    | none => rfl
    | some row =>
      have hmem := (Dict.mem_values_iff _ row).mpr ⟨_, hget⟩
      rw [h.outbox] at hmem
      exact absurd (h.indexed.outbox_id _ _ hget) (hfree row hmem).1
  have hcase : w.memory.outbox_by_case.get? record.approval_case_id = none := by
    cases hget : w.memory.outbox_by_case.get? record.approval_case_id with
    | none => rfl
    | some id =>
      obtain ⟨row, hrow, hsame⟩ := (h.indexed.outbox_case _ _).mp hget
      have hmem := (Dict.mem_values_iff _ row).mpr ⟨_, hrow⟩
      rw [h.outbox] at hmem
      exact absurd (Option.some.inj hsame) (hfree row hmem).2
  refine
    { indexed :=
        { case_id := h.indexed.case_id
          dedup := h.indexed.dedup
          dedup_case := h.indexed.dedup_case
          outbox_id := ?_
          outbox_case := h.indexed.outbox_case.set hnone ?_ }
      cases := h.cases
      outbox := ?_ }
  · intro k o ho
    rcases Dict.get?_set_cases ho with ⟨hk, rfl⟩ | ⟨-, hold⟩
    · exact hk.symm
    · exact h.indexed.outbox_id k o hold
  · rintro _ ⟨⟩
    exact hcase
  · change (w.memory.outbox_by_id.set record.outbox_id record).values = _
    rw [Dict.values_set_fresh hnone, h.outbox]

theorem Sound.put_outbox (h : Sound w) (updated : CaseApprovalOutboxRecord Uuid)
    (hrow : w.memory.outbox_by_id.get? row.outbox_id = some row)
    (hid : updated.outbox_id = row.outbox_id)
    (hcase : updated.approval_case_id = row.approval_case_id) :
    @Sound Uuid Details _
      { memory := { w.memory with outbox_by_id := w.memory.outbox_by_id.set row.outbox_id updated }
        postgres := w.postgres.putOutbox updated } := by
  refine
    { indexed :=
        { case_id := h.indexed.case_id
          dedup := h.indexed.dedup
          dedup_case := h.indexed.dedup_case
          outbox_id := ?_
          outbox_case := h.indexed.outbox_case.replace hrow (congrArg some hcase) }
      cases := h.cases
      outbox := ?_ }
  · intro k o ho
    rcases Dict.get?_set_cases ho with ⟨hk, rfl⟩ | ⟨-, hold⟩
    · exact hid.trans hk.symm
    · exact h.indexed.outbox_id k o hold
  · change (w.memory.outbox_by_id.set row.outbox_id updated).values = List.map _ _
    rw [Dict.values_set_keyed h.indexed.outbox_id (by rw [hrow]; rfl), h.outbox, hid]

/-! ## Each call -/

omit [LinearOrder Uuid] in
theorem assert_tenant_self (tenant : String) : assert_tenant tenant tenant = .ok () := if_neg (by simp)

omit [LinearOrder Uuid] in
theorem assert_tenant_ne {other : String} (h : other ≠ tenant) : assert_tenant other tenant =
    .error (.case_approval_persistence_error "case approval tenant mismatch") := if_pos h

variable {references : References Uuid Details}

/-- The results of one call of each store: they agree exactly under `clean`, and then the stores hold the
same rows after it. -/
def Parity {α : Type} (memory : Except CaseStoreError α × InMemoryCaseApprovalPersistence Uuid Details)
    (postgres : Except CaseStoreError α × PostgresCaseApprovalPersistence Uuid Details) (clean : Prop) :
    Prop :=
  (memory.1.toOption = postgres.1.toOption ↔ clean) ∧
    (clean → Sound { memory := memory.2, postgres := postgres.2 })

theorem Parity.answered {α β : Type} {wrap : α → β} (hwrap : Function.Injective wrap)
    {memory : Except CaseStoreError α × InMemoryCaseApprovalPersistence Uuid Details}
    {postgres : Except CaseStoreError α × PostgresCaseApprovalPersistence Uuid Details} {clean : Prop}
    (h : Parity memory postgres clean) :
    Parity (answered wrap memory) (answered wrap postgres) clean := by
  refine ⟨?_, h.2⟩
  rw [← h.1]
  unfold persistence.answered
  cases memory.1 <;> cases postgres.1 <;> simp [Except.toOption, Except.map, hwrap.eq_iff]

theorem create_case_parity (h : Sound w) (record : CaseApprovalRecord Uuid Details) (tenant : String) :
    Parity (w.memory.create_case record tenant) (w.postgres.create_case references record tenant)
      (record.tenant_id = tenant →
        (w.postgres.get_case_by_dedup_key record.dedup_key tenant).isSome ∨
          (w.memory.dedup.get? (tenant, record.dedup_key) = none ∧
            PostgresCaseApprovalPersistence.storable references record = true ∧
            w.postgres.cases.all (·.approval_case_id ≠ record.approval_case_id) = true)) := by
  unfold InMemoryCaseApprovalPersistence.create_case PostgresCaseApprovalPersistence.create_case
  by_cases htenant : record.tenant_id = tenant
  swap
  · rw [assert_tenant_ne htenant]
    exact ⟨by simp [htenant], fun _ => h⟩
  subst htenant
  simp only [assert_tenant_self, true_implies]
  cases hrow : w.postgres.get_case_by_dedup_key record.dedup_key record.tenant_id with
  | some row =>
    obtain ⟨hdedup, hcase⟩ := h.case_by_dedup_key hrow
    obtain ⟨hmem, hkey, htenant⟩ := of_case_by_dedup_key hrow
    have htaken : (w.postgres.cases.any fun row => row.approval_case_id = record.approval_case_id ||
        (row.tenant_id = record.tenant_id && row.dedup_key = record.dedup_key)) = true :=
      List.any_eq_true.mpr ⟨row, hmem, by simp [hkey, htenant]⟩
    simp only [hdedup, hcase, htaken, Bool.not_true, Bool.and_false, Bool.false_eq_true, if_false]
    exact ⟨by simp, fun _ => h⟩
  | none =>
    have hfree : ∀ row ∈ w.postgres.cases, row.tenant_id = record.tenant_id →
        row.dedup_key ≠ record.dedup_key := by
      intro row hmem htenant hkey
      have hnot := List.find?_eq_none.mp hrow row hmem
      simp [htenant, hkey] at hnot
    have htaken : (w.postgres.cases.any fun row => row.approval_case_id = record.approval_case_id ||
        (row.tenant_id = record.tenant_id && row.dedup_key = record.dedup_key)) =
        !w.postgres.cases.all (·.approval_case_id ≠ record.approval_case_id) := by
      rw [List.not_all_eq_any_not, Bool.eq_iff_iff, List.any_eq_true, List.any_eq_true]
      refine exists_congr fun row => and_congr_right fun hmem => ?_
      have hother := hfree row hmem
      simp only [ne_eq, decide_not, Bool.not_not, Bool.or_eq_true, Bool.and_eq_true, decide_eq_true_eq]
      tauto
    cases hdedup : w.memory.dedup.get? (record.tenant_id, record.dedup_key) with
    | some id =>
      -- the key leads to a case that was moved off it
      obtain ⟨stale, hstale⟩ := Option.isSome_iff_exists.mp (h.indexed.dedup_case _ _ hdedup)
      have hne : stale ≠ record := by
        rintro rfl
        have hmem := (Dict.mem_values_iff _ stale).mpr ⟨_, hstale⟩
        rw [h.cases] at hmem
        exact hfree stale hmem rfl rfl
      simp only [hstale]
      refine ⟨?_, by simp⟩
      split_ifs
      · simp [Except.toOption, hne]
      · simp [Except.toOption]
    | none =>
      simp only [htaken, Bool.not_not]
      cases hstorable : PostgresCaseApprovalPersistence.storable references record with
      | false => exact ⟨by simp [Except.toOption], by simp⟩
      | true =>
        cases hall : w.postgres.cases.all (·.approval_case_id ≠ record.approval_case_id) with
        | false => exact ⟨by simp [Except.toOption], by simp⟩
        | true =>
          refine ⟨by simp, fun _ => h.insert_case hdedup ?_⟩
          intro row hmem
          exact of_decide_eq_true (List.all_eq_true.mp hall row hmem)

theorem update_case_parity [Stdlib Uuid] (h : Sound w) (record : CaseApprovalRecord Uuid Details)
    (tenant : String) :
    Parity (w.memory.update_case record tenant) (w.postgres.update_case references record tenant)
      (record.tenant_id = tenant →
        (w.postgres.cases.any fun row => row.approval_case_id = record.approval_case_id &&
            row.tenant_id = tenant) = true →
          PostgresCaseApprovalPersistence.storable references record = true ∧
            (w.postgres.cases.any fun row => row.approval_case_id ≠ record.approval_case_id &&
              row.tenant_id = tenant && row.dedup_key = record.dedup_key) = false) := by
  unfold InMemoryCaseApprovalPersistence.update_case PostgresCaseApprovalPersistence.update_case
  by_cases htenant : record.tenant_id = tenant
  swap
  · rw [assert_tenant_ne htenant]
    exact ⟨by simp [htenant], fun _ => h⟩
  subst htenant
  simp only [assert_tenant_self, true_implies]
  have hfound : (w.postgres.cases.any fun row => row.approval_case_id = record.approval_case_id &&
      row.tenant_id = record.tenant_id) =
      ((w.memory.cases.get? record.approval_case_id).filter (·.tenant_id = record.tenant_id)).isSome := by
    rw [← Dict.find?_name_and h.indexed.case_id, h.cases, List.isSome_find?]
  rw [hfound]
  cases hrow : (w.memory.cases.get? record.approval_case_id).filter
      (·.tenant_id = record.tenant_id) with
  | none => exact ⟨by simp [Except.toOption], fun _ => h⟩
  | some row =>
    obtain ⟨hcase, -⟩ := Option.filter_eq_some_iff.mp hrow
    simp only [Option.isSome_some, if_true, true_implies]
    cases hstorable : PostgresCaseApprovalPersistence.storable references record with
    | false => exact ⟨by simp [Except.toOption], by simp⟩
    | true =>
      cases hany : (w.postgres.cases.any fun row => row.approval_case_id ≠ record.approval_case_id &&
          row.tenant_id = record.tenant_id && row.dedup_key = record.dedup_key) with
      | true => exact ⟨by simp [Except.toOption], by simp⟩
      | false =>
        refine ⟨by simp, fun _ => h.put_case hcase ?_⟩
        intro other hmem hne htenant hkey
        have hnot := List.any_eq_false.mp hany other hmem
        simp [hne, htenant, hkey] at hnot

/-! ## Lists -/

omit [LinearOrder Uuid] in
theorem slice_eq {α : Type} (rows : List α) {limit offset : Int} (h : Bounded limit offset) :
    slice rows offset (offset + limit) = (rows.drop offset.toNat).take limit.toNat := by
  obtain ⟨hoffset, hlimit, -⟩ := h
  have hstop : (offset + limit).toNat = offset.toNat + limit.toNat := by omega
  unfold slice sliceIndex
  rw [if_neg (by omega), if_neg (by omega), hstop, ← List.take_eq_take_min]
  rcases Nat.le_total offset.toNat rows.length with hle | hge
  · rw [Nat.min_eq_left hle, List.drop_take, Nat.add_sub_cancel_left]
  · rw [Nat.min_eq_right hge, List.drop_eq_nil_of_le hge, List.take_nil]
    exact List.drop_eq_nil_of_le (by simp)

omit [LinearOrder Uuid] in
theorem fetch_scalar_page_eq {α : Type} (rows : List α) (limit offset : Int) :
    (fetch_scalar_page rows limit offset).toOption =
      if Bounded limit offset then
        some { items := (rows.drop offset.toNat).take limit.toNat, total := rows.length, limit, offset }
      else none := by
  unfold fetch_scalar_page
  by_cases hbounded : Bounded limit offset
  · have hok : normalize_page_bounds limit offset = .ok () := by
      obtain ⟨hoffset, hlimit, hcap⟩ := hbounded
      unfold normalize_page_bounds
      rw [if_neg (by omega), if_neg (by omega), if_neg (by omega)]
    rw [hok, if_pos hbounded]
    rfl
  · have hraised : ∃ e, normalize_page_bounds limit offset = .error e := by
      unfold Bounded at hbounded
      unfold normalize_page_bounds
      split_ifs with hoffset hlimit hcap
      · exact ⟨_, rfl⟩
      · exact ⟨_, rfl⟩
      · exact ⟨_, rfl⟩
      · exact absurd ⟨by omega, by omega, by omega⟩ hbounded
    obtain ⟨e, he⟩ := hraised
    rw [he, if_neg hbounded]
    rfl

theorem Sound.case_ids (h : Sound w) (p : CaseApprovalRecord Uuid Details → Bool) :
    ((w.postgres.cases.filter p).map (·.approval_case_id)).Nodup := by
  rw [← h.cases]
  exact (Dict.nodup_map_values h.indexed.case_id).sublist (List.filter_sublist.map _)

theorem list_cases_same_iff (h : Sound w) (query : CaseApprovalQuery Uuid) (tenant : String) :
    some (w.memory.list_cases query tenant) = (w.postgres.list_cases query tenant).toOption ↔
      Bounded query.limit query.offset ∧
        SameFront (w.postgres.cases.filter (matches_case query tenant)) query.limit query.offset := by
  unfold InMemoryCaseApprovalPersistence.list_cases PostgresCaseApprovalPersistence.list_cases
  rw [fetch_scalar_page_eq, h.cases]
  have hids := h.case_ids (matches_case query tenant)
  generalize w.postgres.cases.filter (matches_case query tenant) = cases at hids
  by_cases hbounded : Bounded query.limit query.offset
  swap
  · simp [hbounded]
  rw [if_pos hbounded]
  simp only [slice_eq _ hbounded, hbounded, true_and]
  set newest := (cases.insertionSort fun a b =>
    toLex (a.requested_at, a.approval_case_id) ≤ toLex (b.requested_at, b.approval_case_id)).reverse
    with hnewest
  set listed := cases.insertionSort fun a b => urgency a ≤ urgency b with hlisted
  have htimes : (cases.map fun a => toLex (a.requested_at, a.approval_case_id)).Nodup := by
    refine List.Nodup.of_map (fun key => (ofLex key).2) ?_
    rwa [List.map_map]
  have hurgencies : (cases.map urgency).Nodup := by
    refine List.Nodup.of_map (fun key => (ofLex (OrderDual.ofDual (ofLex key).2)).2) ?_
    rwa [List.map_map]
  have hperm : newest.Perm cases := (List.reverse_perm _).trans (List.perm_insertionSort _ _)
  have hboth : newest.Perm listed := hperm.trans (List.perm_insertionSort _ _).symm
  have hnewest_sorted : newest.Pairwise (newness · < newness ·) :=
    List.pairwise_reverse.mpr ((pages.sorted_strict htimes).imp fun hlt => hlt)
  have hwindow := pages.window_eq_iff hboth hnewest_sorted (pages.sorted_strict hurgencies)
    query.offset.toNat query.limit.toNat
  have hpage : (some ({
        items := (newest.drop query.offset.toNat).take query.limit.toNat
        total := newest.length
        limit := query.limit
        offset := query.offset } : Page (CaseApprovalRecord Uuid Details)) =
      some {
        items := (listed.drop query.offset.toNat).take query.limit.toNat
        total := listed.length
        limit := query.limit
        offset := query.offset }) ↔
      (newest.drop query.offset.toNat).take query.limit.toNat =
        (listed.drop query.offset.toNat).take query.limit.toNat := by
    simp [hboth.length_eq]
  refine (hpage.trans hwindow).trans ?_
  obtain ⟨hoffset, hlimit, -⟩ := hbounded
  unfold SameFront
  refine ⟨fun hall record hmem hlow hhigh => ?_, fun hall record hmem hlow hhigh => ?_⟩
  · have hsame := hall record (hperm.mem_iff.mpr hmem)
    rw [hperm.countP_eq, hperm.countP_eq] at hsame
    exact hsame (by omega) (by omega)
  · rw [hperm.countP_eq] at hlow hhigh ⊢
    rw [hperm.countP_eq]
    exact hall record (hperm.mem_iff.mp hmem) (by omega) (by omega)

theorem list_outbox_same_iff (h : Sound w) (query : CaseApprovalOutboxQuery) (tenant : Option String) :
    some (w.memory.list_outbox query tenant) = (w.postgres.list_outbox query tenant).toOption ↔
      Bounded query.limit query.offset := by
  unfold InMemoryCaseApprovalPersistence.list_outbox PostgresCaseApprovalPersistence.list_outbox
  rw [fetch_scalar_page_eq, h.outbox]
  by_cases hbounded : Bounded query.limit query.offset
  · simp [hbounded, slice_eq _ hbounded]
  · simp [hbounded]

/-! ## The outbox -/

theorem Sound.of_outbox_by_case (h : Sound w) {id : Uuid}
    (hrow : w.postgres.get_outbox_by_case id tenant = some row) :
    w.memory.outbox_by_case.get? id = some row.outbox_id ∧
      w.memory.outbox_by_id.get? row.outbox_id = some row ∧ row ∈ w.postgres.outbox ∧
      row.approval_case_id = id ∧ row.tenant_id = tenant := by
  unfold PostgresCaseApprovalPersistence.get_outbox_by_case at hrow
  have hmem := List.mem_of_find?_eq_some hrow
  have hfound := List.find?_some hrow
  simp only [Bool.and_eq_true, decide_eq_true_eq] at hfound
  have hget := h.outbox_row hmem
  refine ⟨(h.indexed.outbox_case _ _).mpr ⟨row, hget, congrArg some hfound.1⟩, hget, hmem, hfound⟩

omit [LinearOrder Uuid] in
theorem of_insertsOutbox [DecidableEq Uuid] (h : s.insertsOutbox references record = true) :
    ∀ row ∈ s.outbox, row.outbox_id ≠ record.outbox_id ∧
      row.approval_case_id ≠ record.approval_case_id := by
  intro row hmem
  have hnot := (Bool.and_eq_true_iff.mp h).2
  rw [Bool.not_eq_true', List.any_eq_false] at hnot
  simpa using hnot row hmem

variable (references) in
theorem Sound.no_outbox_by_case (h : Sound w)
    (hnone : w.postgres.get_outbox_by_case record.approval_case_id record.tenant_id = none)
    {id : Uuid} (hid : w.memory.outbox_by_case.get? record.approval_case_id = some id) :
    (∃ row, w.memory.outbox_by_id.get? id = some row ∧ row.tenant_id ≠ record.tenant_id) ∧
      w.postgres.insertsOutbox references record = false := by
  obtain ⟨row, hrow, hcase⟩ := (h.indexed.outbox_case _ _).mp hid
  have hmem := (Dict.mem_values_iff _ row).mpr ⟨_, hrow⟩
  rw [h.outbox] at hmem
  have hcase' : row.approval_case_id = record.approval_case_id := Option.some.inj hcase
  refine ⟨⟨row, hrow, ?_⟩, ?_⟩
  · intro htenant
    have hnot := List.find?_eq_none.mp hnone row hmem
    simp [hcase', htenant] at hnot
  · cases hinserts : w.postgres.insertsOutbox references record with
    | false => rfl
    | true => exact absurd hcase' (of_insertsOutbox hinserts row hmem).2

variable [Stdlib Uuid]

variable (references) in
theorem save_outbox_parity (h : Sound w) (record : CaseApprovalOutboxRecord Uuid) (tenant : String) :
    Parity (w.memory.save_outbox record tenant) (w.postgres.save_outbox references record tenant)
      (record.tenant_id = tenant →
        (w.postgres.get_outbox_by_case record.approval_case_id tenant).isSome ∨
          w.postgres.insertsOutbox references record = true) := by
  unfold InMemoryCaseApprovalPersistence.save_outbox PostgresCaseApprovalPersistence.save_outbox
  by_cases htenant : record.tenant_id = tenant
  swap
  · rw [assert_tenant_ne htenant]
    exact ⟨by simp [htenant], fun _ => h⟩
  subst htenant
  simp only [assert_tenant_self, true_implies]
  cases hrow : w.postgres.get_outbox_by_case record.approval_case_id record.tenant_id with
  | some row =>
    obtain ⟨hid, hget, -⟩ := h.of_outbox_by_case hrow
    simp only [hid, hget]
    exact ⟨by simp, fun _ => h⟩
  | none =>
    cases hid : w.memory.outbox_by_case.get? record.approval_case_id with
    | some id =>
      obtain ⟨⟨row, hget, hother⟩, hinserts⟩ := h.no_outbox_by_case references hrow hid
      simp only [hget, hinserts]
      exact ⟨by simp [Except.toOption], by simp⟩
    | none =>
      cases hinserts : w.postgres.insertsOutbox references record with
      | false => exact ⟨by simp [Except.toOption], by simp⟩
      | true => exact ⟨by simp, fun _ => h.insert_outbox (of_insertsOutbox hinserts)⟩

omit [Stdlib Uuid] in
theorem Sound.found_updated (h : Sound w) (updated : CaseApprovalOutboxRecord Uuid)
    (hget : w.memory.outbox_by_id.get? row.outbox_id = some row)
    (hid : updated.outbox_id = row.outbox_id)
    (hcase : updated.approval_case_id = row.approval_case_id)
    (htenant : updated.tenant_id = row.tenant_id) :
    (w.postgres.putOutbox updated).get_outbox_by_case row.approval_case_id row.tenant_id =
      some updated := by
  have hindex := (h.indexed.outbox_case row.approval_case_id row.outbox_id).mpr ⟨row, hget, rfl⟩
  rw [← (h.put_outbox updated hget hid hcase).outbox_by_case]
  unfold InMemoryCaseApprovalPersistence.get_outbox_by_case
  simp [hindex, htenant]

theorem republish_outbox_parity (h : Sound w) (record : CaseApprovalOutboxRecord Uuid) (tenant : String) :
    Parity (w.memory.republish_outbox record tenant)
      (w.postgres.republish_outbox references record tenant)
      (record.tenant_id = tenant →
        (w.postgres.get_outbox_by_case record.approval_case_id tenant).isSome ∨
          w.postgres.insertsOutbox references record = true) := by
  have hsave := save_outbox_parity references h record tenant
  unfold InMemoryCaseApprovalPersistence.republish_outbox PostgresCaseApprovalPersistence.republish_outbox
  by_cases htenant : record.tenant_id = tenant
  swap
  · rw [assert_tenant_ne htenant]
    exact ⟨by simp [htenant], fun _ => h⟩
  subst htenant
  simp only [assert_tenant_self, true_implies]
  cases hrow : w.postgres.get_outbox_by_case record.approval_case_id record.tenant_id with
  | some row =>
    obtain ⟨hid, hget, -, hcase, htenant⟩ := h.of_outbox_by_case hrow
    have hfound := h.found_updated (reset row record.metadata) hget rfl rfl rfl
    rw [hcase, htenant] at hfound
    simp only [hid, hget, hfound]
    exact ⟨by simp, fun _ => h.put_outbox _ hget rfl rfl⟩
  | none =>
    cases hid : w.memory.outbox_by_case.get? record.approval_case_id with
    | some id =>
      obtain ⟨⟨row, hget, hother⟩, hinserts⟩ := h.no_outbox_by_case references hrow hid
      simp only [hget, PostgresCaseApprovalPersistence.save_outbox, assert_tenant_self, hrow, hinserts]
      exact ⟨by simp [Except.toOption], by simp⟩
    | none =>
      have hmemory : w.memory.save_outbox record record.tenant_id = (.ok record, { w.memory with
          outbox_by_id := w.memory.outbox_by_id.set record.outbox_id record
          outbox_by_case := w.memory.outbox_by_case.set record.approval_case_id record.outbox_id }) := by
        simp only [InMemoryCaseApprovalPersistence.save_outbox, assert_tenant_self, hid]
      rw [hmemory, hrow] at hsave
      simpa using hsave

omit [Stdlib Uuid] in
theorem claim_outbox_parity (h : Sound w) (approval_case_id : Uuid) (publisher_id : String)
    (claim_id : Uuid) (claimed_at : Instant) (tenant : String) :
    Parity (w.memory.claim_outbox approval_case_id publisher_id claim_id claimed_at tenant)
      (w.postgres.claim_outbox approval_case_id publisher_id claim_id claimed_at tenant) True := by
  have hfound : (w.memory.get_outbox_by_case approval_case_id tenant).filter (·.status = .pending) =
      w.postgres.outbox.find? fun row => row.approval_case_id = approval_case_id &&
        row.tenant_id = tenant && row.status = .pending := by
    have hfind := h.indexed.outbox_case.find_and approval_case_id
      fun row => decide (row.tenant_id = tenant) && decide (row.status = .pending)
    rw [h.outbox] at hfind
    simp only [Option.some.injEq, ← Bool.and_assoc] at hfind
    rw [hfind, InMemoryCaseApprovalPersistence.get_outbox_by_case, Option.filter_filter]
  unfold InMemoryCaseApprovalPersistence.claim_outbox PostgresCaseApprovalPersistence.claim_outbox
  rw [hfound]
  cases hrow : w.postgres.outbox.find? fun row => row.approval_case_id = approval_case_id &&
      row.tenant_id = tenant && row.status = .pending with
  | none => exact ⟨by simp, fun _ => h⟩
  | some row =>
    have hmatch := List.find?_some hrow
    simp only [Bool.and_eq_true, decide_eq_true_eq] at hmatch
    obtain ⟨⟨hcase, htenant⟩, -⟩ := hmatch
    have hget := h.outbox_row (List.mem_of_find?_eq_some hrow)
    have hclaimed := h.found_updated (claimed row publisher_id claim_id claimed_at) hget rfl rfl rfl
    rw [hcase, htenant] at hclaimed
    have hsound := h.put_outbox (claimed row publisher_id claim_id claimed_at) hget rfl rfl
    exact ⟨by simp [hclaimed], fun _ => hsound⟩

theorem mark_outbox_parity (h : Sound w) (outbox_id claim_id : Uuid) (status : CaseApprovalOutboxStatus)
    (tenant : String) (published_at : Option Instant) (error : Option String) (dead_letter : Bool)
    (failed_at : Option Instant) :
    Parity (w.memory.mark_outbox_terminal outbox_id claim_id status tenant published_at error dead_letter
        failed_at)
      (w.postgres.mark_outbox outbox_id claim_id status tenant published_at error dead_letter failed_at)
      (∀ row ∈ w.postgres.outbox, row.outbox_id = outbox_id → row.tenant_id = tenant →
        row.claim_id = some claim_id → row.status = .publishing) := by
  unfold InMemoryCaseApprovalPersistence.mark_outbox_terminal PostgresCaseApprovalPersistence.mark_outbox
  rw [h.outbox_by_id]
  cases hrow : w.postgres.outbox.find? fun row => row.outbox_id = outbox_id && row.tenant_id = tenant with
  | none =>
    refine ⟨?_, fun _ => h⟩
    refine iff_of_true rfl fun row hmem hid htenant => ?_
    have hnot := List.find?_eq_none.mp hrow row hmem
    simp [hid, htenant] at hnot
  | some row =>
    have hmem := List.mem_of_find?_eq_some hrow
    have hmatch := List.find?_some hrow
    simp only [Bool.and_eq_true, decide_eq_true_eq] at hmatch
    obtain ⟨rfl, rfl⟩ := hmatch
    have hget := h.outbox_row hmem
    have honly : ∀ other ∈ w.postgres.outbox, other.outbox_id = row.outbox_id → other = row := by
      intro other hother hid
      have hsame := h.outbox_row hother
      rw [hid, hget] at hsame
      exact (Option.some.inj hsame).symm
    simp only
    split_ifs with hclaim hstatus
    · refine ⟨iff_of_true rfl fun other hother hid _ hclaimed => ?_, fun _ => h⟩
      rw [honly other hother hid] at hclaimed
      exact absurd hclaimed hclaim
    · refine ⟨iff_of_false (by simp [Except.toOption]) fun hclean => ?_, fun hclean => ?_⟩
      all_goals exact absurd (hclean row hmem rfl rfl (not_not.mp hclaim)) hstatus
    · refine ⟨iff_of_true rfl fun other hother hid _ _ => ?_, fun _ => h.put_outbox _ hget rfl rfl⟩
      rw [honly other hother hid]
      exact not_not.mp hstatus

/-! ## Every run -/

variable (references) in
/-- The stores agree on a call exactly when it is clean, and then they hold the same rows after it. -/
theorem call_parity (h : Sound w) (c : CaseStoreCall Uuid Details) :
    Parity (w.memory.call c) (w.postgres.call references c) (CallClean references w c) := by
  cases c with
  | create_case record tenant =>
    exact Parity.answered (fun _ _ hsame => by cases hsame; rfl) (create_case_parity h record tenant)
  | update_case record tenant =>
    exact Parity.answered (fun _ _ hsame => by cases hsame; rfl) (update_case_parity h record tenant)
  | list_cases query tenant =>
    have hparity : Parity (.ok (w.memory.list_cases query tenant), w.memory)
        (w.postgres.list_cases query tenant, w.postgres) (CallClean references w (.list_cases query tenant)) :=
      ⟨list_cases_same_iff h query tenant, fun _ => h⟩
    exact hparity.answered (fun _ _ hsame => by cases hsame; rfl)
  | save_outbox record tenant =>
    exact Parity.answered (fun _ _ hsame => by cases hsame; rfl) (save_outbox_parity references h record tenant)
  | republish_outbox record tenant =>
    exact Parity.answered (fun _ _ hsame => by cases hsame; rfl) (republish_outbox_parity h record tenant)
  | claim_outbox case publisher claim claimed_at tenant =>
    exact Parity.answered (fun _ _ hsame => by cases hsame; rfl)
      (claim_outbox_parity h case publisher claim claimed_at tenant)
  | mark_outbox_published | mark_outbox_failed =>
    exact Parity.answered (fun _ _ hsame => by cases hsame; rfl) (mark_outbox_parity h ..)
  | list_outbox query tenant =>
    have hparity : Parity (.ok (w.memory.list_outbox query tenant), w.memory)
        (w.postgres.list_outbox query tenant, w.postgres)
        (CallClean references w (.list_outbox query tenant)) :=
      ⟨list_outbox_same_iff h query tenant, fun _ => h⟩
    exact hparity.answered (fun _ _ hsame => by cases hsame; rfl)

omit [Stdlib Uuid] in
theorem sound_empty : Sound ({} : CaseStores Uuid Details) := by
  have hempty {K V : Type} [DecidableEq K] (k : K) : (Dict.empty : Dict K V).get? k = none := rfl
  refine { indexed := ?_, cases := rfl, outbox := rfl }
  constructor <;> simp [Dict.IndexOn, hempty]

variable (references) in
/-- From empty stores both answer alike in every step of a run exactly when every call of it is clean. -/
theorem case_stores_agree_iff (calls : List (CaseStoreCall Uuid Details)) :
    Along (CaseStores.next references) (Agree references) {} calls ↔
      Meets (CaseStores.next references) (CallClean references) {} calls := by
  refine along_iff_meets (I := Sound) ?_ ?_ sound_empty
  · rintro w c _ h hclean ⟨⟩
    exact (call_parity references h c).2 hclean
  · rintro w c _ h ⟨⟩
    exact (call_parity references h c).1

end

/-! ## A claim that is resolved twice -/

def anyReference : References String Unit where
  ofCase _ := true
  tenant _ := true

def waitingCase : CaseApprovalRecord String Unit where
  approval_case_id := "case"
  tenant_id := "acme"
  session_id := none
  execution_id := none
  dispatch_id := none
  entry_category := .low_confidence
  status := .pending_sme_review
  requested_at := 0
  dedup_key := "low-confidence"
  details := ()

def waitingOutbox : CaseApprovalOutboxRecord String where
  outbox_id := "outbox"
  approval_case_id := "case"
  tenant_id := "acme"
  status := .pending
  created_at := 0

instance (w w' : CaseStores String Unit) (c : CaseStoreCall String Unit) :
    Decidable (Agree anyReference w c w') := inferInstanceAs (Decidable (_ = _))

/-- A claim that has published its row publishes it again in memory, and is refused by the table. -/
theorem published_twice_in_memory :
    ¬ Along (CaseStores.next anyReference) (Agree anyReference) {}
        [.create_case waitingCase "acme", .save_outbox waitingOutbox "acme",
          .claim_outbox "case" "publisher" "claim" 1 "acme",
          .mark_outbox_published "outbox" "claim" 2 "acme",
          .mark_outbox_published "outbox" "claim" 3 "acme"] := by
  decide +kernel

end operious.approvals.persistence
