-- When the two stores of captured deliveries agree: the tables fail a batch for a replay key or an event
-- that is taken, and of several rows in the way of a record they return the earliest.
import Operious.Ingress.BoundaryStores
import Operious.Lib.Indexes
import Operious.Lib.Runs
import Mathlib.Data.String.Basic

namespace operious.boundary

open runs
open operious.ingress (IngressDispatchOutboxRecord)
open PostgresBoundaryPersistence (insertOutbox insertBatch arrival create_outbox_for_ingress
  bulk_create_outbox_for_ingress)

variable {Uuid : Type}

/-! ## Calls of both stores -/

inductive StoreCall (Uuid : Type)
  | save (record : BoundaryIngressRecord Uuid)
  | bulk (records : List (BoundaryIngressRecord Uuid))

inductive StoreAnswer (Uuid : Type)
  | record (r : BoundaryIngressRecord Uuid)
  | inserted (ids : List Uuid)
  | raised (error : BoundaryStoreError)
  deriving DecidableEq

section

variable [DecidableEq Uuid] [Stdlib Uuid]

def InMemoryBoundaryPersistence.call (s : InMemoryBoundaryPersistence Uuid) :
    StoreCall Uuid → StoreAnswer Uuid × InMemoryBoundaryPersistence Uuid
  | .save record => (.record (s.save_ingress record).1, (s.save_ingress record).2)
  | .bulk records => (.inserted (s.bulk_insert_ingress_records records).1,
      (s.bulk_insert_ingress_records records).2)

def firstStored (rows : List (BoundaryIngressRecord Uuid)) (record : BoundaryIngressRecord Uuid) :
    Option (BoundaryIngressRecord Uuid) :=
  (rows.find? (·.ingress_id = record.ingress_id)).or <|
    (rows.find? fun row => sameKey row.replay_key record.replay_key).or <|
      rows.find? fun row => sameKey row.event_id record.event_id

end

section

variable [LinearOrder Uuid] [Stdlib Uuid]

def PostgresBoundaryPersistence.call (s : PostgresBoundaryPersistence Uuid) :
    StoreCall Uuid → StoreAnswer Uuid × PostgresBoundaryPersistence Uuid
  | .save record =>
    match s.save_ingress record with
    | (.ok r, s') => (.record r, s')
    | (.error e, s') => (.raised e, s')
  | .bulk records =>
    match s.bulk_insert_ingress_records records with
    | .ok (ids, s') => (.inserted ids, s')
    | .error e => (.raised e, s)

/-- The two stores, side by side. -/
structure Stores (Uuid : Type) where
  memory : InMemoryBoundaryPersistence Uuid := {}
  postgres : PostgresBoundaryPersistence Uuid := {}

def Stores.next (w : Stores Uuid) (c : StoreCall Uuid) : Option (Stores Uuid) :=
  some { memory := (w.memory.call c).2, postgres := (w.postgres.call c).2 }

/-- The stores hold the same rows. -/
structure SameRows (memory : InMemoryBoundaryPersistence Uuid)
    (postgres : PostgresBoundaryPersistence Uuid) : Prop where
  ingress : memory.ingress.values = postgres.ingress
  outbox : memory.ingress_dispatch_outbox.values = postgres.outbox

/-- Both stores give the same answer and hold the same rows, and a batch leaves what its records leave
when they are saved one by one. -/
structure Agree (w : Stores Uuid) (c : StoreCall Uuid) (w' : Stores Uuid) : Prop where
  answer : (w.memory.call c).1 = (w.postgres.call c).1
  rows : SameRows w'.memory w'.postgres
  one_by_one : ∀ records, c = .bulk records →
    w'.memory = records.foldl (fun s r => (s.call (.save r)).2) w.memory ∧
      w'.postgres = records.foldl (fun s r => (s.call (.save r)).2) w.postgres

/-! ## The condition -/

attribute [local instance] PostgresBoundaryPersistence.intPreorder

/-- Of the rows in the way of a record the one under its first key came first. -/
def FirstIsEarliest (rows : List (BoundaryIngressRecord Uuid)) (record : BoundaryIngressRecord Uuid) :
    Prop :=
  ∀ row, firstStored rows record = some row →
    (rows.filter (sharesKey record)).argmin arrival = some row

/-- No record of a batch has a replay key or an event that is taken, unless its ingress is stored, and
none is due a dispatch where an earlier one of its ingress was not. -/
def BatchClean (rows : List (BoundaryIngressRecord Uuid)) : List (BoundaryIngressRecord Uuid) → Prop
  | [] => True
  | record :: records =>
    if rows.any (·.ingress_id = record.ingress_id) then BatchClean rows records
    else rows.any (sharesKey record) = false ∧
      (∀ r ∈ records, r.ingress_id = record.ingress_id →
        (make_ingress_dispatch_outbox_record r none).isSome →
          (make_ingress_dispatch_outbox_record record none).isSome) ∧
      BatchClean (rows ++ [record]) records

def CallClean (w : Stores Uuid) : StoreCall Uuid → Prop
  | .save record => FirstIsEarliest w.postgres.ingress record
  | .bulk records => BatchClean w.postgres.ingress records

instance (rows : List (BoundaryIngressRecord Uuid)) (record : BoundaryIngressRecord Uuid) :
    Decidable (FirstIsEarliest rows record) :=
  inferInstanceAs (Decidable (∀ row ∈ firstStored rows record,
    (rows.filter (sharesKey record)).argmin arrival = some row))

def decidableBatchClean : (rows records : List (BoundaryIngressRecord Uuid)) →
    Decidable (BatchClean rows records)
  | _, [] => isTrue trivial
  | rows, record :: records =>
    haveI := decidableBatchClean rows records
    haveI := decidableBatchClean (rows ++ [record]) records
    inferInstanceAs (Decidable (if rows.any (·.ingress_id = record.ingress_id) then
        BatchClean rows records
      else rows.any (sharesKey record) = false ∧
        (∀ r ∈ records, r.ingress_id = record.ingress_id →
          (make_ingress_dispatch_outbox_record r none).isSome →
            (make_ingress_dispatch_outbox_record record none).isSome) ∧
        BatchClean (rows ++ [record]) records))

instance (w : Stores Uuid) : (c : StoreCall Uuid) → Decidable (CallClean w c)
  | .save _ => inferInstanceAs (Decidable (FirstIsEarliest _ _))
  | .bulk _ => decidableBatchClean _ _

end

/-! ## The dicts and their rows -/

variable {rows : List (BoundaryIngressRecord Uuid)}

variable {s : InMemoryBoundaryPersistence Uuid}

section

variable [DecidableEq Uuid]

variable [Stdlib Uuid]

/-- The indexes of a store find its rows, and an outbox row is the one that its ingress is due. -/
structure Indexed (s : InMemoryBoundaryPersistence Uuid) : Prop where
  ingress_id : ∀ id r, s.ingress.get? id = some r → r.ingress_id = id
  replay_key : Dict.IndexOn (·.replay_key) s.ingress s.ingress_by_replay_key
  event_id : Dict.IndexOn (·.event_id) s.ingress s.ingress_by_event_id
  outbox_index : ∀ id, (s.ingress_dispatch_outbox_by_ingress.get? id).isSome ↔
    ∃ o ∈ s.ingress_dispatch_outbox.values, o.ingress_id = id
  outbox : ∀ k o, s.ingress_dispatch_outbox.get? k = some o → o.outbox_id = k ∧
    ∃ r, s.ingress.get? o.ingress_id = some r ∧ make_ingress_dispatch_outbox_record r none = some o

omit [Stdlib Uuid] in
theorem find_sameKey {key : BoundaryIngressRecord Uuid → Option Uuid}
    {ingress : Dict Uuid (BoundaryIngressRecord Uuid)} {found : Dict Uuid Uuid}
    (h : Dict.IndexOn key ingress found) (k : Option Uuid) :
    (k.bind found.get?).bind ingress.get? = ingress.values.find? fun row => sameKey (key row) k := by
  cases k with
  | none =>
    refine (List.find?_eq_none.mpr fun row _ => ?_).symm
    cases hrow : key row <;> simp [sameKey]
  | some x =>
    rw [Option.bind_some, h.find]
    refine congrArg (List.find? · _) (funext fun row => ?_)
    cases hrow : key row <;> simp [sameKey]

theorem Indexed.resolve (h : Indexed s) (record : BoundaryIngressRecord Uuid) :
    s.resolve_duplicate_ingress record = firstStored s.ingress.values record := by
  unfold InMemoryBoundaryPersistence.resolve_duplicate_ingress firstStored
  rw [Dict.get?_eq_find?_values h.ingress_id, find_sameKey h.replay_key, find_sameKey h.event_id]

omit [Stdlib Uuid] in
theorem firstStored_eq_none {record : BoundaryIngressRecord Uuid} :
    firstStored rows record = none ↔ rows.any (sharesKey record) = false := by
  simp only [firstStored, Option.or_eq_none_iff, List.find?_eq_none, List.any_eq_false, sharesKey,
    Bool.or_eq_true, not_or, decide_eq_true_eq]
  constructor
  · rintro ⟨h1, h2, h3⟩ row hrow
    exact ⟨⟨h1 row hrow, h2 row hrow⟩, h3 row hrow⟩
  · intro h
    exact ⟨fun row hrow => (h row hrow).1.1, fun row hrow => (h row hrow).1.2,
      fun row hrow => (h row hrow).2⟩

/-! ## A record that is stored -/

variable [LawfulStdlib Uuid] {s : InMemoryBoundaryPersistence Uuid}
  {record : BoundaryIngressRecord Uuid}

omit [LawfulStdlib Uuid] in
theorem Indexed.free (h : Indexed s) (hfresh : s.ingress.values.any (sharesKey record) = false) :
    s.ingress.get? record.ingress_id = none ∧
      (∀ k, record.replay_key = some k → s.ingress_by_replay_key.get? k = none) ∧
      (∀ k, record.event_id = some k → s.ingress_by_event_id.get? k = none) ∧
      ∀ o ∈ s.ingress_dispatch_outbox.values, o.ingress_id ≠ record.ingress_id := by
  have hnone := (h.resolve record).trans (firstStored_eq_none.mpr hfresh)
  simp only [InMemoryBoundaryPersistence.resolve_duplicate_ingress, Option.or_eq_none_iff] at hnone
  obtain ⟨hid, hreplay, hevent⟩ := hnone
  refine ⟨hid, ?_, ?_, ?_⟩
  · intro k hk
    cases hget : s.ingress_by_replay_key.get? k with
    | none => rfl
    | some id =>
      obtain ⟨r, hr, -⟩ := (h.replay_key k id).mp hget
      simp [hk, hget, hr] at hreplay
  · intro k hk
    cases hget : s.ingress_by_event_id.get? k with
    | none => rfl
    | some id =>
      obtain ⟨r, hr, -⟩ := (h.event_id k id).mp hget
      simp [hk, hget, hr] at hevent
  · intro o ho hsame
    obtain ⟨k, hk⟩ := (s.ingress_dispatch_outbox.mem_values_iff o).mp ho
    obtain ⟨-, r, hr, -⟩ := h.outbox k o hk
    rw [hsame, hid] at hr
    cases hr

omit [LawfulStdlib Uuid] in
theorem Indexed.index (h : Indexed s) (hfresh : s.ingress.values.any (sharesKey record) = false) :
    Indexed (s.index record) := by
  obtain ⟨hid, hreplay, hevent, houtbox⟩ := h.free hfresh
  refine
    { ingress_id := ?_
      replay_key := h.replay_key.set hid hreplay
      event_id := h.event_id.set hid hevent
      outbox_index := h.outbox_index
      outbox := ?_ }
  · intro id r hr
    rcases Dict.get?_set_cases hr with ⟨hkey, rfl⟩ | ⟨-, hold⟩
    · exact hkey.symm
    · exact h.ingress_id id r hold
  · intro k o ho
    obtain ⟨hk, r, hr, hmake⟩ := h.outbox k o ho
    refine ⟨hk, r, ?_, hmake⟩
    have hother := houtbox o ((s.ingress_dispatch_outbox.mem_values_iff o).mpr ⟨k, ho⟩)
    exact (Dict.get?_set_ne _ _ (Ne.symm hother)).trans hr

/-- A record that no row is in the way of is stored in both stores, with the outbox row it is due. -/
theorem Indexed.store (h : Indexed s) (hfresh : s.ingress.values.any (sharesKey record) = false) :
    let s' := (s.index record).create_ingress_dispatch_outbox record none
    Indexed s' ∧ s'.ingress = s.ingress.set record.ingress_id record ∧
      create_outbox_for_ingress s.ingress_dispatch_outbox.values record =
        .ok s'.ingress_dispatch_outbox.values := by
  have hindexed := h.index hfresh
  obtain ⟨hid, -, -, houtbox⟩ := h.free hfresh
  have hnotdue : (s.index record).ingress_dispatch_outbox_by_ingress.get? record.ingress_id = none := by
    cases hget : s.ingress_dispatch_outbox_by_ingress.get? record.ingress_id with
    | none => exact hget
    | some _ =>
      obtain ⟨o, ho, hsame⟩ := (h.outbox_index record.ingress_id).mp (by simp [hget])
      exact absurd hsame (houtbox o ho)
  simp only [InMemoryBoundaryPersistence.create_ingress_dispatch_outbox, hnotdue,
    create_outbox_for_ingress]
  cases hmake : make_ingress_dispatch_outbox_record record none with
  | none => exact ⟨hindexed, rfl, rfl⟩
  | some outbox =>
    obtain ⟨hingress, houtid⟩ := outbox_ids hmake
    have hfree : s.ingress_dispatch_outbox.get? outbox.outbox_id = none := by
      cases hget : s.ingress_dispatch_outbox.get? outbox.outbox_id with
      | none => rfl
      | some o =>
        obtain ⟨hk, r, hr, hmade⟩ := h.outbox _ o hget
        obtain ⟨hoi, hoo⟩ := outbox_ids hmade
        have hsame := derive_outbox_id_inj ((hoo.symm.trans hk).trans houtid)
        exact absurd (hoi.trans hsame)
          (houtbox o ((s.ingress_dispatch_outbox.mem_values_iff o).mpr ⟨_, hget⟩))
    have hvalues := Dict.values_set_fresh hfree outbox
    refine ⟨?_, rfl, ?_⟩
    · refine
        { ingress_id := hindexed.ingress_id
          replay_key := hindexed.replay_key
          event_id := hindexed.event_id
          outbox_index := ?_
          outbox := ?_ }
      · intro id
        change ((s.ingress_dispatch_outbox_by_ingress.set record.ingress_id outbox.outbox_id).get?
          id).isSome ↔ ∃ o ∈ (s.ingress_dispatch_outbox.set outbox.outbox_id outbox).values, _
        rw [hvalues, Dict.get?_set]
        by_cases hsame : record.ingress_id = id
        · simp [hsame, hingress]
        · rw [if_neg hsame, h.outbox_index id]
          simp [hingress, hsame]
      · intro k o ho
        rcases Dict.get?_set_cases ho with ⟨hkey, rfl⟩ | ⟨-, hold⟩
        · exact ⟨hkey.symm, record, by rw [hingress]; exact Dict.get?_set_self _ _ _, hmake⟩
        · exact hindexed.outbox k o hold
    · change insertOutbox _ _ = .ok (s.ingress_dispatch_outbox.set outbox.outbox_id outbox).values
      rw [hvalues]
      unfold insertOutbox
      rw [if_neg, if_neg]
      · simp only [List.any_eq_true, decide_eq_true_eq, not_exists, not_and]
        intro o ho hsame
        obtain ⟨k, hk⟩ := (s.ingress_dispatch_outbox.mem_values_iff o).mp ho
        have hkey := (h.outbox k o hk).1
        rw [← hkey, hsame, hfree] at hk
        cases hk
      · simp only [List.any_eq_true, decide_eq_true_eq, not_exists, not_and, hingress]
        exact houtbox

end

/-! ## One save -/

section

variable [LinearOrder Uuid] [Stdlib Uuid] [LawfulStdlib Uuid] {w : Stores Uuid}
  {record : BoundaryIngressRecord Uuid}

attribute [local instance] PostgresBoundaryPersistence.intPreorder

/-- The stores hold the same rows, under their keys. -/
structure Sound (w : Stores Uuid) : Prop where
  indexed : Indexed w.memory
  rows : SameRows w.memory w.postgres

theorem Stores.save_fresh (h : Sound w) (hfresh : w.postgres.ingress.any (sharesKey record) = false) :
    ∃ memory, Indexed memory ∧ w.memory.save_ingress record = (record, memory) ∧
      memory.ingress = w.memory.ingress.set record.ingress_id record ∧
      memory = (w.memory.index record).create_ingress_dispatch_outbox record none ∧
      memory.ingress.values = w.postgres.ingress ++ [record] ∧
      create_outbox_for_ingress w.postgres.outbox record = .ok memory.ingress_dispatch_outbox.values ∧
      w.postgres.save_ingress record = (.ok record,
        { ingress := memory.ingress.values, outbox := memory.ingress_dispatch_outbox.values }) := by
  have hfresh' : w.memory.ingress.values.any (sharesKey record) = false := by rwa [h.rows.ingress]
  obtain ⟨hindexed, hingress, houtbox⟩ := h.indexed.store hfresh'
  have hvalues : ((w.memory.index record).create_ingress_dispatch_outbox record none).ingress.values =
      w.postgres.ingress ++ [record] := by
    rw [hingress, Dict.values_set_fresh (h.indexed.free hfresh').1, h.rows.ingress]
  rw [h.rows.outbox] at houtbox
  refine ⟨_, hindexed, ?_, hingress, rfl, hvalues, houtbox, ?_⟩
  · simp only [InMemoryBoundaryPersistence.save_ingress, h.indexed.resolve,
      firstStored_eq_none.mpr hfresh']
  · simp only [PostgresBoundaryPersistence.save_ingress, hfresh, Bool.false_eq_true, if_false, houtbox,
      bind, Except.bind, pure, Except.pure, hvalues]

omit [LawfulStdlib Uuid] in
theorem Stores.save_taken (h : Sound w) {row : BoundaryIngressRecord Uuid}
    (hrow : firstStored w.postgres.ingress record = some row) :
    w.memory.save_ingress record = (row, w.memory) ∧
      ∃ existing, (w.postgres.ingress.filter (sharesKey record)).argmin arrival = some existing ∧
        w.postgres.save_ingress record = (.ok existing, w.postgres) := by
  have htaken : w.postgres.ingress.any (sharesKey record) = true := by
    cases hany : w.postgres.ingress.any (sharesKey record) with
    | true => rfl
    | false =>
      rw [firstStored_eq_none.mpr hany] at hrow
      cases hrow
  refine ⟨?_, ?_⟩
  · simp only [InMemoryBoundaryPersistence.save_ingress, h.indexed.resolve, h.rows.ingress, hrow]
  · cases hmin : (w.postgres.ingress.filter (sharesKey record)).argmin arrival with
    | none =>
      rw [List.argmin_eq_none, List.filter_eq_nil_iff] at hmin
      obtain ⟨r, hr, hshares⟩ := List.any_eq_true.mp htaken
      exact absurd hshares (hmin r hr)
    | some existing =>
      refine ⟨existing, rfl, ?_⟩
      simp only [PostgresBoundaryPersistence.save_ingress, htaken, if_true,
        PostgresBoundaryPersistence.find_duplicate_ingress, hmin]

/-! ## One batch -/

/-- A record needs no further outbox row: it is due none, or its ingress has one. -/
def Settled (outbox : List (IngressDispatchOutboxRecord Uuid)) (record : BoundaryIngressRecord Uuid) :
    Prop :=
  make_ingress_dispatch_outbox_record record none = none ∨ ∃ o ∈ outbox, o.ingress_id = record.ingress_id

omit [LawfulStdlib Uuid] in
theorem Settled.create {outbox : List (IngressDispatchOutboxRecord Uuid)}
    (h : Settled outbox record) : create_outbox_for_ingress outbox record = .ok outbox := by
  unfold create_outbox_for_ingress
  cases hmake : make_ingress_dispatch_outbox_record record none with
  | none => rfl
  | some created =>
    rcases h with hnone | ⟨o, ho, hsame⟩
    · simp [hmake] at hnone
    · refine if_pos (List.any_eq_true.mpr ⟨o, ho, ?_⟩)
      simp [(outbox_ids hmake).1, hsame]

variable {outbox outbox' : List (IngressDispatchOutboxRecord Uuid)}

omit [LawfulStdlib Uuid] in
theorem settled_of_create (h : create_outbox_for_ingress outbox record = .ok outbox') :
    Settled outbox' record ∧ outbox ⊆ outbox' := by
  unfold create_outbox_for_ingress at h
  cases hmake : make_ingress_dispatch_outbox_record record none with
  | none =>
    simp only [hmake, Except.ok.injEq] at h
    subst h
    exact ⟨Or.inl hmake, fun _ ho => ho⟩
  | some created =>
    simp only [hmake, insertOutbox] at h
    split_ifs at h with hany hid
    · cases h
      obtain ⟨o, ho, hsame⟩ := List.any_eq_true.mp hany
      exact ⟨Or.inr ⟨o, ho, (of_decide_eq_true hsame).trans (outbox_ids hmake).1⟩, fun _ ho => ho⟩
    · cases h
      exact ⟨Or.inr ⟨created, by simp, (outbox_ids hmake).1⟩, List.subset_append_left _ _⟩

omit [LinearOrder Uuid] [LawfulStdlib Uuid] in
theorem Settled.mono (h : Settled outbox record) (hsub : outbox ⊆ outbox') :
    Settled outbox' record := by
  rcases h with hnone | ⟨o, ho, hsame⟩
  · exact Or.inl hnone
  · exact Or.inr ⟨o, hsub ho, hsame⟩

variable {records : List (BoundaryIngressRecord Uuid)} {taken : List Uuid}

omit [LawfulStdlib Uuid] in
theorem settled_of_due (hcreated : create_outbox_for_ingress outbox record = .ok outbox')
    (hdue : ∀ r ∈ records, r.ingress_id = record.ingress_id →
      (make_ingress_dispatch_outbox_record r none).isSome →
        (make_ingress_dispatch_outbox_record record none).isSome)
    (htaken : ∀ r ∈ records, r.ingress_id ∈ taken → Settled outbox r) :
    ∀ r ∈ records, r.ingress_id ∈ record.ingress_id :: taken → Settled outbox' r := by
  obtain ⟨hsettled, hsub⟩ := settled_of_create hcreated
  intro r hr hmem
  rcases List.mem_cons.mp hmem with hsame | htail
  · rcases hsettled with hnone | ⟨o, ho, hingress⟩
    · left
      cases hmake : make_ingress_dispatch_outbox_record r none with
      | none => rfl
      | some _ =>
        have hsome := hdue r hr hsame (by simp [hmake])
        simp [hnone] at hsome
    · exact Or.inr ⟨o, ho, hingress.trans hsame.symm⟩
  · exact (htaken r hr htail).mono hsub

omit [Stdlib Uuid] [LawfulStdlib Uuid] in
theorem filter_inserted (records : List (BoundaryIngressRecord Uuid)) (taken inserted : List Uuid) :
    (record :: records).filter (·.ingress_id ∈ taken ++ record.ingress_id :: inserted) =
      record :: records.filter (·.ingress_id ∈ record.ingress_id :: taken ++ inserted) := by
  rw [List.filter_cons_of_pos (by simp)]
  refine congrArg (record :: ·) (List.filter_congr fun r _ => ?_)
  simp only [List.mem_append, List.mem_cons, List.cons_append]
  exact decide_eq_decide.mpr (by tauto)

variable {inserted : List Uuid}

omit [Stdlib Uuid] [LawfulStdlib Uuid] in
theorem insertBatch_new {rows' : List (BoundaryIngressRecord Uuid)}
    (h : insertBatch rows records = .ok (inserted, rows')) :
    ∀ id ∈ inserted, rows.any (·.ingress_id = id) = false := by
  induction records generalizing rows inserted with
  | nil =>
    cases h
    simp
  | cons record records ih =>
    rw [insertBatch] at h
    split_ifs at h with hstored hshares
    · exact ih h
    · obtain ⟨⟨later, _⟩, hrest, hpair⟩ := bind_eq_ok.mp h
      cases hpair
      intro id hid
      rcases List.mem_cons.mp hid with rfl | hid
      · exact Bool.eq_false_iff.mpr hstored
      · have hlater := ih hrest id hid
        rw [List.any_append] at hlater
        exact (Bool.or_eq_false_iff.mp hlater).1

omit [LawfulStdlib Uuid] in
theorem filter_stored {outbox : List (IngressDispatchOutboxRecord Uuid)} {taken : List Uuid}
    (hsettled : record.ingress_id ∈ taken → Settled outbox record)
    (hstored : rows.any (·.ingress_id = record.ingress_id) = true)
    (hnew : ∀ id ∈ inserted, rows.any (·.ingress_id = id) = false) :
    bulk_create_outbox_for_ingress outbox
        ((record :: records).filter (·.ingress_id ∈ taken ++ inserted)) =
      bulk_create_outbox_for_ingress outbox (records.filter (·.ingress_id ∈ taken ++ inserted)) := by
  have hnot : record.ingress_id ∉ inserted := by
    intro hin
    rw [hnew _ hin] at hstored
    cases hstored
  rw [List.filter_cons]
  split_ifs with hin
  · have hmem : record.ingress_id ∈ taken := by simpa [hnot] using hin
    rw [bulk_create_outbox_for_ingress, List.foldlM_cons, (hsettled hmem).create]
    rfl
  · rfl

omit [Stdlib Uuid] [LawfulStdlib Uuid] in
theorem firstStored_of_ingress (hstored : rows.any (·.ingress_id = record.ingress_id) = true) :
    ∃ row, firstStored rows record = some row := by
  rw [← Option.isSome_iff_exists, ← Option.ne_none_iff_isSome]
  intro hnone
  obtain ⟨r, hr, hid⟩ := List.any_eq_true.mp hstored
  have hfree := List.any_eq_false.mp (firstStored_eq_none.mp hnone) r hr
  simp [sharesKey, of_decide_eq_true hid] at hfree

/-- What a clean batch leaves: `taken` are the ids that came in before its records. -/
structure BatchStored (w : Stores Uuid) (taken : List Uuid)
    (records : List (BoundaryIngressRecord Uuid)) (inserted : List Uuid)
    (memory : InMemoryBoundaryPersistence Uuid) : Prop where
  in_memory : w.memory.bulk_insert_ingress_records records = (inserted, memory)
  indexed : Indexed memory
  ingress : insertBatch w.postgres.ingress records = .ok (inserted, memory.ingress.values)
  outbox : bulk_create_outbox_for_ingress w.postgres.outbox
      (records.filter (·.ingress_id ∈ taken ++ inserted)) =
    .ok memory.ingress_dispatch_outbox.values
  saved_in_memory : records.foldl (fun s r => (s.call (.save r)).2) w.memory = memory
  saved_in_postgres : records.foldl (fun s r => (s.call (.save r)).2) w.postgres =
    { ingress := memory.ingress.values, outbox := memory.ingress_dispatch_outbox.values }

theorem batch_stored (h : Sound w) (hclean : BatchClean w.postgres.ingress records)
    (htaken : ∀ r ∈ records, r.ingress_id ∈ taken → Settled w.postgres.outbox r) :
    ∃ inserted memory, BatchStored w taken records inserted memory := by
  induction records generalizing w taken with
  | nil => exact ⟨[], w.memory, {
      in_memory := rfl
      indexed := h.indexed
      ingress := by rw [h.rows.ingress]; rfl
      outbox := by rw [h.rows.outbox]; rfl
      saved_in_memory := rfl
      saved_in_postgres := by rw [h.rows.ingress, h.rows.outbox]; rfl }⟩
  | cons record records ih =>
    rw [BatchClean] at hclean
    cases hstored : w.postgres.ingress.any (·.ingress_id = record.ingress_id) with
    | true =>
      rw [if_pos hstored] at hclean
      obtain ⟨row, hrow⟩ := firstStored_of_ingress hstored
      obtain ⟨hmemory, existing, -, hpostgres⟩ := Stores.save_taken h hrow
      obtain ⟨inserted, memory, hbatch⟩ := ih h hclean fun r hr => htaken r (List.mem_cons_of_mem _ hr)
      have hresolve : w.memory.resolve_duplicate_ingress record = some row := by
        rw [h.indexed.resolve, h.rows.ingress, hrow]
      refine ⟨inserted, memory, {
        in_memory := ?_
        indexed := hbatch.indexed
        ingress := ?_
        outbox := ?_
        saved_in_memory := ?_
        saved_in_postgres := ?_ }⟩
      · rw [InMemoryBoundaryPersistence.bulk_insert_ingress_records, hresolve]
        exact hbatch.in_memory
      · rw [insertBatch, if_pos hstored]
        exact hbatch.ingress
      · rw [filter_stored (htaken record List.mem_cons_self) hstored
          (insertBatch_new hbatch.ingress)]
        exact hbatch.outbox
      · rw [List.foldl_cons, InMemoryBoundaryPersistence.call, hmemory]
        exact hbatch.saved_in_memory
      · rw [List.foldl_cons, PostgresBoundaryPersistence.call, hpostgres]
        exact hbatch.saved_in_postgres
    | false =>
      rw [if_neg (by simp [hstored])] at hclean
      obtain ⟨hfresh, hdue, hrest⟩ := hclean
      obtain ⟨stored, hindexed, hmemory, -, hcreate, hvalues, houtbox, hpostgres⟩ :=
        Stores.save_fresh h hfresh
      have hsound : @Sound Uuid _ _
          { memory := stored
            postgres := { ingress := stored.ingress.values
                          outbox := stored.ingress_dispatch_outbox.values } } :=
        { indexed := hindexed, rows := { ingress := rfl, outbox := rfl } }
      have htaken' := settled_of_due houtbox hdue fun r hr => htaken r (List.mem_cons_of_mem _ hr)
      rw [← hvalues] at hrest
      obtain ⟨inserted, memory, hbatch⟩ := ih hsound hrest htaken'
      have hresolve : w.memory.resolve_duplicate_ingress record = none := by
        rw [h.indexed.resolve, h.rows.ingress, firstStored_eq_none.mpr hfresh]
      refine ⟨record.ingress_id :: inserted, memory, {
        in_memory := ?_
        indexed := hbatch.indexed
        ingress := ?_
        outbox := ?_
        saved_in_memory := ?_
        saved_in_postgres := ?_ }⟩
      · rw [InMemoryBoundaryPersistence.bulk_insert_ingress_records, hresolve]
        simp only [← hcreate, hbatch.in_memory]
      · rw [insertBatch, if_neg (by simp [hstored]), if_neg (by simp [hfresh]), ← hvalues,
          hbatch.ingress]
        rfl
      · rw [filter_inserted, bulk_create_outbox_for_ingress, List.foldlM_cons, houtbox]
        exact hbatch.outbox
      · rw [List.foldl_cons, InMemoryBoundaryPersistence.call, hmemory]
        exact hbatch.saved_in_memory
      · rw [List.foldl_cons, PostgresBoundaryPersistence.call, hpostgres]
        exact hbatch.saved_in_postgres

/-! ## What a batch shows -/

omit [LawfulStdlib Uuid] in
theorem settled_of_bulk_create (h : bulk_create_outbox_for_ingress outbox records = .ok outbox') :
    outbox ⊆ outbox' ∧ ∀ r ∈ records, Settled outbox' r := by
  induction records generalizing outbox with
  | nil =>
    cases h
    exact ⟨fun _ ho => ho, by simp⟩
  | cons record records ih =>
    rw [bulk_create_outbox_for_ingress, List.foldlM_cons] at h
    obtain ⟨outbox₁, hcreate, hrest⟩ := (bind_eq_ok ..).mp h
    obtain ⟨hsettled, hsub⟩ := settled_of_create hcreate
    obtain ⟨hsub', hall⟩ := ih hrest
    refine ⟨List.Subset.trans hsub hsub', ?_⟩
    intro r hr
    rcases List.mem_cons.mp hr with rfl | hr
    · exact hsettled.mono hsub'
    · exact hall r hr

theorem Indexed.bulk (h : Indexed s) (records : List (BoundaryIngressRecord Uuid)) :
    Indexed (s.bulk_insert_ingress_records records).2 ∧
      ∀ id r, s.ingress.get? id = some r →
        (s.bulk_insert_ingress_records records).2.ingress.get? id = some r := by
  induction records generalizing s with
  | nil => exact ⟨h, fun _ _ hr => hr⟩
  | cons record records ih =>
    rw [InMemoryBoundaryPersistence.bulk_insert_ingress_records]
    cases hresolve : s.resolve_duplicate_ingress record with
    | some row => exact ih h
    | none =>
      have hfresh := firstStored_eq_none.mp ((h.resolve record).symm.trans hresolve)
      obtain ⟨hindexed, hingress, -⟩ := h.store hfresh
      obtain ⟨hbulk, hkeeps⟩ := ih hindexed
      refine ⟨hbulk, ?_⟩
      intro id r hr
      refine hkeeps id r ?_
      rw [hingress, Dict.get?_set_ne _ _ ?_]
      · exact hr
      · rintro rfl
        rw [(h.free hfresh).1] at hr
        cases hr

/-- A batch that leaves the same rows in both stores was clean. -/
theorem clean_of_batch (h : Sound w)
    (htaken : ∀ r ∈ records, r.ingress_id ∈ taken → Settled w.postgres.outbox r)
    (hinsert : insertBatch w.postgres.ingress records = .ok (inserted, rows))
    (houtbox : bulk_create_outbox_for_ingress w.postgres.outbox
        (records.filter (·.ingress_id ∈ taken ++ inserted)) =
      .ok (w.memory.bulk_insert_ingress_records records).2.ingress_dispatch_outbox.values) :
    BatchClean w.postgres.ingress records := by
  induction records generalizing w taken inserted rows with
  | nil => trivial
  | cons record records ih =>
    rw [insertBatch] at hinsert
    rw [InMemoryBoundaryPersistence.bulk_insert_ingress_records] at houtbox
    rw [BatchClean]
    have htail : ∀ r ∈ records, r.ingress_id ∈ taken → Settled w.postgres.outbox r :=
      fun r hr => htaken r (List.mem_cons_of_mem _ hr)
    cases hstored : w.postgres.ingress.any (·.ingress_id = record.ingress_id) with
    | true =>
      rw [if_pos hstored] at hinsert
      obtain ⟨row, hrow⟩ := firstStored_of_ingress hstored
      have hresolve : w.memory.resolve_duplicate_ingress record = some row := by
        rw [h.indexed.resolve, h.rows.ingress, hrow]
      rw [hresolve, filter_stored (htaken record List.mem_cons_self) hstored
        (insertBatch_new hinsert)] at houtbox
      rw [if_pos rfl]
      exact ih h htail hinsert houtbox
    | false =>
      rw [if_neg (by simp [hstored])] at hinsert
      rw [if_neg Bool.false_ne_true]
      cases hfresh : w.postgres.ingress.any (sharesKey record) with
      | true =>
        rw [if_pos hfresh] at hinsert
        cases hinsert
      | false =>
        rw [if_neg (by simp [hfresh])] at hinsert
        obtain ⟨⟨later, _⟩, hlater, hpair⟩ := bind_eq_ok.mp hinsert
        cases hpair
        obtain ⟨stored, hindexed, -, hingress, hcreate, hvalues, hcreated, -⟩ :=
          Stores.save_fresh h hfresh
        have hresolve : w.memory.resolve_duplicate_ingress record = none := by
          rw [h.indexed.resolve, h.rows.ingress, firstStored_eq_none.mpr hfresh]
        rw [hresolve, filter_inserted, bulk_create_outbox_for_ingress, List.foldlM_cons, hcreated]
          at houtbox
        simp only [← hcreate] at houtbox
        obtain ⟨hbulk, hkeeps⟩ := hindexed.bulk records
        -- a later record of the ingress that is due a dispatch has the row that this one makes
        have hdue : ∀ r ∈ records, r.ingress_id = record.ingress_id →
            (make_ingress_dispatch_outbox_record r none).isSome →
              (make_ingress_dispatch_outbox_record record none).isSome := by
          intro r hr hsame hmake
          have hmem : r ∈ records.filter (·.ingress_id ∈ record.ingress_id :: taken ++ later) :=
            List.mem_filter.mpr ⟨hr, by simp [hsame]⟩
          rcases (settled_of_bulk_create houtbox).2 r hmem with hnone | ⟨o, ho, hoi⟩
          · simp [hnone] at hmake
          · obtain ⟨k, hk⟩ := (Dict.mem_values_iff _ o).mp ho
            obtain ⟨-, row, hrow, hmade⟩ := hbulk.outbox k o hk
            have hself := hkeeps record.ingress_id record (by rw [hingress, Dict.get?_set_self])
            rw [hoi, hsame, hself] at hrow
            cases hrow
            simp [hmade]
        have hsound : @Sound Uuid _ _
            { memory := stored
              postgres := { ingress := stored.ingress.values
                            outbox := stored.ingress_dispatch_outbox.values } } :=
          { indexed := hindexed, rows := { ingress := rfl, outbox := rfl } }
        rw [← hvalues] at hlater ⊢
        exact ⟨rfl, hdue, ih hsound (settled_of_due hcreated hdue htail) hlater houtbox⟩

/-! ## Every run -/

theorem Indexed.call (h : Indexed s) (c : StoreCall Uuid) : Indexed (s.call c).2 := by
  cases c with
  | save record =>
    change Indexed (s.save_ingress record).2
    rw [InMemoryBoundaryPersistence.save_ingress]
    cases hresolve : s.resolve_duplicate_ingress record with
    | some row => exact h
    | none => exact (h.store (firstStored_eq_none.mp ((h.resolve record).symm.trans hresolve))).1
  | bulk records => exact (h.bulk records).1

variable {c : StoreCall Uuid}

variable {w' : Stores Uuid}

theorem Agree.sound {w : Stores Uuid} (h : Sound w) (hnext : Stores.next w c = some w')
    (hagree : Agree w c w') : Sound w' := by
  cases hnext
  exact { indexed := h.indexed.call c, rows := hagree.rows }

theorem agree_of_clean (h : Sound w) (hclean : CallClean w c) (hnext : Stores.next w c = some w') :
    Agree w c w' := by
  cases hnext
  cases c with
  | save record =>
    have hbulk : ∀ records, StoreCall.save record ≠ .bulk records := fun _ hcall => by cases hcall
    cases hstored : firstStored w.postgres.ingress record with
    | none =>
      obtain ⟨memory, -, hmemory, -, -, -, -, hpostgres⟩ :=
        Stores.save_fresh h (firstStored_eq_none.mp hstored)
      simp only [InMemoryBoundaryPersistence.call, PostgresBoundaryPersistence.call, hmemory, hpostgres]
      refine { answer := ?_, rows := ⟨rfl, rfl⟩, one_by_one := fun records hc => absurd hc (hbulk _) }
      simp only [InMemoryBoundaryPersistence.call, PostgresBoundaryPersistence.call, hmemory, hpostgres]
    | some row =>
      obtain ⟨hmemory, existing, hmin, hpostgres⟩ := Stores.save_taken h hstored
      have hsame : existing = row := Option.some.inj (hmin.symm.trans (hclean row hstored))
      simp only [InMemoryBoundaryPersistence.call, PostgresBoundaryPersistence.call, hmemory, hpostgres]
      refine { answer := ?_, rows := h.rows, one_by_one := fun records hc => absurd hc (hbulk _) }
      simp only [InMemoryBoundaryPersistence.call, PostgresBoundaryPersistence.call, hmemory, hpostgres,
        hsame]
  | bulk records =>
    have htaken : ∀ r ∈ records, r.ingress_id ∈ ([] : List Uuid) → Settled w.postgres.outbox r :=
      fun r _ hmem => absurd hmem List.not_mem_nil
    obtain ⟨inserted, memory, hbatch⟩ := batch_stored h hclean htaken
    have hpostgres : w.postgres.bulk_insert_ingress_records records = .ok (inserted,
        { ingress := memory.ingress.values, outbox := memory.ingress_dispatch_outbox.values }) :=
      bind_eq_ok.mpr ⟨_, hbatch.ingress, bind_eq_ok.mpr ⟨_, hbatch.outbox, rfl⟩⟩
    simp only [InMemoryBoundaryPersistence.call, PostgresBoundaryPersistence.call, hbatch.in_memory,
      hpostgres]
    refine { answer := ?_, rows := ⟨rfl, rfl⟩, one_by_one := ?_ }
    · simp only [InMemoryBoundaryPersistence.call, PostgresBoundaryPersistence.call, hbatch.in_memory,
        hpostgres]
    · rintro _ ⟨⟩
      exact ⟨hbatch.saved_in_memory.symm, hbatch.saved_in_postgres.symm⟩

theorem clean_of_agree (h : Sound w) (hnext : Stores.next w c = some w') (hagree : Agree w c w') :
    CallClean w c := by
  cases hnext
  have hanswer := hagree.answer
  cases c with
  | save record =>
    intro row hstored
    obtain ⟨hmemory, existing, hmin, hpostgres⟩ := Stores.save_taken h hstored
    simp only [InMemoryBoundaryPersistence.call, PostgresBoundaryPersistence.call, hmemory, hpostgres,
      StoreAnswer.record.injEq] at hanswer
    rw [hmin, hanswer]
  | bulk records =>
    have houtbox := hagree.rows.outbox
    simp only [InMemoryBoundaryPersistence.call, PostgresBoundaryPersistence.call] at hanswer houtbox
    cases hbulk : w.postgres.bulk_insert_ingress_records records with
    | error e =>
      rw [hbulk] at hanswer
      cases hanswer
    | ok answer =>
      obtain ⟨⟨inserted, rows⟩, hinsert, hrest⟩ := bind_eq_ok.mp hbulk
      obtain ⟨outbox, hcreate, hpair⟩ := bind_eq_ok.mp hrest
      cases hpair
      rw [hbulk] at houtbox
      have htaken : ∀ r ∈ records, r.ingress_id ∈ ([] : List Uuid) → Settled w.postgres.outbox r :=
        fun r _ hmem => absurd hmem List.not_mem_nil
      refine clean_of_batch h htaken hinsert ?_
      rw [houtbox]
      exact hcreate

omit [LawfulStdlib Uuid] in
theorem sound_empty : Sound ({} : Stores Uuid) := by
  have hempty {V : Type} (k : Uuid) : (Dict.empty : Dict Uuid V).get? k = none := rfl
  refine { indexed := ?_, rows := ⟨rfl, rfl⟩ }
  constructor <;> simp [Dict.IndexOn, hempty]
  exact fun _ => List.not_mem_nil

omit [LawfulStdlib Uuid] in
theorem Indexed.apart (h : Indexed s) {r r' : BoundaryIngressRecord Uuid} (hr : r ∈ s.ingress.values)
    (hr' : r' ∈ s.ingress.values) (hshares : sharesKey r r' = true) : r = r' := by
  obtain ⟨id, hid⟩ := (s.ingress.mem_values_iff r).mp hr
  obtain ⟨id', hid'⟩ := (s.ingress.mem_values_iff r').mp hr'
  have hsame : id = id' → r = r' := fun heq => Option.some.inj (hid.symm.trans (heq ▸ hid'))
  have hindex {key : BoundaryIngressRecord Uuid → Option Uuid} {found : Dict Uuid Uuid}
      (hon : Dict.IndexOn key s.ingress found) (hkey : sameKey (key r') (key r) = true) : r = r' := by
    simp only [sameKey, Bool.and_eq_true, decide_eq_true_eq, Option.isSome_iff_exists] at hkey
    obtain ⟨⟨k, hk⟩, heq⟩ := hkey
    have hleads := (hon k id).mpr ⟨r, hid, heq.symm.trans hk⟩
    exact hsame (Option.some.inj (hleads.symm.trans ((hon k id').mpr ⟨r', hid', hk⟩)))
  simp only [sharesKey, Bool.or_eq_true, decide_eq_true_eq] at hshares
  rcases hshares with (heq | hkey) | hkey
  · exact hsame ((h.ingress_id id r hid).symm.trans (heq.symm.trans (h.ingress_id id' r' hid')))
  · exact hindex h.replay_key hkey
  · exact hindex h.event_id hkey

/-- After every run of saves and batches no two rows in memory share a key, each row of the outbox is one that a
row is due, and a record that is saved again gets the same answer and changes nothing. -/
theorem captured_once_in_memory (calls : List (StoreCall Uuid)) :
    let s := calls.foldl (fun s c => (s.call c).2) ({} : InMemoryBoundaryPersistence Uuid)
    (∀ r ∈ s.ingress.values, ∀ r' ∈ s.ingress.values, sharesKey r r' = true → r = r') ∧
      (∀ o ∈ s.ingress_dispatch_outbox.values, ∃ r ∈ s.ingress.values,
        make_ingress_dispatch_outbox_record r none = some o) ∧
      ∀ record, (s.save_ingress record).2.save_ingress record = s.save_ingress record := by
  have hindexed : Indexed (calls.foldl (fun s c => (s.call c).2) ({} : InMemoryBoundaryPersistence Uuid)) := by
    have hempty : Indexed ({} : InMemoryBoundaryPersistence Uuid) := sound_empty.indexed
    generalize ({} : InMemoryBoundaryPersistence Uuid) = s at hempty
    induction calls generalizing s with
    | nil => exact hempty
    | cons c calls ih => exact ih _ (hempty.call c)
  refine ⟨fun r hr r' hr' => hindexed.apart hr hr', fun o ho => ?_, fun record => ?_⟩
  · obtain ⟨k, hk⟩ := (Dict.mem_values_iff _ o).mp ho
    obtain ⟨-, r, hr, hmake⟩ := hindexed.outbox k o hk
    exact ⟨r, (Dict.mem_values_iff _ r).mpr ⟨_, hr⟩, hmake⟩
  · generalize calls.foldl _ _ = s at hindexed
    cases hresolve : s.resolve_duplicate_ingress record with
    | some row => simp only [InMemoryBoundaryPersistence.save_ingress, hresolve]
    | none =>
      have hfresh := firstStored_eq_none.mp ((hindexed.resolve record).symm.trans hresolve)
      obtain ⟨-, hingress, -⟩ := hindexed.store hfresh
      simp only [InMemoryBoundaryPersistence.save_ingress, hresolve]
      rw [InMemoryBoundaryPersistence.resolve_duplicate_ingress, hingress, Dict.get?_set_self, Option.some_or]

end

/-! ## Two deliveries under one replay key -/

def captured (ingress_id replay_key : String) : BoundaryIngressRecord String where
  ingress_id
  runtime_instance_id := "runtime"
  sequence := 1
  source_type := .email
  source_id := "support"
  tenant_id := some "acme"
  adapter_name := "email"
  normalization_status := .ok
  message_type := .message_received
  replay_disposition := .new
  replay_key := some replay_key
  event_id := some ingress_id
  original_event_id := none
  external_message_id := some "mail"
  external_conversation_id := none
  received_at := 0
  correlation_id := none
  request_id := none
  canonical_payload := .empty
  error := none

def oneMail : InMemoryBoundaryPersistence String :=
  [StoreCall.save (captured "in-1" "key-1")].foldl (fun s c => (s.call c).2) {}

theorem a_repeated_mail_changes_nothing :
    (oneMail.save_ingress (captured "in-2" "key-1")).2.save_ingress (captured "in-2" "key-1") =
      oneMail.save_ingress (captured "in-2" "key-1") :=
  (captured_once_in_memory [.save (captured "in-1" "key-1")]).2.2 (captured "in-2" "key-1")

end operious.boundary
