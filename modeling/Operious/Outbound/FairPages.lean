-- The due rows of an outbox, fairly across its tenants: the greedy scan of the store in memory and the
-- window function of the Postgres query, whose two sort keys differ in where a row without a next attempt
-- stands.
import Mathlib.Data.Int.ConditionallyCompleteOrder
import Mathlib.Data.Prod.Lex
import Mathlib.Data.String.Basic
import Mathlib.Order.ConditionallyCompleteLattice.Basic
import Mathlib.Order.WithBot
import Operious.Lib.Pages
import Operious.Outbound.SendOutbox

namespace operious.outbound

namespace fair_pages

open pages

variable {Uuid : Type}

section

variable [Stdlib Uuid]

/-! ## The two orders -/

/-- `_due_key` of the store in memory: the next attempt, or else the creation. -/
def dueKey (r : OutboundSendOutboxRecord Uuid) : Instant ×ₗ Instant ×ₗ String :=
  toLex (r.next_attempt_at.getD r.created_at, toLex (r.created_at, Stdlib.str r.outbox_id))

/-- `asc().nullsfirst()`. -/
def nullsfirst : Option Instant → WithBot Instant
  | none => ⊥
  | some t => t

/-- `due_order` of the query: `next_attempt_at`, `created_at`, `outbox_id`. -/
def dueOrder (r : OutboundSendOutboxRecord Uuid) : WithBot Instant ×ₗ Instant ×ₗ String :=
  toLex (nullsfirst r.next_attempt_at, toLex (r.created_at, Stdlib.str r.outbox_id))

def oldestDue (a b : OutboundSendOutboxRecord Uuid) : Prop := dueKey a ≤ dueKey b

def nullsFirst (a b : OutboundSendOutboxRecord Uuid) : Prop := dueOrder a ≤ dueOrder b

instance : DecidableRel (@oldestDue Uuid _) := fun a b => inferInstanceAs (Decidable (dueKey a ≤ dueKey b))
instance : DecidableRel (@nullsFirst Uuid _) := fun a b =>
  inferInstanceAs (Decidable (dueOrder a ≤ dueOrder b))
instance : IsTrans (OutboundSendOutboxRecord Uuid) oldestDue := ⟨fun _ _ _ => le_trans⟩
instance : IsTrans (OutboundSendOutboxRecord Uuid) nullsFirst := ⟨fun _ _ _ => le_trans⟩
instance : Std.Total (@oldestDue Uuid _) := ⟨fun _ _ => le_total _ _⟩
instance : Std.Total (@nullsFirst Uuid _) := ⟨fun _ _ => le_total _ _⟩

/-- A row that was never rescheduled. -/
def isFresh (r : OutboundSendOutboxRecord Uuid) : Bool := r.next_attempt_at.isNone

variable {r : OutboundSendOutboxRecord Uuid}

omit [Stdlib Uuid] in
theorem isFresh_eq_true : isFresh r = true ↔ r.next_attempt_at = none :=
  Option.isNone_iff_eq_none

omit [Stdlib Uuid] in
theorem isFresh_eq_false : isFresh r = false ↔ ∃ t, r.next_attempt_at = some t := by
  cases h : r.next_attempt_at <;> simp [isFresh, h]

variable {a b : OutboundSendOutboxRecord Uuid}

theorem nullsFirst_iff_of_fresh (ha : isFresh a = true) (hb : isFresh b = true) :
    nullsFirst a b ↔ oldestDue a b := by
  rw [isFresh_eq_true] at ha hb
  simp only [nullsFirst, oldestDue, dueOrder, dueKey, ha, hb, nullsfirst, Option.getD_none,
    Prod.Lex.toLex_le_toLex, lt_self_iff_false, false_or, true_and]
  constructor
  · rintro (hlt | ⟨heq, hle⟩)
    · exact .inl hlt
    · exact .inr ⟨heq, .inr ⟨heq, hle⟩⟩
  · rintro (hlt | ⟨-, hle⟩)
    · exact .inl hlt
    · exact hle

theorem nullsFirst_iff_of_rescheduled (ha : isFresh a = false) (hb : isFresh b = false) :
    nullsFirst a b ↔ oldestDue a b := by
  obtain ⟨t, ha⟩ := isFresh_eq_false.mp ha
  obtain ⟨u, hb⟩ := isFresh_eq_false.mp hb
  simp only [nullsFirst, oldestDue, dueOrder, dueKey, ha, hb, nullsfirst, Option.getD_some,
    Prod.Lex.toLex_le_toLex, WithBot.coe_lt_coe, WithBot.coe_inj]

theorem not_nullsFirst (ha : isFresh a = false) (hb : isFresh b = true) : ¬ nullsFirst a b := by
  obtain ⟨t, ha⟩ := isFresh_eq_false.mp ha
  rw [isFresh_eq_true] at hb
  refine not_le.mpr (Prod.Lex.toLex_lt_toLex.mpr (.inl ?_))
  rw [ha, hb]
  exact WithBot.bot_lt_coe t

/-! ## The two pages -/

/-- The filter of both: pending, and due. -/
def dueNow (now : Instant) (r : OutboundSendOutboxRecord Uuid) : Bool :=
  r.status = .pending && r.next_attempt_at.all (· ≤ now)

/-- The greedy scan, with the counts of the rows that were selected. -/
def scan (per_tenant_limit : Nat) : Dict String Nat → List (OutboundSendOutboxRecord Uuid) →
    List (OutboundSendOutboxRecord Uuid)
  | _, [] => []
  | per_tenant, record :: rest =>
    let count := (per_tenant.get? record.tenant_id).getD 0
    if per_tenant_limit ≤ count then scan per_tenant_limit per_tenant rest
    else record :: scan per_tenant_limit (per_tenant.set record.tenant_id (count + 1)) rest

/-- `InMemoryOutboundSendOutboxPersistence.list_due_pending_fair`. -/
def InMemory.list_due_pending_fair (s : InMemoryOutboundSendOutboxPersistence Uuid) (now : Instant)
    (per_tenant_limit limit : Nat) : List (OutboundSendOutboxRecord Uuid) :=
  let due := s.records.values.filter (dueNow now)
  let selected := scan per_tenant_limit Dict.empty (due.insertionSort oldestDue)
  (selected.insertionSort oldestDue).take limit

variable [DecidableEq Uuid]

/-- `row_number() over (partition by tenant_id order by due_order)`. -/
def row_number (due : List (OutboundSendOutboxRecord Uuid)) (r : OutboundSendOutboxRecord Uuid) : Nat :=
  ((due.filter (·.tenant_id = r.tenant_id)).insertionSort nullsFirst).idxOf r + 1

/-- `PostgresOutboundSendOutboxPersistence.list_due_pending_fair`, over the rows of the table. -/
def Postgres.list_due_pending_fair (table : List (OutboundSendOutboxRecord Uuid)) (now : Instant)
    (per_tenant_limit limit : Nat) : List (OutboundSendOutboxRecord Uuid) :=
  let ranked := table.filter (dueNow now)
  let fair_ids := (ranked.filter fun r => row_number ranked r ≤ per_tenant_limit).map (·.outbox_id)
  ((table.filter fun r => r.outbox_id ∈ fair_ids).insertionSort nullsFirst).take limit

/-! ## What they are for -/

/-- The first rows in the order, of the union over the tenants of the first due rows of each. -/
def fairPage (before : OutboundSendOutboxRecord Uuid → OutboundSendOutboxRecord Uuid → Prop)
    [DecidableRel before] (due : List (OutboundSendOutboxRecord Uuid)) (per_tenant_limit limit : Nat) :
    List (OutboundSendOutboxRecord Uuid) :=
  ((due.filter fun r =>
    r ∈ ((due.filter (·.tenant_id = r.tenant_id)).insertionSort before).take per_tenant_limit).insertionSort
      before).take limit

/-- Wherever a rescheduled row is on the page of the oldest due rows, each fresh row behind it has as many due
rows of its tenant ahead of that row as a page may hold of one tenant. -/
def Untroubled (due : List (OutboundSendOutboxRecord Uuid)) (per_tenant_limit limit : Nat) : Prop :=
  ∀ before b after, due.insertionSort oldestDue = before ++ b :: after → b.next_attempt_at ≠ none →
    b ∈ fairPage oldestDue due per_tenant_limit limit →
      ∀ a ∈ after, a.next_attempt_at = none → per_tenant_limit ≤ before.countP (·.tenant_id = a.tenant_id)

variable {due : List (OutboundSendOutboxRecord Uuid)} {per_tenant_limit limit : Nat}

omit [Stdlib Uuid] in
theorem fairPage_eq {before : OutboundSendOutboxRecord Uuid → OutboundSendOutboxRecord Uuid → Prop}
    [DecidableRel before] [IsTrans (OutboundSendOutboxRecord Uuid) before] [Std.Total before]
    (hd : due.Nodup) :
    fairPage before due per_tenant_limit limit =
      (firsts (·.tenant_id) per_tenant_limit (fun _ => 0) (due.insertionSort before)).take limit := by
  have hsorted : (due.insertionSort before).Nodup := (List.perm_insertionSort before due).nodup_iff.mpr hd
  rw [fairPage, ← filter_insertionSort, firsts_eq_filter hsorted]
  refine congrArg (List.take limit) (List.filter_congr fun r hr => decide_eq_decide.mpr ?_)
  have hclass : r ∈ (due.filter (·.tenant_id = r.tenant_id)).insertionSort before := by
    rw [List.mem_insertionSort] at hr ⊢
    exact List.mem_filter.mpr ⟨hr, by simp⟩
  rw [List.mem_take_iff_idxOf_lt hclass, ← filter_insertionSort, Nat.zero_add]

omit [Stdlib Uuid] [DecidableEq Uuid] in
theorem scan_eq_firsts (per_tenant : Dict String Nat) (rows : List (OutboundSendOutboxRecord Uuid)) :
    scan per_tenant_limit per_tenant rows =
      firsts (·.tenant_id) per_tenant_limit (fun t => (per_tenant.get? t).getD 0) rows := by
  induction rows generalizing per_tenant with
  | nil => rfl
  | cons r rows ih =>
    have hcount : (fun t => ((per_tenant.set r.tenant_id
        ((per_tenant.get? r.tenant_id).getD 0 + 1)).get? t).getD 0) =
        Function.update (fun t => (per_tenant.get? t).getD 0) r.tenant_id
          ((per_tenant.get? r.tenant_id).getD 0 + 1) := by
      funext t
      rcases eq_or_ne t r.tenant_id with rfl | hne
      · simp
      · rw [Dict.get?_set_ne _ _ hne.symm, Function.update_of_ne hne]
    rw [scan, firsts, ← hcount]
    simp only [ih]

variable {s : InMemoryOutboundSendOutboxPersistence Uuid} {now : Instant}

theorem memory_page_eq (hd : (s.records.values.filter (dueNow now)).Nodup) :
    InMemory.list_due_pending_fair s now per_tenant_limit limit =
      fairPage oldestDue (s.records.values.filter (dueNow now)) per_tenant_limit limit := by
  have hscan : scan per_tenant_limit Dict.empty
      ((s.records.values.filter (dueNow now)).insertionSort oldestDue) =
      firsts (·.tenant_id) per_tenant_limit (fun _ => 0)
        ((s.records.values.filter (dueNow now)).insertionSort oldestDue) := scan_eq_firsts _ _
  have hsorted := (List.pairwise_insertionSort oldestDue
    (s.records.values.filter (dueNow now))).sublist (hscan ▸ firsts_sublist _ _)
  rw [fairPage_eq hd, ← hscan, InMemory.list_due_pending_fair]
  exact congrArg (List.take limit) hsorted.insertionSort_eq

variable {table : List (OutboundSendOutboxRecord Uuid)}

omit [Stdlib Uuid] in
theorem filter_by_ids (hd : (table.map (·.outbox_id)).Nodup)
    (p : OutboundSendOutboxRecord Uuid → Bool) :
    (table.filter fun r => r.outbox_id ∈ (table.filter p).map (·.outbox_id)) = table.filter p := by
  refine List.filter_congr fun r hr => ?_
  rw [Bool.eq_iff_iff, decide_eq_true_iff, List.mem_map]
  constructor
  · rintro ⟨x, hx, hid⟩
    obtain ⟨hx, hp⟩ := List.mem_filter.mp hx
    rwa [List.inj_on_of_nodup_map hd hx hr hid] at hp
  · exact fun hp => ⟨r, List.mem_filter.mpr ⟨hr, hp⟩, rfl⟩

theorem row_number_le_iff (hr : r ∈ due) :
    row_number due r ≤ per_tenant_limit ↔
      r ∈ ((due.filter (·.tenant_id = r.tenant_id)).insertionSort nullsFirst).take per_tenant_limit := by
  have hclass : r ∈ (due.filter (·.tenant_id = r.tenant_id)).insertionSort nullsFirst := by
    rw [List.mem_insertionSort]
    exact List.mem_filter.mpr ⟨hr, by simp⟩
  rw [List.mem_take_iff_idxOf_lt hclass]
  exact Nat.succ_le_iff

theorem postgres_page_eq (hd : (table.map (·.outbox_id)).Nodup) :
    Postgres.list_due_pending_fair table now per_tenant_limit limit =
      fairPage nullsFirst (table.filter (dueNow now)) per_tenant_limit limit := by
  have hranked : ((table.filter (dueNow now)).filter fun r =>
        row_number (table.filter (dueNow now)) r ≤ per_tenant_limit) =
      (table.filter (dueNow now)).filter fun r => r ∈ (((table.filter (dueNow now)).filter
        (·.tenant_id = r.tenant_id)).insertionSort nullsFirst).take per_tenant_limit :=
    List.filter_congr fun r hr => decide_eq_decide.mpr (row_number_le_iff hr)
  rw [Postgres.list_due_pending_fair, fairPage]
  simp only [hranked]
  rw [List.filter_filter, filter_by_ids hd]

omit [DecidableEq Uuid] in
theorem sorted_nullsFirst (due : List (OutboundSendOutboxRecord Uuid)) :
    due.insertionSort nullsFirst =
      (due.insertionSort oldestDue).filter isFresh ++ (due.insertionSort oldestDue).filter (!isFresh ·) := by
  have hsame : ∀ p : OutboundSendOutboxRecord Uuid → Bool,
      (∀ a b, p a = true → p b = true → (nullsFirst a b ↔ oldestDue a b)) →
        (due.insertionSort nullsFirst).filter p = (due.insertionSort oldestDue).filter p := by
    intro p hp
    rw [filter_insertionSort, filter_insertionSort]
    have hmap := List.map_insertionSort nullsFirst oldestDue id (due.filter p) fun a ha b hb =>
      hp a b (List.mem_filter.mp ha).2 (List.mem_filter.mp hb).2
    rwa [List.map_id, List.map_id] at hmap
  rw [← hsame _ fun a b => nullsFirst_iff_of_fresh, ← hsame _ fun a b ha hb => ?_]
  · exact eq_filter_append_filter (List.pairwise_insertionSort nullsFirst due) fun a b => not_nullsFirst
  · exact nullsFirst_iff_of_rescheduled (by simpa using ha) (by simpa using hb)

omit [Stdlib Uuid] in
theorem fair_fairPage {before : OutboundSendOutboxRecord Uuid → OutboundSendOutboxRecord Uuid → Prop}
    [DecidableRel before] [IsTrans (OutboundSendOutboxRecord Uuid) before] [Std.Total before]
    (hd : due.Nodup) :
    Fair (·.tenant_id) per_tenant_limit due (fairPage before due per_tenant_limit limit) limit := by
  rw [fairPage_eq hd]
  exact fair_firsts fun _ => List.mem_insertionSort before

/-- Each store lists a fair page, whichever of the two orders it sorts by. -/
theorem both_pages_are_fair (hkeyed : ∀ id r, s.records.get? id = some r → r.outbox_id = id) (now : Instant)
    (per_tenant_limit limit : Nat) :
    let due := s.records.values.filter (dueNow now)
    Fair (·.tenant_id) per_tenant_limit due
        (InMemory.list_due_pending_fair s now per_tenant_limit limit) limit ∧
      Fair (·.tenant_id) per_tenant_limit due
        (Postgres.list_due_pending_fair s.records.values now per_tenant_limit limit) limit := by
  have hids := InMemoryOutboundSendOutboxPersistence.ids_nodup hkeyed
  have hd : (s.records.values.filter (dueNow now)).Nodup := (List.Nodup.of_map _ hids).filter _
  rw [memory_page_eq hd, postgres_page_eq hids]
  exact ⟨fair_fairPage hd, fair_fairPage hd⟩

/-- For all rows and limits, the two stores list the fair page of the oldest due rows exactly when it is
untroubled. -/
theorem fair_pages_agree_iff (hkeyed : ∀ id r, s.records.get? id = some r → r.outbox_id = id) (now : Instant)
    (per_tenant_limit limit : Nat) :
    (InMemory.list_due_pending_fair s now per_tenant_limit limit =
          Postgres.list_due_pending_fair s.records.values now per_tenant_limit limit ∧
        InMemory.list_due_pending_fair s now per_tenant_limit limit =
          fairPage oldestDue (s.records.values.filter (dueNow now)) per_tenant_limit limit) ↔
      Untroubled (s.records.values.filter (dueNow now)) per_tenant_limit limit := by
  have hids := InMemoryOutboundSendOutboxPersistence.ids_nodup hkeyed
  have hd : (s.records.values.filter (dueNow now)).Nodup := (List.Nodup.of_map _ hids).filter _
  rw [memory_page_eq hd, postgres_page_eq hids, and_iff_left rfl]
  generalize s.records.values.filter (dueNow now) = due at hd ⊢
  have hsorted : (due.insertionSort oldestDue).Nodup := (List.perm_insertionSort oldestDue due).nodup_iff.mpr hd
  have hsettled : Untroubled due per_tenant_limit limit ↔
      Settled (·.tenant_id) per_tenant_limit isFresh (fun _ => 0) limit (due.insertionSort oldestDue) := by
    unfold Untroubled Settled
    rw [fairPage_eq hd]
    simp only [isFresh, Option.isNone_iff_eq_none, Option.isNone_eq_false_iff, Option.isSome_iff_ne_none,
      Nat.zero_add]
  rw [hsettled, ← take_firsts_marked_first_iff hsorted, fairPage_eq hd, fairPage_eq hd, sorted_nullsFirst]
  exact eq_comm

end

/-! ## A rescheduled row and a fresh one -/

def pendingRow (outbox_id : String) (created_at : Instant) (next_attempt_at : Option Instant) :
    OutboundSendOutboxRecord String :=
  { outbox_id, tenant_id := "t", channel := "email", action := "send", draft_id := "d", proposal_id := "p"
    session_id := "s", dispatch_id := "x", governance_decision_id := "g", recipient := "r"
    draft_body_sha256 := "", status := .pending, created_at, updated_at := created_at, next_attempt_at }

/-- A row that is due again at 5, and a row created at 8. -/
def retriedAndFresh : InMemoryOutboundSendOutboxPersistence String :=
  { InMemoryOutboundSendOutboxPersistence.new with
    records := Dict.ofList [("a", pendingRow "a" 0 (some 5)), ("b", pendingRow "b" 8 none)] }

/-- With room for one row, memory lists the one that is due longer, and Postgres the fresh one. -/
theorem the_fresh_row_comes_first :
    ¬ (InMemory.list_due_pending_fair retriedAndFresh 10 1 1 =
          Postgres.list_due_pending_fair retriedAndFresh.records.values 10 1 1 ∧
        InMemory.list_due_pending_fair retriedAndFresh 10 1 1 =
          fairPage oldestDue (retriedAndFresh.records.values.filter (dueNow 10)) 1 1) := by
  rintro ⟨hagree, -⟩
  have hpages : (InMemory.list_due_pending_fair retriedAndFresh 10 1 1).map (·.outbox_id) = ["a"] ∧
      (Postgres.list_due_pending_fair retriedAndFresh.records.values 10 1 1).map (·.outbox_id) = ["b"] := by
    decide +kernel
  rw [hagree, hpages.2] at hpages
  exact absurd hpages.1 (by decide)

theorem both_rows_fit :
    (InMemory.list_due_pending_fair retriedAndFresh 10 2 2 =
          Postgres.list_due_pending_fair retriedAndFresh.records.values 10 2 2 ∧
        InMemory.list_due_pending_fair retriedAndFresh 10 2 2 =
          fairPage oldestDue (retriedAndFresh.records.values.filter (dueNow 10)) 2 2) ↔
      Untroubled (retriedAndFresh.records.values.filter (dueNow 10)) 2 2 := by
  refine fair_pages_agree_iff (fun id r hr => ?_) 10 2 2
  have hitem := (Dict.get?_eq_some_iff _ _ _).mp hr
  have hitems : ∀ p ∈ retriedAndFresh.records.items, p.2.outbox_id = p.1 := by decide +kernel
  exact hitems _ hitem

theorem one_row_of_the_tenant :
    let due := retriedAndFresh.records.values.filter (dueNow 10)
    Fair (·.tenant_id) 1 due (InMemory.list_due_pending_fair retriedAndFresh 10 1 2) 2 ∧
      Fair (·.tenant_id) 1 due (Postgres.list_due_pending_fair retriedAndFresh.records.values 10 1 2) 2 := by
  have hitems : ∀ p ∈ retriedAndFresh.records.items, p.2.outbox_id = p.1 := by decide +kernel
  exact both_pages_are_fair (fun _ _ hr => hitems _ ((Dict.get?_eq_some_iff _ _ _).mp hr)) 10 1 2

end fair_pages

end operious.outbound
