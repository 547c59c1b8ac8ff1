-- The hourly task that follows up on stale work orders. It stamps an order through the transition,
-- whose table has no step from a state to itself, so no stamp is ever stored; and no line of it sends
-- a message.
import Mathlib.Data.String.Basic
import Operious.WorkOrders.Ledger

namespace operious.work_orders

/-! ## The table of work orders -/

/-- The columns that the task reads, over those of a transition. -/
structure WorkOrderRecord (Uuid : Type) extends WorkOrderRow Uuid where
  tenant_id : String
  session_id : Option Uuid := none
  created_at : Instant
  metadata_json : Metadata := .empty

/-- The rows, under their primary key. -/
structure WorkOrderTable (Uuid : Type) where
  rows : List (WorkOrderRecord Uuid)
  ids : (rows.map (·.work_order_id)).Nodup

section

variable {Uuid : Type} [LinearOrder Uuid]

/-- A row takes the place of the one with its id. -/
def WorkOrderTable.put (table : WorkOrderTable Uuid) (row : WorkOrderRecord Uuid) :
    WorkOrderTable Uuid where
  rows := table.rows.map fun r => if r.work_order_id = row.work_order_id then row else r
  ids := by
    have hids : ∀ r : WorkOrderRecord Uuid,
        (if r.work_order_id = row.work_order_id then row else r).work_order_id = r.work_order_id := by
      intro r
      split
      · exact Eq.symm ‹_›
      · rfl
    simp only [List.map_map, Function.comp_def, hids]
    exact table.ids

def WorkOrderTable.list_work_orders (table : WorkOrderTable Uuid) (tenant_id : String)
    (state : WorkOrderState) : List (WorkOrderRecord Uuid) :=
  (table.rows.filter fun row => row.tenant_id = tenant_id ∧ row.state = state).mergeSort fun a b =>
    a.created_at < b.created_at ∨ (a.created_at = b.created_at ∧ a.work_order_id ≤ b.work_order_id)

variable [Stdlib Uuid]

/-- `transition_work_order` on the table. The metadata of the call goes into the entry of the history. -/
def WorkOrderTable.transition (table : WorkOrderTable Uuid) (work_order_id : Uuid) (t : Transition)
    (tenant_id : String) : Except String (WorkOrderTable Uuid) :=
  match table.rows.find? fun row => row.work_order_id = work_order_id ∧ row.tenant_id = tenant_id with
  | none => .error ("work order not found: " ++ Stdlib.str work_order_id)
  | some row =>
    (transition_work_order row.toWorkOrderRow t).map fun written =>
      table.put { row with toWorkOrderRow := written }

end

/-! ## The task -/

/-- The truth of a value of a metadata dict. -/
def truthy : Value → Bool
  | .none => false
  | .bool b => b
  | .int i => i ≠ 0
  | .str s => !s.isEmpty

def DEFAULT_SLA_HOURS : Int := 24

def FOLLOWUP_SENT_KEY : String := "followup_sent_at"

def WorkOrderRecord.followed_up {Uuid : Type} (order : WorkOrderRecord Uuid) : Bool :=
  (order.metadata_json.get? FOLLOWUP_SENT_KEY).any truthy

/-- One run of the task: its clock, the tenants that it finds, and what of its work fails. -/
structure Poll (Uuid : Type) where
  now : Instant
  /-- None, when the list of the tenants cannot be read. -/
  tenant_ids : Option (List String)
  listing_fails : String → Bool := fun _ => false
  stamping_fails : Uuid → Bool := fun _ => false

def Poll.sla_cutoff {Uuid : Type} (p : Poll Uuid) : Instant := p.now - DEFAULT_SLA_HOURS * 3600000000

structure World (Uuid : Type) where
  table : WorkOrderTable Uuid
  sent : List Uuid := []

section

variable {Uuid : Type} [LinearOrder Uuid] [Stdlib Uuid]

def maybe_followup (p : Poll Uuid) (tenant_id : String) (w : World Uuid)
    (work_order : WorkOrderRecord Uuid) : Except String (World Uuid) :=
  if work_order.followed_up then .ok w
  else if work_order.last_transition_at > p.sla_cutoff then .ok w
  else if work_order.session_id = none then .ok w
  else if p.stamping_fails work_order.work_order_id then .error "the session of the stamp failed"
  else
    let stamp : Transition := {
      to_state := .awaiting_fulfillment
      transitioned_at := p.now
      metadata :=
        work_order.metadata_json.set FOLLOWUP_SENT_KEY (.str (Stdlib.isoformat Uuid p.now)) }
    (w.table.transition work_order.work_order_id stamp tenant_id).map fun table => { w with table }

def followup (p : Poll Uuid) (tenant_id : String) (w : World Uuid) (work_order : WorkOrderRecord Uuid) :
    World Uuid :=
  match maybe_followup p tenant_id w work_order with
  | .error _ => w
  | .ok w' => w'

def poll_tenant (p : Poll Uuid) (w : World Uuid) (tenant_id : String) : World Uuid :=
  if p.listing_fails tenant_id then w
  else (w.table.list_work_orders tenant_id .awaiting_fulfillment).foldl (followup p tenant_id) w

def poll_stale_work_orders (w : World Uuid) (p : Poll Uuid) : World Uuid :=
  match p.tenant_ids with
  | none => w
  | some tenant_ids => tenant_ids.foldl (poll_tenant p) w

/-- One run after the other. -/
def runs_after (w : World Uuid) (polls : List (Poll Uuid)) : World Uuid :=
  polls.foldl poll_stale_work_orders w

end

/-! ## The law -/

section

variable {Uuid : Type}

/-- The run has the order to follow up: it sees it awaiting fulfillment past the time that is agreed,
with a session and no follow-up yet, and its own work does not fail. -/
structure Due (p : Poll Uuid) (order : WorkOrderRecord Uuid) : Prop where
  state : order.state = .awaiting_fulfillment
  tenant : ∃ tenant_ids, p.tenant_ids = some tenant_ids ∧ order.tenant_id ∈ tenant_ids
  listed : p.listing_fails order.tenant_id = false
  stale : order.last_transition_at ≤ p.sla_cutoff
  session : order.session_id ≠ none
  first : order.followed_up = false
  stamped : p.stamping_fails order.work_order_id = false

variable [LinearOrder Uuid] [Stdlib Uuid]

/-- The run that an order is due in sends one follow-up for it and records it without a change of the
state, and the runs after it send none. -/
def FollowedUpOnce (start : World Uuid) (polls : List (Poll Uuid)) : Prop :=
  ∀ earlier p later, polls = earlier ++ p :: later →
    ∀ order ∈ (runs_after start earlier).table.rows, Due p order →
      let before := runs_after start earlier
      let after := poll_stale_work_orders before p
      after.sent.count order.work_order_id = before.sent.count order.work_order_id + 1 ∧
      (∃ recorded ∈ after.table.rows, recorded.work_order_id = order.work_order_id ∧
        recorded.state = order.state ∧ recorded.followed_up = true) ∧
      (runs_after after later).sent.count order.work_order_id =
        after.sent.count order.work_order_id

/-! ## What a run does -/

variable {order : WorkOrderRecord Uuid}

variable {table : WorkOrderTable Uuid}

omit [LinearOrder Uuid] [Stdlib Uuid] in
theorem find_row [DecidableEq Uuid] (h : order ∈ table.rows) :
    (table.rows.find? fun row =>
      row.work_order_id = order.work_order_id ∧ row.tenant_id = order.tenant_id) = some order := by
  have hkey : ∀ row ∈ table.rows, row.work_order_id = order.work_order_id → row = order := by
    intro row hrow hid
    exact List.inj_on_of_nodup_map table.ids hrow h hid
  cases hfind : table.rows.find? fun row =>
      row.work_order_id = order.work_order_id ∧ row.tenant_id = order.tenant_id with
  | none =>
    rw [List.find?_eq_none] at hfind
    exact absurd (by simp) (hfind order h)
  | some row =>
    have hrow := List.find?_some hfind
    simp only [decide_eq_true_eq] at hrow
    rw [hkey row (List.mem_of_find?_eq_some hfind) hrow.1]

theorem transition_to_own_state (h : order ∈ table.rows) {t : Transition}
    (ht : t.to_state = order.state) :
    ∃ message, table.transition order.work_order_id t order.tenant_id = .error message := by
  have hrefused : can_transition order.state t.to_state = false := by
    rw [ht]
    cases order.state <;> rfl
  unfold WorkOrderTable.transition transition_work_order assert_transition
  rw [find_row h]
  simp only [hrefused]
  exact ⟨_, rfl⟩

variable {p : Poll Uuid}

theorem maybe_followup_ok {w w' : World Uuid} (hmem : order ∈ w.table.rows)
    (hstate : order.state = .awaiting_fulfillment)
    (h : maybe_followup p order.tenant_id w order = .ok w') : w' = w := by
  unfold maybe_followup at h
  split at h
  · exact (Except.ok.inj h).symm
  split at h
  · exact (Except.ok.inj h).symm
  split at h
  · exact (Except.ok.inj h).symm
  split at h
  · cases h
  obtain ⟨message, hrefused⟩ := transition_to_own_state hmem (t := {
    to_state := .awaiting_fulfillment
    transitioned_at := p.now
    metadata := order.metadata_json.set FOLLOWUP_SENT_KEY (.str (Stdlib.isoformat Uuid p.now)) })
    hstate.symm
  simp only [hrefused] at h
  cases h

theorem followup_eq {tenant_id : String} {w : World Uuid}
    (h : order ∈ w.table.list_work_orders tenant_id .awaiting_fulfillment) :
    followup p tenant_id w order = w := by
  have hrow := List.mem_filter.mp (List.mem_mergeSort.mp h)
  simp only [decide_eq_true_eq] at hrow
  obtain ⟨hmem, rfl, hstate⟩ := hrow
  unfold followup
  split
  · rfl
  · rename_i w' hw'
    exact maybe_followup_ok hmem hstate hw'

theorem poll_tenant_eq (p : Poll Uuid) (w : World Uuid) (tenant_id : String) :
    poll_tenant p w tenant_id = w := by
  unfold poll_tenant
  split
  · rfl
  · suffices hall : ∀ orders : List (WorkOrderRecord Uuid), (∀ order ∈ orders,
        order ∈ w.table.list_work_orders tenant_id .awaiting_fulfillment) →
        orders.foldl (followup p tenant_id) w = w from hall _ fun _ h => h
    intro orders horders
    induction orders with
    | nil => rfl
    | cons order rest ih =>
      rw [List.foldl_cons, followup_eq (horders order List.mem_cons_self)]
      exact ih fun o ho => horders o (List.mem_cons_of_mem _ ho)

theorem poll_eq (w : World Uuid) (p : Poll Uuid) : poll_stale_work_orders w p = w := by
  unfold poll_stale_work_orders
  split
  · rfl
  · rename_i tenant_ids hfound
    clear hfound
    induction tenant_ids with
    | nil => rfl
    | cons tenant_id rest ih => rwa [List.foldl_cons, poll_tenant_eq]

theorem runs_after_eq (w : World Uuid) (polls : List (Poll Uuid)) : runs_after w polls = w := by
  induction polls with
  | nil => rfl
  | cons p rest ih =>
    unfold runs_after at ih ⊢
    rw [List.foldl_cons, poll_eq, ih]

/-- Stale orders are followed up once exactly when no run has one to follow up. -/
theorem followed_up_once_iff (start : World Uuid) (polls : List (Poll Uuid)) :
    FollowedUpOnce start polls ↔ ∀ p ∈ polls, ∀ order ∈ start.table.rows, ¬ Due p order := by
  constructor
  · intro h p hp order horder hdue
    obtain ⟨earlier, later, hpolls⟩ := List.append_of_mem hp
    have hrow : order ∈ (runs_after start earlier).table.rows := by rwa [runs_after_eq]
    have hsent := (h earlier p later hpolls order hrow hdue).1
    rw [poll_eq] at hsent
    exact absurd hsent (Nat.ne_of_lt (Nat.lt_succ_self _))
  · intro h earlier p later hpolls order horder hdue
    rw [runs_after_eq] at horder
    have hp : p ∈ polls := hpolls ▸ List.mem_append_right _ List.mem_cons_self
    exact absurd hdue (h p hp order horder)

end

/-- An order that has waited for two days. -/
def waiting : World String where
  table := {
    rows := [{
      work_order_id := "w"
      state := .awaiting_fulfillment
      last_transition_at := 0
      tenant_id := "t"
      session_id := some "s"
      created_at := 0 }]
    ids := List.nodup_singleton _ }

def two_days_later : Poll String where
  now := 172800000000
  tenant_ids := some ["t"]

theorem waiting_is_not_followed_up : ¬ FollowedUpOnce waiting [two_days_later] := by
  intro h
  have hrow := List.mem_singleton_self (waiting.table.rows.head (by decide))
  have hsent := (h [] two_days_later [] rfl _ hrow {
    state := rfl
    tenant := ⟨["t"], rfl, List.mem_singleton_self _⟩
    listed := rfl
    stale := by decide
    session := by decide
    first := rfl
    stamped := rfl }).1
  rw [poll_eq] at hsent
  exact absurd hsent (Nat.ne_of_lt (Nat.lt_succ_self _))

end operious.work_orders
