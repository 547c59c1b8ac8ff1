-- The ledger of work orders: the table of transitions, the row with its history, the transition as a read
-- and a write, and the consumer of fulfillment callbacks.
import Mathlib.Logic.Function.Basic
import Operious.Lib.Runs
import Operious.Python

namespace operious.work_orders

/-! ## The table of transitions -/

inductive WorkOrderState
  | created | dispatched | awaiting_fulfillment | fulfilled | failed
  deriving DecidableEq, Repr

def WorkOrderState.value : WorkOrderState → String
  | created => "created"
  | dispatched => "dispatched"
  | awaiting_fulfillment => "awaiting_fulfillment"
  | fulfilled => "fulfilled"
  | failed => "failed"

/-- `_VALID_TRANSITIONS`. -/
def allowed_targets : WorkOrderState → List WorkOrderState
  | .created => [.dispatched, .failed]
  | .dispatched => [.awaiting_fulfillment, .failed]
  | .awaiting_fulfillment => [.fulfilled, .failed]
  | .fulfilled => []
  | .failed => []

/-- `_TERMINAL_STATES`. -/
def is_terminal (state : WorkOrderState) : Bool := state ∈ [WorkOrderState.fulfilled, .failed]

def can_transition (from_state to_state : WorkOrderState) : Bool := to_state ∈ allowed_targets from_state

def assert_transition (from_state to_state : WorkOrderState) : Except String Unit :=
  if can_transition from_state to_state then .ok ()
  else .error ("illegal work-order state transition: '" ++ from_state.value ++ "' -> '" ++
    to_state.value ++ "'")

theorem is_terminal_iff (state : WorkOrderState) : is_terminal state = true ↔ allowed_targets state = [] := by
  cases state <;> decide

theorem can_transition_terminal {from_state : WorkOrderState} (h : is_terminal from_state = true)
    (to_state : WorkOrderState) : can_transition from_state to_state = false := by
  unfold can_transition
  rw [(is_terminal_iff from_state).mp h]
  rfl

theorem assert_transition_ok {from_state to_state : WorkOrderState} :
    assert_transition from_state to_state = .ok () ↔ can_transition from_state to_state = true := by
  unfold assert_transition
  split <;> simp_all

/-! ## The row -/

/-- An entry of the history, whose source key `from` is a word of Lean. -/
structure TransitionEntry where
  from_state : WorkOrderState
  to_state : WorkOrderState
  transitioned_at : Instant
  metadata : Metadata := .empty
  deriving DecidableEq

structure WorkOrderRow (Uuid : Type) where
  work_order_id : Uuid
  state : WorkOrderState := .created
  provider_work_order_id : Option String := none
  provider_status : Option String := none
  last_transition_at : Instant
  transition_history : List TransitionEntry := []
  deriving DecidableEq

/-- The history leads from one state to the other, each step allowed. -/
def Path : WorkOrderState → List TransitionEntry → WorkOrderState → Prop
  | a, [], b => a = b
  | a, e :: rest, b => e.from_state = a ∧ can_transition a e.to_state = true ∧ Path e.to_state rest b

variable {l : List TransitionEntry}

theorem Path.concat {a b : WorkOrderState} {e : TransitionEntry} (h : Path a l b)
    (hfrom : e.from_state = b) (hallowed : can_transition b e.to_state = true) :
    Path a (l ++ [e]) e.to_state := by
  induction l generalizing a with
  | nil =>
    cases h
    exact ⟨hfrom, hallowed, rfl⟩
  | cons d rest ih => exact ⟨h.1, h.2.1, ih h.2.2⟩

theorem Path.unique {a b c : WorkOrderState} (h : Path a l b) (h' : Path a l c) : b = c := by
  induction l generalizing a with
  | nil => exact h.symm.trans h'
  | cons d rest ih => exact ih h.2.2 h'.2.2

section

variable {Uuid : Type}

/-! ## The transition -/

/-- What `transition_work_order` is asked for. -/
structure Transition where
  to_state : WorkOrderState
  transitioned_at : Instant
  provider_work_order_id : Option String := none
  provider_status : Option String := none
  metadata : Metadata := .empty

/-- The entry that is appended to the history of the row that was read. -/
def Transition.entry (t : Transition) (seen : WorkOrderRow Uuid) : TransitionEntry where
  from_state := seen.state
  to_state := t.to_state
  transitioned_at := t.transitioned_at
  metadata := t.metadata

/-- A column that is assigned: the flush writes it when it differs from what was read. -/
def assigned (value seen stored : Option String) : Option String :=
  match value with
  | none => stored
  | some text => if seen = some text then stored else some text

/-- The update of the row by its id, with the columns that come from the row as it was read. -/
def Transition.write (t : Transition) (seen row : WorkOrderRow Uuid) : WorkOrderRow Uuid :=
  { row with
    state := t.to_state
    last_transition_at := t.transitioned_at
    transition_history := seen.transition_history ++ [t.entry seen]
    provider_work_order_id :=
      assigned t.provider_work_order_id seen.provider_work_order_id row.provider_work_order_id
    provider_status := assigned t.provider_status seen.provider_status row.provider_status }

/-- `transition_work_order` with no one between its read and its write. -/
def transition_work_order (row : WorkOrderRow Uuid) (t : Transition) :
    Except String (WorkOrderRow Uuid) := do
  assert_transition row.state t.to_state
  return t.write row row

/-! ## Fulfillment callbacks -/

inductive FulfillmentReportedStatus
  | fulfilled | failed
  deriving DecidableEq, Repr

def FulfillmentReportedStatus.value : FulfillmentReportedStatus → String
  | fulfilled => "fulfilled"
  | failed => "failed"

inductive WorkOrderFulfillmentOutcome
  | applied | duplicate | ignored_non_awaiting | uncorrelated
  deriving DecidableEq, Repr

structure WorkOrderFulfillmentSignal where
  provider_work_order_id : String
  reported_status : FulfillmentReportedStatus
  source_ingress_id : String
  source_event_id : Option String := none
  provider_status : Option String := none
  provider_error : Option String := none
  /-- `received_at`, or else the clock of the consumer. -/
  received_at : Instant
  metadata : Metadata := .empty

def FulfillmentReportedStatus.target_state : FulfillmentReportedStatus → WorkOrderState
  | fulfilled => .fulfilled
  | failed => .failed

/-- The transition that `consume` asks for. -/
def WorkOrderFulfillmentSignal.transition (signal : WorkOrderFulfillmentSignal) : Transition where
  to_state := signal.reported_status.target_state
  transitioned_at := signal.received_at
  provider_work_order_id := some signal.provider_work_order_id
  provider_status := orStr signal.provider_status (some signal.reported_status.value)
  metadata := (Dict.ofList [
    ("phase", .str "tenant_fulfillment_callback"),
    ("source_ingress_id", .str signal.source_ingress_id),
    ("source_event_id", .ofOptStr signal.source_event_id),
    ("reported_status", .str signal.reported_status.value),
    ("provider_error", .ofOptStr signal.provider_error)]).update signal.metadata.items

/-- What `consume` answers from the row that it finds, or none when it goes on to the transition. -/
def consumption (row : WorkOrderRow Uuid) (signal : WorkOrderFulfillmentSignal) :
    Option WorkOrderFulfillmentOutcome :=
  if row.provider_work_order_id ≠ some signal.provider_work_order_id then some .uncorrelated
  else if row.state = signal.reported_status.target_state ∧ is_terminal row.state then some .duplicate
  else if row.state ≠ .awaiting_fulfillment then some .ignored_non_awaiting
  else none

theorem target_state_terminal (status : FulfillmentReportedStatus) :
    is_terminal status.target_state = true := by
  cases status <;> rfl

/-- `consume` with no one between its reads and its write. -/
def consume (row : WorkOrderRow Uuid) (signal : WorkOrderFulfillmentSignal) :
    Except String (WorkOrderFulfillmentOutcome × WorkOrderRow Uuid) :=
  match consumption row signal with
  | some outcome => .ok (outcome, row)
  | none => (transition_work_order row signal.transition).map (.applied, ·)

theorem consume_ok (row : WorkOrderRow Uuid) (signal : WorkOrderFulfillmentSignal) :
    ∃ outcome row', consume row signal = .ok (outcome, row') ∧
      (row' = row ∨ (outcome = .applied ∧ row.state = .awaiting_fulfillment ∧
        row' = signal.transition.write row row)) := by
  unfold consume
  cases hdecided : consumption row signal with
  | some outcome => exact ⟨outcome, row, rfl, .inl rfl⟩
  | none =>
    have hawaiting : row.state = .awaiting_fulfillment := by
      unfold consumption at hdecided
      split at hdecided
      · cases hdecided
      · split at hdecided
        · cases hdecided
        · split at hdecided
          · cases hdecided
          · rename_i hstate
            exact not_not.mp hstate
    have hallowed : assert_transition row.state signal.transition.to_state = .ok () := by
      rw [assert_transition_ok, hawaiting]
      cases h : signal.reported_status <;> simp only [WorkOrderFulfillmentSignal.transition, h] <;> rfl
    refine ⟨.applied, signal.transition.write row row, ?_, .inr ⟨rfl, hawaiting, rfl⟩⟩
    unfold transition_work_order
    rw [hallowed]
    rfl

end

end operious.work_orders

-- Workers side by side on one work order. A transition writes the row by its id, with a history that it
-- has computed from the row as it was read, so the history is kept exactly where no one writes between.
namespace operious.work_orders

open runs

section

variable {ι Uuid : Type} [DecidableEq ι]

/-! ## The workers -/

/-- How far a worker is. -/
inductive Worker (Uuid : Type)
  | idle
  /-- A callback has found the row, and it awaits fulfillment. -/
  | consuming (signal : WorkOrderFulfillmentSignal) (loaded : WorkOrderRow Uuid)
  /-- The transition has read the row, and it is allowed from there. -/
  | transitioning (t : Transition) (callback : Bool) (seen : WorkOrderRow Uuid)

structure System (ι Uuid : Type) where
  row : WorkOrderRow Uuid
  workers : ι → Worker Uuid
  /-- How many callbacks were answered as applied. -/
  applied : Nat

inductive Event (ι : Type)
  /-- A callback looks the row up. -/
  | lookup (i : ι) (signal : WorkOrderFulfillmentSignal)
  /-- The transition of a callback reads the row again, or gets what its session has loaded. -/
  | reread (i : ι) (refreshed : Bool)
  /-- The transition of a connector, or of a stamp for a follow-up, reads the row. -/
  | read (i : ι) (t : Transition)
  | write (i : ι)
  /-- The worker dies, or what it wrote is rolled back. -/
  | stop (i : ι)

variable (s : System ι Uuid)

/-- The worker goes on to its write, if the transition is allowed from the row that it has read. -/
def transitioningFrom (t : Transition) (callback : Bool) (seen : WorkOrderRow Uuid) : Worker Uuid :=
  match assert_transition seen.state t.to_state with
  | .error _ => .idle
  | .ok _ => .transitioning t callback seen

def System.place (i : ι) (w : Worker Uuid) : System ι Uuid :=
  { s with workers := Function.update s.workers i w }

def Event.next (s : System ι Uuid) : Event ι → Option (System ι Uuid)
  | lookup i signal =>
    some (s.place i (match consumption s.row signal with
      | some _ => .idle
      | none => .consuming signal s.row))
  | reread i refreshed =>
    match s.workers i with
    | .consuming signal loaded =>
      some (s.place i (transitioningFrom signal.transition true (if refreshed then s.row else loaded)))
    | _ => none
  | read i t => some (s.place i (transitioningFrom t false s.row))
  | write i =>
    match s.workers i with
    | .transitioning t callback seen =>
      some { s.place i .idle with
        row := t.write seen s.row
        applied := s.applied + if callback then 1 else 0 }
    | _ => none
  | stop i => some (s.place i .idle)

def System.start (work_order_id : Uuid) (created_at : Instant) : System ι Uuid where
  row := { work_order_id, last_transition_at := created_at }
  workers _ := .idle
  applied := 0

/-! ## The law -/

def Event.committed (s : System ι Uuid) : Event ι → List TransitionEntry
  | write i =>
    match s.workers i with
    | .transitioning t _ seen => [t.entry seen]
    | _ => []
  | _ => []

/-- A terminal state stays; the history leads from the creation to the stored state and misses no entry
that was committed; and one callback at most is answered as applied. -/
structure HistoryKept (before : System ι Uuid) (event : Event ι) (after : System ι Uuid) : Prop where
  final : is_terminal before.row.state = true → after.row.state = before.row.state
  path : Path .created after.row.transition_history after.row.state
  complete : after.row.transition_history = before.row.transition_history ++ event.committed before
  once : after.applied ≤ 1

/-- No one has written the history since the worker has read it. -/
def Current (s : System ι Uuid) : Event ι → Prop
  | .write i =>
    match s.workers i with
    | .transitioning _ _ seen => seen.transition_history = s.row.transition_history
    | _ => True
  | _ => True

/-- What every row that was ever stored is. -/
def Traced (row : WorkOrderRow Uuid) : Prop := Path .created row.transition_history row.state

def Worker.Sound : Worker Uuid → Prop
  | idle => True
  | consuming _ loaded => Traced loaded
  | transitioning t callback seen => Traced seen ∧ can_transition seen.state t.to_state = true ∧
      (callback = true → is_terminal t.to_state = true)

/-- What holds between the events of every run in which no write is stale. -/
structure Sound (s : System ι Uuid) : Prop where
  traced : Traced s.row
  workers : ∀ i, (s.workers i).Sound
  once : s.applied ≤ 1
  applied : s.applied ≠ 0 → is_terminal s.row.state = true

variable {s}

theorem Sound.place (h : Sound s) (i : ι) {w : Worker Uuid} (hw : w.Sound) : Sound (s.place i w) := by
  refine ⟨h.traced, fun j => ?_, h.once, h.applied⟩
  unfold System.place
  by_cases hj : j = i
  · subst hj
    simpa using hw
  · simpa [Function.update_of_ne hj] using h.workers j

variable {seen : WorkOrderRow Uuid} {callback : Bool} {t : Transition}

omit [DecidableEq ι] in
theorem transitioningFrom_sound (hseen : Traced seen)
    (hterminal : callback = true → is_terminal t.to_state = true) :
    (transitioningFrom t callback seen).Sound := by
  unfold transitioningFrom
  cases hassert : assert_transition seen.state t.to_state with
  | error _ => trivial
  | ok _ => exact ⟨hseen, assert_transition_ok.mp hassert, hterminal⟩

variable {event : Event ι}

theorem Sound.kept (h : Sound s) (i : ι) (w : Worker Uuid) (hcommitted : event.committed s = []) :
    HistoryKept s event (s.place i w) where
  final _ := rfl
  path := h.traced
  complete := by rw [hcommitted, List.append_nil]; rfl
  once := h.once

omit [DecidableEq ι] in
theorem Sound.write (h : Sound s) {i : ι} (hworker : s.workers i = .transitioning t callback seen)
    (hcurrent : seen.transition_history = s.row.transition_history) :
    (is_terminal s.row.state = false) ∧ Path .created (seen.transition_history ++ [t.entry seen]) t.to_state ∧
      s.applied + (if callback then 1 else 0) ≤ 1 ∧
      (s.applied + (if callback then 1 else 0) ≠ 0 → is_terminal t.to_state = true) := by
  have hsound := h.workers i
  rw [hworker] at hsound
  obtain ⟨hseen, hallowed, hterminal⟩ := hsound
  -- the histories are the same, and so are the states that they lead to
  have hstate : seen.state = s.row.state := by
    have htraced := h.traced
    unfold Traced at htraced hseen
    rw [hcurrent] at hseen
    exact hseen.unique htraced
  have hopen : is_terminal s.row.state = false := by
    by_contra hnot
    rw [Bool.not_eq_false, ← hstate] at hnot
    rw [can_transition_terminal hnot] at hallowed
    cases hallowed
  have hnone : s.applied = 0 := by
    by_contra hne
    rw [h.applied hne] at hopen
    cases hopen
  refine ⟨hopen, hseen.concat rfl hallowed, ?_, ?_⟩
  · rw [hnone]
    split <;> decide
  · rw [hnone]
    intro hne
    split at hne
    · exact hterminal ‹_›
    · exact absurd rfl hne

theorem Sound.next (h : Sound s) {s' : System ι Uuid} (hnext : event.next s = some s') :
    (Current s event → Sound s') ∧ (HistoryKept s event s' ↔ Current s event) := by
  have hquiet {i : ι} {w : Worker Uuid} (hw : w.Sound) (hcommitted : event.committed s = [])
      (hcurrent : Current s event) (hnext : some (s.place i w) = some s') :
      (Current s event → Sound s') ∧ (HistoryKept s event s' ↔ Current s event) := by
    cases hnext
    exact ⟨fun _ => h.place i hw, fun _ => hcurrent, fun _ => h.kept i w hcommitted⟩
  cases event with
  | lookup i signal =>
    refine hquiet ?_ rfl trivial hnext
    cases consumption s.row signal with
    | some _ => trivial
    | none => exact h.traced
  | reread i refreshed =>
    rw [Event.next] at hnext
    split at hnext
    · rename_i signal loaded hworker
      have hloaded := h.workers i
      rw [hworker] at hloaded
      refine hquiet (transitioningFrom_sound ?_ fun _ => target_state_terminal _) rfl trivial hnext
      cases refreshed with
      | true => exact h.traced
      | false => exact hloaded
    · cases hnext
  | read i t =>
    have hread : (transitioningFrom t false s.row).Sound := transitioningFrom_sound h.traced nofun
    exact hquiet hread rfl trivial hnext
  | stop i => exact hquiet (w := .idle) trivial rfl trivial hnext
  | write i =>
    rw [Event.next] at hnext
    split at hnext
    · rename_i t callback seen hworker
      cases hnext
      have hcurrent : Current s (.write i) ↔ seen.transition_history = s.row.transition_history := by
        simp only [Current, hworker]
      have hcommitted : Event.committed s (.write i) = [t.entry seen] := by
        simp only [Event.committed, hworker]
      rw [hcurrent]
      constructor
      · intro hsame
        obtain ⟨-, hpath, honce, happlied⟩ := h.write hworker hsame
        exact ⟨hpath, (h.place i (w := .idle) trivial).workers, honce, happlied⟩
      · constructor
        · intro hkept
          have hcomplete := hkept.complete
          rw [hcommitted] at hcomplete
          exact List.append_cancel_right hcomplete
        · intro hsame
          obtain ⟨hopen, hpath, honce, -⟩ := h.write hworker hsame
          refine ⟨fun hterminal => ?_, hpath, ?_, honce⟩
          · rw [hopen] at hterminal
            cases hterminal
          · rw [hcommitted, ← hsame]
            rfl
    · cases hnext

/-- Whatever workers run side by side, the history of a work order is kept exactly where no write is of a
row that another worker has written since it was read. -/
theorem history_kept_iff (work_order_id : Uuid) (created_at : Instant) (events : List (Event ι)) :
    Along Event.next HistoryKept (.start work_order_id created_at) events ↔
      Meets Event.next Current (.start work_order_id created_at) events := by
  refine along_iff_meets (I := Sound) ?_ ?_ ⟨rfl, fun _ => trivial, Nat.zero_le 1, fun hne => absurd rfl hne⟩
  · exact fun _ _ _ h hcurrent hnext => (h.next hnext).1 hcurrent
  · exact fun _ _ _ h hnext => (h.next hnext).2

end

/-! ## Contradictory callbacks -/

/-- The connector dispatches the order, and two callbacks find it before either has written. -/
def contradicted : List (Event Nat) :=
  let signal (status : FulfillmentReportedStatus) : WorkOrderFulfillmentSignal :=
    { provider_work_order_id := "p-1", reported_status := status, source_ingress_id := "i", received_at := 3 }
  [.read 0 { to_state := .dispatched, transitioned_at := 1, provider_work_order_id := some "p-1" }, .write 0,
   .read 0 { to_state := .awaiting_fulfillment, transitioned_at := 2 }, .write 0,
   .lookup 1 (signal .fulfilled), .reread 1 true, .lookup 2 (signal .failed), .reread 2 true, .write 1]

/-- The second callback takes the fulfillment back, and both are answered as applied. -/
theorem fulfillment_is_taken_back :
    ¬ Along Event.next HistoryKept (.start "w" 0 : System Nat String) (contradicted ++ [.write 2]) := by
  intro h
  have hrun : ((after Event.next (.start "w" 0 : System Nat String) contradicted).bind fun s =>
      (Event.next s (.write 2)).map fun s' => (s.row.state, s'.row.state, s'.applied)) =
      some (.fulfilled, .failed, 2) := by
    decide +kernel
  obtain ⟨s, hs, hrun⟩ := Option.bind_eq_some_iff.mp hrun
  obtain ⟨s', hnext, hrun⟩ := Option.map_eq_some_iff.mp hrun
  have honce := (h.last hs hnext).once
  rw [show s'.applied = 2 from congrArg (·.2.2) hrun] at honce
  exact absurd honce (by decide)

end operious.work_orders
