-- Dispatches side by side in one conversation. Each looks up the newest session of the handle, and then
-- appends to it or opens one whose id its own ingress decides, whatever has come in between.
import Operious.Lib.Runs
import Operious.Session.Runtime

namespace operious.continuity

open operious.session (SessionException SessionLifecyclePhase derive_session_id is_terminal)
open runs

/-! ## The sessions of a handle -/

/-- The idempotency keys of a dispatch, `follow_up_received:` and `customer_message:` with its ingress. -/
inductive EventKey (Uuid : Type)
  | follow_up_received (ingress_id : Uuid)
  | customer_message (ingress_id : Uuid)
  deriving DecidableEq

structure SessionRow (Uuid : Type) where
  session_id : Uuid
  opened_at : Instant
  phase : SessionLifecyclePhase := .initiated
  parent_session_id : Option Uuid := none
  sequence_head : Nat := 0
  deriving DecidableEq

inductive ContinuityOutcome
  | new_case | continuation | reopened_case
  deriving DecidableEq, Repr

structure CaseContinuityResult (Uuid : Type) where
  outcome : ContinuityOutcome
  existing_session_id : Option Uuid := none
  prior_session_id : Option Uuid := none

section

variable {ι Uuid : Type} [DecidableEq ι] [DecidableEq Uuid] [Stdlib Uuid]

def newestFirst (a b : SessionRow Uuid) : Prop :=
  b.opened_at < a.opened_at ∨
    b.opened_at = a.opened_at ∧ Stdlib.str b.session_id ≤ Stdlib.str a.session_id

instance : DecidableRel (@newestFirst Uuid _) := fun a b =>
  inferInstanceAs (Decidable (b.opened_at < a.opened_at ∨
    b.opened_at = a.opened_at ∧ Stdlib.str b.session_id ≤ Stdlib.str a.session_id))

/-- `CaseContinuityRuntime.evaluate`. -/
def evaluate (sessions : Dict Uuid (SessionRow Uuid)) : CaseContinuityResult Uuid :=
  match (sessions.values.insertionSort newestFirst).head? with
  | none => { outcome := .new_case }
  | some session =>
    if is_terminal session.phase then
      { outcome := .reopened_case, existing_session_id := some session.session_id
        prior_session_id := some session.session_id }
    else { outcome := .continuation, existing_session_id := some session.session_id }

/-- A session on another handle that the identity of the customer has matched is reopened, rather than a
new case made. -/
def preferMatched (continuity : CaseContinuityResult Uuid) (matched : Option Uuid) :
    CaseContinuityResult Uuid :=
  match continuity.outcome, matched with
  | .new_case, some session_id =>
    { outcome := .reopened_case, existing_session_id := some session_id, prior_session_id := some session_id }
  | _, _ => continuity

/-- The conversation, and how far each dispatch of its messages is. -/
structure Conversation where
  tenant_id : String
  external_handle : String

/-- `_dispatch_session_id`, or `_reopened_dispatch_session_id`: the id of the session to open. -/
def Conversation.opened_session_id (c : Conversation) (outcome : ContinuityOutcome) (ingress_id : Uuid) :
    Except SessionException Uuid :=
  derive_session_id "tenant" (some c.tenant_id) none
    (if outcome = .reopened_case then c.external_handle ++ "|reopened|" ++ Stdlib.str ingress_id
    else c.external_handle)

/-! ## The dispatches -/

inductive Dispatch (Uuid : Type)
  | looked_up (ingress_id : Uuid) (continuity : CaseContinuityResult Uuid)
  /-- It has appended to a session, or opened one, and its registry holds this copy. -/
  | joined (ingress_id : Uuid) (session : SessionRow Uuid)

structure System (ι Uuid : Type) where
  sessions : Dict Uuid (SessionRow Uuid) := .empty
  keys : Uuid → List (EventKey Uuid) := fun _ => []
  dispatches : ι → Option (Dispatch Uuid) := fun _ => none
  /-- The messages whose dispatch has gone on to its execution. -/
  dispatched : List Uuid := []

inductive Event (ι Uuid : Type)
  | lookup (i : ι) (ingress_id : Uuid) (matched : Option Uuid)
  /-- The first write: the follow-up of a session, or a session that is opened. -/
  | join (i : ι) (started_at : Instant)
  /-- `_append_customer_message_event`. -/
  | message (i : ι)
  /-- `record_lifecycle`, by whoever ends a session or wakes it. -/
  | lifecycle (session_id : Uuid) (phase : SessionLifecyclePhase)
  /-- The dispatch raises or dies. -/
  | stop (i : ι)

variable (s : System ι Uuid)

def System.place (i : ι) (dispatch : Option (Dispatch Uuid)) : System ι Uuid :=
  { s with dispatches := Function.update s.dispatches i dispatch }

/-- `append_event` from a copy of the session, and the copy after it. A key that is there is answered from
its event; a copy that is not the head of the stored events is refused. -/
def System.append (session : SessionRow Uuid) (key : EventKey Uuid) :
    Option (SessionRow Uuid × System ι Uuid) :=
  if key ∈ s.keys session.session_id then some (session, s)
  else if is_terminal session.phase then none
  else if (s.sessions.get? session.session_id).all (·.sequence_head ≠ session.sequence_head) then none
  else
    let updated := { session with sequence_head := session.sequence_head + 1 }
    some (updated, { s with
      sessions := s.sessions.set session.session_id updated
      keys := Function.update s.keys session.session_id (s.keys session.session_id ++ [key]) })

/-- `open_session` under an id of its own. A session that is there, with its first event alone, is joined,
and one that has gone on is a revision that is not monotonic. -/
def System.open_session (session_id : Uuid) (parent_session_id : Option Uuid) (started_at : Instant) :
    Option (SessionRow Uuid × System ι Uuid) :=
  match s.sessions.get? session_id with
  | some existing => if existing.sequence_head = 0 then some (existing, s) else none
  | none =>
    let session := { session_id, opened_at := started_at, parent_session_id }
    some (session, { s with sessions := s.sessions.set session_id session })

variable (c : Conversation)

/-- The first write of a dispatch. -/
def System.join (ingress_id : Uuid) (continuity : CaseContinuityResult Uuid) (started_at : Instant) :
    Option (SessionRow Uuid × System ι Uuid) :=
  match continuity.outcome with
  | .continuation => do
    let session ← continuity.existing_session_id.bind s.sessions.get?
    s.append session (.follow_up_received ingress_id)
  | outcome => do
    let session_id ← (c.opened_session_id outcome ingress_id).toOption
    s.open_session session_id continuity.prior_session_id started_at

def Event.next (s : System ι Uuid) : Event ι Uuid → Option (System ι Uuid)
  | lookup i ingress_id matched =>
    some (s.place i (some (.looked_up ingress_id (preferMatched (evaluate s.sessions) matched))))
  | join i started_at =>
    match s.dispatches i with
    | some (.looked_up ingress_id continuity) =>
      match s.join c ingress_id continuity started_at with
      | some (session, s') => some (s'.place i (some (.joined ingress_id session)))
      | none => some (s.place i none)
    | _ => none
  | message i =>
    match s.dispatches i with
    | some (.joined ingress_id session) =>
      match s.append session (.customer_message ingress_id) with
      | some (_, s') => some { s'.place i none with dispatched := ingress_id :: s'.dispatched }
      | none => some (s.place i none)
    | _ => none
  | lifecycle session_id phase =>
    match s.sessions.get? session_id with
    | some session =>
      if is_terminal session.phase ∧ phase ≠ session.phase then some s
      else some { s with
        sessions := s.sessions.set session_id
          { session with phase, sequence_head := session.sequence_head + 1 } }
    | none => some s
  | stop i => some (s.place i none)

/-! ## The law -/

def System.Live (session_id : Uuid) : Prop :=
  ∃ session, s.sessions.get? session_id = some session ∧ is_terminal session.phase = false

def System.Holds (session_id ingress_id : Uuid) : Prop :=
  .customer_message ingress_id ∈ s.keys session_id

/-- One session at most is live; and a message is in one session at most, and in one once its dispatch has
gone on. -/
structure OneEach (s : System ι Uuid) : Prop where
  live : ∀ a b, s.Live a → s.Live b → a = b
  once : ∀ ingress_id a b, s.Holds a ingress_id → s.Holds b ingress_id → a = b
  appended : ∀ ingress_id ∈ s.dispatched, ∃ session_id, s.Holds session_id ingress_id

/-- It stays so, and a message is appended to a session that is live. -/
structure OneSession (before : System ι Uuid) (after : System ι Uuid) : Prop extends OneEach after where
  was_live : ∀ ingress_id session_id, after.Holds session_id ingress_id →
    ¬ before.Holds session_id ingress_id → before.Live session_id

def Alone (s : System ι Uuid) : Event ι Uuid → Prop
  | .join i started_at =>
    match s.dispatches i with
    | some (.looked_up ingress_id continuity) => ∀ session s',
        s.join c ingress_id continuity started_at = some (session, s') →
        s.sessions.get? session.session_id = none → ∀ other, ¬ s.Live other
    | _ => True
  | .message i =>
    match s.dispatches i with
    | some (.joined ingress_id session) => (s.append session (.customer_message ingress_id)).isSome = true →
        ∀ other, s.Holds other ingress_id → other = session.session_id
    | _ => True
  | _ => True

/-- What holds between the events of every run. -/
structure Sound (s : System ι Uuid) : Prop where
  keyed : ∀ session_id session, s.sessions.get? session_id = some session → session.session_id = session_id
  written : ∀ session_id, s.sessions.get? session_id = none → s.keys session_id = []
  /-- The copy of a dispatch is the session, or falls behind it. -/
  copies : ∀ i ingress_id copy, s.dispatches i = some (.joined ingress_id copy) →
    ∃ session, s.sessions.get? copy.session_id = some session ∧
      copy.sequence_head ≤ session.sequence_head ∧
      (copy.sequence_head = session.sequence_head → copy = session)

variable {c} {s s' : System ι Uuid}

/-! ## The writes -/

def System.set (s : System ι Uuid) (session : SessionRow Uuid) : System ι Uuid :=
  { s with sessions := s.sessions.set session.session_id session }

def System.written (s : System ι Uuid) (session : SessionRow Uuid) (key : EventKey Uuid) :
    System ι Uuid :=
  { s.set { session with sequence_head := session.sequence_head + 1 } with
    keys := Function.update s.keys session.session_id (s.keys session.session_id ++ [key]) }

variable {session : SessionRow Uuid}

omit [DecidableEq ι] [Stdlib Uuid] in
theorem Sound.set (h : Sound s)
    (hnewer : ∀ old, s.sessions.get? session.session_id = some old →
      old.sequence_head < session.sequence_head) : Sound (s.set session) where
  keyed id row hrow := by
    unfold System.set at hrow
    rcases eq_or_ne session.session_id id with rfl | hne
    · rw [Dict.get?_set_self] at hrow
      rw [← Option.some.inj hrow]
    · rw [Dict.get?_set_ne _ _ hne] at hrow
      exact h.keyed id row hrow
  written id hnone := by
    unfold System.set at hnone
    rcases eq_or_ne session.session_id id with rfl | hne
    · rw [Dict.get?_set_self] at hnone
      cases hnone
    · rw [Dict.get?_set_ne _ _ hne] at hnone
      exact h.written id hnone
  copies i ingress_id copy hcopy := by
    obtain ⟨old, hold, hle, hsame⟩ := h.copies i ingress_id copy hcopy
    unfold System.set
    rcases eq_or_ne session.session_id copy.session_id with heq | hne
    · have hlt : old.sequence_head < session.sequence_head := hnewer old (heq ▸ hold)
      rw [← heq, Dict.get?_set_self]
      exact ⟨session, rfl, by omega, fun hhead => by omega⟩
    · rw [Dict.get?_set_ne _ _ hne]
      exact ⟨old, hold, hle, hsame⟩

omit [DecidableEq ι] [Stdlib Uuid] in
theorem Sound.writes (h : Sound s) (hstored : s.sessions.get? session.session_id = some session)
    (key : EventKey Uuid) : Sound (s.written session key) := by
  have hset : Sound (s.set { session with sequence_head := session.sequence_head + 1 }) := by
    refine h.set fun old hold => ?_
    rw [← Option.some.inj (hstored.symm.trans hold)]
    exact Nat.lt_succ_self _
  refine ⟨hset.keyed, fun id hnone => ?_, hset.copies⟩
  have hempty := hset.written id hnone
  rcases eq_or_ne id session.session_id with rfl | hne
  · have hsome := Dict.get?_set_self s.sessions session.session_id
      { session with sequence_head := session.sequence_head + 1 }
    cases hsome.symm.trans hnone
  · exact (Function.update_of_ne hne _ _).trans hempty

omit [Stdlib Uuid] in
theorem Sound.place (h : Sound s) (i : ι) {dispatch : Option (Dispatch Uuid)}
    (hdispatch : ∀ ingress_id copy, dispatch = some (.joined ingress_id copy) →
      s.sessions.get? copy.session_id = some copy) : Sound (s.place i dispatch) := by
  refine ⟨h.keyed, h.written, fun j ingress_id copy hcopy => ?_⟩
  have hcopy : Function.update s.dispatches i dispatch j = some (.joined ingress_id copy) := hcopy
  rcases eq_or_ne j i with rfl | hne
  · rw [Function.update_self] at hcopy
    exact ⟨copy, hdispatch ingress_id copy hcopy, le_rfl, fun _ => rfl⟩
  · rw [Function.update_of_ne hne] at hcopy
    exact h.copies j ingress_id copy hcopy

variable {id : Uuid}

omit [DecidableEq ι] [Stdlib Uuid] in
theorem live_set :
    (s.set session).Live id ↔
      (id = session.session_id ∧ is_terminal session.phase = false) ∨
        (id ≠ session.session_id ∧ s.Live id) := by
  unfold System.Live System.set
  rcases eq_or_ne session.session_id id with rfl | hne
  · simp
  · simp [Dict.get?_set_ne _ _ hne, hne.symm]

variable {key : EventKey Uuid}

omit [DecidableEq ι] [Stdlib Uuid] in
theorem live_written (hstored : s.sessions.get? session.session_id = some session) :
    (s.written session key).Live id ↔ s.Live id := by
  have hset : (s.set { session with sequence_head := session.sequence_head + 1 }).Live id ↔
      (id = session.session_id ∧ is_terminal session.phase = false) ∨
        (id ≠ session.session_id ∧ s.Live id) := live_set
  refine hset.trans ?_
  rcases eq_or_ne id session.session_id with rfl | hne
  · simp [System.Live, hstored]
  · simp [hne]

variable {ingress_id : Uuid}

omit [DecidableEq ι] [Stdlib Uuid] in
theorem holds_written :
    (s.written session key).Holds id ingress_id ↔
      s.Holds id ingress_id ∨ (id = session.session_id ∧ key = .customer_message ingress_id) := by
  unfold System.Holds System.written
  rcases eq_or_ne id session.session_id with rfl | hne
  · simp [eq_comm]
  · simp [hne]

omit [DecidableEq ι] [Stdlib Uuid] in
theorem append_cases {session session' : SessionRow Uuid}
    (hcopy : ∃ stored, s.sessions.get? session.session_id = some stored ∧
      (session.sequence_head = stored.sequence_head → session = stored))
    (happend : s.append session key = some (session', s')) :
    (key ∈ s.keys session.session_id ∧ session' = session ∧ s' = s) ∨
      (s.sessions.get? session.session_id = some session ∧ is_terminal session.phase = false ∧
        session' = { session with sequence_head := session.sequence_head + 1 } ∧
        s' = s.written session key) := by
  obtain ⟨stored, hstored, hsame⟩ := hcopy
  unfold System.append at happend
  split at happend
  · rename_i hkey
    cases happend
    exact .inl ⟨hkey, rfl, rfl⟩
  · split at happend
    · cases happend
    · split at happend
      · cases happend
      · rename_i hlive hhead
        cases happend
        rw [hstored, Option.all_some, decide_eq_true_eq, not_not] at hhead
        have heq : session = stored := hsame hhead.symm
        exact .inr ⟨heq ▸ hstored, Bool.eq_false_iff.mpr hlive, rfl, rfl⟩

omit [DecidableEq ι] in
/-- The first write of a dispatch: it finds what it would write, appends a follow-up, or opens a session. -/
theorem Sound.join_cases (h : Sound s) {continuity : CaseContinuityResult Uuid}
    {started_at : Instant}
    (hjoin : s.join c ingress_id continuity started_at = some (session, s')) :
    (s.sessions.get? session.session_id = some session ∧ s' = s) ∨
      (∃ loaded, s.sessions.get? session.session_id = some loaded ∧ loaded.session_id = session.session_id ∧
        session = { loaded with sequence_head := loaded.sequence_head + 1 } ∧
        s' = s.written loaded (.follow_up_received ingress_id)) ∨
      (s.sessions.get? session.session_id = none ∧ session.phase = .initiated ∧ s' = s.set session) := by
  have hopen {session_id : Uuid} {parent : Option Uuid}
      (hopened : s.open_session session_id parent started_at = some (session, s')) :
      (s.sessions.get? session.session_id = some session ∧ s' = s) ∨
        (s.sessions.get? session.session_id = none ∧ session.phase = .initiated ∧ s' = s.set session) := by
    unfold System.open_session at hopened
    split at hopened
    · rename_i existing hexisting
      split at hopened
      · cases hopened
        rw [h.keyed session_id session hexisting]
        exact .inl ⟨hexisting, rfl⟩
      · cases hopened
    · rename_i hnone
      cases hopened
      exact .inr ⟨hnone, rfl, rfl⟩
  unfold System.join at hjoin
  split at hjoin
  · obtain ⟨loaded, hloaded, happend⟩ := Option.bind_eq_some_iff.mp hjoin
    obtain ⟨session_id, -, hstored⟩ := Option.bind_eq_some_iff.mp hloaded
    have hid : loaded.session_id = session_id := h.keyed session_id loaded hstored
    rw [← hid] at hstored
    rcases append_cases ⟨loaded, hstored, fun _ => rfl⟩ happend with
      ⟨-, rfl, rfl⟩ | ⟨-, -, rfl, rfl⟩
    · exact .inl ⟨hstored, rfl⟩
    · exact .inr (.inl ⟨loaded, hstored, rfl, rfl, rfl⟩)
  · obtain ⟨session_id, -, hopened⟩ := Option.bind_eq_some_iff.mp hjoin
    rcases hopen hopened with hsame | hopened
    · exact .inl hsame
    · exact .inr (.inr hopened)

/-! ## One lemma for each event -/

omit [DecidableEq ι] [DecidableEq Uuid] [Stdlib Uuid] in
theorem OneEach.quiet [DecidableEq Uuid] (h : OneEach s) (hlive : ∀ id, s'.Live id → s.Live id)
    (hkeys : s'.keys = s.keys)
    (hdispatched : ∀ ingress_id ∈ s'.dispatched, ∃ id, s.Holds id ingress_id) : OneSession s s' := by
  have hholds : ∀ id ingress_id, s'.Holds id ingress_id ↔ s.Holds id ingress_id := by
    intro id ingress_id
    unfold System.Holds
    rw [hkeys]
  refine ⟨⟨fun a b ha hb => h.live a b (hlive a ha) (hlive b hb), fun ingress_id a b ha hb => ?_,
    fun ingress_id hin => ?_⟩, fun ingress_id id hafter hbefore => ?_⟩
  · exact h.once ingress_id a b ((hholds a ingress_id).mp ha) ((hholds b ingress_id).mp hb)
  · obtain ⟨id, hid⟩ := hdispatched ingress_id hin
    exact ⟨id, (hholds id ingress_id).mpr hid⟩
  · exact absurd ((hholds id ingress_id).mp hafter) hbefore

section

omit [DecidableEq ι] [Stdlib Uuid]

theorem OneSession.congr {t : System ι Uuid} (h : OneSession s t) (hsessions : s'.sessions = t.sessions)
    (hkeys : s'.keys = t.keys) (hdispatched : s'.dispatched = t.dispatched) : OneSession s s' := by
  obtain ⟨sessions, keys, _, dispatched⟩ := s'
  obtain rfl : sessions = t.sessions := hsessions
  obtain rfl : keys = t.keys := hkeys
  obtain rfl : dispatched = t.dispatched := hdispatched
  exact ⟨⟨h.live, h.once, h.appended⟩, h.was_live⟩

theorem OneEach.follow_up (h : OneEach s)
    (hstored : s.sessions.get? session.session_id = some session) (ingress_id : Uuid) :
    OneSession s (s.written session (.follow_up_received ingress_id)) := by
  have hholds : ∀ id other, (s.written session (.follow_up_received ingress_id)).Holds id other ↔
      s.Holds id other := by
    intro id other
    rw [holds_written]
    exact or_iff_left fun hkey => nomatch hkey.2
  refine ⟨⟨fun a b ha hb => ?_, fun other a b ha hb => ?_, fun other hin => ?_⟩,
    fun other id hafter hbefore => absurd ((hholds id other).mp hafter) hbefore⟩
  · exact h.live a b ((live_written hstored).mp ha) ((live_written hstored).mp hb)
  · exact h.once other a b ((hholds a other).mp ha) ((hholds b other).mp hb)
  · obtain ⟨id, hid⟩ := h.appended other hin
    exact ⟨id, (hholds id other).mpr hid⟩

theorem OneEach.opened_iff (h : OneEach s) (hnone : s.sessions.get? session.session_id = none)
    (hphase : session.phase = .initiated) :
    OneSession s (s.set session) ↔ ∀ other, ¬ s.Live other := by
  have hlive : is_terminal session.phase = false := by
    rw [hphase]
    rfl
  have hgone : ¬ s.Live session.session_id := by
    rintro ⟨_, hsome, -⟩
    cases hnone.symm.trans hsome
  have hself : (s.set session).Live session.session_id := live_set.mpr (.inl ⟨rfl, hlive⟩)
  constructor
  · intro hone other hother
    have hne : other ≠ session.session_id := fun heq => hgone (heq ▸ hother)
    exact hne (hone.live other session.session_id (live_set.mpr (.inr ⟨hne, hother⟩)) hself)
  · intro hnolive
    have honly : ∀ id, (s.set session).Live id → id = session.session_id := by
      intro id hid
      rcases live_set.mp hid with ⟨heq, -⟩ | ⟨-, hother⟩
      · exact heq
      · exact absurd hother (hnolive id)
    exact ⟨⟨fun a b ha hb => (honly a ha).trans (honly b hb).symm, h.once, h.appended⟩,
      fun _ _ hafter hbefore => absurd hafter hbefore⟩

theorem OneEach.message_iff (h : OneEach s)
    (hstored : s.sessions.get? session.session_id = some session)
    (hlive : is_terminal session.phase = false) :
    OneSession s { s.written session (.customer_message ingress_id) with
        dispatched := ingress_id :: s.dispatched } ↔
      ∀ other, s.Holds other ingress_id → other = session.session_id := by
  have hholds : ∀ id other, (s.written session (.customer_message ingress_id)).Holds id other ↔
      s.Holds id other ∨ (id = session.session_id ∧ ingress_id = other) := by
    intro id other
    rw [holds_written, EventKey.customer_message.injEq]
  have hself : (s.written session (.customer_message ingress_id)).Holds session.session_id ingress_id :=
    (hholds _ _).mpr (.inr ⟨rfl, rfl⟩)
  have hlives : ∀ id, (s.written session (.customer_message ingress_id)).Live id → s.Live id :=
    fun id => (live_written hstored).mp
  constructor
  · intro hone other hother
    exact hone.once ingress_id other session.session_id ((hholds other ingress_id).mpr (.inl hother)) hself
  · intro honly
    refine ⟨⟨fun a b ha hb => ?_, fun other a b ha hb => ?_, fun other hin => ?_⟩,
      fun other id hafter hbefore => ?_⟩
    · exact h.live a b (hlives a ha) (hlives b hb)
    · rcases (hholds a other).mp ha with ha | ⟨ha, hsame⟩ <;>
        rcases (hholds b other).mp hb with hb | ⟨hb, hsame⟩
      · exact h.once other a b ha hb
      · exact (honly a (hsame ▸ ha)).trans hb.symm
      · exact ha.trans (honly b (hsame ▸ hb)).symm
      · exact ha.trans hb.symm
    · rcases List.mem_cons.mp hin with rfl | hin
      · exact ⟨_, hself⟩
      · obtain ⟨id, hid⟩ := h.appended other hin
        exact ⟨id, (hholds id other).mpr (.inl hid)⟩
    · rcases (hholds id other).mp hafter with hheld | ⟨rfl, -⟩
      · exact absurd hheld hbefore
      · exact ⟨session, hstored, hlive⟩

end

theorem Sound.next (h : Sound s) (hone : OneEach s) {event : Event ι Uuid}
    (hnext : event.next c s = some s') : Sound s' ∧ (OneSession s s' ↔ Alone c s event) := by
  have hquiet (hsound : Sound s') (hsame : s'.sessions = s.sessions ∧ s'.keys = s.keys ∧
      s'.dispatched = s.dispatched) : Sound s' ∧ (OneSession s s' ↔ True) := by
    obtain ⟨hsessions, hkeys, hdispatched⟩ := hsame
    refine ⟨hsound, iff_true_intro (hone.quiet (fun id hid => ?_) hkeys ?_)⟩
    · unfold System.Live at hid ⊢
      rwa [hsessions] at hid
    · rw [hdispatched]
      exact hone.appended
  cases event with
  | lookup i | stop i =>
    obtain rfl := Option.some.inj hnext
    exact hquiet (h.place i fun _ _ hcopy => nomatch hcopy) ⟨rfl, rfl, rfl⟩
  | lifecycle session_id phase =>
    rw [Event.next] at hnext
    split at hnext
    · rename_i session hstored
      split at hnext
      · obtain rfl := Option.some.inj hnext
        exact hquiet h ⟨rfl, rfl, rfl⟩
      · rename_i hallowed
        obtain rfl := Option.some.inj hnext
        obtain rfl := h.keyed session_id session hstored
        set moved := { session with phase, sequence_head := session.sequence_head + 1 }
        have hnewer : ∀ old, s.sessions.get? moved.session_id = some old →
            old.sequence_head < moved.sequence_head := by
          intro old hold
          rw [← Option.some.inj (hstored.symm.trans hold)]
          exact Nat.lt_succ_self _
        refine ⟨h.set hnewer, iff_true_intro (hone.quiet (fun id hid => ?_) rfl hone.appended)⟩
        · have hset : (id = moved.session_id ∧ is_terminal moved.phase = false) ∨
              (id ≠ moved.session_id ∧ s.Live id) := live_set.mp hid
          rcases hset with ⟨rfl, hlive⟩ | ⟨-, hother⟩
          · refine ⟨session, hstored, Bool.eq_false_iff.mpr fun hterminal => hallowed ⟨hterminal, ?_⟩⟩
            rintro rfl
            cases hterminal.symm.trans hlive
          · exact hother
    · obtain rfl := Option.some.inj hnext
      exact hquiet h ⟨rfl, rfl, rfl⟩
  | join i started_at =>
    rw [Event.next] at hnext
    split at hnext
    · rename_i ingress_id continuity hlooked
      split at hnext
      · rename_i session t hjoin
        obtain rfl := Option.some.inj hnext
        have halone : Alone c s (.join i started_at) ↔
            (s.sessions.get? session.session_id = none → ∀ other, ¬ s.Live other) := by
          rw [Alone, hlooked]
          constructor
          · exact fun hall => hall session t hjoin
          · rintro hnone _ _ hother
            obtain ⟨rfl, rfl⟩ := Prod.mk.inj (Option.some.inj (hjoin.symm.trans hother))
            exact hnone
        have hplaced : OneSession s (t.place i (some (.joined ingress_id session))) ↔ OneSession s t :=
          ⟨fun hplaced => hplaced.congr rfl rfl rfl, fun hplaced => hplaced.congr rfl rfl rfl⟩
        rw [halone, hplaced]
        rcases h.join_cases hjoin with ⟨hstored, rfl⟩ | ⟨loaded, hstored, hid, rfl, rfl⟩ |
          ⟨hnone, hphase, rfl⟩
        · refine ⟨h.place i fun _ _ hcopy => ?_, iff_of_true ?_ fun hnone => ?_⟩
          · cases hcopy
            exact hstored
          · exact hone.quiet (fun _ hid => hid) rfl hone.appended
          · cases hstored.symm.trans hnone
        · have hloaded : s.sessions.get? loaded.session_id = some loaded := hstored
          refine ⟨(h.writes hloaded _).place i fun _ _ hcopy => ?_, iff_of_true (hone.follow_up hloaded _)
            fun hnone => ?_⟩
          · cases hcopy
            exact Dict.get?_set_self _ _ _
          · cases hstored.symm.trans hnone
        · have hset : Sound (s.set session) := h.set fun old hold => nomatch hnone.symm.trans hold
          refine ⟨hset.place i fun _ _ hcopy => ?_, (hone.opened_iff hnone hphase).trans ?_⟩
          · cases hcopy
            exact Dict.get?_set_self _ _ _
          · exact ⟨fun hlive _ => hlive, fun hlive => hlive hnone⟩
      · rename_i hrefused
        obtain rfl := Option.some.inj hnext
        have halone : Alone c s (.join i started_at) := by
          rw [Alone, hlooked]
          rintro _ _ hjoin
          cases hrefused.symm.trans hjoin
        obtain ⟨hsound, hiff⟩ := hquiet (h.place i fun _ _ hcopy => nomatch hcopy) ⟨rfl, rfl, rfl⟩
        exact ⟨hsound, hiff.trans (iff_of_true trivial halone)⟩
    · cases hnext
  | message i =>
    rw [Event.next] at hnext
    split at hnext
    · rename_i ingress_id session hjoined
      have halone : Alone c s (.message i) ↔
          ((s.append session (.customer_message ingress_id)).isSome = true →
            ∀ other, s.Holds other ingress_id → other = session.session_id) := by
        rw [Alone, hjoined]
      have hgone {t : System ι Uuid} (ht : Sound t) (dispatched : List Uuid) :
          Sound { t.place i none with dispatched := dispatched } := by
        have hplaced : Sound (t.place i none) := ht.place i fun _ _ hcopy => nomatch hcopy
        exact ⟨hplaced.keyed, hplaced.written, hplaced.copies⟩
      rw [halone]
      split at hnext
      · rename_i session' t happend
        obtain rfl := Option.some.inj hnext
        rw [happend]
        obtain ⟨stored, hstored, -, hsame⟩ := h.copies i ingress_id session hjoined
        rcases append_cases ⟨stored, hstored, hsame⟩ happend with
          ⟨hkey, rfl, rfl⟩ | ⟨hstored, hlive, rfl, rfl⟩
        · refine ⟨hgone h _, iff_of_true ?_ fun _ other hother => ?_⟩
          · refine hone.quiet (fun _ hid => hid) rfl fun other hin => ?_
            rcases List.mem_cons.mp hin with rfl | hin
            · exact ⟨_, hkey⟩
            · exact hone.appended other hin
          · exact hone.once ingress_id other _ hother hkey
        · refine ⟨hgone (h.writes hstored _) _, ?_⟩
          refine Iff.trans ⟨fun hafter => ?_, fun hafter => ?_⟩
            ((hone.message_iff hstored hlive).trans ⟨fun honly _ => honly, fun honly => honly rfl⟩)
          · exact hafter.congr rfl rfl rfl
          · exact hafter.congr rfl rfl rfl
      · rename_i hrefused
        obtain rfl := Option.some.inj hnext
        rw [hrefused]
        obtain ⟨hsound, hiff⟩ := hquiet (h.place i fun _ _ hcopy => nomatch hcopy) ⟨rfl, rfl, rfl⟩
        exact ⟨hsound, hiff.trans (iff_of_true trivial fun hsome => nomatch hsome)⟩
    · cases hnext

end

/-! ## Two messages after a termination -/

/-- The first session is ended, and two messages look it up before either has opened one. -/
def twiceReopened : List (Event Nat String) :=
  [.lookup 0 "m0" none, .join 0 1, .message 0, .lifecycle "tenant|t|\x00<none>\x00|h" .terminated,
   .lookup 1 "m1" none, .lookup 2 "m2" none, .join 1 2, .message 1, .join 2 3]

def reopenedBy (message : String) : String := "tenant|t|\x00<none>\x00|h|reopened|" ++ message

end operious.continuity
