-- Which pending approvals are real. A record is found again by a key that names neither the payload
-- nor the proposal, in whatever state it is, and the outcome is told from the call alone.
import Operious.Lib.Runs
import Operious.Tools.ActionApprovals

namespace operious.agents.tools

open effects runs
open operious.governance (PyException)

variable {F Uuid : Type} [Stdlib Uuid]

/-! ## The two indexes -/

variable (Uuid) in
def approvalId (tenant_id idempotency_key : String) : String :=
  Stdlib.str (Stdlib.uuid5 (Stdlib.uuid "aa6e7001-0007-4007-8007-000000000007" : Uuid)
    (tenant_id ++ "|" ++ idempotency_key))

variable (Uuid) in
def Derived (record : ActionApprovalRecord F) : Prop :=
  (∃ u : Uuid, record.idempotency_key = Stdlib.str u) ∧
    record.approval_id = approvalId Uuid record.tenant_id record.idempotency_key

variable (Uuid) in
/-- Both indexes hold the same records, each under its id and its key. -/
structure Indexed (repository : InMemoryActionApprovalRepository F) : Prop where
  by_key : ∀ key record, repository.by_idempotency_key.get? key = some record →
    record.idempotency_key = key ∧ repository.by_id.get? record.approval_id = some record
  by_id : ∀ id record, repository.by_id.get? id = some record → record.approval_id = id ∧
    repository.by_idempotency_key.get? record.idempotency_key = some record ∧ Derived Uuid record

theorem approvalId_inj [LawfulStdlib Uuid] {tenant_id tenant_id' : String} {u u' : Uuid}
    (h : approvalId Uuid tenant_id (Stdlib.str u) = approvalId Uuid tenant_id' (Stdlib.str u')) :
    (Stdlib.str u : String) = Stdlib.str u' := by
  have hseed := LawfulStdlib.uuid5_inj _ (LawfulStdlib.str_inj h)
  have hlist := congrArg String.toList hseed
  simp only [String.toList_append] at hlist
  have hbar : "|".toList = ['|'] := rfl
  rw [hbar, List.append_assoc, List.append_assoc, List.singleton_append, List.singleton_append]
    at hlist
  exact String.toList_injective
    (cut_at_last_bar (LawfulStdlib.str_no_bar u) (LawfulStdlib.str_no_bar u') hlist).2

variable {record : ActionApprovalRecord F}

theorem Indexed.save [LawfulStdlib Uuid] {repository : InMemoryActionApprovalRepository F}
    (h : Indexed Uuid repository) (hderived : Derived Uuid record)
    (hkey : ∀ old, repository.by_idempotency_key.get? record.idempotency_key = some old →
      old.approval_id = record.approval_id) :
    Indexed Uuid (repository.save record.approval_id record) := by
  -- Another record under the same id would have the same key.
  have hsame : ∀ other, repository.by_id.get? record.approval_id = some other →
      other.idempotency_key = record.idempotency_key := by
    intro other hother
    obtain ⟨hid, -, ⟨u', hu'⟩, hown'⟩ := h.by_id _ _ hother
    obtain ⟨⟨u, hu⟩, hown⟩ := hderived
    rw [hown', hown, hu', hu] at hid
    rw [hu', hu]
    exact approvalId_inj hid
  constructor
  · intro key found hfound
    rcases Dict.get?_set_cases hfound with ⟨rfl, rfl⟩ | ⟨hne, hold⟩
    · exact ⟨rfl, Dict.get?_set_self _ _ _⟩
    · obtain ⟨hown, hid⟩ := h.by_key key found hold
      refine ⟨hown, (Dict.get?_set_ne _ _ fun heq => hne ?_).trans hid⟩
      rw [← heq] at hid
      rw [← hown, hsame found hid]
  · intro id found hfound
    rcases Dict.get?_set_cases hfound with ⟨rfl, rfl⟩ | ⟨hne, hold⟩
    · exact ⟨rfl, Dict.get?_set_self _ _ _, hderived⟩
    · obtain ⟨hid, hindexed, hown⟩ := h.by_id id found hold
      refine ⟨hid, (Dict.get?_set_ne _ _ fun heq => hne ?_).trans hindexed, hown⟩
      rw [← heq] at hindexed
      rw [← hid, hkey found hindexed]

/-! ## What a call leaves of the records -/

variable (Uuid) in
/-- The indexes stay sound, and no record changes. -/
def Grows (s t : InMemoryActionApprovalRepository F) : Prop :=
  Indexed Uuid s → Indexed Uuid t ∧
    ∀ id record, s.by_id.get? id = some record → t.by_id.get? id = some record

instance : IsPreorder (InMemoryActionApprovalRepository F) (Grows Uuid) where
  refl s h := ⟨h, fun _ _ hget => hget⟩
  trans s t u hst htu h := by
    obtain ⟨ht, hkeep⟩ := hst h
    obtain ⟨hu, hkeep'⟩ := htu ht
    exact ⟨hu, fun id record hget => hkeep' id record (hkeep id record hget)⟩

variable {expected_tenant_id : String}

variable {s : InMemoryActionApprovalRepository F}

variable {t : InMemoryActionApprovalRepository F}

theorem create_pending_approval_ok {record approval : ActionApprovalRecord F}
    (h : run (create_pending_approval record expected_tenant_id) s = (.ok approval, t)) :
    (s.by_idempotency_key.get? record.idempotency_key = some approval ∧ t = s) ∨
      (s.by_idempotency_key.get? record.idempotency_key = none ∧ approval = record ∧
        t = s.save record.approval_id record) := by
  rw [create_pending_approval] at h
  obtain ⟨_, _, hlift, h⟩ := run_bind_eq_ok.mp h
  obtain ⟨-, rfl⟩ := run_lift_eq_ok.mp hlift
  obtain ⟨_, _, hget, h⟩ := run_bind_eq_ok.mp h
  cases hget
  split at h
  · rename_i existing hexisting
    obtain ⟨_, _, hlift, h⟩ := run_bind_eq_ok.mp h
    obtain ⟨-, rfl⟩ := run_lift_eq_ok.mp hlift
    cases h
    exact .inl ⟨hexisting, rfl⟩
  · rename_i hnone
    cases h
    exact .inr ⟨hnone, rfl, rfl⟩

section

variable [LawfulStdlib Uuid]

theorem grows_save (hderived : Derived Uuid record)
    (hnone : s.by_idempotency_key.get? record.idempotency_key = none) :
    Grows Uuid s (s.save record.approval_id record) := by
  intro h
  refine ⟨h.save hderived fun old hold => ?_, fun id old hold => ?_⟩
  · rw [hnone] at hold
    cases hold
  · refine (Dict.get?_set_ne _ _ fun heq => ?_).trans hold
    obtain ⟨hid, hindexed, ⟨u', hu'⟩, hown'⟩ := h.by_id id old hold
    obtain ⟨⟨u, hu⟩, hown⟩ := hderived
    have hkeys : record.idempotency_key = old.idempotency_key := by
      rw [← heq, hown', hown, hu, hu'] at hid
      rw [hu, hu', approvalId_inj hid]
    rw [← hkeys, hnone] at hindexed
    cases hindexed

theorem keeps_create (hderived : Derived Uuid record) (expected_tenant_id : String) :
    Keeps (Grows Uuid) (create_pending_approval record expected_tenant_id) := by
  refine Keeps.bind (Keeps.lift _) fun _ => Keeps.get_bind fun s => ?_
  cases hget : s.by_idempotency_key.get? record.idempotency_key with
  | some existing =>
    simp only
    exact Keeps.bind (R := Grows Uuid) (Keeps.lift _) (fun _ => Keeps.pure _) s
  | none => exact grows_save hderived hget

variable [Interpreter F]

variable {proposal : ActionProposal F} {around : Surroundings F} {action : JsonObject F}

variable {prepared : PreparedAction F}

omit [LawfulStdlib Uuid] in
theorem derived_pendingRecord {expected_tenant_id tool_name : String}
    {governance_decision_id : Option String}
    (h : prepare Uuid proposal action expected_tenant_id tool_name = .ok prepared) :
    Derived Uuid (pendingRecord Uuid around proposal expected_tenant_id prepared
      governance_decision_id) := by
  rw [prepare, bind_eq_ok] at h
  obtain ⟨_, -, h⟩ := h
  obtain ⟨_, -, h⟩ := bind_eq_ok.mp h
  obtain ⟨_, -, h⟩ := bind_eq_ok.mp h
  rw [← Except.ok.inj h]
  exact ⟨⟨_, rfl⟩, rfl⟩

theorem keeps_execute_action (around : Surroundings F) (proposal : ActionProposal F)
    (expected_tenant_id : String) (ordinal : Nat) (action : JsonObject F) :
    Keeps (Grows Uuid)
      (execute_action Uuid around proposal expected_tenant_id ordinal action) := by
  rw [execute_action]
  cases tool_name_for action with
  | none => exact Keeps.bind (Keeps.lift _) fun _ => Keeps.pure _
  | some tool_name =>
    refine Keeps.lift_bind fun prepared hprepared => ?_
    refine Keeps.bind (Keeps.lift _) fun envelope => ?_
    rw [settle]
    refine Keeps.ite ?_ ?_
    · exact Keeps.bind (keeps_create (derived_pendingRecord hprepared) _) fun approval =>
        Keeps.bind (Keeps.lift _) fun _ => Keeps.bind (Keeps.lift _) fun _ => Keeps.pure _
    · cases envelope.result with
      | some output => exact Keeps.bind (Keeps.lift _) fun _ => Keeps.pure _
      | none =>
        refine Keeps.ite ?_ ?_
        · exact Keeps.bind (Keeps.lift _) fun _ => Keeps.pure _
        · exact Keeps.bind (Keeps.lift _) fun _ => Keeps.pure _

theorem keeps_executeActions (around : Surroundings F) (proposal : ActionProposal F)
    (expected_tenant_id : String) (actions : List (Nat × JsonObject F)) :
    Keeps (Grows Uuid) (executeActions Uuid around proposal expected_tenant_id actions) := by
  induction actions with
  | nil => exact Keeps.pure _
  | cons p rest ih =>
    exact Keeps.bind (keeps_execute_action around proposal expected_tenant_id p.1 p.2) fun _ =>
      Keeps.bind ih fun _ => Keeps.pure _

theorem keeps_execute_proposal_actions (around : Surroundings F) (proposal : ActionProposal F)
    (expected_tenant_id : String) :
    Keeps (Grows Uuid) (execute_proposal_actions Uuid around proposal expected_tenant_id) :=
  Keeps.ite (Keeps.throw _) <| Keeps.bind (keeps_executeActions around proposal expected_tenant_id _)
    fun _ => Keeps.bind (Keeps.lift _) fun _ => Keeps.pure _

omit [Interpreter F] in
theorem indexed_resolve (h : Indexed Uuid s) (approval_id expected_tenant_id : String)
    (resolution : ActionResolution F) :
    Indexed Uuid (run (resolve_approval approval_id expected_tenant_id resolution) s).2 := by
  rw [resolve_approval, run_bind, run_get]
  dsimp only
  cases hget : s.by_id.get? approval_id with
  | none => exact h
  | some record =>
    dsimp only
    split
    · exact h
    · split
      · exact h
      · obtain ⟨rfl, hindexed, hderived⟩ := h.by_id _ _ hget
        have hkey : ∀ old, s.by_idempotency_key.get? (record.resolved resolution).idempotency_key =
            some old → old.approval_id = (record.resolved resolution).approval_id := by
          intro old hold
          have hsame := hindexed.symm.trans hold
          cases hsame
          rfl
        have hown : Derived Uuid (record.resolved resolution) := hderived
        exact h.save hown hkey

/-! ## Runs of the process -/

variable (Uuid) in
def asksFor (around : Surroundings F) (proposal : ActionProposal F) (expected_tenant_id : String)
    (ordinal : Nat) (action : JsonObject F) : Option (PreparedAction F) :=
  match tool_name_for action with
  | none => none
  | some tool_name =>
    match prepare Uuid proposal action expected_tenant_id tool_name with
    | .error _ => none
    | .ok prepared =>
      match around.invoke ordinal
        { tool_name
          payload := prepared.payload
          metadata := request_metadata proposal.toProposal action prepared.action_type tool_name
            prepared.target_resource prepared.idempotency_key } with
      | .error _ => none
      | .ok envelope => if envelope.asksApproval then some prepared else none

/-- Calls and resolutions, in any order. -/
inductive ApprovalEvent (F : Type)
  | execute (around : Surroundings F) (proposal : ActionProposal F) (expected_tenant_id : String)
  | resolve (approval_id expected_tenant_id : String) (resolution : ActionResolution F)

variable (Uuid) in
/-- What was written before a call raises stays. -/
def next (s : InMemoryActionApprovalRepository F) :
    ApprovalEvent F → Option (InMemoryActionApprovalRepository F)
  | .execute around proposal expected_tenant_id =>
    some (run (execute_proposal_actions Uuid around proposal expected_tenant_id) s).2
  | .resolve approval_id expected_tenant_id resolution =>
    some (run (resolve_approval approval_id expected_tenant_id resolution) s).2

variable (Uuid) in
/-- One action of a call, until one raises. -/
def nextAction (around : Surroundings F) (proposal : ActionProposal F) (expected_tenant_id : String)
    (s : InMemoryActionApprovalRepository F) (p : Nat × JsonObject F) :
    Option (InMemoryActionApprovalRepository F) :=
  match run (execute_action Uuid around proposal expected_tenant_id p.1 p.2) s with
  | (.ok _, t) => some t
  | (.error _, _) => none

variable (same : JsonObject F → JsonObject F → Prop)

def Real (t : InMemoryActionApprovalRepository F) (proposal : ActionProposal F)
    (action : JsonObject F) (outcome : ActionOutcome) : Prop :=
  ∃ tool_name payload id record, tool_name_for action = some tool_name ∧
    payloadFor proposal action tool_name = .ok payload ∧ outcome.approval_record_id = some id ∧
    t.by_id.get? id = some record ∧ record.status = "pending" ∧ same record.payload_json payload

variable (Uuid) in
/-- Every pending approval that a call reports is a real one when the call returns. -/
def ReportsReal (s : InMemoryActionApprovalRepository F) (event : ApprovalEvent F)
    (_ : InMemoryActionApprovalRepository F) : Prop :=
  match event with
  | .resolve _ _ _ => True
  | .execute around proposal expected_tenant_id => ∀ result t,
    run (execute_proposal_actions Uuid around proposal expected_tenant_id) s = (.ok result, t) →
      List.Forall₂ (fun p outcome => outcome.status = .pending_approval →
        Real same t proposal p.2 outcome) proposal.actions result.outcomes

variable (Uuid) in
/-- Where an approval is asked for, the record that the key already has is still pending and has
the payload of the action. -/
def Clear (around : Surroundings F) (proposal : ActionProposal F) (expected_tenant_id : String)
    (s : InMemoryActionApprovalRepository F) (p : Nat × JsonObject F) : Prop :=
  ∀ prepared, asksFor Uuid around proposal expected_tenant_id p.1 p.2 = some prepared →
    ∀ existing, s.by_idempotency_key.get? prepared.idempotency_key = some existing →
      existing.status = "pending" ∧ same existing.payload_json prepared.payload

variable (Uuid) in
/-- Every action of the call is clear when its turn comes. -/
def AllClear (s : InMemoryActionApprovalRepository F) : ApprovalEvent F → Prop
  | .resolve _ _ _ => True
  | .execute around proposal expected_tenant_id =>
    Meets (nextAction Uuid around proposal expected_tenant_id)
      (Clear Uuid same around proposal expected_tenant_id) s proposal.actions

omit [LawfulStdlib Uuid] in
theorem prepare_payload {expected_tenant_id tool_name : String}
    (h : prepare Uuid proposal action expected_tenant_id tool_name = .ok prepared) :
    payloadFor proposal action tool_name = .ok prepared.payload := by
  rw [prepare, bind_eq_ok] at h
  obtain ⟨payload, hpayload, h⟩ := h
  obtain ⟨_, -, h⟩ := bind_eq_ok.mp h
  obtain ⟨_, -, h⟩ := bind_eq_ok.mp h
  rw [← Except.ok.inj h]
  exact hpayload

variable {outcome : ActionOutcome}

omit [LawfulStdlib Uuid] in
/-- A pending outcome names the record that the repository returned for the prepared action. -/
theorem execute_action_pending {ordinal : Nat}
    (h : run (execute_action Uuid around proposal expected_tenant_id ordinal action) s =
      (.ok outcome, t)) (hpending : outcome.status = .pending_approval) :
    ∃ tool_name prepared governance_decision_id approval, tool_name_for action = some tool_name ∧
      prepare Uuid proposal action expected_tenant_id tool_name = .ok prepared ∧
      asksFor Uuid around proposal expected_tenant_id ordinal action = some prepared ∧
      run (create_pending_approval (pendingRecord Uuid around proposal expected_tenant_id prepared
        governance_decision_id) expected_tenant_id) s = (.ok approval, t) ∧
      outcome.approval_record_id = some approval.approval_id := by
  rw [execute_action] at h
  cases htool : tool_name_for action with
  | none =>
    rw [htool] at h
    obtain ⟨_, _, -, h⟩ := run_bind_eq_ok.mp h
    cases h
    cases hpending
  | some tool_name =>
    rw [htool] at h
    obtain ⟨prepared, _, hlift, h⟩ := run_bind_eq_ok.mp h
    obtain ⟨hprepared, rfl⟩ := run_lift_eq_ok.mp hlift
    obtain ⟨envelope, _, hlift, h⟩ := run_bind_eq_ok.mp h
    obtain ⟨hinvoke, rfl⟩ := run_lift_eq_ok.mp hlift
    rw [settle] at h
    split at h
    · rename_i hasks
      obtain ⟨approval, _, hcreate, h⟩ := run_bind_eq_ok.mp h
      obtain ⟨_, _, hlift, h⟩ := run_bind_eq_ok.mp h
      obtain ⟨-, rfl⟩ := run_lift_eq_ok.mp hlift
      obtain ⟨_, _, hlift, h⟩ := run_bind_eq_ok.mp h
      obtain ⟨-, rfl⟩ := run_lift_eq_ok.mp hlift
      cases h
      refine ⟨tool_name, prepared, envelope.governance_decision_id, approval, rfl, hprepared, ?_,
        hcreate, rfl⟩
      simp only [asksFor, htool, hprepared, hinvoke, hasks, if_true]
    · split at h
      · obtain ⟨_, _, -, h⟩ := run_bind_eq_ok.mp h
        cases h
        cases hpending
      · split at h
        · obtain ⟨_, _, -, h⟩ := run_bind_eq_ok.mp h
          cases h
          cases hpending
        · obtain ⟨_, _, -, h⟩ := run_bind_eq_ok.mp h
          cases h
          cases hpending

variable {same}

omit [LawfulStdlib Uuid] in
theorem real_of_clear (hsame : ∀ payload, same payload payload) {p : Nat × JsonObject F}
    (hs : Indexed Uuid s) (hclear : Clear Uuid same around proposal expected_tenant_id s p)
    (h : run (execute_action Uuid around proposal expected_tenant_id p.1 p.2) s = (.ok outcome, t))
    (hpending : outcome.status = .pending_approval) : Real same t proposal p.2 outcome := by
  obtain ⟨tool_name, prepared, _, approval, htool, hprepared, hasks, hcreate, hid⟩ :=
    execute_action_pending h hpending
  refine ⟨tool_name, prepared.payload, _, approval, htool, prepare_payload hprepared, hid, ?_⟩
  rcases create_pending_approval_ok hcreate with ⟨hget, rfl⟩ | ⟨-, rfl, rfl⟩
  · exact ⟨(hs.by_key _ _ hget).2, hclear prepared hasks approval hget⟩
  · exact ⟨Dict.get?_set_self _ _ _, rfl, hsame _⟩

theorem executeActions_real (hsame : ∀ payload, same payload payload)
    {actions : List (Nat × JsonObject F)} {outcomes : List ActionOutcome} (hs : Indexed Uuid s)
    (hclear : Meets (nextAction Uuid around proposal expected_tenant_id)
      (Clear Uuid same around proposal expected_tenant_id) s actions)
    (h : run (executeActions Uuid around proposal expected_tenant_id actions) s = (.ok outcomes, t)) :
    List.Forall₂ (fun p outcome => outcome.status = .pending_approval →
      Real same t proposal p.2 outcome) actions outcomes := by
  induction actions generalizing s outcomes with
  | nil =>
    cases h
    exact .nil
  | cons p rest ih =>
    obtain ⟨outcome, mid, hfirst, h⟩ := run_bind_eq_ok.mp h
    obtain ⟨later, _, hrest, h⟩ := run_bind_eq_ok.mp h
    cases h
    have hnext : nextAction Uuid around proposal expected_tenant_id s p = some mid := by
      rw [nextAction, hfirst]
    obtain ⟨hp, hclear⟩ := hclear mid hnext
    obtain ⟨hmid, -⟩ := (keeps_execute_action around proposal expected_tenant_id p.1 p.2).of_run
      hfirst hs
    -- The later actions of the call leave the record as it is.
    obtain ⟨-, hkeep⟩ := (keeps_executeActions around proposal expected_tenant_id rest).of_run
      hrest hmid
    refine .cons (fun hpending => ?_) (ih hmid hclear hrest)
    obtain ⟨tool_name, payload, id, record, htool, hpayload, hid, hget, hreal⟩ :=
      real_of_clear hsame hs hp hfirst hpending
    exact ⟨tool_name, payload, id, record, htool, hpayload, hid, hkeep id record hget, hreal⟩

/-- In a run that is clear at every action, every pending approval that is reported is a real one.
Payloads are compared by any relation that each has to itself. -/
theorem pending_approvals_are_real (hsame : ∀ payload, same payload payload)
    {events : List (ApprovalEvent F)} (h : Meets (next Uuid) (AllClear Uuid same) {} events) :
    Along (next Uuid) (ReportsReal Uuid same) {} events := by
  have hempty : Indexed Uuid ({} : InMemoryActionApprovalRepository F) := by
    constructor
    · intro key record hget
      cases hget
    · intro id record hget
      cases hget
  refine along_when (I := Indexed Uuid) ?_ hempty h
  intro s event t hs hclear hnext
  cases event with
  | resolve approval_id expected_tenant_id resolution =>
    cases hnext
    exact ⟨indexed_resolve hs _ _ _, trivial⟩
  | execute around proposal expected_tenant_id =>
    cases hnext
    refine ⟨(keeps_execute_proposal_actions around proposal expected_tenant_id s hs).1, ?_⟩
    intro result t hrun
    rw [execute_proposal_actions] at hrun
    split at hrun
    · exact absurd hrun run_throw_ne
    · obtain ⟨outcomes, _, houtcomes, hrun⟩ := run_bind_eq_ok.mp hrun
      obtain ⟨_, _, hlift, hrun⟩ := run_bind_eq_ok.mp hrun
      obtain ⟨-, rfl⟩ := run_lift_eq_ok.mp hlift
      cases hrun
      exact executeActions_real hsame hs hclear houtcomes

theorem next_keeps {event : ApprovalEvent F} (hs : Indexed Uuid s) (hnext : next Uuid s event = some t) :
    Indexed Uuid t ∧ ∀ id record, s.by_id.get? id = some record → record.status ≠ "pending" →
      t.by_id.get? id = some record := by
  cases event with
  | execute around proposal expected_tenant_id =>
    cases hnext
    obtain ⟨ht, hkeep⟩ := keeps_execute_proposal_actions around proposal expected_tenant_id s hs
    exact ⟨ht, fun id record hget _ => hkeep id record hget⟩
  | resolve approval_id expected_tenant_id resolution =>
    cases hnext
    refine ⟨indexed_resolve hs _ _ _, fun id record hget hresolved => ?_⟩
    rw [resolve_approval, run_bind, run_get]
    dsimp only
    cases hfound : s.by_id.get? approval_id with
    | none => exact hget
    | some found =>
      dsimp only
      split_ifs with htenant hstatus
      · exact hget
      · exact hget
      · refine (Dict.get?_set_ne _ _ fun heq => hresolved ?_).trans hget
        cases hget.symm.trans (heq ▸ hfound)
        exact not_not.mp hstatus

/-- In every run an approval that is resolved stays as it is. -/
theorem resolutions_are_final (hs : Reaches (next Uuid) {} s) (ht : Reaches (next Uuid) s t) {id : String}
    {record : ActionApprovalRecord F} (hget : s.by_id.get? id = some record)
    (hresolved : record.status ≠ "pending") : t.by_id.get? id = some record := by
  have hempty : Indexed Uuid ({} : InMemoryActionApprovalRepository F) :=
    ⟨fun _ _ hget => (nomatch hget), fun _ _ hget => (nomatch hget)⟩
  have hindexed : Indexed Uuid s := invariant (fun _ _ _ h hnext => (next_keeps h hnext).1) hempty hs
  refine (invariant (I := fun t => Indexed Uuid t ∧ t.by_id.get? id = some record) ?_ ⟨hindexed, hget⟩ ht).2
  rintro s event t ⟨h, hget⟩ hnext
  obtain ⟨ht, hkeep⟩ := next_keeps h hnext
  exact ⟨ht, hkeep id record hget hresolved⟩

end

/-! ## A call to run the model on -/

/-- A tool that governance never allows by itself. -/
def sampleSurroundings : Surroundings Int where
  now := 0
  actor := "agent:a1"
  invoke _ _ := .ok
    { status := .denied
      governance_decision_id := some "d1"
      metadata := Dict.ofList [("governance_decision", .str "require_approval")]
      output := none
      error := none }
  append_event _ := .ok ()
  request_case _ := .ok ()

def sampleRefundProposal : ActionProposal Int where
  proposal_id := "p1"
  session_id := some "s1"
  execution_id := some "e1"
  dispatch_id := "q1"
  proposed_customer_reply := "hi"
  resolution_category := "refund"
  confidence := 1
  tenant_id := "acme"
  recommended_actions := [Dict.ofList
    [("tool_name", .str "note"), ("requires_execution", .bool true)]]

def sampleCall : ApprovalEvent Int := .execute sampleSurroundings sampleRefundProposal "acme"

def sampleResult : Except PyException ActionOrchestrationResult × InMemoryActionApprovalRepository Int :=
  run (execute_proposal_actions String sampleSurroundings sampleRefundProposal "acme") {}

def sampleId : String := (sampleResult.2.by_id.keys.head?).getD ""

def sampleApproval : ApprovalEvent Int := .resolve sampleId "acme"
  { status := "approved", resolved_at := 1, resolved_by := "m1", resolution_note := none
    metadata := .empty }

theorem a_first_approval_is_real :
    Along (next String) (ReportsReal String Eq) {} [sampleCall, sampleApproval] := by
  refine pending_approvals_are_real (fun _ => rfl) ?_
  intro s hs
  refine ⟨?_, fun t ht => ⟨trivial, trivial⟩⟩
  intro t ht
  refine ⟨fun prepared hasks existing hget => ?_, trivial⟩
  cases hget

theorem the_approval_stays : ∃ s record, after (next String) {} [sampleCall, sampleApproval] = some s ∧
    s.by_id.get? sampleId = some record ∧
      ∀ t, next String s sampleCall = some t → t.by_id.get? sampleId = some record := by
  have hstatus : ((after (next String) {} [sampleCall, sampleApproval]).bind
      (·.by_id.get? sampleId)).map (·.status) = some "approved" := by decide +kernel
  obtain ⟨record, hrecord, hstatus⟩ := Option.map_eq_some_iff.mp hstatus
  obtain ⟨s, hs, hget⟩ := Option.bind_eq_some_iff.mp hrecord
  refine ⟨s, record, hs, hget, fun t ht => resolutions_are_final ⟨_, hs⟩ ⟨[sampleCall], ?_⟩ hget ?_⟩
  · rw [after_cons, ht]
    rfl
  · rw [hstatus]
    decide

def sampleApproved : InMemoryActionApprovalRepository Int :=
  ((after (next String) {} [sampleCall, sampleApproval]).getD {})

def statuses (called : Except PyException ActionOrchestrationResult ×
    InMemoryActionApprovalRepository Int) : List (ActionStatus × Option String) :=
  match called with
  | (.error _, _) => []
  | (.ok result, t) => result.outcomes.map fun outcome =>
    (outcome.status, outcome.approval_record_id.bind fun id => (t.by_id.get? id).map (·.status))

/-- The same action again, after its approval was given: it is told to be pending, and no record
waits for anybody. -/
theorem a_second_approval_is_dropped :
    ¬ Along (next String) (ReportsReal String Eq) {} [sampleCall, sampleApproval, sampleCall] := by
  intro h
  have hstatuses : statuses (run (execute_proposal_actions String sampleSurroundings sampleRefundProposal
      "acme") sampleApproved) = [(.pending_approval, some "approved")] := by
    decide +kernel
  have hsome : (after (next String) {} [sampleCall, sampleApproval]).isSome = true := by
    decide +kernel
  have hafter : after (next String) {} [sampleCall, sampleApproval] = some sampleApproved := by
    obtain ⟨t, ht⟩ := Option.isSome_iff_exists.mp hsome
    rw [sampleApproved, ht]
    rfl
  have hlast : Along (next String) (ReportsReal String Eq) {}
      ([sampleCall, sampleApproval] ++ [sampleCall]) := h
  have hreal := hlast.last hafter rfl
  rcases hrun : run (execute_proposal_actions String sampleSurroundings sampleRefundProposal "acme")
    sampleApproved with ⟨_ | result, t⟩
  · rw [hrun] at hstatuses
    cases hstatuses
  · rw [hrun] at hstatuses
    have hall := hreal result t hrun
    cases houtcomes : result.outcomes with
    | nil =>
      rw [statuses, houtcomes] at hstatuses
      cases hstatuses
    | cons outcome rest =>
      rw [houtcomes] at hall
      simp only [statuses, houtcomes, List.map_cons, List.cons.injEq, Prod.mk.injEq] at hstatuses
      obtain ⟨⟨hpending, happroved⟩, -⟩ := hstatuses
      obtain ⟨p, _, hfirst, -, -⟩ := List.forall₂_cons_right_iff.mp hall
      obtain ⟨_, _, id, record, -, -, hid, hget, hwaits, -⟩ := hfirst hpending
      rw [hid, Option.bind_some, hget, Option.map_some, hwaits] at happroved
      exact absurd (Option.some.inj happroved) (by decide)

end operious.agents.tools
