-- Calls on one case side by side. Each reads the case first and writes it last, by its id alone: whether
-- a case that is resolved stays as it is resolved.
import Operious.Approvals.Separation
import Mathlib.Data.Set.Basic
import Mathlib.Logic.Function.Basic

namespace operious.approvals

open effects runs
open operious.resolution

section

variable {Uuid Json : Type} [DecidableEq Uuid] [Stdlib Uuid] [Sha256]

inductive CaseCall
  | review
  | guide (guided_by guidance : String)
  | approve (approved_by : String) (note : Option String)
  | reject (rejected_by : String) (reason : Option String)
  | escalate (escalated_by reason : String)

def CaseCall.body (around : Collaborators Uuid Json) (tenant_id : String)
    (record : CaseApprovalRecord Uuid Json) : CaseCall → Call Uuid Json (CaseApprovalRecord Uuid Json)
  | review => review_record around tenant_id record
  | guide guided_by guidance => guide_record around tenant_id guided_by guidance record
  | approve approved_by note => approve_record around tenant_id approved_by note record
  | reject rejected_by reason => reject_record around tenant_id rejected_by reason record
  | escalate escalated_by reason => escalate_record around tenant_id escalated_by reason record

def CaseCall.written : CaseCall → CaseApprovalStatus
  | review | guide .. => .awaiting_approval
  | approve .. => .approved
  | reject .. => .rejected
  | escalate .. => .escalated

def CaseApprovalStatus.resolved : CaseApprovalStatus → Bool
  | approved | rejected | escalated => true
  | _ => false

structure InFlight (Uuid Json : Type) where
  call : CaseCall
  record : CaseApprovalRecord Uuid Json

/-- The row of the case that is committed, the replies that calls on it have released, and the calls
in flight. -/
structure Pool (ι Uuid Json : Type) where
  case : CaseApprovalRecord Uuid Json
  released : Set Uuid
  inflight : ι → Option (InFlight Uuid Json)

def Pool.idle {ι : Type} (case : CaseApprovalRecord Uuid Json) : Pool ι Uuid Json :=
  ⟨case, ∅, fun _ => none⟩

/-- What happens to a call. It reads the case. Later it returns and its writes are committed together,
or it raises and they are not. What its other persistence calls find in between depends on what else
is committed meanwhile, and may be anything. -/
inductive Event (ι Uuid Json : Type) [DecidableEq Uuid]
  | read (i : ι) (call : CaseCall)
  | commit (i : ι) (around : Collaborators Uuid Json) (found : { desk : Desk Uuid Json // Keyed desk })
  | abort (i : ι)

variable {ι : Type} [DecidableEq ι]

def Event.next (tenant_id : String) (pool : Pool ι Uuid Json) :
    Event ι Uuid Json → Option (Pool ι Uuid Json)
  | read i call =>
    if (pool.inflight i).isSome then none
    else if pool.case.tenant_id ≠ tenant_id then some pool
    else some { pool with inflight := Function.update pool.inflight i (some ⟨call, pool.case⟩) }
  | commit i around found =>
    match pool.inflight i with
    | none => none
    | some f =>
      match run (f.call.body around tenant_id f.record) found.1 with
      | (.error _, _) => none
      | (.ok saved, after) => some {
          case := saved
          released := pool.released ∪ { q | Released q found.1 after }
          inflight := Function.update pool.inflight i none }
  | abort i => some { pool with inflight := Function.update pool.inflight i none }

theorem CaseCall.body_ok {call : CaseCall} {around : Collaborators Uuid Json} {tenant_id : String}
    {record saved : CaseApprovalRecord Uuid Json} {desk desk' : Desk Uuid Json} (hkeyed : Keyed desk)
    (hrun : run (call.body around tenant_id record) desk = (.ok saved, desk')) :
    saved.status = call.written ∧ saved.resolution_proposal_id = record.resolution_proposal_id ∧
      (call.written ≠ .approved → ∀ q, desk'.proposals.get? q = desk.proposals.get? q) := by
  cases call with
  | review =>
    obtain ⟨-, -, recommendation, -, rfl, rfl⟩ := review_record_ok hrun
    exact ⟨rfl, rfl, fun _ _ => rfl⟩
  | guide guided_by guidance =>
    obtain ⟨-, -, decision_id, recommendation, mid, hbeside, rfl, rfl⟩ := guide_record_ok hrun
    exact ⟨rfl, rfl, fun _ q => hbeside.proposals q nofun⟩
  | approve approved_by note =>
    obtain ⟨-, -, -, decision_id, mid, -, rfl, rfl⟩ := approve_record_ok hkeyed hrun
    exact ⟨rfl, rfl, fun hnot => absurd rfl hnot⟩
  | reject rejected_by reason =>
    obtain ⟨-, -, decision_id, mid, hresolving, rfl, rfl⟩ := reject_record_ok hkeyed hrun
    refine ⟨rfl, rfl, fun _ q => ?_⟩
    rcases hresolving with ⟨-, hbeside⟩ | ⟨a, pre, old, -, hbeside, -, -, hresolved⟩
    · exact hbeside.proposals q nofun
    · rcases hresolved.proposals q with hsame | ⟨hstatus, -⟩
      · exact hsame.trans (hbeside.proposals q nofun)
      · exact absurd hstatus (by decide)
  | escalate escalated_by reason =>
    obtain ⟨-, -, decision_id, escalation_id, mid, -, hbeside, rfl, rfl⟩ := escalate_record_ok hrun
    exact ⟨rfl, rfl, fun _ q => hbeside.proposals q nofun⟩

structure Final (before : Pool ι Uuid Json) (_ : Event ι Uuid Json) (after : Pool ι Uuid Json) :
    Prop where
  status : before.case.status.resolved = true → after.case.status = before.case.status
  replies : ∀ q ∈ after.released, after.case.resolution_proposal_id = some q →
    after.case.status = .approved

/-- No call commits once another kind of call has resolved the case, however early it read it. -/
def Timely (pool : Pool ι Uuid Json) : Event ι Uuid Json → Prop
  | .commit i _ _ => ∀ f, pool.inflight i = some f → pool.case.status.resolved = true →
    pool.case.status = f.call.written
  | _ => True

/-- What holds between the events of a run in which every commit is timely. -/
structure Sound (pool : Pool ι Uuid Json) : Prop where
  replies : ∀ q ∈ pool.released, pool.case.resolution_proposal_id = some q →
    pool.case.status = .approved
  inflight : ∀ i f, pool.inflight i = some f →
    f.record.resolution_proposal_id = pool.case.resolution_proposal_id

variable {pool pool' : Pool ι Uuid Json} {tenant_id : String} {i : ι}
  {around : Collaborators Uuid Json} {found : { desk : Desk Uuid Json // Keyed desk }}

theorem commit_next (h : (Event.commit i around found).next tenant_id pool = some pool') :
    ∃ f saved after, pool.inflight i = some f ∧
      run (f.call.body around tenant_id f.record) found.1 = (.ok saved, after) ∧
      pool' = {
        case := saved
        released := pool.released ∪ { q | Released q found.1 after }
        inflight := Function.update pool.inflight i none } := by
  rw [Event.next] at h
  split at h
  · cases h
  · rename_i f hf
    split at h
    · cases h
    · rename_i saved after hrun
      exact ⟨f, saved, after, hf, hrun, (Option.some.inj h).symm⟩

omit [DecidableEq Uuid] [Stdlib Uuid] [Sha256] in
theorem inflight_of_update {j : ι} {f : InFlight Uuid Json}
    (h : Function.update pool.inflight i none j = some f) : pool.inflight j = some f := by
  by_cases hj : j = i
  · subst hj
    rw [Function.update_self] at h
    cases h
  · rwa [Function.update_of_ne hj] at h

theorem Sound.commit (hsound : Sound pool)
    (htimely : Timely pool (.commit i around found))
    (hnext : (Event.commit i around found).next tenant_id pool = some pool') : Sound pool' := by
  obtain ⟨f, saved, after, hf, hrun, rfl⟩ := commit_next hnext
  obtain ⟨hstatus, hproposal, hquiet⟩ := CaseCall.body_ok found.2 hrun
  have hkept : saved.resolution_proposal_id = pool.case.resolution_proposal_id :=
    hproposal.trans (hsound.inflight i f hf)
  constructor
  · intro q hq hbound
    change saved.status = .approved
    by_cases happroved : f.call.written = .approved
    · exact hstatus.trans happroved
    · rcases hq with hold | ⟨new, hnew, heligible, hnone⟩
      · have hcase := hsound.replies q hold (hkept.symm.trans hbound)
        have hkind := htimely f hf (by rw [hcase]; rfl)
        exact absurd (hkind.symm.trans hcase) happroved
      · exact absurd heligible (hnone new (hquiet happroved q ▸ hnew))
  · intro j g hg
    exact (hsound.inflight j g (inflight_of_update hg)).trans hkept.symm

theorem Sound.next (hsound : Sound pool) {event : Event ι Uuid Json} (htimely : Timely pool event)
    (hnext : event.next tenant_id pool = some pool') : Sound pool' := by
  cases event with
  | read i call =>
    rw [Event.next] at hnext
    split at hnext
    · cases hnext
    · split at hnext
      · cases hnext
        exact hsound
      · cases hnext
        refine ⟨hsound.replies, fun j f hf => ?_⟩
        change Function.update pool.inflight i _ j = some f at hf
        by_cases hj : j = i
        · subst hj
          rw [Function.update_self] at hf
          cases hf
          rfl
        · rw [Function.update_of_ne hj] at hf
          exact hsound.inflight j f hf
  | commit i around found => exact hsound.commit htimely hnext
  | abort i =>
    cases hnext
    exact ⟨hsound.replies, fun j f hf => hsound.inflight j f (inflight_of_update hf)⟩

theorem Sound.final_iff (hsound : Sound pool) {event : Event ι Uuid Json}
    (hnext : event.next tenant_id pool = some pool') : Final pool event pool' ↔ Timely pool event := by
  cases event with
  | read i call =>
    refine ⟨fun _ => trivial, fun htimely => ⟨fun _ => ?_, (hsound.next htimely hnext).replies⟩⟩
    rw [Event.next] at hnext
    split at hnext
    · cases hnext
    · split at hnext <;> cases hnext <;> rfl
  | commit i around found =>
    obtain ⟨f, saved, after, hf, hrun, rfl⟩ := commit_next hnext
    have hstatus : saved.status = f.call.written := (CaseCall.body_ok found.2 hrun).1
    constructor
    · intro hfinal g hg hresolved
      cases hf.symm.trans hg
      exact (hfinal.status hresolved).symm.trans hstatus
    · intro htimely
      exact ⟨fun hresolved => hstatus.trans (htimely f hf hresolved).symm,
        (hsound.commit htimely hnext).replies⟩
  | abort i =>
    refine ⟨fun _ => trivial, fun htimely => ⟨fun _ => ?_, (hsound.next htimely hnext).replies⟩⟩
    cases hnext
    rfl

end

/-! ## A case that is rejected while it is approved -/

def replyCase : CaseApprovalRecord String Unit where
  approval_case_id := "c"
  tenant_id := "t"
  session_id := some "s"
  execution_id := none
  dispatch_id := none
  entry_category := "refund"
  status := .awaiting_approval
  resolution_proposal_id := some "p"

def replyProposal : ResolutionProposalRecord String Unit where
  proposal_id := "p"
  tenant_id := "t"
  session_id := some "s"
  execution_id := none
  dispatch_id := "d"
  proposed_customer_reply := "Refunded."
  resolution_category := "refund"
  supervisor_verdict := .pass
  governance_verdict := .require_approval
  autonomy_decision := .needs_human_approval
  status := .pending_human_approval
  updated_at := 0

def replyDesk : Desk String Unit where
  cases := Dict.empty.set "c" replyCase
  actions := .empty
  proposals := Dict.empty.set "p" replyProposal
  drafts := .empty
  decisions := .empty
  outbox := ⟨.empty, .empty⟩

theorem keyed_replyDesk : Keyed replyDesk where
  cases id r hr := by
    rcases Dict.get?_set_cases hr with ⟨rfl, rfl⟩ | ⟨-, hr⟩
    · rfl
    · cases hr
  actions id r hr := by cases hr

/-- Two operators read the case, and one rejects it. -/
def readAndRejected : List (Event Bool String Unit) :=
  [.read true (.approve "ann" none), .read false (.reject "bob" none),
   .commit false answering ⟨replyDesk, keyed_replyDesk⟩]

end operious.approvals
