-- The workers and the sweeps of one outbox row. Every step of one of them is an action of its own, and they
-- interleave freely.
import Operious.Ingress.DispatchOutbox
import Operious.Lib.Runs

namespace operious.ingress

open Function (update)

/-! ## The parties -/

/-- Where a party stands: a worker inside `process_ingress_dispatch_outbox_runtime`, or a sweep inside
`dead_letter_exhausted_pending`. -/
inductive Phase (Uuid : Type)
  | idle
  /-- The row is read; the claim is to be written. -/
  | reading (claim_id : Uuid) (worker_id : String) (now : Instant)
  | claimed (held : Held Uuid)
  | dispatching (held : Held Uuid)
  /-- The writes of the dispatch are committed; the publishers are to be flushed. -/
  | committed (held : Held Uuid)
  | flushed (held : Held Uuid)
  /-- The row is deferred, waits or is marked. -/
  | written (held : Held Uuid)
  /-- An exception is to be settled. -/
  | raised (held : Held Uuid) (error : String)
  /-- The row is on the page of the sweep; it is to be read again. -/
  | listed (now : Instant)
  | sweeping (claim_id : Uuid) (now : Instant)
  /-- The sweep has claimed the row. -/
  | swept (held : Held Uuid)
  | ended

/-- The party has claimed nothing yet. -/
def Phase.fresh {Uuid : Type} : Phase Uuid → Bool
  | idle | reading .. | listed _ | sweeping .. => true
  | _ => false

structure World (Uuid : Type) where
  row : IngressDispatchOutboxRecord Uuid
  parties : Nat → Phase Uuid := fun _ => .idle
  /-- A dispatch of the message is committed. -/
  committed : Bool := false
  /-- A dispatch of the message was attempted and failed. -/
  failed : Bool := false
  /-- Who claimed the row last. -/
  claimant : Option Nat := none
  /-- The parties whose claim was requeued. -/
  lost : List Nat := []

inductive Act
  | claimRead (party : Nat) (worker_id : String) (now : Instant)
  | claim (party : Nat)
  /-- The admission defers the row. -/
  | defer (party : Nat) (retry_after_seconds : Option Nat)
  /-- The media of the message is still pending. -/
  | wait (party : Nat)
  /-- Neither the admission nor the media holds the row back. -/
  | attempt (party : Nat)
  | dispatch (party : Nat)
  | flush (party : Nat)
  | mark (party : Nat)
  | raise (party : Nat) (error : String)
  | settle (party : Nat)
  | crash (party : Nat)
  | requeue (stale_before requeued_at : Instant) (reason : String)
  | sweepList (party : Nat) (now : Instant)
  | sweepRead (party : Nat)
  | sweepClaim (party : Nat)
  | sweepDeadLetter (party : Nat) (reason : String)

def Act.party : Act → Option Nat
  | requeue .. => none
  | claimRead i .. | claim i | defer i _ | wait i | attempt i | dispatch i | flush i | mark i
  | raise i _ | settle i | crash i | sweepList i _ | sweepRead i | sweepClaim i
  | sweepDeadLetter i _ => some i

section

variable {Uuid : Type}

def World.become (w : World Uuid) (i : Nat) (phase : Phase Uuid) : World Uuid :=
  { w with parties := update w.parties i phase }

def World.claimed (w : World Uuid) (i : Nat) (claim_id : Uuid) (worker_id : String) (now : Instant)
    (then_ : Held Uuid → Phase Uuid) : World Uuid :=
  match claim_ingress_dispatch_outbox w.row claim_id worker_id now with
  | none => w.become i .ended
  | some row => { w with
    row := row
    claimant := some i
    parties := update w.parties i (then_ ⟨row, claim_id, now⟩) }

/-- A guarded write of the row, and where it leaves the party. -/
def World.wrote (w : World Uuid) (i : Nat) (written : Option (IngressDispatchOutboxRecord Uuid))
    (phase : Phase Uuid) : World Uuid :=
  { w with row := written.getD w.row, parties := update w.parties i phase }

variable [DecidableEq Uuid] [Stdlib Uuid] (runtime : IngressDispatchOutboxRuntime)

/-! ## One step -/

def step (w : World Uuid) : Act → Option (World Uuid)
  | .claimRead i worker_id now =>
    match w.parties i, claim_due_read runtime w.row worker_id now false with
    | .idle, .ok claim_id => some (w.become i (.reading claim_id worker_id now))
    | _, _ => none
  | .claim i =>
    match w.parties i with
    | .reading claim_id worker_id now => some (w.claimed i claim_id worker_id now .claimed)
    | _ => none
  | .defer i retry_after_seconds =>
    match w.parties i with
    | .claimed held =>
      some (w.wrote i (reschedule_or_dead_letter runtime w.row held
        "ingress dispatch admission deferred" retry_after_seconds) (.written held))
    | _ => none
  | .wait i =>
    match w.parties i with
    | .claimed held =>
      if held.outbox.channel = "whatsapp" ∧
          held.outbox.attempt_count < maxWhatsappMediaWaitReschedules then
        match reschedule runtime w.row held "whatsapp_media_fetch_pending"
            (some whatsappMediaWaitRetrySeconds) with
        -- The claim is gone: the source goes on to the dispatch.
        | none => some (w.become i (.dispatching held))
        | some row => some (w.wrote i (some row) (.written held))
      else none
    | _ => none
  | .attempt i =>
    match w.parties i with
    | .claimed held => some (w.become i (.dispatching held))
    | _ => none
  | .dispatch i =>
    match w.parties i with
    | .dispatching held => some { w.become i (.committed held) with committed := true }
    | _ => none
  | .flush i =>
    match w.parties i with
    | .committed held => some (w.become i (.flushed held))
    | _ => none
  | .mark i =>
    match w.parties i with
    | .flushed held =>
      some (w.wrote i (mark_ingress_dispatch_outbox_dispatched w.row held.claim_id held.now)
        (.written held))
    | _ => none
  | .raise i error =>
    match w.parties i with
    | .claimed held | .flushed held | .written held => some (w.become i (.raised held error))
    -- What the flush of the publishers raises comes out of the dispatch as well.
    | .dispatching held | .committed held =>
      some { w.become i (.raised held error) with failed := true }
    | _ => none
  | .settle i =>
    match w.parties i with
    | .raised held error =>
      some (w.wrote i (reschedule_or_dead_letter runtime w.row held error none) .ended)
    | _ => none
  | .crash i => some (w.become i .ended)
  | .requeue stale_before requeued_at reason =>
    (requeue_stale_ingress_dispatch_outbox w.row stale_before requeued_at reason).map fun row =>
      { w with row := row, lost := w.claimant.toList ++ w.lost }
  | .sweepList i now =>
    match w.parties i with
    | .idle =>
      if w.row.claimable now && should_dead_letter runtime w.row now then
        some (w.become i (.listed now))
      else none
    | _ => none
  | .sweepRead i =>
    match w.parties i with
    | .listed now =>
      match claim_due_read runtime w.row "reconciler:ingress-dispatch-dead-letter" now true with
      | .ok claim_id => some (w.become i (.sweeping claim_id now))
      | .error _ => none
    | _ => none
  | .sweepClaim i =>
    match w.parties i with
    | .sweeping claim_id now =>
      some (w.claimed i claim_id "reconciler:ingress-dispatch-dead-letter" now .swept)
    | _ => none
  | .sweepDeadLetter i reason =>
    match w.parties i with
    | .swept held =>
      some (w.wrote i (dead_letter_ingress_dispatch_outbox w.row held.claim_id reason held.now) .ended)
    | _ => none

/-! ## What a step writes under a claim -/

/-- A write that is guarded by a claim: whose it is, what the party holds, and where it puts the row. -/
structure GuardedWrite (Uuid : Type) where
  party : Nat
  held : Held Uuid
  status : IngressDispatchOutboxStatus

/-- What `_reschedule_or_dead_letter` makes of the row. -/
def settledStatus (held : Held Uuid) : IngressDispatchOutboxStatus :=
  if should_dead_letter runtime held.outbox held.now then .dead_lettered else .pending

def World.guardedWrite (w : World Uuid) : Act → Option (GuardedWrite Uuid)
  | .defer i _ =>
    match w.parties i with
    | .claimed held => some ⟨i, held, settledStatus runtime held⟩
    | _ => none
  | .wait i =>
    match w.parties i with
    | .claimed held => some ⟨i, held, .pending⟩
    | _ => none
  | .mark i =>
    match w.parties i with
    | .flushed held => some ⟨i, held, .dispatched⟩
    | _ => none
  | .settle i =>
    match w.parties i with
    | .raised held _ => some ⟨i, held, settledStatus runtime held⟩
    | _ => none
  | .sweepDeadLetter i _ =>
    match w.parties i with
    | .swept held => some ⟨i, held, .dead_lettered⟩
    | _ => none
  | _ => none

/-! ## What a step can do -/

variable {runtime} {w w' : World Uuid} {a : Act}

/-- The kinds of a step. A guarded write misses where the row stands under no such claim. -/
inductive StepEffect (runtime : IngressDispatchOutboxRuntime) (w : World Uuid) : Act → World Uuid → Prop
  | moves {a : Act} {i : Nat} {phase : Phase Uuid} {failed : Bool} (hparty : a.party = some i)
      (hwrite : w.guardedWrite runtime a = none) (hdispatch : ∀ j, a ≠ .dispatch j)
      (hphase : phase.fresh = true → (w.parties i).fresh = true)
      (hfailed : w.failed = true → failed = true) :
      StepEffect runtime w a { w.become i phase with failed := failed }
  | dispatches {i : Nat} {held : Held Uuid} :
      StepEffect runtime w (.dispatch i) { w.become i (.committed held) with committed := true }
  | claims {a : Act} {i : Nat} {row : IngressDispatchOutboxRecord Uuid} {phase : Phase Uuid}
      (hparty : a.party = some i) (hwrite : w.guardedWrite runtime a = none)
      (hdispatch : ∀ j, a ≠ .dispatch j) (hold : (w.parties i).fresh = true)
      (hphase : phase.fresh = false) (hpending : w.row.status = .pending)
      (hclaimed : row.status = .claimed) :
      StepEffect runtime w a { w with
        row := row, claimant := some i, parties := update w.parties i phase }
  | misses {a : Act} {g : GuardedWrite Uuid} {phase : Phase Uuid}
      (hwrite : w.guardedWrite runtime a = some g)
      (hrow : w.row.claimedUnder g.held.claim_id = false) (hphase : phase.fresh = false) :
      StepEffect runtime w a (w.become g.party phase)
  | writes {a : Act} {g : GuardedWrite Uuid} {row : IngressDispatchOutboxRecord Uuid}
      {phase : Phase Uuid} (hwrite : w.guardedWrite runtime a = some g)
      (hrow : w.row.claimedUnder g.held.claim_id = true) (hstatus : row.status = g.status)
      (hphase : phase.fresh = false) :
      StepEffect runtime w a { w with row := row, parties := update w.parties g.party phase }
  | requeues {a : Act} {row : IngressDispatchOutboxRecord Uuid} (hparty : a.party = none)
      (hwrite : w.guardedWrite runtime a = none) (hdispatch : ∀ j, a ≠ .dispatch j)
      (hclaimed : w.row.status = .claimed) (hpending : row.status = .pending) :
      StepEffect runtime w a { w with row := row, lost := w.claimant.toList ++ w.lost }

variable {g : GuardedWrite Uuid}

omit [DecidableEq Uuid] [Stdlib Uuid] in
theorem guardedWrite_party (h : w.guardedWrite runtime a = some g) : a.party = some g.party := by
  unfold World.guardedWrite at h
  split at h
  all_goals first
    | (split at h <;> cases h; rfl)
    | cases h

omit [DecidableEq Uuid] [Stdlib Uuid] in
theorem guardedWrite_status (h : w.guardedWrite runtime a = some g) : g.status ≠ .claimed := by
  have hsettled (held : Held Uuid) : settledStatus runtime held ≠ .claimed := by
    unfold settledStatus
    split <;> nofun
  unfold World.guardedWrite at h
  split at h
  all_goals first
    | (split at h <;> cases h; first | exact hsettled _ | nofun)
    | cases h

omit [Stdlib Uuid] in
theorem effect_claimed {i : Nat} {claim_id : Uuid} {worker_id : String} {now : Instant}
    {phase : Held Uuid → Phase Uuid} (hparty : a.party = some i)
    (hwrite : w.guardedWrite runtime a = none) (hdispatch : ∀ j, a ≠ .dispatch j)
    (hold : (w.parties i).fresh = true) (hphase : ∀ held, (phase held).fresh = false) :
    StepEffect runtime w a (w.claimed i claim_id worker_id now phase) := by
  unfold World.claimed claim_ingress_dispatch_outbox
  split
  · exact .moves hparty hwrite hdispatch (fun h => nomatch h) id
  · rename_i hrow
    split at hrow <;> cases hrow
    rename_i hclaimable
    have hpending : w.row.status = .pending := by
      have := (Bool.and_eq_true_iff.mp hclaimable).1
      exact of_decide_eq_true this
    exact .claims hparty hwrite hdispatch hold (hphase _) hpending rfl

omit [Stdlib Uuid] in
theorem effect_wrote {written : Option (IngressDispatchOutboxRecord Uuid)} {phase : Phase Uuid}
    (hwrite : w.guardedWrite runtime a = some g)
    (hmiss : written = none → w.row.claimedUnder g.held.claim_id = false)
    (hland : ∀ row, written = some row →
      w.row.claimedUnder g.held.claim_id = true ∧ row.status = g.status)
    (hphase : phase.fresh = false) : StepEffect runtime w a (w.wrote g.party written phase) := by
  cases written with
  | none => exact .misses hwrite (hmiss rfl) hphase
  | some row =>
    obtain ⟨hrow, hstatus⟩ := hland row rfl
    exact .writes hwrite hrow hstatus hphase

variable {retry_after_seconds : Option Nat} {held : Held Uuid} {error : String}

theorem reschedule_eq_some {row row' : IngressDispatchOutboxRecord Uuid}
    (h : reschedule runtime row held error retry_after_seconds = some row') :
    row.claimedUnder held.claim_id = true ∧ row'.status = .pending := by
  unfold reschedule reschedule_ingress_dispatch_outbox at h
  simp only at h
  split at h <;> cases h
  exact ⟨‹_›, rfl⟩

theorem reschedule_eq_none {row : IngressDispatchOutboxRecord Uuid}
    (h : reschedule runtime row held error retry_after_seconds = none) :
    row.claimedUnder held.claim_id = false := by
  unfold reschedule reschedule_ingress_dispatch_outbox at h
  simp only at h
  split at h
  · cases h
  · exact Bool.not_eq_true _ ▸ ‹_›

theorem effect_settled {i : Nat} {phase : Phase Uuid}
    (hwrite : w.guardedWrite runtime a = some ⟨i, held, settledStatus runtime held⟩)
    (hphase : phase.fresh = false) :
    StepEffect runtime w a (w.wrote i
      (reschedule_or_dead_letter runtime w.row held error retry_after_seconds) phase) :=
  effect_wrote hwrite (reschedule_or_dead_letter_eq_none runtime)
    (fun _ => reschedule_or_dead_letter_eq_some runtime) hphase

theorem step_effect (h : step runtime w a = some w') : StepEffect runtime w a w' := by
  cases a with
  | claimRead i worker_id now =>
    rw [step] at h
    split at h <;> cases h
    rename_i hidle _
    exact .moves rfl rfl (by rintro _ ⟨⟩) (fun _ => by rw [hidle]; rfl) id
  | claim i =>
    rw [step] at h
    split at h <;> cases h
    rename_i hreading
    exact effect_claimed rfl rfl (by rintro _ ⟨⟩) (by rw [hreading]; rfl) fun _ => rfl
  | defer i retry_after_seconds =>
    rw [step] at h
    split at h <;> cases h
    rename_i held hclaimed
    exact effect_settled (by simp only [World.guardedWrite, hclaimed]) rfl
  | wait i =>
    rw [step] at h
    split at h
    · rename_i held hclaimed
      have hwrite : w.guardedWrite runtime (.wait i) = some ⟨i, held, .pending⟩ := by
        simp only [World.guardedWrite, hclaimed]
      split at h
      · split at h <;> cases h
        · rename_i hnone
          exact .misses (g := ⟨i, held, .pending⟩) hwrite (reschedule_eq_none hnone) rfl
        · rename_i row hrow
          obtain ⟨hunder, hstatus⟩ := reschedule_eq_some hrow
          exact .writes (g := ⟨i, held, .pending⟩) hwrite hunder hstatus rfl
      · cases h
    · cases h
  | attempt i =>
    rw [step] at h
    split at h <;> cases h
    exact .moves rfl rfl (by rintro _ ⟨⟩) (by rintro ⟨⟩) id
  | dispatch i =>
    rw [step] at h
    split at h <;> cases h
    exact .dispatches
  | flush i =>
    rw [step] at h
    split at h <;> cases h
    exact .moves rfl rfl (by rintro _ ⟨⟩) (by rintro ⟨⟩) id
  | mark i =>
    rw [step] at h
    split at h <;> cases h
    rename_i held hflushed
    refine effect_wrote (g := ⟨i, held, .dispatched⟩) (by simp only [World.guardedWrite, hflushed])
      (fun hnone => ?_) (fun row hrow => ?_) rfl
    · unfold mark_ingress_dispatch_outbox_dispatched at hnone
      split at hnone
      · cases hnone
      · exact Bool.not_eq_true _ ▸ ‹_›
    · unfold mark_ingress_dispatch_outbox_dispatched at hrow
      split at hrow <;> cases hrow
      exact ⟨‹_›, rfl⟩
  | raise i error =>
    rw [step] at h
    split at h <;> cases h
    · exact .moves rfl rfl (by rintro _ ⟨⟩) (by rintro ⟨⟩) id
    · exact .moves rfl rfl (by rintro _ ⟨⟩) (by rintro ⟨⟩) id
    · exact .moves rfl rfl (by rintro _ ⟨⟩) (by rintro ⟨⟩) id
    · exact .moves rfl rfl (by rintro _ ⟨⟩) (by rintro ⟨⟩) fun _ => rfl
    · exact .moves rfl rfl (by rintro _ ⟨⟩) (by rintro ⟨⟩) fun _ => rfl
  | settle i =>
    rw [step] at h
    split at h <;> cases h
    rename_i held error hraised
    exact effect_settled (by simp only [World.guardedWrite, hraised]) rfl
  | crash i =>
    cases h
    exact .moves rfl rfl (by rintro _ ⟨⟩) (by rintro ⟨⟩) id
  | requeue stale_before requeued_at reason =>
    rw [step, requeue_stale_ingress_dispatch_outbox] at h
    split at h <;> cases h
    rename_i hstale
    have hclaimed : w.row.status = .claimed :=
      of_decide_eq_true (Bool.and_eq_true_iff.mp hstale).1
    exact .requeues rfl rfl (by rintro _ ⟨⟩) hclaimed rfl
  | sweepList i now =>
    rw [step] at h
    split at h
    · rename_i hidle
      split at h <;> cases h
      exact .moves rfl rfl (by rintro _ ⟨⟩) (fun _ => by rw [hidle]; rfl) id
    · cases h
  | sweepRead i =>
    rw [step] at h
    split at h
    · rename_i hlisted
      split at h <;> cases h
      exact .moves rfl rfl (by rintro _ ⟨⟩) (fun _ => by rw [hlisted]; rfl) id
    · cases h
  | sweepClaim i =>
    rw [step] at h
    split at h <;> cases h
    rename_i hsweeping
    exact effect_claimed rfl rfl (by rintro _ ⟨⟩) (by rw [hsweeping]; rfl) fun _ => rfl
  | sweepDeadLetter i reason =>
    rw [step] at h
    split at h <;> cases h
    rename_i held hswept
    refine effect_wrote (g := ⟨i, held, .dead_lettered⟩) (by simp only [World.guardedWrite, hswept])
      (fun hnone => ?_) (fun row hrow => ?_) rfl
    · unfold dead_letter_ingress_dispatch_outbox at hnone
      split at hnone
      · cases hnone
      · exact Bool.not_eq_true _ ▸ ‹_›
    · unfold dead_letter_ingress_dispatch_outbox at hrow
      split at hrow <;> cases hrow
      exact ⟨‹_›, rfl⟩

end

end operious.ingress
