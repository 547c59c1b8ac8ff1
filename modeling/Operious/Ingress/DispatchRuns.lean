-- The laws of the runs of workers and sweeps on one outbox row: when its end is final and comes before no
-- dispatch that is committed, and when it comes only after a dispatch that failed.
import Operious.Ingress.DispatchWorkers

namespace operious.ingress

open Function (update)
open runs

section

variable {Uuid : Type} [DecidableEq Uuid] [Stdlib Uuid] (runtime : IngressDispatchOutboxRuntime)

/-- The row as the capture of a message leaves it, and nobody at work on it. -/
def World.captured (outbox_id ingress_id : Uuid) (tenant_id channel : String) (ts : Instant)
    (metadata : Metadata) : World Uuid where
  row :=
    { outbox_id := outbox_id
      ingress_id := ingress_id
      tenant_id := tenant_id
      channel := channel
      status := .pending
      created_at := ts
      next_attempt_at := some ts
      metadata := metadata }

/-! ## The end of a row -/

/-- A row that has ended stays as it is, is dead-lettered only while no dispatch is committed, and is left
alone by a party whose claim was requeued. -/
structure EndKept (w : World Uuid) (a : Act) (w' : World Uuid) : Prop where
  final : w.row.status.terminal = true → w'.row = w.row
  undispatched : w'.row.status = .dead_lettered → w'.committed = false
  fenced : ∀ i ∈ w.lost, a.party = some i → w'.row = w.row

/-- No dispatch is committed on a dead-lettered row, and nobody writes the row under a claim that was
requeued from it, or dead-letters it after a committed dispatch. -/
structure InTime (w : World Uuid) (a : Act) : Prop where
  dispatch : ∀ i, a = .dispatch i → w.row.status ≠ .dead_lettered
  write : ∀ g, w.guardedWrite runtime a = some g → w.row.claimedUnder g.held.claim_id = true →
    g.party ∉ w.lost ∧ (g.status = .dead_lettered → w.committed = false)

/-- What holds between two steps. -/
structure Orderly (w : World Uuid) : Prop where
  undispatched : w.row.status = .dead_lettered → w.committed = false
  fresh : ∀ i, (w.parties i).fresh = true → i ∉ w.lost ∧ w.claimant ≠ some i

variable {runtime} {w w' : World Uuid} {a : Act}

omit [DecidableEq Uuid] [Stdlib Uuid] in
theorem fresh_update {i j : Nat} {phase : Phase Uuid}
    (hphase : phase.fresh = true → (w.parties i).fresh = true)
    (h : (update w.parties i phase j).fresh = true) : (w.parties j).fresh = true := by
  rcases eq_or_ne j i with rfl | hne
  · rw [Function.update_self] at h
    exact hphase h
  · rwa [Function.update_of_ne hne] at h

omit [DecidableEq Uuid] [Stdlib Uuid] in
theorem fresh_update_of_not {i j : Nat} {phase : Phase Uuid} (hphase : phase.fresh = false)
    (h : (update w.parties i phase j).fresh = true) : j ≠ i ∧ (w.parties j).fresh = true := by
  rcases eq_or_ne j i with rfl | hne
  · rw [Function.update_self, hphase] at h
    cases h
  · rw [Function.update_of_ne hne] at h
    exact ⟨hne, h⟩

omit [Stdlib Uuid] in
theorem claimedUnder_status {row : IngressDispatchOutboxRecord Uuid} {claim_id : Uuid}
    (h : row.claimedUnder claim_id = true) : row.status = .claimed :=
  of_decide_eq_true (Bool.and_eq_true_iff.mp h).1

theorem orderly_step (hw : Orderly w) (hC : InTime runtime w a) (h : step runtime w a = some w') :
    Orderly w' := by
  cases step_effect h with
  | moves hparty hwrite hdispatch hphase hfailed =>
    exact ⟨hw.undispatched, fun j hj => hw.fresh j (fresh_update hphase hj)⟩
  | dispatches =>
    refine ⟨fun hdead => absurd hdead (hC.dispatch _ rfl), fun j hj => ?_⟩
    exact hw.fresh j (fresh_update_of_not rfl hj).2
  | claims hparty hwrite hdispatch hold hphase hpending hclaimed =>
    refine ⟨fun hdead => (nomatch hclaimed.symm.trans hdead), fun j hj => ?_⟩
    obtain ⟨hne, hj⟩ := fresh_update_of_not hphase hj
    exact ⟨(hw.fresh j hj).1, fun heq => hne (Option.some.inj heq).symm⟩
  | misses hwrite hrow hphase =>
    refine ⟨hw.undispatched, fun j hj => ?_⟩
    exact hw.fresh j (fresh_update_of_not hphase hj).2
  | writes hwrite hrow hstatus hphase =>
    refine ⟨fun hdead => (hC.write _ hwrite hrow).2 (hstatus.symm.trans hdead), fun j hj => ?_⟩
    exact hw.fresh j (fresh_update_of_not hphase hj).2
  | requeues hparty hwrite hdispatch hclaimed hpending =>
    refine ⟨fun hdead => (nomatch hpending.symm.trans hdead), fun j hj => ?_⟩
    obtain ⟨hlost, hclaimant⟩ := hw.fresh j hj
    refine ⟨fun hmem => ?_, hclaimant⟩
    rcases List.mem_append.mp hmem with hmem | hmem
    · exact hclaimant (Option.mem_toList.mp hmem)
    · exact hlost hmem

/-- From an orderly state a step keeps the end of the row exactly if it comes in time. -/
theorem endKept_iff (hw : Orderly w) (h : step runtime w a = some w') :
    EndKept w a w' ↔ InTime runtime w a := by
  cases step_effect h with
  | moves hparty hwrite hdispatch hphase hfailed =>
    refine ⟨fun _ => ⟨fun i ha => absurd ha (hdispatch i), fun g hg => ?_⟩, fun _ =>
      ⟨fun _ => rfl, hw.undispatched, fun _ _ _ => rfl⟩⟩
    rw [hwrite] at hg
    cases hg
  | dispatches =>
    constructor
    · intro hkept
      refine ⟨fun i _ hdead => ?_, fun g hg => nomatch hg⟩
      cases hkept.undispatched hdead
    · intro hC
      exact ⟨fun _ => rfl, fun hdead => absurd hdead (hC.dispatch _ rfl), fun _ _ _ => rfl⟩
  | claims hparty hwrite hdispatch hold hphase hpending hclaimed =>
    refine ⟨fun _ => ⟨fun i ha => absurd ha (hdispatch i), fun g hg => ?_⟩, fun _ => ⟨?_, ?_, ?_⟩⟩
    · rw [hwrite] at hg
      cases hg
    · intro hend
      rw [hpending] at hend
      cases hend
    · intro hdead
      cases hclaimed.symm.trans hdead
    · intro j hlost hj
      cases hparty.symm.trans hj
      exact absurd hlost (hw.fresh _ hold).1
  | misses hwrite hrow hphase =>
    refine ⟨fun _ => ⟨fun i ha => ?_, fun g hg hunder => ?_⟩, fun _ =>
      ⟨fun _ => rfl, hw.undispatched, fun _ _ _ => rfl⟩⟩
    · subst ha
      cases hwrite
    · cases hwrite.symm.trans hg
      rw [hrow] at hunder
      cases hunder
  | writes hwrite hrow hstatus hphase =>
    rename_i g row phase
    have hclaimed : w.row.status = .claimed := claimedUnder_status hrow
    have hmoved : row ≠ w.row := by
      rintro rfl
      exact guardedWrite_status hwrite (hstatus.symm.trans hclaimed)
    constructor
    · intro hkept
      refine ⟨fun i ha => ?_, fun g' hg _ => ?_⟩
      · subst ha
        cases hwrite
      · cases hwrite.symm.trans hg
        refine ⟨fun hlost => hmoved (hkept.fenced _ hlost (guardedWrite_party hwrite)), fun hdead => ?_⟩
        exact hkept.undispatched (hstatus.trans hdead)
    · intro hC
      obtain ⟨hheld, hdead⟩ := hC.write g hwrite hrow
      refine ⟨fun hend => ?_, fun hrow' => hdead (hstatus.symm.trans hrow'), fun j hlost hj => ?_⟩
      · rw [hclaimed] at hend
        cases hend
      · cases (guardedWrite_party hwrite).symm.trans hj
        exact absurd hlost hheld
  | requeues hparty hwrite hdispatch hclaimed hpending =>
    refine ⟨fun _ => ⟨fun i ha => absurd ha (hdispatch i), fun g hg => ?_⟩, fun _ => ⟨?_, ?_, ?_⟩⟩
    · rw [hwrite] at hg
      cases hg
    · intro hend
      rw [hclaimed] at hend
      cases hend
    · intro hdead
      cases hpending.symm.trans hdead
    · intro j _ hj
      cases hparty.symm.trans hj

end

def oneAttempt : IngressDispatchOutboxRuntime where
  max_attempts := 1

def capturedRow (channel : String) : World String :=
  .captured "outbox" "ingress" "acme" channel 0 .empty

def flushRaises : List Act :=
  [.claimRead 0 "worker" 1, .claim 0, .attempt 0, .dispatch 0, .raise 0 "broker down", .settle 0]

/-- Two workers of one name read the same count: the second claims under the claim id that the first had
lost. -/
def sameClaimId : List Act :=
  [.claimRead 0 "worker" 1, .claimRead 1 "worker" 1, .claim 0, .attempt 0, .dispatch 0, .flush 0,
    .requeue 1 2 "ingress dispatch claim expired", .claim 1]

section

variable {Uuid : Type} [DecidableEq Uuid] [Stdlib Uuid] {runtime : IngressDispatchOutboxRuntime}
  {w w' : World Uuid} {a : Act}

/-! ## The failures before the end -/

/-- The row is dead-lettered only after a dispatch was attempted and failed. -/
def FailedFirst (w' : World Uuid) : Prop := w'.row.status = .dead_lettered → w'.failed = true

/-- Whoever gives the row up under a claim that still stands, with the budget spent, does so after a
dispatch that failed. -/
def SpentOnFailures (runtime : IngressDispatchOutboxRuntime) (w : World Uuid) (a : Act) : Prop :=
  ∀ g, w.guardedWrite runtime a = some g → w.row.claimedUnder g.held.claim_id = true →
    g.status = .dead_lettered → w.failed = true

theorem failedFirst_iff (hw : FailedFirst w) (h : step runtime w a = some w') :
    FailedFirst w' ↔ SpentOnFailures runtime w a := by
  cases step_effect h with
  | moves hparty hwrite hdispatch hphase hfailed =>
    refine ⟨fun _ g hg => ?_, fun _ hdead => hfailed (hw hdead)⟩
    rw [hwrite] at hg
    cases hg
  | dispatches => exact ⟨fun _ g hg => (nomatch hg), fun _ => hw⟩
  | claims hparty hwrite hdispatch hold hphase hpending hclaimed =>
    refine ⟨fun _ g hg => ?_, fun _ hdead => (nomatch hclaimed.symm.trans hdead)⟩
    rw [hwrite] at hg
    cases hg
  | misses hwrite hrow hphase =>
    refine ⟨fun _ g hg hunder => ?_, fun _ => hw⟩
    cases hwrite.symm.trans hg
    rw [hrow] at hunder
    cases hunder
  | writes hwrite hrow hstatus hphase =>
    constructor
    · intro hfirst g hg _ hdead
      cases hwrite.symm.trans hg
      exact hfirst (hstatus.trans hdead)
    · intro hC hdead
      exact hC _ hwrite hrow (hstatus.symm.trans hdead)
  | requeues hparty hwrite hdispatch hclaimed hpending =>
    refine ⟨fun _ g hg => ?_, fun _ hdead => (nomatch hpending.symm.trans hdead)⟩
    rw [hwrite] at hg
    cases hg

end

/-- One run of a worker that the admission defers, for a minute. -/
def deferral (party : Nat) (now : Instant) : List Act :=
  [.claimRead party "worker" now, .claim party, .defer party (some 60)]

/-- Five deferrals, as the settings allow by themselves. -/
def deferrals : List Act :=
  (List.range 5).flatMap fun n => deferral n (seconds (60 * n))

def waitAndSweep : List Act :=
  [.claimRead 0 "worker" 0, .claim 0, .wait 0, .sweepList 1 (seconds 60), .sweepRead 1, .sweepClaim 1,
    .sweepDeadLetter 1 "ingress dispatch retry budget exhausted"]

end operious.ingress
