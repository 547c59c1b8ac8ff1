-- The tokens of the outbox claims. A token comes from the count that its publisher read, and the
-- claim does not look at the count again: two publishers under one id that read the same count
-- get the same token, and that is the only way.
import Operious.Execution.OutboxMoves

namespace operious.execution_runtime

namespace OutboxWorld

open InMemoryExecutionPersistence

variable {Uuid : Type} [DecidableEq Uuid] [Stdlib Uuid] {w w' : World Uuid}

/-! ## The law of the tokens -/

/-- No two claims of one row that went through carry the same claim id. -/
def TokensUnique (w : World Uuid) : Prop :=
  (w.claims.map fun c => (c.outbox_id, c.claim_id)).Nodup

instance (w : World Uuid) : Decidable (TokensUnique w) := inferInstanceAs (Decidable (List.Nodup _))

/-- The row of the claim was claimed again after it. -/
def Superseded (w : World Uuid) (c : Claim Uuid) : Prop :=
  ∃ newer older, w.claims = newer ++ c :: older ∧ ∃ d ∈ newer, d.outbox_id = c.outbox_id

/-- A mark with the token of a superseded claim changes nothing. -/
def SupersededFenced (w : World Uuid) : Prop :=
  ∀ c, Superseded w c → ∀ t message,
    Outcome.storeAfter w.store (w.store.markOutboxPublished c.outbox_id c.claim_id t) = w.store ∧
    Outcome.storeAfter w.store (w.store.markOutboxFailed c.outbox_id c.claim_id message t) = w.store

def TokensFence (_ : World Uuid) (_ : Action Uuid) (w' : World Uuid) : Prop :=
  TokensUnique w' ∧ SupersededFenced w'

/-- If the step is a claim that will go through, no claim of the row under the same publisher id
has gone through on a reading of the same count. -/
def ReadsAFreshCount (w : World Uuid) : Action Uuid → Prop
  | .step caller _ _ =>
    match (w.threads.get? caller).bind (·.pc.intent) with
    | none => True
    | some (e, p, current) =>
      match readForClaim w.store e with
      | none => True
      | some row =>
        ∀ c ∈ w.claims, c.outbox_id = row.outbox_id → c.publisher_id = p →
          c.seen ≠ current.publish_attempt_count
  | _ => True

instance (w : World Uuid) (action : Action Uuid) : Decidable (ReadsAFreshCount w action) := by
  unfold ReadsAFreshCount
  split
  · split
    · infer_instance
    · split <;> infer_instance
  · infer_instance

/-! ## What the log of the claims says of the rows -/

structure Traced (w : World Uuid) : Prop where
  sound : Sound w.store
  reads : ∀ caller thread e p current, w.threads.get? caller = some thread →
    thread.pc.intent = some (e, p, current) → current.outbox_id = deriveOutboxId e
  tokens : ∀ c ∈ w.claims, c.claim_id = deriveOutboxClaimId c.outbox_id c.publisher_id (c.seen + 1)
  latest : ∀ id row token, w.store.outbox.get? id = some row → row.claim_id = some token →
    ∃ c, w.claims.find? (fun c => c.outbox_id = id) = some c ∧ c.claim_id = token

theorem Traced.start : Traced (World.start : World Uuid) where
  sound := Sound.new
  reads _ _ _ _ _ h := by simp [World.start] at h
  tokens _ h := by simp [World.start] at h
  latest _ _ _ h := by simp [World.start, InMemoryExecutionPersistence.new] at h

theorem Traced.reads_set (h : Traced w) (caller : Nat) {thread : Thread Uuid}
    (settled : thread.pc.Settled w.store) :
    ∀ caller' thread' e p current, (w.threads.set caller thread).get? caller' = some thread' →
      thread'.pc.intent = some (e, p, current) → current.outbox_id = deriveOutboxId e := by
  intro caller' thread' e p current hget hintent
  rcases Dict.get?_set_cases hget with ⟨-, rfl⟩ | ⟨-, hget⟩
  · exact (h.sound.wired.by_execution (settled.read e p current hintent)).1
  · exact h.reads caller' thread' e p current hget hintent

omit [DecidableEq Uuid] [Stdlib Uuid] in
theorem held_intent (pc : Pc Uuid) (claimed : ExecutionOutboxRecord Uuid) :
    (pc.held claimed).intent = none := by
  cases pc with
  | claimingStuck outbox current args =>
    simp only [Pc.held]
    split_ifs <;> rfl
  | _ => rfl

theorem latest_quiet {B : Nat → Prop} (h : Traced w) {s' : InMemoryExecutionPersistence Uuid}
    (quiet : Quiet B w.store s') :
    ∀ id row token, s'.outbox.get? id = some row → row.claim_id = some token →
      ∃ c, w.claims.find? (fun c => c.outbox_id = id) = some c ∧ c.claim_id = token := by
  intro id row token hrow htoken
  cases quiet with
  | same => exact h.latest id row token hrow htoken
  | moved id' old new stored move =>
    rcases Dict.get?_set_cases hrow with ⟨rfl, rfl⟩ | ⟨-, hrow⟩
    · exact h.latest id old token stored (move.claim_id htoken)
    · exact h.latest id row token hrow htoken

variable [LawfulStdlib Uuid] {action : Action Uuid}

omit [LawfulStdlib Uuid] in
/-- Every step keeps the trace, whatever it read. -/
theorem Traced.step (h : Traced w) (hs : WorldStep w action w') : Traced w' := by
  have sound := hs.sound h.sound
  cases hs with
  | claimed caller thread t error e p current row running intent named pending stored =>
    have hread := h.reads caller thread e p current running intent
    have hrow := (h.sound.wired.by_execution named).1
    refine ⟨sound, ?_, ?_, ?_⟩
    · intro caller' thread' e' p' current' hget hintent
      rcases Dict.get?_set_cases hget with ⟨-, rfl⟩ | ⟨-, hget⟩
      · rw [held_intent] at hintent
        cases hintent
      · exact h.reads caller' thread' e' p' current' hget hintent
    · intro c hc
      rcases List.mem_cons.mp hc with rfl | hc
      · simp only [claimIdFor, hread, hrow]
      · exact h.tokens c hc
    · intro id q token hq htoken
      rcases Dict.get?_set_cases hq with ⟨rfl, rfl⟩ | ⟨hne, hq⟩
      · cases htoken
        exact ⟨_, List.find?_cons_of_pos (by simp), rfl⟩
      · rw [List.find?_cons_of_neg (by simpa using hne)]
        exact h.latest id q token hq htoken
  | published caller thread t error claimed pc running held settled =>
    exact ⟨sound, h.reads_set caller settled, h.tokens, h.latest⟩
  | quiet _ s' caller thread quiet settled =>
    exact ⟨sound, h.reads_set caller settled, h.tokens, latest_quiet h quiet⟩
  | marked _ s' quiet => exact ⟨sound, h.reads, h.tokens, latest_quiet h quiet⟩
  | requested _ s' requests =>
    refine ⟨sound, h.reads, h.tokens, ?_⟩
    intro id row token hrow htoken
    cases requests with
    | alone outbox =>
      simp only [outbox] at hrow
      exact h.latest id row token hrow htoken
    | fresh e new unknown known row_id row_execution unclaimed outbox =>
      simp only [outbox] at hrow
      rcases Dict.get?_set_cases hrow with ⟨-, rfl⟩ | ⟨-, hrow⟩
      · rw [unclaimed] at htoken
        cases htoken
      · exact h.latest id row token hrow htoken

/-! ## The fence -/

omit [LawfulStdlib Uuid] in
theorem mark_with_another_token {s : InMemoryExecutionPersistence Uuid} {id token : Uuid}
    (hother : ∀ row, s.outbox.get? id = some row → row.claim_id ≠ some token) (t : Instant)
    (message : String) :
    Outcome.storeAfter s (s.markOutboxPublished id token t) = s ∧
      Outcome.storeAfter s (s.markOutboxFailed id token message t) = s := by
  unfold markOutboxPublished markOutboxFailed
  cases hreq : s.requireOutbox id with
  | error e => exact ⟨rfl, rfl⟩
  | ok row =>
    have hne := hother row (requireOutbox_eq_ok hreq)
    have hlost : outboxClaimLost id token row ≠ none := fun hnone =>
      hne (outboxClaimLost_eq_none hnone).2
    obtain ⟨lost, hlost⟩ := Option.ne_none_iff_exists'.mp hlost
    simp only [hlost]
    refine ⟨?_, rfl⟩
    split_ifs <;> rfl

omit [LawfulStdlib Uuid] in
theorem superseded_fenced (h : Traced w) (hunique : TokensUnique w) : SupersededFenced w := by
  rintro c ⟨newer, older, hclaims, d, hd, hsame⟩ t message
  apply mark_with_another_token
  intro row hrow htoken
  obtain ⟨latest, hfind, hlatest⟩ := h.latest _ row _ hrow htoken
  have hnewer : latest ∈ newer ∧ latest.outbox_id = c.outbox_id := by
    rw [hclaims, List.find?_append] at hfind
    cases hfirst : newer.find? (fun x => x.outbox_id = c.outbox_id) with
    | none =>
      rw [List.find?_eq_none] at hfirst
      exact absurd hsame (by simpa using hfirst d hd)
    | some x =>
      rw [hfirst, Option.some_or] at hfind
      cases hfind
      exact ⟨List.mem_of_find?_eq_some hfirst, by simpa using List.find?_some hfirst⟩
  unfold TokensUnique at hunique
  rw [hclaims, List.map_append, List.map_cons] at hunique
  refine (List.nodup_append.mp hunique).2.2 _ (List.mem_map_of_mem hnewer.1) _
    List.mem_cons_self ?_
  rw [hnewer.2, hlatest]

/-! ## When a step keeps the tokens apart -/

omit [DecidableEq Uuid] in
theorem token_of_another_reading {o : Uuid} {p p' : String} {n n' : Nat}
    (h : deriveOutboxClaimId o p (n + 1) = deriveOutboxClaimId o p' (n' + 1)) : p = p' ∧ n = n' := by
  obtain ⟨-, hp, hn⟩ := deriveOutboxClaimId_inj h
  exact ⟨hp, Nat.succ_injective hn⟩

theorem tokens_stay_unique (h : Traced w) (hunique : TokensUnique w)
    (hc : ReadsAFreshCount w action) (hs : WorldStep w action w') : TokensUnique w' := by
  cases hs with
  | claimed caller thread t error e p current row running intent named pending stored =>
    have hread := h.reads caller thread e p current running intent
    have hrow := (h.sound.wired.by_execution named).1
    unfold TokensUnique
    rw [List.map_cons, List.nodup_cons]
    refine ⟨fun hmem => ?_, hunique⟩
    obtain ⟨c, hcmem, hceq⟩ := List.mem_map.mp hmem
    simp only [Prod.mk.injEq] at hceq
    obtain ⟨hid, htoken⟩ := hceq
    rw [h.tokens c hcmem, claimIdFor, hread, hid, hrow] at htoken
    obtain ⟨hp, hn⟩ := token_of_another_reading htoken
    simp only [ReadsAFreshCount, running, Option.bind_some, intent,
      readForClaim_pending named pending] at hc
    exact hc c hcmem hid hp hn
  | published => exact hunique
  | quiet => exact hunique
  | marked => exact hunique
  | requested => exact hunique

omit [LawfulStdlib Uuid] in
theorem step_of_intent {thread : Thread Uuid} {e : Uuid} {p : String}
    {current : ExecutionOutboxRecord Uuid} (intent : thread.pc.intent = some (e, p, current))
    (s : InMemoryExecutionPersistence Uuid) (t : Instant) (error : Option String) :
    thread.step s t error = (claimStep s e p current t thread.pc.held, thread.rest) := by
  obtain ⟨pc, rest⟩ := thread
  cases pc with
  | claiming => cases intent; rfl
  | claimingStuck => cases intent; rfl
  | _ => cases intent

omit [LawfulStdlib Uuid] in
theorem fresh_of_tokens_unique (h : Traced w) (hs : next w action = some w')
    (hunique : TokensUnique w') : ReadsAFreshCount w action := by
  cases action with
  | step caller t error =>
    unfold ReadsAFreshCount
    simp only
    split
    · trivial
    · rename_i e p current hintent
      split
      · trivial
      · rename_i row hread
        obtain ⟨thread, hthread, hpc⟩ := Option.bind_eq_some_iff.mp hintent
        obtain ⟨named, hpending⟩ := Option.filter_eq_some_iff.mp hread
        have pending : row.state = .pending := by simpa using hpending
        intro c hc hid hp hn
        have hwent : claimStep w.store e p current t thread.pc.held =
            { store := storeClaimed w.store row p current t
              pc := thread.pc.held (claimedOutbox row p (claimIdFor p current) t)
              claim := some
                ⟨row.outbox_id, p, current.publish_attempt_count, claimIdFor p current⟩ } := by
          simp [claimStep, claimOutboxForExecution, named, pending, storeClaimed, claimedOutbox]
        simp only [next, hthread, step_of_intent hpc, hwent] at hs
        cases hs
        unfold TokensUnique at hunique
        simp only [Option.toList_some, List.singleton_append, List.map_cons,
          List.nodup_cons] at hunique
        refine hunique.1 (List.mem_map.mpr ⟨c, hc, ?_⟩)
        have hcurrent := h.reads caller thread e p current hthread hpc
        have hrow := (h.sound.wired.by_execution named).1
        rw [h.tokens c hc, hid, hp, hn, claimIdFor, hcurrent, hrow]
  | _ => trivial

/-- Along every interleaving, the claims of a row carry different tokens and the superseded ones
are fenced, exactly if no publisher id claims the row twice on the same count. -/
theorem tokens_fence_iff_counts_are_fresh (actions : List (Action Uuid)) :
    runs.Along next TokensFence (World.start : World Uuid) actions ↔
      runs.Meets next ReadsAFreshCount World.start actions := by
  apply runs.along_iff_meets (I := fun w => Traced w ∧ TokensUnique w)
  · rintro w action w' ⟨h, hunique⟩ hc hs
    have hstep := next_worldStep h.sound hs
    exact ⟨h.step hstep, tokens_stay_unique h hunique hc hstep⟩
  · rintro w action w' ⟨h, hunique⟩ hs
    have hstep := next_worldStep h.sound hs
    constructor
    · intro hfence
      exact fresh_of_tokens_unique h hs hfence.1
    · intro hc
      have hunique' := tokens_stay_unique h hunique hc hstep
      exact ⟨hunique', superseded_fenced (h.step hstep) hunique'⟩
  · exact ⟨Traced.start, List.nodup_nil⟩

/-- In every interleaving, whatever was read, a mark without the token of the last claim of its row changes
nothing. -/
theorem marks_need_the_last_token (h : runs.Reaches next World.start w) (id token : Uuid)
    (hother : ∀ c ∈ w.claims.find? (fun c => c.outbox_id = id), c.claim_id ≠ token) (t : Instant)
    (message : String) :
    Outcome.storeAfter w.store (w.store.markOutboxPublished id token t) = w.store ∧
      Outcome.storeAfter w.store (w.store.markOutboxFailed id token message t) = w.store := by
  have htraced : Traced w :=
    runs.invariant (fun _ _ _ h hs => h.step (next_worldStep h.sound hs)) Traced.start h
  refine mark_with_another_token (fun row hrow htoken => ?_) t message
  obtain ⟨c, hfind, hc⟩ := htraced.latest id row token hrow htoken
  exact hother c hfind hc

/-! ## Two runs over plain texts -/

def sampleExecutionId : String := Stdlib.uuid5 executionNamespace "diagnostic_agent|t|d|s"

def sampleOutboxId : String := deriveOutboxId sampleExecutionId

/-- A request whose first publish fails, and the requeue of the failed row. -/
def failedOnce : List (Action String) :=
  [.runtime (.request "d" "s" "t"
      (some { governance_decision_id := "g", execution_governance_evaluation_id := "v",
              admitted_at := 0, tenant_id := "t" }) 0 Dict.empty),
    .claim 0 sampleExecutionId "publisher", .step 0 1 none, .step 0 1 (some "boom"), .step 0 2 none,
    .reconcile 1 (.failed sampleOutboxId { failed_before_or_at := 5, requeued_at := 6 }),
    .step 1 6 none, .step 1 6 none, .step 1 6 none]

theorem a_strange_token_changes_nothing :
    ∃ w, runs.after next World.start failedOnce = some w ∧
      Outcome.storeAfter w.store (w.store.markOutboxPublished sampleOutboxId "token" 9) = w.store := by
  obtain ⟨w, hw⟩ : ∃ w, runs.after next World.start failedOnce = some w :=
    Option.isSome_iff_exists.mp (by decide +kernel)
  have hother : ∀ v ∈ runs.after next World.start failedOnce,
      ∀ c ∈ v.claims.find? (fun c => c.outbox_id = sampleOutboxId), c.claim_id ≠ "token" := by
    decide +kernel
  exact ⟨w, hw, (marks_need_the_last_token ⟨_, hw⟩ sampleOutboxId "token" (hother w hw) 9 "").1⟩

/-- Two stuck-pending sweeps read the row at the same count. The first claims it, the lease sweep
takes the claim for stale, and the second sweep claims the row on its old reading. -/
def twoSweeps : List (Action String) :=
  failedOnce ++
    [.stuckSweep 2 { stale_before := 10 } 10, .stuckSweep 3 { stale_before := 10 } 10,
      .step 2 11 none, .step 2 11 none, .step 3 11 none, .step 3 11 none,
      .step 2 12 none,
      .reconcile 4 (.stale sampleOutboxId { stale_before := 20 }), .step 4 20 none, .step 4 20 none,
      .step 3 21 none]

/-- The two sweeps hold one token, and the first one, long requeued, publishes the claim of the
second. -/
theorem two_sweeps_share_a_token :
    ∃ w, runs.after next World.start (twoSweeps ++ [.step 2 22 none, .step 2 22 none]) = some w ∧
      ¬TokensUnique w ∧
      (w.store.outbox.get? sampleOutboxId).map (·.state) = some .published ∧
      ((w.threads.get? 3).bind (·.pc.publishes)).isSome := by
  have hrun : ∀ v ∈ runs.after next World.start (twoSweeps ++ [.step 2 22 none, .step 2 22 none]),
      ¬TokensUnique v ∧ (v.store.outbox.get? sampleOutboxId).map (·.state) = some .published ∧
      ((v.threads.get? 3).bind (·.pc.publishes)).isSome := by
    decide +kernel
  obtain ⟨w, hw⟩ : ∃ w, runs.after next World.start
      (twoSweeps ++ [.step 2 22 none, .step 2 22 none]) = some w :=
    Option.isSome_iff_exists.mp (by decide +kernel)
  exact ⟨w, hw, hrun w hw⟩

/-- One sweep after the requeue reads the count that it claims. -/
theorem one_sweep_is_fenced :
    runs.Along next TokensFence World.start
      (failedOnce ++ [.stuckSweep 2 { stale_before := 10 } 10, .step 2 11 none, .step 2 11 none,
        .step 2 12 none, .step 2 12 none, .step 2 12 none]) :=
  (tokens_fence_iff_counts_are_fresh _).mpr (by decide +kernel)

end OutboxWorld

end operious.execution_runtime
